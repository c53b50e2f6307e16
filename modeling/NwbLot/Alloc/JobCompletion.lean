import NwbLot.Alloc.JobInvariant

/-!
# Completion

The loop of `complete` over the dependents of a job: each entry counts one dependency off, and the
job whose last dependency it was is scheduled.

`Released` is the invariant of the loop, `Settled` what one entry does to it, and `Completed` what
the whole of `complete` leaves behind.
-/

namespace NwbLot.Alloc

open TaskGraph JobSystem

/-- The jobs that the loop has scheduled so far. -/
def ReadyJobs.scheduled (state : ReadyJobs) : List JobHandle :=
  (if state.inlineContinuation.valid then [state.inlineContinuation] else []) ++ state.readyJobs

/-- The loop has counted off the entries `counted`. -/
structure Released (nodes : List JobNode) (jobs : List JobRecord) (counted : List JobHandle)
    (state : ReadyJobs) : Prop where
  node : ∀ (index : ℕ) (node : JobNode), nodes[index]? = some node → ∃ remaining scheduled,
    state.nodes[index]? = some { node with
      remainingDependencies := remaining, scheduled := scheduled }
  length_eq : state.nodes.length = nodes.length
  live : ∀ record ∈ jobs, record.recycled = false →
    ∀ node, tryResolveNode nodes record.handle = some node →
      ∃ node', tryResolveNode state.nodes record.handle = some node' ∧
        node'.remainingDependencies + counted.count record.handle = node.remainingDependencies ∧
        (node'.scheduled = true ↔ node'.remainingDependencies = 0)
  scheduled_nodup : state.scheduled.Nodup
  scheduled : ∀ handle ∈ state.scheduled, ∃ record ∈ jobs, record.handle = handle ∧
    record.recycled = false ∧ ∃ node node', tryResolveNode nodes handle = some node ∧
      node.scheduled = false ∧ tryResolveNode state.nodes handle = some node' ∧
        node'.scheduled = true

variable {system : JobSystem}

/-- The loop before its first entry. -/
lemma released_start (h : JobInv system) :
    Released system.nodes system.jobs [] { nodes := system.nodes } where
  node := fun index node hnode => ⟨node.remainingDependencies, node.scheduled, hnode⟩
  length_eq := rfl
  live := by
    intro record hrecord hlive node hresolves
    obtain ⟨index, hindex⟩ := List.getElem?_of_mem hrecord
    obtain ⟨node', hjob⟩ := h.live index record hindex hlive
    obtain rfl := Option.some.inj (hjob.resolves.symm.trans hresolves)
    exact ⟨node', hresolves, by simp, hjob.scheduled_iff⟩
  scheduled_nodup := List.nodup_nil
  scheduled := by
    intro handle hhandle
    cases hhandle

variable {nodes : List JobNode} {jobs : List JobRecord} {counted : List JobHandle}
  {state : ReadyJobs} {node : JobNode}

/-- What the loop leaves of a node. -/
lemma Released.resolves (h : Released nodes jobs counted state) {handle : JobHandle}
    (hresolves : tryResolveNode nodes handle = some node) :
    ∃ remaining scheduled, tryResolveNode state.nodes handle = some { node with
      remainingDependencies := remaining, scheduled := scheduled } := by
  obtain ⟨hvalid, hslot, hgeneration, hcompleted⟩ := tryResolveNode_eq_some.1 hresolves
  obtain ⟨remaining, scheduled, hslot'⟩ := h.node handle.index node hslot
  exact ⟨remaining, scheduled,
    tryResolveNode_eq_some.2 ⟨hvalid, hslot', hgeneration, hcompleted⟩⟩

/-- One entry of a live job whose dependencies are not all counted off. -/
lemma Released.step (h : Released nodes jobs counted state) (allowInline : Bool)
    {record : JobRecord} (hrecord : record ∈ jobs) (hlive : record.recycled = false)
    (hresolves : tryResolveNode nodes record.handle = some node)
    (hscheduled : node.scheduled = true ↔ node.remainingDependencies = 0)
    (hcount : (counted ++ [record.handle]).count record.handle ≤ node.remainingDependencies) :
    Released nodes jobs (counted ++ [record.handle])
      (releaseDependent allowInline state record.handle) := by
  obtain ⟨node', hresolves', hremaining, hiff⟩ := h.live record hrecord hlive node hresolves
  have hself : (counted ++ [record.handle]).count record.handle
      = counted.count record.handle + 1 := by simp
  have hpos : node'.remainingDependencies ≠ 0 := by omega
  have hwaiting : node'.scheduled = false := by
    rw [← Bool.not_eq_true, hiff]
    exact hpos
  have hvalid := (tryResolveNode_eq_some.1 hresolves).1
  have hslot := (tryResolveNode_eq_some.1 hresolves').2.1
  -- Every outcome replaces the node of the job by one with a dependency less.
  have hcases : ∀ scheduled : Bool,
      (scheduled = true ↔ node'.remainingDependencies - 1 = 0) →
      ∀ next : ReadyJobs, next.nodes = state.nodes.set record.handle.index { node' with
        remainingDependencies := node'.remainingDependencies - 1, scheduled := scheduled } →
      next.scheduled.Perm (if scheduled then record.handle :: state.scheduled
        else state.scheduled) →
      Released nodes jobs (counted ++ [record.handle]) next := by
    intro scheduled hzero next hnext hlist
    have hnextSelf : tryResolveNode next.nodes record.handle = some { node' with
        remainingDependencies := node'.remainingDependencies - 1, scheduled := scheduled } := by
      rw [hnext]
      exact tryResolveNode_set_self hresolves' rfl rfl
    have hnextOther : ∀ other found, tryResolveNode state.nodes other = some found →
        other ≠ record.handle → tryResolveNode next.nodes other = some found := by
      intro other found hfound hne
      rw [hnext, tryResolveNode_set_of_ne fun hindex =>
        hne (handle_eq_of_index_eq hfound hresolves' hindex)]
      exact hfound
    have hnotListed : record.handle ∉ state.scheduled := by
      intro hmem
      obtain ⟨-, -, -, -, -, found, -, -, hfound, hdone⟩ := h.scheduled record.handle hmem
      obtain rfl := Option.some.inj (hresolves'.symm.trans hfound)
      rw [hwaiting] at hdone
      cases hdone
    exact
      { node := by
          intro index found hfound
          obtain ⟨remaining, wasScheduled, hfound'⟩ := h.node index found hfound
          rw [hnext]
          rcases eq_or_ne record.handle.index index with rfl | hne
          · rw [List.getElem?_set_self (List.getElem?_eq_some_iff.1 hslot).1]
            rw [hslot, Option.some.injEq] at hfound'
            subst hfound'
            exact ⟨_, _, rfl⟩
          · rw [List.getElem?_set_ne hne]
            exact ⟨remaining, wasScheduled, hfound'⟩
        length_eq := by
          rw [hnext, List.length_set]
          exact h.length_eq
        live := by
          intro other hother hotherLive found hfound
          rcases eq_or_ne other.handle record.handle with heq | hne
          · rw [heq] at hfound ⊢
            obtain rfl := Option.some.inj (hfound.symm.trans hresolves)
            refine ⟨_, hnextSelf, ?_, hzero⟩
            rw [hself]
            show node'.remainingDependencies - 1 + (counted.count record.handle + 1) = _
            omega
          · obtain ⟨found', hfound', hremaining', hiff'⟩ :=
              h.live other hother hotherLive found hfound
            refine ⟨found', hnextOther _ _ hfound' hne, ?_, hiff'⟩
            rw [List.count_append, List.count_singleton, if_neg (by simpa using hne.symm)]
            exact hremaining'
        scheduled_nodup := by
          rw [hlist.nodup_iff]
          split_ifs
          · exact List.nodup_cons.2 ⟨hnotListed, h.scheduled_nodup⟩
          · exact h.scheduled_nodup
        scheduled := by
          intro handle hhandle
          have hmem := hlist.mem_iff.1 hhandle
          have hold : handle ∈ state.scheduled → ∃ record ∈ jobs, record.handle = handle ∧
              record.recycled = false ∧ ∃ node node', tryResolveNode nodes handle = some node ∧
                node.scheduled = false ∧ tryResolveNode next.nodes handle = some node' ∧
                  node'.scheduled = true := by
            intro hmem
            obtain ⟨other, hother, hname, hotherLive, found, found', hfound, hwas, hfound', hnow⟩ :=
              h.scheduled handle hmem
            have hne : handle ≠ record.handle := fun heq => hnotListed (heq ▸ hmem)
            exact ⟨other, hother, hname, hotherLive, found, found', hfound, hwas,
              hnextOther _ _ hfound' hne, hnow⟩
          by_cases hnow : scheduled = true
          · rw [if_pos hnow] at hmem
            rcases List.mem_cons.1 hmem with rfl | hrest
            · refine ⟨record, hrecord, rfl, hlive, node, _, hresolves, ?_, hnextSelf, hnow⟩
              rw [← Bool.not_eq_true, hscheduled]
              omega
            · exact hold hrest
          · rw [if_neg hnow] at hmem
            exact hold hmem }
  unfold releaseDependent
  rw [hresolves']
  simp only
  rw [if_neg hpos]
  by_cases hlast : node'.remainingDependencies - 1 = 0
  · rw [if_pos ⟨hlast, hwaiting⟩]
    split_ifs with hinline
    · rw [Bool.and_eq_true, Bool.not_eq_true'] at hinline
      refine hcases true (iff_of_true rfl hlast) _ rfl ?_
      rw [if_pos rfl]
      simp only [ReadyJobs.scheduled, hvalid, hinline.2, if_true, Bool.false_eq_true, if_false,
        List.nil_append, List.singleton_append]
      exact List.Perm.refl _
    · refine hcases true (iff_of_true rfl hlast) _ rfl ?_
      rw [if_pos rfl]
      simp only [ReadyJobs.scheduled]
      rw [← List.append_assoc]
      exact List.perm_append_singleton _ _
  · rw [if_neg fun hboth => hlast hboth.1]
    have hsame : ({ node' with
        remainingDependencies := node'.remainingDependencies - 1 } : JobNode)
        = { node' with
            remainingDependencies := node'.remainingDependencies - 1, scheduled := false } := by
      rw [← hwaiting]
    exact hcases false (iff_of_false Bool.false_ne_true hlast) _ (by rw [hsame])
      (List.Perm.refl _)

/-- The whole loop. -/
lemma released_foldl (h : JobInv system) (allowInline : Bool) {index : ℕ}
    (hnode : system.nodes[index]? = some node) :
    Released system.nodes system.jobs node.dependents
      (node.dependents.foldl (releaseDependent allowInline) { nodes := system.nodes }) := by
  have hmem := List.mem_of_getElem? hnode
  have hall : ∀ todo counted, node.dependents = counted ++ todo → ∀ state,
      Released system.nodes system.jobs counted state →
      Released system.nodes system.jobs (counted ++ todo)
        (todo.foldl (releaseDependent allowInline) state) := by
    intro todo
    induction todo with
    | nil =>
      intro counted _ state hstate
      rw [List.append_nil]
      exact hstate
    | cons handle todo ih =>
      intro counted hsplit state hstate
      have hwaits : handle ∈ node.dependents := by rw [hsplit]; simp
      obtain ⟨record, hrecord, rfl, hlive⟩ := h.dependents node hmem handle hwaits
      obtain ⟨job, hjob⟩ := List.getElem?_of_mem hrecord
      obtain ⟨found, hfound⟩ := h.live job record hjob hlive
      have hcount : (counted ++ [record.handle]).count record.handle
          ≤ found.remainingDependencies := by
        rw [hfound.remaining_eq, awaited]
        have hsub : (counted ++ [record.handle]).Sublist node.dependents := by
          rw [hsplit]
          exact (List.sublist_append_left [record.handle] todo).append_left counted
        exact (hsub.count_le _).trans
          ((List.sublist_flatten_of_mem (List.mem_map_of_mem hmem)).count_le _)
      have hnext :=
        hstate.step allowInline hrecord hlive hfound.resolves hfound.scheduled_iff hcount
      have hsplit' : node.dependents = (counted ++ [record.handle]) ++ todo := by
        rw [List.append_assoc]
        exact hsplit
      have hdone := ih (counted ++ [record.handle]) hsplit' _ hnext
      rw [List.append_assoc] at hdone
      exact hdone
  have hwhole := hall node.dependents [] rfl _ (released_start h)
  exact hwhole

/-- The nodes after the loop, slot by slot. -/
lemma Released.slot (h : Released nodes jobs counted state) {index : ℕ} {node' : JobNode}
    (hslot : state.nodes[index]? = some node') :
    ∃ node remaining scheduled, nodes[index]? = some node ∧
      node' = { node with remainingDependencies := remaining, scheduled := scheduled } := by
  have hlt : index < nodes.length := by
    rw [← h.length_eq]
    exact (List.getElem?_eq_some_iff.1 hslot).1
  obtain ⟨remaining, scheduled, hsame⟩ := h.node index nodes[index] (List.getElem?_eq_getElem hlt)
  exact ⟨nodes[index], remaining, scheduled, List.getElem?_eq_getElem hlt,
    Option.some.inj (hslot.symm.trans hsame)⟩

lemma Released.awaited_eq (h : Released nodes jobs counted state) (handle : JobHandle) :
    awaited state.nodes handle = awaited nodes handle := by
  refine awaited_congr (List.ext_getElem? fun index => ?_) handle
  rw [List.getElem?_map, List.getElem?_map]
  cases hnode : nodes[index]? with
  | none =>
    have hlen := List.getElem?_eq_none_iff.1 hnode
    rw [List.getElem?_eq_none (h.length_eq ▸ hlen)]
  | some node =>
    obtain ⟨remaining, scheduled, hsame⟩ := h.node index node hnode
    rw [hsame]
    rfl

/-- The nodes when `complete` leaves its locked section: the node of the job is recycled, the others
are as the loop left them. -/
structure Settled (nodes : List JobNode) (current : JobHandle) (node : JobNode)
    (state : ReadyJobs) (settled : List JobNode) : Prop where
  self : ∃ node', settled[current.index]? = some node' ∧ node'.completed = true ∧
    node'.dependents = [] ∧ node'.generation = nextGeneration node.generation
  of_ne : ∀ index, index ≠ current.index → settled[index]? = state.nodes[index]?
  length_eq : settled.length = nodes.length
  awaited_eq : ∀ handle, awaited settled handle + node.dependents.count handle
    = awaited nodes handle

variable {released : ReadyJobs}

lemma Released.settled {current : JobHandle} {allowInline : Bool}
    (hresolves : tryResolveNode nodes current = some node)
    (hloop : Released nodes jobs node.dependents
      (node.dependents.foldl (releaseDependent allowInline) { nodes := nodes }))
    (hreleased : completeNode nodes current allowInline = some released) :
    Settled nodes current node
        (node.dependents.foldl (releaseDependent allowInline) { nodes := nodes })
        released.nodes ∧
      released.scheduled
        = (node.dependents.foldl (releaseDependent allowInline) { nodes := nodes }).scheduled := by
  obtain ⟨remaining, scheduled, hloopSelf⟩ := hloop.resolves hresolves
  have hslot := (tryResolveNode_eq_some.1 hloopSelf).2.1
  have hlt := (List.getElem?_eq_some_iff.1 hslot).1
  unfold completeNode at hreleased
  rw [hresolves] at hreleased
  simp only [Option.some.injEq, List.getD_eq_getElem?_getD, hslot, Option.getD_some]
    at hreleased
  subst hreleased
  refine ⟨⟨⟨_, List.getElem?_set_self hlt, rfl, rfl, rfl⟩, fun index hne =>
    List.getElem?_set_ne (Ne.symm hne), ?_, fun handle => ?_⟩, rfl⟩
  · rw [List.length_set]
    exact hloop.length_eq
  · have hcount := awaited_set hslot (JobNode.recycled { node with
      remainingDependencies := remaining
      scheduled := scheduled
      completedGeneration := current.generation }) handle
    rw [hloop.awaited_eq] at hcount
    exact hcount

namespace Settled

variable {nodes : List JobNode} {jobs : List JobRecord} {current : JobHandle} {node : JobNode}
  {state : ReadyJobs} {settled : List JobNode} {counted : List JobHandle}

variable {found' : JobNode}

/-- The completed job's handle is the only one that no longer resolves. -/
lemma resolves_of (h : Settled nodes current node state settled)
    (hresolves : tryResolveNode nodes current = some node) {handle : JobHandle} {found : JobNode}
    (hfound : tryResolveNode nodes handle = some found)
    (hfound' : tryResolveNode state.nodes handle = some found') (hne : handle ≠ current) :
    tryResolveNode settled handle = some found' := by
  obtain ⟨hvalid, hslot, hgeneration, hlive⟩ := tryResolveNode_eq_some.1 hfound'
  refine tryResolveNode_eq_some.2 ⟨hvalid, ?_, hgeneration, hlive⟩
  rw [h.of_ne handle.index fun hindex =>
    hne (handle_eq_of_index_eq hfound hresolves hindex)]
  exact hslot

lemma of_resolves (h : Settled nodes current node state settled)
    (hloop : Released nodes jobs counted state) {handle : JobHandle}
    (hfound' : tryResolveNode settled handle = some found') :
    handle.index ≠ current.index ∧ ∃ found, tryResolveNode nodes handle = some found := by
  obtain ⟨hvalid, hslot, hgeneration, hlive⟩ := tryResolveNode_eq_some.1 hfound'
  have hne : handle.index ≠ current.index := by
    intro hindex
    obtain ⟨node', hself, hdone, -⟩ := h.self
    rw [hindex, hself, Option.some.injEq] at hslot
    subst hslot
    rw [hdone] at hlive
    cases hlive
  rw [h.of_ne _ hne] at hslot
  obtain ⟨found, remaining, scheduled, hget, rfl⟩ := hloop.slot hslot
  exact ⟨hne, found, tryResolveNode_eq_some.2 ⟨hvalid, hget, hgeneration, hlive⟩⟩

/-- A slot afterwards is the recycled one, or has the fields that the loop does not touch. -/
lemma slot_cases (h : Settled nodes current node state settled)
    (hloop : Released nodes jobs counted state) {index : ℕ}
    (hslot : settled[index]? = some found') :
    index = current.index ∧ found'.completed = true ∧ found'.dependents = [] ∧
        found'.generation = nextGeneration node.generation ∨
      index ≠ current.index ∧ ∃ found, nodes[index]? = some found ∧
        found'.completed = found.completed ∧ found'.dependents = found.dependents ∧
          found'.generation = found.generation := by
  rcases eq_or_ne index current.index with rfl | hne
  · obtain ⟨node', hself, hdone, hnil, hgeneration⟩ := h.self
    obtain rfl := Option.some.inj (hself.symm.trans hslot)
    exact Or.inl ⟨rfl, hdone, hnil, hgeneration⟩
  · rw [h.of_ne index hne] at hslot
    obtain ⟨found, remaining, scheduled, hget, rfl⟩ := hloop.slot hslot
    exact Or.inr ⟨hne, found, hget, rfl, rfl, rfl⟩

end Settled

/-- The generation of a recycled node is one that its next use has not had. -/
lemma nextGeneration_eq {generation : ℕ} (hle : generation ≤ u32Max) :
    nextGeneration generation = generation + 1 ∨ generation = u32Max := by
  unfold nextGeneration
  rcases hle.eq_or_lt with rfl | hlt
  · exact Or.inr rfl
  · left
    have hsmall : generation + 1 < 2 ^ 32 := by
      unfold u32Max at hlt
      omega
    rw [Nat.mod_eq_of_lt hsmall, if_neg (Nat.succ_ne_zero _)]

/-- A job that is recycled is one less to be counted off. -/
lemma countP_modify_recycled : ∀ {jobs : List JobRecord} {job : ℕ} {record : JobRecord},
    jobs[job]? = some record → record.recycled = false →
      (jobs.modify job fun job => { job with recycled := true }).countP
          (fun record => !record.recycled) + 1
        = jobs.countP fun record => !record.recycled
  | [], _, _, hget, _ => by cases hget
  | head :: rest, 0, record, hget, hlive => by
    obtain rfl : head = record := by simpa using hget
    rw [List.modify_zero_cons, List.countP_cons, List.countP_cons, hlive]
    rfl
  | head :: rest, job + 1, record, hget, hlive => by
    have hrest := @countP_modify_recycled rest job record (by simpa using hget) hlive
    rw [List.modify_succ_cons, List.countP_cons, List.countP_cons, ← hrest]
    omega

/-- The nodes of `complete` against the handles. -/
lemma NodesInv.complete {freeNodes : List ℕ} (h : NodesInv nodes freeNodes jobs)
    (huses : ∀ index, uses jobs index ≤ u32Max) {job : ℕ} {record : JobRecord}
    {settled : List JobNode} (hget : jobs[job]? = some record)
    (hresolves : tryResolveNode nodes record.handle = some node)
    (hloop : Released nodes jobs counted state)
    (hsettled : Settled nodes record.handle node state settled) :
    NodesInv settled (record.handle.index :: freeNodes)
      (jobs.modify job fun job => { job with recycled := true }) := by
  have hslot := (tryResolveNode_eq_some.1 hresolves).2.1
  have hlive := (tryResolveNode_eq_some.1 hresolves).2.2.2
  have hhandles : (jobs.modify job fun job => { job with recycled := true }).map
      (fun record => record.handle) = jobs.map fun record => record.handle :=
    map_handle_modify fun _ => rfl
  have hnotFree : record.handle.index ∉ freeNodes := by
    intro hfree
    obtain ⟨found, hfound, hdone⟩ := h.free _ hfree
    obtain rfl := Option.some.inj (hslot.symm.trans hfound)
    rw [hlive] at hdone
    cases hdone
  exact
    { length_le := hsettled.length_eq ▸ h.length_le
      free_nodup := List.nodup_cons.2 ⟨hnotFree, h.free_nodup⟩
      free := by
        intro index hfree
        rcases List.mem_cons.1 hfree with rfl | hrest
        · obtain ⟨node', hself, hdone, -⟩ := hsettled.self
          exact ⟨node', hself, hdone⟩
        · obtain ⟨found, hfound, hdone⟩ := h.free index hrest
          have hne : index ≠ record.handle.index := fun heq => hnotFree (heq ▸ hrest)
          obtain ⟨remaining, scheduled, hfound'⟩ := hloop.node index found hfound
          exact ⟨_, (hsettled.of_ne index hne).trans hfound', hdone⟩
      dependents_eq_nil := by
        intro found hfound hdone
        obtain ⟨index, hindex⟩ := List.getElem?_of_mem hfound
        rcases hsettled.slot_cases hloop hindex with ⟨-, -, hnil, -⟩ |
          ⟨-, before, hbefore, hsame, hnil, -⟩
        · exact hnil
        · rw [hnil]
          exact h.dependents_eq_nil before (List.mem_of_getElem? hbefore) (hsame ▸ hdone)
      generation_of_live := by
        intro index found hfound hfoundLive
        rw [uses_congr hhandles]
        rcases hsettled.slot_cases hloop hfound with ⟨-, hdone, -⟩ |
          ⟨-, before, hbefore, hsame, -, hgeneration⟩
        · rw [hdone] at hfoundLive
          cases hfoundLive
        · rw [hgeneration]
          exact h.generation_of_live index before hbefore (hsame ▸ hfoundLive)
      generation_of_completed := by
        intro index found hfound hdone
        rw [uses_congr hhandles]
        rcases hsettled.slot_cases hloop hfound with ⟨rfl, -, -, hgeneration⟩ |
          ⟨-, before, hbefore, hsame, -, hgeneration⟩
        · have huse := h.generation_of_live _ node hslot hlive
          rw [hgeneration, huse]
          exact nextGeneration_eq (huses _)
        · rw [hgeneration]
          exact h.generation_of_completed index before hbefore (hsame ▸ hdone)
      handle_bounds := by
        intro after hafter
        obtain ⟨index, hafter⟩ := List.getElem?_of_mem hafter
        obtain ⟨before, hbefore, hcases⟩ := getElem?_modify_cases hafter
        have hsame : after.handle = before.handle := by
          rcases hcases with ⟨-, rfl⟩ | ⟨-, rfl⟩ <;> rfl
        rw [hsame, hsettled.length_eq, uses_congr hhandles]
        exact h.handle_bounds before (List.mem_of_getElem? hbefore)
      handles_nodup := hhandles ▸ h.handles_nodup
      live_of_resolves := by
        intro after hafter found hfound
        obtain ⟨hne, found', hfound'⟩ := hsettled.of_resolves hloop hfound
        obtain ⟨index, hafter⟩ := List.getElem?_of_mem hafter
        obtain ⟨before, hbefore, hcases⟩ := getElem?_modify_cases hafter
        rcases hcases with ⟨rfl, rfl⟩ | ⟨-, rfl⟩
        · obtain rfl := Option.some.inj (hbefore.symm.trans hget)
          exact absurd rfl hne
        · exact h.live_of_resolves after (List.mem_of_getElem? hbefore) found' hfound' }

/-! ## The invariant -/

/-- The job is recycled, and its dependents have been counted off. -/
structure Completed (system : JobSystem) (job : ℕ) (record : JobRecord) (node : JobNode)
    (state : ReadyJobs) (settled : List JobNode) : Prop where
  get : system.jobs[job]? = some record
  live : record.recycled = false
  resolves : tryResolveNode system.nodes record.handle = some node
  scheduled : node.scheduled = true
  starts : record.starts = 1
  returned : record.returned = true
  loop : Released system.nodes system.jobs node.dependents state
  settled : Settled system.nodes record.handle node state settled

/-- The records with one job recycled. -/
def recycledJobs (jobs : List JobRecord) (job : ℕ) : List JobRecord :=
  jobs.modify job fun job => { job with recycled := true }

namespace Completed

variable {system : JobSystem} {job : ℕ} {record : JobRecord} {node : JobNode} {state : ReadyJobs}
  {settled : List JobNode}

section Records

variable (c : Completed system job record node state settled)
include c

variable {index : ℕ} {after : JobRecord}

/-- A record afterwards is the recycled one, or one that was there. -/
lemma record_cases (hafter : (recycledJobs system.jobs job)[index]? = some after) :
    index = job ∧ after = { record with recycled := true } ∨
      index ≠ job ∧ system.jobs[index]? = some after := by
  obtain ⟨before, hbefore, ⟨rfl, rfl⟩ | ⟨hne, rfl⟩⟩ := getElem?_modify_cases hafter
  · rw [Option.some.inj (hbefore.symm.trans c.get)]
    exact Or.inl ⟨rfl, rfl⟩
  · exact Or.inr ⟨hne, hbefore⟩

omit c in
lemma get_of_ne {before : JobRecord} (hbefore : system.jobs[index]? = some before)
    (hne : index ≠ job) : (recycledJobs system.jobs job)[index]? = some before := by
  rw [recycledJobs, getElem?_modify_of hbefore, if_neg hne]

omit c in
lemma exists_after (job : ℕ) {before : JobRecord} (hbefore : system.jobs[index]? = some before) :
    ∃ after : JobRecord, (recycledJobs system.jobs job)[index]? = some after ∧
      after.handle = before.handle ∧ after.returned = before.returned := by
  refine ⟨_, getElem?_modify_of hbefore, ?_⟩
  split_ifs
  · exact ⟨rfl, rfl⟩
  · exact ⟨rfl, rfl⟩

lemma exists_before (hafter : after ∈ recycledJobs system.jobs job) :
    ∃ before ∈ system.jobs, after.starts = before.starts ∧
      after.dependencies = before.dependencies := by
  obtain ⟨index, hindex⟩ := List.getElem?_of_mem hafter
  rcases c.record_cases hindex with ⟨-, rfl⟩ | ⟨-, hbefore⟩
  · exact ⟨record, List.mem_of_getElem? c.get, rfl, rfl⟩
  · exact ⟨after, List.mem_of_getElem? hbefore, rfl, rfl⟩

/-- A live record afterwards is that of another job. -/
lemma before_of_live (hafter : after ∈ recycledJobs system.jobs job)
    (hlive : after.recycled = false) :
    ∃ index, index ≠ job ∧ system.jobs[index]? = some after := by
  obtain ⟨index, hindex⟩ := List.getElem?_of_mem hafter
  rcases c.record_cases hindex with ⟨-, rfl⟩ | ⟨hne, hbefore⟩
  · cases hlive
  · exact ⟨index, hne, hbefore⟩

end Records

section Invariant

variable (h : JobInv system) (c : Completed system job record node state settled)
include h c

/-- The other live jobs keep their nodes, up to what the loop counts off. -/
lemma other_live {index : ℕ} {other : JobRecord} (hindex : system.jobs[index]? = some other)
    (hlive : other.recycled = false) (hne : index ≠ job) :
    ∃ found found', LiveJob system.nodes index other found ∧
      tryResolveNode settled other.handle = some found' ∧
      (∃ remaining scheduled, found' = { found with
        remainingDependencies := remaining, scheduled := scheduled }) ∧
      found'.remainingDependencies + node.dependents.count other.handle
        = found.remainingDependencies ∧
      (found'.scheduled = true ↔ found'.remainingDependencies = 0) := by
  obtain ⟨found, hfound⟩ := h.live index other hindex hlive
  obtain ⟨found', hfound', hremaining, hiff⟩ := c.loop.live other (List.mem_of_getElem? hindex)
    hlive found hfound.resolves
  obtain ⟨remaining, scheduled, hshape⟩ := c.loop.resolves hfound.resolves
  have hnehandle : other.handle ≠ record.handle := fun heq =>
    hne (h.nodes.job_eq_of_handle_eq hindex c.get heq)
  exact ⟨found, found', hfound, c.settled.resolves_of c.resolves hfound.resolves hfound' hnehandle,
    ⟨remaining, scheduled, Option.some.inj (hfound'.symm.trans hshape)⟩, hremaining, hiff⟩

variable {after : JobRecord}

lemma liveJob {index : ℕ} (hafter : (recycledJobs system.jobs job)[index]? = some after)
    (hlive : after.recycled = false) : ∃ node, LiveJob settled index after node := by
  rcases c.record_cases hafter with ⟨-, rfl⟩ | ⟨hne, hbefore⟩
  · cases hlive
  · obtain ⟨found, found', hjob, hresolves', ⟨remaining, scheduled, hshape⟩, hremaining, hiff⟩ :=
      c.other_live h hbefore hlive hne
    refine ⟨found', hresolves', hiff, ?_, ?_, hjob.unstarted⟩
    · have hcount := c.settled.awaited_eq after.handle
      have hbeforeCount := hjob.remaining_eq
      omega
    · intro hwaiting
      have hwas : found.scheduled = false := by
        rw [← Bool.not_eq_true, hjob.scheduled_iff]
        rw [← Bool.not_eq_true, hiff] at hwaiting
        omega
      rw [hshape]
      exact hjob.waiting hwas

variable {handle : JobHandle}

lemma dependents {found : JobNode} (hfound : found ∈ settled) (hwaits : handle ∈ found.dependents) :
    ∃ after ∈ recycledJobs system.jobs job, after.handle = handle ∧ after.recycled = false := by
  obtain ⟨index, hindex⟩ := List.getElem?_of_mem hfound
  rcases c.settled.slot_cases c.loop hindex with ⟨-, -, hnil, -⟩ | ⟨-, before, hbefore, -, hsame, -⟩
  · rw [hnil] at hwaits
    cases hwaits
  rw [hsame] at hwaits
  have hmem := List.mem_of_getElem? hbefore
  obtain ⟨waiting, hwaiting, rfl, hwaitingLive⟩ := h.dependents before hmem handle hwaits
  obtain ⟨other, hother⟩ := List.getElem?_of_mem hwaiting
  -- no node has the completed job among its dependents
  have hne : other ≠ job := by
    rintro rfl
    obtain rfl := Option.some.inj (hother.symm.trans c.get)
    obtain ⟨found', hjob⟩ := h.live other waiting hother hwaitingLive
    obtain rfl := Option.some.inj (hjob.resolves.symm.trans c.resolves)
    have hzero := hjob.remaining_eq.symm.trans (hjob.scheduled_iff.1 c.scheduled)
    exact absurd hzero (awaited_pos_iff.2 ⟨before, hmem, hwaits⟩).ne'
  exact ⟨waiting, List.mem_of_getElem? (get_of_ne hother hne), rfl, hwaitingLive⟩

lemma awaiting (hafter : after ∈ recycledJobs system.jobs job) (hlive : after.recycled = false)
    {dependency : ℕ} (hdependency : dependency ∈ after.dependencies) :
    ∃ awaitedJob, (recycledJobs system.jobs job)[dependency]? = some awaitedJob ∧
      (awaitedJob.returned = true ∨ ∃ found,
        tryResolveNode settled awaitedJob.handle = some found ∧
          after.handle ∈ found.dependents) := by
  obtain ⟨index, -, hbefore⟩ := c.before_of_live hafter hlive
  obtain ⟨awaitedJob, hawaitedJob, hdone⟩ :=
    h.awaiting after (List.mem_of_getElem? hbefore) hlive dependency hdependency
  obtain ⟨awaited', hawaited', hname, hsame⟩ := exists_after job hawaitedJob
  refine ⟨awaited', hawaited', ?_⟩
  rw [hsame, hname]
  rcases hdone with hdone | ⟨found, hfound, hwaits⟩
  · exact Or.inl hdone
  rcases eq_or_ne dependency job with rfl | hne
  · obtain rfl := Option.some.inj (hawaitedJob.symm.trans c.get)
    exact Or.inl c.returned
  · have hawaitedLive :=
      h.nodes.live_of_resolves awaitedJob (List.mem_of_getElem? hawaitedJob) found hfound
    obtain ⟨before, before', hjob, hresolves', ⟨remaining, scheduled, hshape⟩, -⟩ :=
      c.other_live h hawaitedJob hawaitedLive hne
    obtain rfl := Option.some.inj (hjob.resolves.symm.trans hfound)
    refine Or.inr ⟨before', hresolves', ?_⟩
    rw [hshape]
    exact hwaits

lemma started (hafter : after ∈ recycledJobs system.jobs job) (hstarted : 0 < after.starts)
    {dependency : ℕ} (hdependency : dependency ∈ after.dependencies) :
    ∃ awaitedJob, (recycledJobs system.jobs job)[dependency]? = some awaitedJob ∧
      awaitedJob.returned = true := by
  obtain ⟨before, hbefore, hstarts, hdependencies⟩ := c.exists_before hafter
  obtain ⟨awaitedJob, hawaitedJob, hdone⟩ := h.started before hbefore (hstarts ▸ hstarted)
    dependency (hdependencies ▸ hdependency)
  obtain ⟨awaited', hawaited', -, hreturned⟩ := exists_after job hawaitedJob
  exact ⟨awaited', hawaited', hreturned.trans hdone⟩

lemma starts_le (hafter : after ∈ recycledJobs system.jobs job) :
    after.starts ≤ 1 := by
  obtain ⟨before, hbefore, hstarts, -⟩ := c.exists_before hafter
  rw [hstarts]
  exact h.starts_le before hbefore

lemma recycled (hafter : after ∈ recycledJobs system.jobs job) (hdone : after.recycled = true) :
    after.starts = 1 ∧ after.returned = true := by
  obtain ⟨index, hindex⟩ := List.getElem?_of_mem hafter
  rcases c.record_cases hindex with ⟨-, rfl⟩ | ⟨-, hbefore⟩
  · exact ⟨c.starts, c.returned⟩
  · exact h.recycled after (List.mem_of_getElem? hbefore) hdone

/-- What the loop schedules is carried. -/
lemma carried_scheduled (hhandle : handle ∈ state.scheduled) :
    Carried settled (recycledJobs system.jobs job) handle .ready := by
  obtain ⟨other, hother, rfl, hlive, found, found', hfound, hwas, hfound', hnow⟩ :=
    c.loop.scheduled handle hhandle
  obtain ⟨index, hindex⟩ := List.getElem?_of_mem hother
  have hne : index ≠ job := by
    rintro rfl
    obtain rfl := Option.some.inj (hindex.symm.trans c.get)
    obtain rfl := Option.some.inj (hfound.symm.trans c.resolves)
    rw [c.scheduled] at hwas
    cases hwas
  obtain ⟨before, before', hjob, hresolves', ⟨remaining, scheduled, hshape⟩, -, -⟩ :=
    c.other_live h hindex hlive hne
  obtain rfl := Option.some.inj (hjob.resolves.symm.trans hfound)
  have hnehandle : other.handle ≠ record.handle := fun heq =>
    hne (h.nodes.job_eq_of_handle_eq hindex c.get heq)
  have hsame := Option.some.inj
    ((c.settled.resolves_of c.resolves hfound hfound' hnehandle).symm.trans hresolves')
  obtain ⟨hfunc, hunstarted⟩ := hjob.waiting hwas
  refine ⟨index, other, before', get_of_ne hindex hne, rfl, hlive, hresolves', hsame ▸ hnow, ?_,
    hunstarted⟩
  rw [hshape]
  exact hfunc

/-- The other carried jobs stay where they are. -/
lemma carried_of_ne {phase : CarrierPhase}
    (hcarried : Carried system.nodes system.jobs handle phase) (hne : handle ≠ record.handle) :
    Carried settled (recycledJobs system.jobs job) handle phase := by
  obtain ⟨index, other, found, hindex, rfl, hlive, hfound, hscheduled, hphase⟩ := hcarried
  have hnejob : index ≠ job := by
    rintro rfl
    exact hne (congrArg JobRecord.handle (Option.some.inj (hindex.symm.trans c.get)))
  obtain ⟨before, before', hjob, hresolves', ⟨remaining, scheduled, hshape⟩, hremaining, hiff⟩ :=
    c.other_live h hindex hlive hnejob
  obtain rfl := Option.some.inj (hjob.resolves.symm.trans hfound)
  refine ⟨index, other, before', get_of_ne hindex hnejob, rfl, hlive, hresolves', ?_, ?_⟩
  · rw [hiff]
    have hnone := hjob.scheduled_iff.1 hscheduled
    omega
  · rw [hshape]
    cases phase <;> exact hphase

omit h in
/-- What the loop schedules was not carried before. -/
lemma scheduled_ne {other : JobHandle} (hhandle : handle ∈ state.scheduled) {phase : CarrierPhase}
    (hcarried : Carried system.nodes system.jobs other phase) :
    handle ≠ other := by
  rintro rfl
  obtain ⟨-, -, -, -, found, -, hfound, hwas, -⟩ := c.loop.scheduled _ hhandle
  obtain ⟨-, -, found', -, -, -, hfound', hscheduled, -⟩ := hcarried
  obtain rfl := Option.some.inj (hfound.symm.trans hfound')
  rw [hwas] at hscheduled
  cases hscheduled

end Invariant

end Completed

/-- The places of the carriers when a thread leaves `complete`. -/
lemma carriers_leaving {thread : ℕ} (workFirstDepth : ℕ) {point : ExecutePoint}
    (hthread : system.threads[thread]? = some point)
    (hlist : released.scheduled = state.scheduled) :
    (carriers (system.queued ++ released.readyJobs)
      (system.threads.set thread (.leaving released.inlineContinuation workFirstDepth))).Perm
      ((state.scheduled.map fun handle => (handle, CarrierPhase.ready)) ++
        carriers system.queued (system.threads.eraseIdx thread)) := by
  refine (carriers_perm _ (threads_set_perm hthread _)).trans ?_
  rw [← hlist]
  have hinline : (ExecutePoint.leaving released.inlineContinuation workFirstDepth).carriers
      = (if released.inlineContinuation.valid = true then
          [released.inlineContinuation] else []).map fun handle =>
            (handle, CarrierPhase.ready) := by
    show (if released.inlineContinuation.valid = true then
      [(released.inlineContinuation, CarrierPhase.ready)] else []) = _
    split_ifs <;> rfl
  rw [hinline, carriers, carriers, ReadyJobs.scheduled]
  rw [List.map_append, List.map_append, List.append_assoc, List.append_assoc]
  refine List.Perm.append_left _ ?_
  rw [← List.append_assoc, ← List.append_assoc]
  exact List.perm_append_comm.append_right _

/-- The locked section of `complete` keeps the invariant. -/
lemma JobInv.complete (h : JobInv system) (huses : ∀ index, uses system.jobs index ≤ u32Max)
    {thread : ℕ} {current : JobHandle} {workFirstDepth : ℕ} {task : Option ℕ}
    (hthread : system.threads[thread]? = some (.returned current workFirstDepth task))
    {allowInline : Bool}
    (hreleased : completeNode system.nodes current allowInline = some released) :
    JobInv { system with
      nodes := released.nodes
      freeNodes := current.index :: system.freeNodes
      queued := system.queued ++ released.readyJobs
      threads := system.threads.set thread (.leaving released.inlineContinuation workFirstDepth)
      jobs := modifyJob task (fun job => { job with recycled := true }) system.jobs } := by
  have hperm := threads_perm hthread
  have hcarriers := carriers_perm system.queued hperm
  have hnodup := (hcarriers.map Prod.fst).nodup_iff.1 h.carriers_nodup
  obtain ⟨job, record, node, hget, rfl, hlive, hresolves, hscheduled, rfl, hstarts, hreturned⟩ :=
    h.carried (current, .returned task) (hcarriers.mem_iff.2 List.mem_cons_self)
  have hloop := released_foldl h allowInline (tryResolveNode_eq_some.1 hresolves).2.1
  obtain ⟨hsettled, hlist⟩ := hloop.settled hresolves hreleased
  generalize node.dependents.foldl (releaseDependent allowInline) { nodes := system.nodes }
    = state at hloop hsettled hlist
  have c : Completed system job record node state released.nodes :=
    ⟨hget, hlive, hresolves, hscheduled, hstarts, hreturned, hloop, hsettled⟩
  have hcarriers' := carriers_leaving workFirstDepth hthread hlist
  have hrest : ∀ carrier ∈ carriers system.queued (system.threads.eraseIdx thread),
      Carried system.nodes system.jobs carrier.1 carrier.2 := fun carrier hcarrier =>
    h.carried carrier (hcarriers.mem_iff.2 (List.mem_cons_of_mem _ hcarrier))
  refine ⟨h.nodes.complete huses hget hresolves hloop hsettled, fun _ _ => c.liveJob h,
    fun _ hfound _ => c.dependents h hfound, fun _ hafter hlive _ => c.awaiting h hafter hlive,
    fun _ hafter hstarted _ => c.started h hafter hstarted, fun _ => c.starts_le h,
    fun _ => c.recycled h, ?_, ?_, ?_⟩
  · rw [(hcarriers'.map Prod.fst).nodup_iff, List.map_append, List.map_map]
    refine List.nodup_append.2 ⟨?_, (List.nodup_cons.1 hnodup).2, ?_⟩
    · simpa [Function.comp_def] using hloop.scheduled_nodup
    · intro handle hhandle other hother
      have hmem : handle ∈ state.scheduled := by
        simpa [Function.comp_def] using hhandle
      obtain ⟨carrier, hcarrier, rfl⟩ := List.mem_map.1 hother
      exact c.scheduled_ne hmem (hrest carrier hcarrier)
  · intro carrier hcarrier
    rcases List.mem_append.1 (hcarriers'.mem_iff.1 hcarrier) with hnew | hold
    · obtain ⟨handle, hhandle, rfl⟩ := List.mem_map.1 hnew
      exact c.carried_scheduled h hhandle
    · refine c.carried_of_ne h (hrest carrier hold) fun heq => ?_
      exact (List.nodup_cons.1 hnodup).1 (List.mem_map.2 ⟨carrier, hold, heq⟩)
  · have hbefore := h.pending
    have hcount := isLeaving_perm hperm
    have hcount' := isLeaving_perm
      (threads_set_perm hthread (.leaving released.inlineContinuation workFirstDepth))
    have hrecords := countP_modify_recycled hget hlive
    show system.pendingJobCount = (system.jobs.modify job fun job =>
        { job with recycled := true }).countP (fun record => !record.recycled) +
      (system.threads.set thread
        (.leaving released.inlineContinuation workFirstDepth)).countP ExecutePoint.isLeaving
    simp only [ExecutePoint.isLeaving, if_true, Bool.false_eq_true, if_false] at hcount hcount'
    omega

end NwbLot.Alloc
