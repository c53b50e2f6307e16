import NwbLot.Alloc.JobCompletion

/-!
# Submission

A submitted job gets a node whose generation no earlier handle has, and waits for the dependencies
that still resolve.

`Acquired` speaks of the new node, `Registered` of the loop over the dependencies, `Submitted` of
the nodes behind both and `Entered` of the job; from it the invariant is put together field by
field.
-/

namespace NwbLot.Alloc

open TaskGraph JobSystem

/-! ## The acquired node -/

/-- The node that `acquireNodeLocked` hands out, and the nodes around it. -/
structure Acquired (task : ℕ) (nodes : List JobNode) (freeNodes : List ℕ)
    (nodes' : List JobNode) (freeNodes' : List ℕ) (output : JobHandle) : Prop where
  slot : ∃ before : JobNode, nodes'[output.index]? = some (before.acquired task) ∧
    before.generation = output.generation ∧
    (nodes[output.index]? = some before ∧ before.completed = true ∧
        freeNodes = output.index :: freeNodes' ∧ nodes'.length = nodes.length ∨
      nodes.length = output.index ∧ before = {} ∧ freeNodes = [] ∧ freeNodes' = [] ∧
        nodes'.length = nodes.length + 1)
  of_ne : ∀ index, index ≠ output.index → nodes'[index]? = nodes[index]?
  length_le : nodes'.length ≤ u32Max
  awaited_eq : ∀ handle, awaited nodes' handle = awaited nodes handle

variable {nodes nodes' : List JobNode} {task : ℕ} {output : JobHandle}

variable {freeNodes freeNodes' : List ℕ} {jobs : List JobRecord}

lemma acquireNode_spec (h : NodesInv nodes freeNodes jobs)
    (hacquired : acquireNode task nodes freeNodes = some (nodes', freeNodes', output)) :
    Acquired task nodes freeNodes nodes' freeNodes' output := by
  unfold acquireNode at hacquired
  split at hacquired
  · next index rest =>
    obtain ⟨node, hnode, hdone⟩ := h.free index List.mem_cons_self
    have hlt := (List.getElem?_eq_some_iff.1 hnode).1
    simp only [List.getD_eq_getElem?_getD, hnode, Option.getD_some] at hacquired
    cases hacquired
    refine ⟨⟨node, List.getElem?_set_self hlt, rfl, Or.inl ⟨hnode, hdone, rfl, ?_⟩⟩,
      fun other hne => List.getElem?_set_ne (Ne.symm hne), ?_, fun handle => ?_⟩
    · rw [List.length_set]
    · rw [List.length_set]
      exact h.length_le
    · refine awaited_set_of_eq hnode ?_ handle
      rw [h.dependents_eq_nil node (List.mem_of_getElem? hnode) hdone]
      rfl
  · split_ifs at hacquired with hfull
    cases hacquired
    refine ⟨⟨{}, ?_, rfl, Or.inr ⟨rfl, rfl, rfl, rfl, ?_⟩⟩, fun other hne => ?_, ?_,
      fun handle => ?_⟩
    · rw [List.getElem?_append_right le_rfl, Nat.sub_self]
      rfl
    · rw [List.length_append, List.length_singleton]
    · rcases Nat.lt_or_ge other nodes.length with hlt | hge
      · rw [List.getElem?_append_left hlt]
      · have hgt : nodes.length + 1 ≤ other := Nat.lt_of_le_of_ne hge (Ne.symm hne)
        rw [List.getElem?_eq_none hge, List.getElem?_eq_none]
        rw [List.length_append, List.length_singleton]
        exact hgt
    · rw [List.length_append, List.length_singleton]
      omega
    · rw [awaited_append, awaited_cons]
      rfl

section Acquired

variable {task : ℕ} {nodes nodes' : List JobNode} {freeNodes freeNodes' : List ℕ}
  {jobs : List JobRecord} {output : JobHandle}

/-- The generation of the acquired node is one more than its uses. -/
lemma Acquired.generation_eq (hacquired : Acquired task nodes freeNodes nodes' freeNodes' output)
    (h : NodesInv nodes freeNodes jobs) (huses : uses jobs output.index < u32Max) :
    output.generation = uses jobs output.index + 1 := by
  obtain ⟨before, -, hgeneration, ⟨hslot, hdone, -⟩ | ⟨hnew, rfl, -⟩⟩ := hacquired.slot
  · rcases h.generation_of_completed _ before hslot hdone with hnext | hfull
    · rw [← hgeneration, hnext]
    · exact absurd hfull huses.ne
  · have hnone : uses jobs output.index = 0 := by
      refine List.countP_eq_zero.2 fun record hrecord hindex => ?_
      have hlt := (h.handle_bounds record hrecord).1
      rw [of_decide_eq_true hindex, hnew] at hlt
      exact lt_irrefl _ hlt
    rw [← hgeneration, hnone]

lemma Acquired.valid (hacquired : Acquired task nodes freeNodes nodes' freeNodes' output)
    (h : NodesInv nodes freeNodes jobs) (huses : uses jobs output.index < u32Max) :
    output.valid = true := by
  have hlt : output.index < u32Max := by
    obtain ⟨before, hslot, -⟩ := hacquired.slot
    exact (List.getElem?_eq_some_iff.1 hslot).1.trans_le hacquired.length_le
  rw [JobHandle.valid, Bool.and_eq_true, bne_iff_ne, bne_iff_ne,
    hacquired.generation_eq h huses]
  exact ⟨hlt.ne, Nat.succ_ne_zero _⟩

/-- No earlier job has the handle. -/
lemma Acquired.ne_handle (hacquired : Acquired task nodes freeNodes nodes' freeNodes' output)
    (h : NodesInv nodes freeNodes jobs) (huses : uses jobs output.index < u32Max)
    {record : JobRecord} (hrecord : record ∈ jobs) : record.handle ≠ output := by
  intro heq
  have hle := (h.handle_bounds record hrecord).2.2
  rw [heq, hacquired.generation_eq h huses] at hle
  exact absurd hle (Nat.not_succ_le_self _)

variable {handle : JobHandle}

/-- What resolved before resolves on the same node, on another slot. -/
lemma Acquired.resolves_of (hacquired : Acquired task nodes freeNodes nodes' freeNodes' output)
    {node : JobNode} (hresolves : tryResolveNode nodes handle = some node) :
    handle.index ≠ output.index ∧ tryResolveNode nodes' handle = some node := by
  obtain ⟨hvalid, hslot, hgeneration, hlive⟩ := tryResolveNode_eq_some.1 hresolves
  have hne : handle.index ≠ output.index := by
    intro hindex
    rw [hindex] at hslot
    obtain ⟨before, -, -, ⟨hbefore, hdone, -⟩ | ⟨hnew, -⟩⟩ := hacquired.slot
    · obtain rfl := Option.some.inj (hslot.symm.trans hbefore)
      rw [hlive] at hdone
      cases hdone
    · exact absurd (List.getElem?_eq_some_iff.1 hslot).1 (by rw [hnew]; exact lt_irrefl _)
  refine ⟨hne, tryResolveNode_eq_some.2 ⟨hvalid, ?_, hgeneration, hlive⟩⟩
  rw [hacquired.of_ne _ hne]
  exact hslot

/-- Earlier handles do not resolve on the acquired node. -/
lemma Acquired.tryResolveNode_eq
    (hacquired : Acquired task nodes freeNodes nodes' freeNodes' output)
    (h : NodesInv nodes freeNodes jobs) (huses : uses jobs output.index < u32Max)
    (hknown : handle.valid = true → ∃ record ∈ jobs, record.handle = handle) :
    tryResolveNode nodes' handle = tryResolveNode nodes handle := by
  cases hbefore : tryResolveNode nodes handle with
  | some node => exact (hacquired.resolves_of hbefore).2
  | none =>
    cases hafter : tryResolveNode nodes' handle with
    | none => rfl
    | some node =>
      obtain ⟨hvalid, hslot, hgeneration, hlive⟩ := tryResolveNode_eq_some.1 hafter
      obtain ⟨record, hrecord, rfl⟩ := hknown hvalid
      rcases eq_or_ne record.handle.index output.index with hindex | hne
      · obtain ⟨before, hself, hsame, -⟩ := hacquired.slot
        rw [hindex, hself, Option.some.injEq] at hslot
        subst hslot
        have heq : record.handle = output := by
          have hgenerations : record.handle.generation = output.generation :=
            hgeneration.symm.trans hsame
          cases hhandle : record.handle
          cases output
          simp_all
        exact absurd heq (hacquired.ne_handle h huses hrecord)
      · rw [hacquired.of_ne _ hne] at hslot
        rw [tryResolveNode_eq_some.2 ⟨hvalid, hslot, hgeneration, hlive⟩] at hbefore
        cases hbefore

end Acquired

/-! ## The registered dependencies -/

/-- The loop of `submitWithDependencies` has seen the dependencies `seen`. -/
structure Registered (nodes : List JobNode) (output : JobHandle) (seen : List JobHandle)
    (state : List JobNode × ℕ) : Prop where
  node : ∀ (index : ℕ) (node : JobNode), nodes[index]? = some node → ∃ entries,
    state.1[index]? = some { node with
      dependents := node.dependents ++ List.replicate entries output } ∧
    (node.completed = true → entries = 0)
  length_eq : state.1.length = nodes.length
  awaited_self : awaited state.1 output = awaited nodes output +
    (seen.filter fun dependency => (tryResolveNode nodes dependency).isSome).length
  awaited_of_ne : ∀ handle, handle ≠ output → awaited state.1 handle = awaited nodes handle
  waits : ∀ dependency ∈ seen, ∀ node, tryResolveNode nodes dependency = some node →
    ∃ node' ∈ state.1[dependency.index]?, output ∈ node'.dependents
  unresolved : state.2 = (seen.filter fun dependency =>
    (tryResolveNode nodes dependency).isSome).length % 2 ^ 32

lemma Registered.start (nodes : List JobNode) (output : JobHandle) :
    Registered nodes output [] (nodes, 0) where
  node := fun index node hnode => ⟨0, by simpa using hnode, fun _ => rfl⟩
  length_eq := rfl
  awaited_self := by simp
  awaited_of_ne := fun _ _ => rfl
  waits := by simp
  unresolved := rfl

variable {seen : List JobHandle} {state : List JobNode × ℕ}

lemma Registered.tryResolveNode_eq (h : Registered nodes output seen state) (handle : JobHandle) :
    (tryResolveNode nodes handle = none → tryResolveNode state.1 handle = none) ∧
      ∀ node, tryResolveNode nodes handle = some node → ∃ entries,
        tryResolveNode state.1 handle = some { node with
          dependents := node.dependents ++ List.replicate entries output } := by
  constructor
  · intro hnone
    cases hafter : tryResolveNode state.1 handle with
    | none => rfl
    | some node' =>
      obtain ⟨hvalid, hslot, hgeneration, hlive⟩ := tryResolveNode_eq_some.1 hafter
      have hlt : handle.index < nodes.length := by
        rw [← h.length_eq]
        exact (List.getElem?_eq_some_iff.1 hslot).1
      obtain ⟨entries, hsame, -⟩ :=
        h.node handle.index nodes[handle.index] (List.getElem?_eq_getElem hlt)
      obtain rfl := Option.some.inj (hsame.symm.trans hslot)
      rw [tryResolveNode_eq_some.2
        ⟨hvalid, List.getElem?_eq_getElem hlt, hgeneration, hlive⟩] at hnone
      cases hnone
  · intro node hresolves
    obtain ⟨hvalid, hslot, hgeneration, hlive⟩ := tryResolveNode_eq_some.1 hresolves
    obtain ⟨entries, hsame, -⟩ := h.node handle.index node hslot
    exact ⟨entries, tryResolveNode_eq_some.2 ⟨hvalid, hsame, hgeneration, hlive⟩⟩

lemma Registered.step (h : Registered nodes output seen state) (dependency : JobHandle) :
    Registered nodes output (seen ++ [dependency])
      (registerDependency output state dependency) := by
  cases hresolves : tryResolveNode nodes dependency with
  | none =>
    have hfilter : (seen ++ [dependency]).filter
        (fun dependency => (tryResolveNode nodes dependency).isSome)
          = seen.filter fun dependency => (tryResolveNode nodes dependency).isSome := by
      rw [List.filter_append, List.filter_singleton, hresolves]
      simp
    unfold registerDependency
    rw [(h.tryResolveNode_eq dependency).1 hresolves]
    exact
      { node := h.node
        length_eq := h.length_eq
        awaited_self := hfilter ▸ h.awaited_self
        awaited_of_ne := h.awaited_of_ne
        waits := by
          intro other hother node hnode
          rcases List.mem_append.1 hother with hold | hnew
          · exact h.waits other hold node hnode
          · rw [List.mem_singleton.1 hnew, hresolves] at hnode
            cases hnode
        unresolved := hfilter ▸ h.unresolved }
  | some node =>
    have hfilter : ((seen ++ [dependency]).filter
        (fun dependency => (tryResolveNode nodes dependency).isSome)).length
          = (seen.filter fun dependency =>
              (tryResolveNode nodes dependency).isSome).length + 1 := by
      rw [List.filter_append, List.filter_singleton, hresolves]
      simp
    obtain ⟨entries, hstate⟩ := (h.tryResolveNode_eq dependency).2 node hresolves
    have hslot := (tryResolveNode_eq_some.1 hstate).2.1
    have hlt := (List.getElem?_eq_some_iff.1 hslot).1
    unfold registerDependency
    rw [hstate]
    dsimp only
    exact
      { node := by
          intro index found hfound
          obtain ⟨others, hsame, hnone⟩ := h.node index found hfound
          rcases eq_or_ne dependency.index index with rfl | hne
          · obtain ⟨-, hslot', -, hlive⟩ := tryResolveNode_eq_some.1 hresolves
            obtain rfl := Option.some.inj (hfound.symm.trans hslot')
            refine ⟨entries + 1, ?_, fun hdone => ?_⟩
            · rw [List.getElem?_set_self hlt, List.replicate_succ', List.append_assoc]
            · rw [hlive] at hdone
              cases hdone
          · refine ⟨others, ?_, hnone⟩
            rw [List.getElem?_set_ne hne]
            exact hsame
        length_eq := by
          rw [List.length_set]
          exact h.length_eq
        awaited_self := by
          have hcount := awaited_set hslot { node with
            dependents := node.dependents ++ List.replicate entries output ++ [output] } output
          rw [hfilter]
          have hbefore := h.awaited_self
          simp only [List.count_append, List.count_singleton_self] at hcount
          dsimp only
          omega
        awaited_of_ne := by
          intro handle hne
          have hcount := awaited_set hslot { node with
            dependents := node.dependents ++ List.replicate entries output ++ [output] } handle
          have hbefore := h.awaited_of_ne handle hne
          have hnone : [output].count handle = 0 := by
            rw [List.count_singleton, if_neg (by simpa using hne.symm)]
          simp only [List.count_append, hnone] at hcount
          dsimp only
          omega
        waits := by
          intro other hother found hfound
          rcases eq_or_ne dependency.index other.index with hindex | hne
          · rw [← hindex, List.getElem?_set_self hlt]
            exact ⟨_, rfl, by simp⟩
          · rw [List.getElem?_set_ne hne]
            rcases List.mem_append.1 hother with hold | hnew
            · exact h.waits other hold found hfound
            · exact absurd (congrArg JobHandle.index (List.mem_singleton.1 hnew).symm) hne
        unresolved := by
          rw [hfilter, h.unresolved, Nat.mod_add_mod] }

lemma registered_foldl (nodes : List JobNode) (output : JobHandle)
    (dependencies : List JobHandle) :
    Registered nodes output dependencies
      (dependencies.foldl (registerDependency output) (nodes, 0)) := by
  have hall : ∀ (todo seen : List JobHandle) (state : List JobNode × ℕ),
      Registered nodes output seen state →
      Registered nodes output (seen ++ todo) (todo.foldl (registerDependency output) state) := by
    intro todo
    induction todo with
    | nil =>
      intro seen state hstate
      rw [List.append_nil]
      exact hstate
    | cons dependency todo ih =>
      intro seen state hstate
      have hrest := ih (seen ++ [dependency]) _ (hstate.step dependency)
      rw [List.append_assoc] at hrest
      exact hrest
  exact hall dependencies [] _ (Registered.start nodes output)

/-! ## The invariant -/

/-- The nodes when `submitWithDependencies` leaves its locked section, against those with the
acquired node. -/
structure Submitted (task : ℕ) (nodes' : List JobNode) (output : JobHandle)
    (dependencies : List JobHandle) (submitted : List JobNode) : Prop where
  self : ∃ node, submitted[output.index]? = some node ∧ node.func = some task ∧
    node.completed = false ∧ node.generation = output.generation ∧
    node.remainingDependencies = (dependencies.filter fun dependency =>
      (tryResolveNode nodes' dependency).isSome).length % 2 ^ 32 ∧
    (node.scheduled = true ↔ node.remainingDependencies = 0) ∧
    ∀ handle ∈ node.dependents, handle = output
  of_ne : ∀ (index : ℕ) (node : JobNode), index ≠ output.index → nodes'[index]? = some node →
    ∃ entries, submitted[index]? = some { node with
      dependents := node.dependents ++ List.replicate entries output } ∧
    (node.completed = true → entries = 0)
  length_eq : submitted.length = nodes'.length
  awaited_self : awaited submitted output = awaited nodes' output +
    (dependencies.filter fun dependency => (tryResolveNode nodes' dependency).isSome).length
  awaited_of_ne : ∀ handle, handle ≠ output → awaited submitted handle = awaited nodes' handle
  waits : ∀ dependency ∈ dependencies, ∀ node, tryResolveNode nodes' dependency = some node →
    ∃ node' ∈ submitted[dependency.index]?, output ∈ node'.dependents

lemma registerDependencies_spec (hacquired : Acquired task nodes freeNodes nodes' freeNodes' output)
    (dependencies : List JobHandle) :
    Submitted task nodes' output dependencies
        (registerDependencies nodes' output dependencies).1 ∧
      ((registerDependencies nodes' output dependencies).2 = true ↔
        (dependencies.filter fun dependency =>
          (tryResolveNode nodes' dependency).isSome).length % 2 ^ 32 = 0) := by
  have hregistered := registered_foldl nodes' output dependencies
  obtain ⟨before, hslot, hgeneration, -⟩ := hacquired.slot
  obtain ⟨entries, hsame, -⟩ := hregistered.node _ _ hslot
  have hlt := (List.getElem?_eq_some_iff.1 hsame).1
  unfold registerDependencies
  simp only [List.getD_eq_getElem?_getD, hsame, Option.getD_some, decide_eq_true_eq]
  generalize dependencies.foldl (registerDependency output) (nodes', 0) = state
    at hregistered hsame hlt ⊢
  refine ⟨⟨⟨_, List.getElem?_set_self hlt, rfl, rfl, hgeneration, hregistered.unresolved, ?_, ?_⟩,
    ?_, ?_, ?_, ?_, ?_⟩, ?_⟩
  · show (if state.2 = 0 then true else false) = true ↔ state.2 = 0
    split_ifs with hzero
    · exact iff_of_true rfl hzero
    · exact iff_of_false not_false hzero
  · intro handle hhandle
    exact List.eq_of_mem_replicate (by simpa [JobNode.acquired] using hhandle)
  · intro index node hne hnode
    obtain ⟨others, hother, hnone⟩ := hregistered.node index node hnode
    refine ⟨others, ?_, hnone⟩
    rw [List.getElem?_set_ne (Ne.symm hne)]
    exact hother
  · rw [List.length_set]
    exact hregistered.length_eq
  · rw [awaited_set_of_eq hsame]
    · exact hregistered.awaited_self
    · rfl
  · intro handle hne
    rw [awaited_set_of_eq hsame]
    · exact hregistered.awaited_of_ne handle hne
    · rfl
  · intro dependency hdependency node hresolves
    obtain ⟨node', hnode', hwaits⟩ := hregistered.waits dependency hdependency node hresolves
    rcases eq_or_ne output.index dependency.index with hindex | hne
    · rw [← hindex] at hnode'
      rw [← hindex, List.getElem?_set_self hlt]
      obtain rfl := Option.some.inj (hnode'.symm.trans hsame)
      exact ⟨_, rfl, hwaits⟩
    · rw [List.getElem?_set_ne hne]
      exact ⟨node', hnode', hwaits⟩
  · rw [hregistered.unresolved]

/-- A slot afterwards is the job's, or has the fields that registering does not touch. -/
lemma Submitted.slot_cases {dependencies : List JobHandle} {submitted : List JobNode}
    (h : Submitted task nodes' output dependencies submitted) {index : ℕ} {found : JobNode}
    (hslot : submitted[index]? = some found) :
    index = output.index ∧ found.completed = false ∧ found.generation = output.generation ∧
        (∀ handle ∈ found.dependents, handle = output) ∨
      index ≠ output.index ∧ ∃ node entries, nodes'[index]? = some node ∧
        (node.completed = true → entries = 0) ∧
        found = { node with dependents := node.dependents ++ List.replicate entries output } := by
  rcases eq_or_ne index output.index with rfl | hne
  · obtain ⟨node, hself, -, hlive, hgeneration, -, -, hdependents⟩ := h.self
    obtain rfl := Option.some.inj (hself.symm.trans hslot)
    exact Or.inl ⟨rfl, hlive, hgeneration, hdependents⟩
  · have hlt : index < nodes'.length := by
      rw [← h.length_eq]
      exact (List.getElem?_eq_some_iff.1 hslot).1
    have hget := List.getElem?_eq_getElem hlt
    obtain ⟨entries, hsame, hnone⟩ := h.of_ne index nodes'[index] hne hget
    exact Or.inr ⟨hne, nodes'[index], entries, hget, hnone,
      Option.some.inj (hslot.symm.trans hsame)⟩

lemma uses_append (jobs : List JobRecord) (record : JobRecord) (index : ℕ) :
    uses (jobs ++ [record]) index
      = uses jobs index + if record.handle.index = index then 1 else 0 := by
  rw [uses, uses, List.countP_append, List.countP_singleton]
  simp only [decide_eq_true_eq]

/-- The nodes of `submit` against the handles. -/
lemma NodesInv.submit {task : ℕ} {nodes nodes' submitted : List JobNode}
    {freeNodes freeNodes' : List ℕ} {jobs : List JobRecord} {dependencies : List JobHandle}
    {record : JobRecord} (h : NodesInv nodes freeNodes jobs)
    (huses : uses jobs record.handle.index < u32Max) (hlive : record.recycled = false)
    (hacquired : Acquired task nodes freeNodes nodes' freeNodes' record.handle)
    (hsubmitted : Submitted task nodes' record.handle dependencies submitted) :
    NodesInv submitted freeNodes' (jobs ++ [record]) := by
  have hgeneration := hacquired.generation_eq h huses
  obtain ⟨before, hbefore, -, hshape⟩ := hacquired.slot
  have hfree : (∀ index ∈ freeNodes', index ∈ freeNodes ∧ index ≠ record.handle.index) ∧
      freeNodes'.Nodup := by
    rcases hshape with ⟨-, -, hlist, -⟩ | ⟨-, -, -, hnil, -⟩
    · have hnodup := h.free_nodup
      rw [hlist, List.nodup_cons] at hnodup
      refine ⟨fun index hindex => ⟨hlist ▸ List.mem_cons_of_mem _ hindex, ?_⟩, hnodup.2⟩
      exact fun heq => hnodup.1 (heq ▸ hindex)
    · rw [hnil]
      exact ⟨by simp, List.nodup_nil⟩
  have hlength : nodes.length ≤ nodes'.length := by
    rcases hshape with ⟨-, -, -, hlen⟩ | ⟨-, -, -, -, hlen⟩ <;> omega
  exact
    { length_le := hsubmitted.length_eq ▸ hacquired.length_le
      free_nodup := hfree.2
      free := by
        intro index hindex
        obtain ⟨hold, hne⟩ := hfree.1 index hindex
        obtain ⟨found, hfound, hdone⟩ := h.free index hold
        rw [← hacquired.of_ne index hne] at hfound
        obtain ⟨entries, hsame, -⟩ := hsubmitted.of_ne index found hne hfound
        exact ⟨_, hsame, hdone⟩
      dependents_eq_nil := by
        intro found hfound hdone
        obtain ⟨index, hindex⟩ := List.getElem?_of_mem hfound
        rcases hsubmitted.slot_cases hindex with ⟨-, hlive', -⟩ |
          ⟨hne, node, entries, hnode, hnone, rfl⟩
        · rw [hlive'] at hdone
          cases hdone
        · rw [hacquired.of_ne index hne] at hnode
          show node.dependents ++ List.replicate entries record.handle = []
          rw [hnone hdone, h.dependents_eq_nil node (List.mem_of_getElem? hnode) hdone]
          rfl
      generation_of_live := by
        intro index found hfound hfoundLive
        rw [uses_append]
        rcases hsubmitted.slot_cases hfound with ⟨rfl, -, hsame, -⟩ |
          ⟨hne, node, entries, hnode, -, rfl⟩
        · rw [hsame, hgeneration, if_pos rfl]
        · rw [hacquired.of_ne index hne] at hnode
          rw [if_neg (Ne.symm hne), Nat.add_zero]
          exact h.generation_of_live index node hnode hfoundLive
      generation_of_completed := by
        intro index found hfound hdone
        rw [uses_append]
        rcases hsubmitted.slot_cases hfound with ⟨-, hlive', -⟩ |
          ⟨hne, node, entries, hnode, -, rfl⟩
        · rw [hlive'] at hdone
          cases hdone
        · rw [hacquired.of_ne index hne] at hnode
          rw [if_neg (Ne.symm hne), Nat.add_zero]
          exact h.generation_of_completed index node hnode hdone
      handle_bounds := by
        intro other hother
        rw [hsubmitted.length_eq, uses_append]
        rcases List.mem_append.1 hother with hold | hnew
        · obtain ⟨hlt, hpos, hle⟩ := h.handle_bounds other hold
          exact ⟨hlt.trans_le hlength, hpos, hle.trans (Nat.le_add_right _ _)⟩
        · obtain rfl := List.mem_singleton.1 hnew
          rw [hgeneration, if_pos rfl]
          exact ⟨(List.getElem?_eq_some_iff.1 hbefore).1, Nat.succ_pos _, le_rfl⟩
      handles_nodup := by
        rw [List.map_append, List.map_singleton, List.nodup_append]
        refine ⟨h.handles_nodup, List.nodup_singleton _, ?_⟩
        intro handle hhandle other hother heq
        obtain ⟨earlier, hearlier, rfl⟩ := List.mem_map.1 hhandle
        rw [List.mem_singleton.1 hother] at heq
        exact hacquired.ne_handle h huses hearlier heq
      live_of_resolves := by
        intro other hother found hfound
        rcases List.mem_append.1 hother with hold | hnew
        · obtain ⟨hvalid, hslot, hsame, hfoundLive⟩ := tryResolveNode_eq_some.1 hfound
          rcases hsubmitted.slot_cases hslot with ⟨hindex, -, hself, -⟩ |
            ⟨hne, node, entries, hnode, -, rfl⟩
          · have heq : other.handle = record.handle := by
              have hgenerations := hsame.symm.trans hself
              cases hhandle : other.handle
              cases hhandle' : record.handle
              simp_all
            exact absurd heq (hacquired.ne_handle h huses hold)
          · rw [hacquired.of_ne _ hne] at hnode
            exact h.live_of_resolves other hold node
              (tryResolveNode_eq_some.2 ⟨hvalid, hnode, hsame, hfoundLive⟩)
        · rw [List.mem_singleton.1 hnew]
          exact hlive }

lemma mem_unfinishedJobs {handles : List JobHandle} {job : ℕ} :
    job ∈ unfinishedJobs jobs handles ↔ ∃ record, jobs[job]? = some record ∧
      record.handle ∈ handles ∧ record.returned = false := by
  rw [unfinishedJobs, List.mem_filter, List.mem_range]
  cases hget : jobs[job]? with
  | none => simp
  | some record =>
    have hlt := (List.getElem?_eq_some_iff.1 hget).1
    simp [hlt]

/-- A job has entered the nodes under a new handle, with its dependencies registered. -/
structure Entered (system : JobSystem) (dependencies : List JobHandle) (nodes' : List JobNode)
    (freeNodes' : List ℕ) (record : JobRecord) (registered : List JobNode × Bool) : Prop where
  uses_lt : uses system.jobs record.handle.index < u32Max
  acquired : Acquired system.jobs.length system.nodes system.freeNodes nodes' freeNodes'
    record.handle
  submitted : Submitted system.jobs.length nodes' record.handle dependencies registered.1
  fits : (dependencies.filter fun dependency =>
    (tryResolveNode nodes' dependency).isSome).length < 2 ^ 32
  scheduled : registered.2 = true ↔ (dependencies.filter fun dependency =>
    (tryResolveNode nodes' dependency).isSome).length % 2 ^ 32 = 0
  dependencies_eq : record.dependencies = unfinishedJobs system.jobs dependencies
  unstarted : record.starts = 0
  unreturned : record.returned = false
  live : record.recycled = false

namespace Entered

variable {system : JobSystem} {dependencies : List JobHandle} {nodes' : List JobNode}
  {freeNodes' : List ℕ} {record : JobRecord} {registered : List JobNode × Bool}

section Records

variable {job : ℕ} {other : JobRecord}

/-- A record afterwards was there or is the new one. -/
lemma record_cases (hget : (system.jobs ++ [record])[job]? = some other) :
    system.jobs[job]? = some other ∨ job = system.jobs.length ∧ other = record := by
  rcases Nat.lt_or_ge job system.jobs.length with hlt | hge
  · rw [List.getElem?_append_left hlt] at hget
    exact Or.inl hget
  · rw [List.getElem?_append_right hge] at hget
    have hzero : job - system.jobs.length = 0 := by
      have hlt := (List.getElem?_eq_some_iff.1 hget).1
      rw [List.length_singleton] at hlt
      omega
    rw [hzero] at hget
    exact Or.inr ⟨by omega, (Option.some.inj hget).symm⟩

lemma get_old (hget : system.jobs[job]? = some other) :
    (system.jobs ++ [record])[job]? = some other := by
  rw [List.getElem?_append_left (List.getElem?_eq_some_iff.1 hget).1]
  exact hget

lemma get_new : (system.jobs ++ [record])[system.jobs.length]? = some record := by
  rw [List.getElem?_append_right le_rfl, Nat.sub_self]
  rfl

end Records

section Invariant

variable (e : Entered system dependencies nodes' freeNodes' record registered)
include e

variable {handle : JobHandle}

variable {found : JobNode}

/-- What resolved before has the new entries behind its dependents. -/
lemma resolves_of (hfound : tryResolveNode system.nodes handle = some found) :
    ∃ entries, tryResolveNode registered.1 handle = some { found with
      dependents := found.dependents ++ List.replicate entries record.handle } := by
  obtain ⟨hne, hfound'⟩ := e.acquired.resolves_of hfound
  obtain ⟨hvalid', hslot, hgeneration', hlive⟩ := tryResolveNode_eq_some.1 hfound'
  obtain ⟨entries, hsame, -⟩ := e.submitted.of_ne handle.index found hne hslot
  exact ⟨entries, tryResolveNode_eq_some.2 ⟨hvalid', hsame, hgeneration', hlive⟩⟩

variable {phase : CarrierPhase}

/-- The carried jobs stay where they are. -/
lemma carried_old (hcarried : Carried system.nodes system.jobs handle phase) :
    Carried registered.1 (system.jobs ++ [record]) handle phase := by
  obtain ⟨job, other, found, hget, hname, hlive, hfound, hscheduled, hphase⟩ := hcarried
  obtain ⟨entries, hfound'⟩ := e.resolves_of hfound
  refine ⟨job, other, _, get_old hget, hname, hlive, hfound', hscheduled, ?_⟩
  cases phase <;> exact hphase

variable (h : JobInv system)
include h

variable {other : JobRecord}

lemma ne_handle (hother : other ∈ system.jobs) :
    other.handle ≠ record.handle :=
  e.acquired.ne_handle h.nodes e.uses_lt hother

lemma awaited_eq_zero : awaited system.nodes record.handle = 0 := by
  by_contra hpos
  obtain ⟨found, hfound, hwaits⟩ := awaited_pos_iff.1 (Nat.pos_of_ne_zero hpos)
  obtain ⟨other, hother, heq, -⟩ := h.dependents found hfound _ hwaits
  exact e.ne_handle h hother heq

lemma liveJob_new : ∃ node, LiveJob registered.1 system.jobs.length record node ∧
    node.func = some system.jobs.length ∧ (registered.2 = true → node.scheduled = true) := by
  obtain ⟨node, hself, hfunc, hnodeLive, hgeneration, hremaining, hiff, -⟩ := e.submitted.self
  have hresolves : tryResolveNode registered.1 record.handle = some node :=
    tryResolveNode_eq_some.2
      ⟨e.acquired.valid h.nodes e.uses_lt, hself, hgeneration, hnodeLive⟩
  refine ⟨node, ⟨hresolves, hiff, ?_, fun _ => ⟨hfunc, e.unstarted⟩, fun _ => e.unreturned⟩, hfunc,
    fun hready => ?_⟩
  · rw [e.submitted.awaited_self, e.acquired.awaited_eq, e.awaited_eq_zero h, Nat.zero_add,
      hremaining, Nat.mod_eq_of_lt e.fits]
  · rw [hiff, hremaining]
    exact e.scheduled.1 hready

lemma liveJob {job : ℕ} (hget : (system.jobs ++ [record])[job]? = some other)
    (hlive : other.recycled = false) : ∃ node, LiveJob registered.1 job other node := by
  rcases record_cases hget with hold | ⟨rfl, rfl⟩
  · obtain ⟨found, hjob⟩ := h.live job other hold hlive
    obtain ⟨entries, hfound'⟩ := e.resolves_of hjob.resolves
    refine ⟨_, hfound', hjob.scheduled_iff, ?_, hjob.waiting, hjob.unstarted⟩
    rw [e.submitted.awaited_of_ne _ (e.ne_handle h (List.mem_of_getElem? hold)),
      e.acquired.awaited_eq]
    exact hjob.remaining_eq
  · obtain ⟨node, hnode, -⟩ := e.liveJob_new h
    exact ⟨node, hnode⟩

lemma dependents (hfound : found ∈ registered.1) (hwaits : handle ∈ found.dependents) :
    ∃ other ∈ system.jobs ++ [record], other.handle = handle ∧ other.recycled = false := by
  obtain ⟨index, hindex⟩ := List.getElem?_of_mem hfound
  have hself : ∃ other ∈ system.jobs ++ [record], other.handle = record.handle ∧
      other.recycled = false :=
    ⟨record, List.mem_append_right _ List.mem_cons_self, rfl, e.live⟩
  rcases e.submitted.slot_cases hindex with ⟨-, -, -, hall⟩ |
    ⟨hne, before, entries, hbefore, -, rfl⟩
  · rw [hall handle hwaits]
    exact hself
  · rcases List.mem_append.1 hwaits with hwas | hentry
    · rw [e.acquired.of_ne index hne] at hbefore
      obtain ⟨other, hother, hname, hlive⟩ :=
        h.dependents before (List.mem_of_getElem? hbefore) handle hwas
      exact ⟨other, List.mem_append_left _ hother, hname, hlive⟩
    · rw [List.eq_of_mem_replicate hentry]
      exact hself

variable {dependency : ℕ}

/-- A job that has not returned when the new one is submitted has it among its dependents. -/
lemma awaiting_new (hdependency : dependency ∈ record.dependencies) :
    ∃ awaitedJob, (system.jobs ++ [record])[dependency]? = some awaitedJob ∧
      ∃ found, tryResolveNode registered.1 awaitedJob.handle = some found ∧
        record.handle ∈ found.dependents := by
  rw [e.dependencies_eq, mem_unfinishedJobs] at hdependency
  obtain ⟨awaitedJob, hget, hlisted, hrunning⟩ := hdependency
  have hlive : awaitedJob.recycled = false := by
    by_contra hdone
    rw [Bool.not_eq_false] at hdone
    rw [(h.recycled awaitedJob (List.mem_of_getElem? hget) hdone).2] at hrunning
    cases hrunning
  obtain ⟨found, hjob⟩ := h.live dependency awaitedJob hget hlive
  obtain ⟨-, hfound'⟩ := e.acquired.resolves_of hjob.resolves
  obtain ⟨node', hnode', hwaits⟩ := e.submitted.waits awaitedJob.handle hlisted found hfound'
  obtain ⟨entries, hafter⟩ := e.resolves_of hjob.resolves
  obtain rfl := Option.some.inj (hnode'.symm.trans (tryResolveNode_eq_some.1 hafter).2.1)
  exact ⟨awaitedJob, get_old hget, _, hafter, hwaits⟩

lemma awaiting (hother : other ∈ system.jobs ++ [record]) (hlive : other.recycled = false)
    (hdependency : dependency ∈ other.dependencies) :
    ∃ awaitedJob, (system.jobs ++ [record])[dependency]? = some awaitedJob ∧
      (awaitedJob.returned = true ∨ ∃ found,
        tryResolveNode registered.1 awaitedJob.handle = some found ∧
          other.handle ∈ found.dependents) := by
  rcases List.mem_append.1 hother with hold | hnew
  · obtain ⟨awaitedJob, hget, hcases⟩ := h.awaiting other hold hlive dependency hdependency
    refine ⟨awaitedJob, get_old hget, hcases.imp_right ?_⟩
    rintro ⟨found, hfound, hwaits⟩
    obtain ⟨entries, hfound'⟩ := e.resolves_of hfound
    exact ⟨_, hfound', List.mem_append_left _ hwaits⟩
  · obtain rfl := List.mem_singleton.1 hnew
    obtain ⟨awaitedJob, hget, hwaits⟩ := e.awaiting_new h hdependency
    exact ⟨awaitedJob, hget, Or.inr hwaits⟩

lemma started (hother : other ∈ system.jobs ++ [record]) (hstarted : 0 < other.starts)
    (hdependency : dependency ∈ other.dependencies) :
    ∃ awaitedJob, (system.jobs ++ [record])[dependency]? = some awaitedJob ∧
      awaitedJob.returned = true := by
  rcases List.mem_append.1 hother with hold | hnew
  · obtain ⟨awaitedJob, hget, hdone⟩ := h.started other hold hstarted dependency hdependency
    exact ⟨awaitedJob, get_old hget, hdone⟩
  · rw [List.mem_singleton.1 hnew, e.unstarted] at hstarted
    exact absurd hstarted (lt_irrefl 0)

lemma starts_le (hother : other ∈ system.jobs ++ [record]) :
    other.starts ≤ 1 := by
  rcases List.mem_append.1 hother with hold | hnew
  · exact h.starts_le other hold
  · rw [List.mem_singleton.1 hnew, e.unstarted]
    exact Nat.zero_le 1

lemma recycled (hother : other ∈ system.jobs ++ [record]) (hdone : other.recycled = true) :
    other.starts = 1 ∧ other.returned = true := by
  rcases List.mem_append.1 hother with hold | hnew
  · exact h.recycled other hold hdone
  · rw [List.mem_singleton.1 hnew, e.live] at hdone
    cases hdone

lemma carried_new (hready : registered.2 = true) :
    Carried registered.1 (system.jobs ++ [record]) record.handle .ready := by
  obtain ⟨node, hnode, hfunc, hscheduled⟩ := e.liveJob_new h
  exact ⟨system.jobs.length, record, node, get_new, rfl, e.live, hnode.resolves,
    hscheduled hready, hfunc, e.unstarted⟩

/-- The new job is carried by nothing before. -/
lemma not_carried :
    ¬Carried system.nodes system.jobs record.handle phase := by
  rintro ⟨job, other, -, hget, hname, -⟩
  exact e.ne_handle h (List.mem_of_getElem? hget) hname

/-- The invariant, with the new job in the queue if it is ready. -/
lemma jobInv : JobInv { system with
    nodes := registered.1
    freeNodes := freeNodes'
    queued := if registered.2 then system.queued ++ [record.handle] else system.queued
    pendingJobCount := system.pendingJobCount + 1
    jobs := system.jobs ++ [record] } := by
  have hqueued : (carriers (if registered.2 then system.queued ++ [record.handle]
      else system.queued) system.threads).Perm
      (if registered.2 then (record.handle, CarrierPhase.ready) ::
        carriers system.queued system.threads else carriers system.queued system.threads) := by
    split_ifs
    · unfold carriers
      rw [List.map_append, List.append_assoc]
      exact List.perm_middle
    · exact List.Perm.refl _
  refine ⟨h.nodes.submit e.uses_lt e.live e.acquired e.submitted, fun _ _ => e.liveJob h,
    fun _ hfound _ => e.dependents h hfound, fun _ hother hlive _ => e.awaiting h hother hlive,
    fun _ hother hstarted _ => e.started h hother hstarted, fun _ => e.starts_le h,
    fun _ => e.recycled h, ?_, ?_, ?_⟩
  · rw [(hqueued.map Prod.fst).nodup_iff]
    split_ifs
    · refine List.nodup_cons.2 ⟨fun hmem => ?_, h.carriers_nodup⟩
      obtain ⟨⟨handle, phase⟩, hcarrier, rfl⟩ := List.mem_map.1 hmem
      exact e.not_carried h (h.carried _ hcarrier)
    · exact h.carriers_nodup
  · intro carrier hcarrier
    have hmem := hqueued.mem_iff.1 hcarrier
    by_cases hready : registered.2 = true
    · rw [if_pos hready] at hmem
      rcases List.mem_cons.1 hmem with rfl | hrest
      · exact e.carried_new h hready
      · exact e.carried_old (h.carried carrier hrest)
    · rw [if_neg hready] at hmem
      exact e.carried_old (h.carried carrier hmem)
  · have hbefore := h.pending
    show system.pendingJobCount + 1
      = ((system.jobs ++ [record]).countP fun record => !record.recycled) +
        system.threads.countP ExecutePoint.isLeaving
    rw [List.countP_append, List.countP_singleton, e.live]
    simp only [Bool.not_false, if_true]
    omega

end Invariant

end Entered

/-- The locked section of `submitWithDependencies` keeps the invariant. -/
lemma JobInv.submit {system : JobSystem} (h : JobInv system) {dependencies : List JobHandle}
    (hadmissible : Admissible system (.submit true dependencies))
    (huses : ∀ index, uses (system.submit dependencies).jobs index ≤ u32Max) :
    JobInv (system.submit dependencies) := by
  unfold JobSystem.submit at huses ⊢
  cases hacquire : acquireNode system.jobs.length system.nodes system.freeNodes with
  | none => exact h
  | some found =>
  obtain ⟨nodes', freeNodes', output⟩ := found
  rw [hacquire] at huses
  dsimp only at huses ⊢
  have hacquired := acquireNode_spec h.nodes hacquire
  obtain ⟨hsubmitted, hscheduled⟩ := registerDependencies_spec hacquired dependencies
  have husesBefore : uses system.jobs output.index < u32Max := by
    have hle := huses output.index
    rw [uses_append, if_pos rfl] at hle
    omega
  -- the entries that resolve are those that resolved before, fewer than the counter holds
  have hfits : (dependencies.filter fun dependency =>
      (tryResolveNode nodes' dependency).isSome).length < 2 ^ 32 := by
    have hresolved : (dependencies.filter fun dependency =>
        (tryResolveNode nodes' dependency).isSome)
        = dependencies.filter fun dependency =>
            (tryResolveNode system.nodes dependency).isSome := by
      refine List.filter_congr fun dependency hdependency => ?_
      rw [hacquired.tryResolveNode_eq h.nodes husesBefore (hadmissible.1 dependency hdependency)]
    rw [hresolved]
    exact hadmissible.2
  have e : Entered system dependencies nodes' freeNodes'
      { handle := output, dependencies := unfinishedJobs system.jobs dependencies }
      (registerDependencies nodes' output dependencies) :=
    ⟨husesBefore, hacquired, hsubmitted, hfits, hscheduled, rfl, rfl, rfl, rfl⟩
  exact e.jobInv h

end NwbLot.Alloc
