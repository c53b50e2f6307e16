import Mathlib.Data.List.Perm.Basic
import NwbLot.Alloc.JobHandles
import NwbLot.Alloc.JobSystem

/-!
# The invariant of the job system

A job that is not recycled has a live node, which counts the entries that wait to release it.  A
scheduled job is carried by at most one place: the queue, or one thread.
-/

namespace NwbLot.Alloc

open TaskGraph JobSystem

/-- How far a carried job is. -/
inductive CarrierPhase
  | ready
  | running (task : Option ℕ)
  | returned (task : Option ℕ)
  deriving DecidableEq, Repr

/-- The job that a thread carries. -/
def ExecutePoint.carriers : ExecutePoint → List (JobHandle × CarrierPhase)
  | .starting current _ => [(current, .ready)]
  | .running current _ task => [(current, .running task)]
  | .returned current _ task => [(current, .returned task)]
  | .leaving inlineContinuation _ =>
    if inlineContinuation.valid then [(inlineContinuation, .ready)] else []

/-- The job's completion is not counted off yet. -/
def ExecutePoint.isLeaving : ExecutePoint → Bool
  | .leaving _ _ => true
  | _ => false

/-- The handles of the jobs that are queued or in execution. -/
def carriers (queued : List JobHandle) (threads : List ExecutePoint) :
    List (JobHandle × CarrierPhase) :=
  (queued.map fun handle => (handle, .ready)) ++ threads.flatMap fun thread => thread.carriers

/-- What a carrier says about the job and its node. -/
def CarrierPhase.Holds (job : ℕ) (record : JobRecord) (node : JobNode) : CarrierPhase → Prop
  | .ready => node.func = some job ∧ record.starts = 0
  | .running task => task = some job ∧ record.starts = 1 ∧ record.returned = false
  | .returned task => task = some job ∧ record.starts = 1 ∧ record.returned = true

/-- The nodes against the handles that were given out. -/
structure NodesInv (nodes : List JobNode) (freeNodes : List ℕ) (jobs : List JobRecord) :
    Prop where
  length_le : nodes.length ≤ u32Max
  free_nodup : freeNodes.Nodup
  free : ∀ index ∈ freeNodes, ∃ node, nodes[index]? = some node ∧ node.completed = true
  dependents_eq_nil : ∀ node ∈ nodes, node.completed = true → node.dependents = []
  generation_of_live : ∀ index node, nodes[index]? = some node → node.completed = false →
    node.generation = uses jobs index
  generation_of_completed : ∀ index node, nodes[index]? = some node → node.completed = true →
    node.generation = uses jobs index + 1 ∨ uses jobs index = u32Max
  handle_bounds : ∀ record ∈ jobs, record.handle.index < nodes.length ∧
    0 < record.handle.generation ∧ record.handle.generation ≤ uses jobs record.handle.index
  handles_nodup : (jobs.map fun record => record.handle).Nodup
  live_of_resolves : ∀ record ∈ jobs, ∀ node, tryResolveNode nodes record.handle = some node →
    record.recycled = false

/-- A job that is not recycled, and its node. -/
structure LiveJob (nodes : List JobNode) (job : ℕ) (record : JobRecord) (node : JobNode) :
    Prop where
  resolves : tryResolveNode nodes record.handle = some node
  scheduled_iff : node.scheduled = true ↔ node.remainingDependencies = 0
  remaining_eq : node.remainingDependencies = awaited nodes record.handle
  waiting : node.scheduled = false → node.func = some job ∧ record.starts = 0
  unstarted : record.starts = 0 → record.returned = false

/-- The carrier's job is scheduled, and as far as the carrier says. -/
def Carried (nodes : List JobNode) (jobs : List JobRecord) (handle : JobHandle)
    (phase : CarrierPhase) : Prop :=
  ∃ job record node, jobs[job]? = some record ∧ record.handle = handle ∧
    record.recycled = false ∧ tryResolveNode nodes handle = some node ∧
      node.scheduled = true ∧ phase.Holds job record node

/-- What every reachable state satisfies. -/
structure JobInv (system : JobSystem) : Prop where
  nodes : NodesInv system.nodes system.freeNodes system.jobs
  live : ∀ job record, system.jobs[job]? = some record → record.recycled = false →
    ∃ node, LiveJob system.nodes job record node
  dependents : ∀ node ∈ system.nodes, ∀ handle ∈ node.dependents,
    ∃ record ∈ system.jobs, record.handle = handle ∧ record.recycled = false
  awaiting : ∀ record ∈ system.jobs, record.recycled = false → ∀ dependency ∈ record.dependencies,
    ∃ awaitedJob, system.jobs[dependency]? = some awaitedJob ∧ (awaitedJob.returned = true ∨
      ∃ node, tryResolveNode system.nodes awaitedJob.handle = some node ∧
        record.handle ∈ node.dependents)
  started : ∀ record ∈ system.jobs, 0 < record.starts → ∀ dependency ∈ record.dependencies,
    ∃ awaitedJob, system.jobs[dependency]? = some awaitedJob ∧ awaitedJob.returned = true
  starts_le : ∀ record ∈ system.jobs, record.starts ≤ 1
  recycled : ∀ record ∈ system.jobs, record.recycled = true →
    record.starts = 1 ∧ record.returned = true
  carriers_nodup : ((carriers system.queued system.threads).map Prod.fst).Nodup
  carried : ∀ carrier ∈ carriers system.queued system.threads,
    Carried system.nodes system.jobs carrier.1 carrier.2
  pending : system.pendingJobCount = (system.jobs.countP fun record => !record.recycled) +
    system.threads.countP ExecutePoint.isLeaving

lemma jobInv_initial : JobInv {} where
  nodes :=
    { length_le := Nat.zero_le _
      free_nodup := List.nodup_nil
      free := by simp
      dependents_eq_nil := by simp
      generation_of_live := by simp
      generation_of_completed := by simp
      handle_bounds := by simp
      handles_nodup := List.nodup_nil
      live_of_resolves := by simp }
  live := by simp
  dependents := by simp
  awaiting := by simp
  started := by simp
  starts_le := by simp
  recycled := by simp
  carriers_nodup := List.nodup_nil
  carried := by simp [carriers]
  pending := rfl

/-! ## Handles and records -/

namespace NodesInv

variable {nodes : List JobNode} {freeNodes : List ℕ} {jobs : List JobRecord}

/-- Two jobs with one handle are one job. -/
lemma job_eq_of_handle_eq (h : NodesInv nodes freeNodes jobs) {job other : ℕ}
    {record record' : JobRecord} (hget : jobs[job]? = some record)
    (hget' : jobs[other]? = some record') (heq : record.handle = record'.handle) :
    job = other := by
  have hlt := (List.getElem?_eq_some_iff.1 hget).1
  refine (List.getElem?_inj (by rw [List.length_map]; exact hlt) h.handles_nodup).1 ?_
  rw [List.getElem?_map, List.getElem?_map, hget, hget', Option.map_some, Option.map_some, heq]

end NodesInv

variable {system : JobSystem}

/-- The dependencies of a job that nothing awaits have returned. -/
lemma JobInv.dependencies_returned (h : JobInv system) {record : JobRecord}
    (hmem : record ∈ system.jobs) (hlive : record.recycled = false)
    (hnone : awaited system.nodes record.handle = 0) :
    ∀ dependency ∈ record.dependencies, ∃ awaitedJob,
      system.jobs[dependency]? = some awaitedJob ∧ awaitedJob.returned = true := by
  intro dependency hdependency
  obtain ⟨awaitedJob, hget, hreturned | ⟨node, hresolves, hwaits⟩⟩ :=
    h.awaiting record hmem hlive dependency hdependency
  · exact ⟨awaitedJob, hget, hreturned⟩
  · have hnode := List.mem_of_getElem? (tryResolveNode_eq_some.1 hresolves).2.1
    exact absurd hnone (awaited_pos_iff.2 ⟨node, hnode, hwaits⟩).ne'

/-! ## The places of the carriers -/

section Carriers

variable {threads : List ExecutePoint} {thread : ℕ} {point : ExecutePoint}

lemma threads_perm (hget : threads[thread]? = some point) :
    threads.Perm (point :: threads.eraseIdx thread) := by
  obtain ⟨hlt, rfl⟩ := List.getElem?_eq_some_iff.1 hget
  exact (List.getElem_cons_eraseIdx_perm hlt).symm

lemma threads_set_perm (hget : threads[thread]? = some point) (point' : ExecutePoint) :
    (threads.set thread point').Perm (point' :: threads.eraseIdx thread) :=
  List.set_perm_cons_eraseIdx (List.getElem?_eq_some_iff.1 hget).1 point'

lemma carriers_perm (queued : List JobHandle) {threads' : List ExecutePoint}
    (h : threads.Perm (point :: threads')) :
    (carriers queued threads).Perm (point.carriers ++ carriers queued threads') := by
  unfold carriers
  refine ((h.flatMap_right _).append_left _).trans ?_
  rw [List.flatMap_cons, ← List.append_assoc, ← List.append_assoc]
  exact List.perm_append_comm.append_right _

lemma isLeaving_perm {threads' : List ExecutePoint} (h : threads.Perm (point :: threads')) :
    threads.countP ExecutePoint.isLeaving
      = (if point.isLeaving then 1 else 0) + threads'.countP ExecutePoint.isLeaving := by
  rw [h.countP_eq, List.countP_cons]
  omega

end Carriers

/-- A step that only moves a carried job to another place. -/
lemma JobInv.move (h : JobInv system) {queued : List JobHandle} {threads : List ExecutePoint}
    {pendingJobCount : ℕ}
    (hcarriers : (carriers queued threads).Perm (carriers system.queued system.threads))
    (hpending : pendingJobCount + system.threads.countP ExecutePoint.isLeaving
      = system.pendingJobCount + threads.countP ExecutePoint.isLeaving) :
    JobInv { system with
      queued := queued
      threads := threads
      pendingJobCount := pendingJobCount } where
  nodes := h.nodes
  live := h.live
  dependents := h.dependents
  awaiting := h.awaiting
  started := h.started
  starts_le := h.starts_le
  recycled := h.recycled
  carriers_nodup := (hcarriers.map Prod.fst).nodup_iff.2 h.carriers_nodup
  carried := fun carrier hcarrier => h.carried carrier (hcarriers.mem_iff.1 hcarrier)
  pending := by
    have hbefore := h.pending
    show pendingJobCount = (system.jobs.countP fun record => !record.recycled) +
      threads.countP ExecutePoint.isLeaving
    omega

/-! ## Changes of one record -/

section Records

variable {jobs : List JobRecord} {job : ℕ} {change : JobRecord → JobRecord}

/-- A record after the change of one job's record. -/
lemma getElem?_modify_cases {other : ℕ} {record : JobRecord}
    (h : (jobs.modify job change)[other]? = some record) :
    ∃ before, jobs[other]? = some before ∧
      (other = job ∧ record = change before ∨ other ≠ job ∧ record = before) := by
  rcases eq_or_ne other job with rfl | hne
  · rw [List.getElem?_modify_eq, Option.map_eq_map, Option.map_eq_some_iff] at h
    obtain ⟨before, hbefore, rfl⟩ := h
    exact ⟨before, hbefore, Or.inl ⟨rfl, rfl⟩⟩
  · rw [List.getElem?_modify_ne _ _ hne.symm] at h
    exact ⟨record, h, Or.inr ⟨hne, rfl⟩⟩

lemma getElem?_modify_of {other : ℕ} {before : JobRecord} (h : jobs[other]? = some before) :
    (jobs.modify job change)[other]? = some (if other = job then change before else before) := by
  split_ifs with heq
  · subst heq
    rw [List.getElem?_modify_eq, h, Option.map_eq_map, Option.map_some]
  · rw [List.getElem?_modify_ne _ _ (Ne.symm heq), h]

lemma map_handle_modify (hhandle : ∀ record, (change record).handle = record.handle) :
    (jobs.modify job change).map (fun record => record.handle)
      = jobs.map fun record => record.handle := by
  refine List.ext_getElem? fun index => ?_
  rw [List.getElem?_map, List.getElem?_map, List.getElem?_modify]
  split_ifs
  · simp [Function.comp_def, hhandle]
  · simp

end Records

lemma uses_congr {jobs jobs' : List JobRecord}
    (h : jobs.map (fun record => record.handle) = jobs'.map fun record => record.handle)
    (index : ℕ) : uses jobs index = uses jobs' index := by
  have hmap : ∀ jobs : List JobRecord, uses jobs index
      = (jobs.map fun record => record.handle).countP fun handle => handle.index = index := by
    intro jobs
    rw [uses, List.countP_map]
    rfl
  rw [hmap, hmap, h]

/-! ## A job that proceeds -/

/-- A job's function is moved out or returns: one record changes, and at most what its node
holds. -/
structure Progress (system : JobSystem) (job : ℕ) (record : JobRecord) (node node' : JobNode)
    (change : JobRecord → JobRecord) : Prop where
  get : system.jobs[job]? = some record
  live : record.recycled = false
  resolves : tryResolveNode system.nodes record.handle = some node
  scheduled : node.scheduled = true
  node : node' = { node with func := node'.func }
  keeps : ∀ record, (change record).handle = record.handle ∧
    (change record).dependencies = record.dependencies ∧
    (change record).recycled = record.recycled ∧
    (record.returned = true → (change record).returned = true)
  starts : (change record).starts = 1

namespace Progress

variable {system : JobSystem} {job : ℕ} {record : JobRecord} {node node' : JobNode}
  {change : JobRecord → JobRecord}

section Nodes

variable (p : Progress system job record node node' change)
include p

lemma slot : system.nodes[record.handle.index]? = some node :=
  (tryResolveNode_eq_some.1 p.resolves).2.1

lemma generation_eq : node'.generation = node.generation := by rw [p.node]

lemma dependents_eq : node'.dependents = node.dependents := by rw [p.node]

lemma completed_eq : node'.completed = node.completed := by rw [p.node]

lemma not_completed : node'.completed = false := by
  rw [p.completed_eq, (tryResolveNode_eq_some.1 p.resolves).2.2.2]

lemma map_handle_eq : (system.jobs.modify job change).map (fun record => record.handle)
    = system.jobs.map fun record => record.handle :=
  map_handle_modify fun record => (p.keeps record).1

lemma awaited_eq (handle : JobHandle) :
    awaited (system.nodes.set record.handle.index node') handle = awaited system.nodes handle :=
  awaited_set_of_eq p.slot p.dependents_eq handle

lemma resolves_self :
    tryResolveNode (system.nodes.set record.handle.index node') record.handle = some node' :=
  tryResolveNode_set_self p.resolves p.generation_eq p.completed_eq

variable {handle : JobHandle} {found : JobNode}

/-- Of the other handles, none resolves on the node. -/
lemma resolves_of_ne (hfound : tryResolveNode system.nodes handle = some found)
    (hne : handle ≠ record.handle) :
    tryResolveNode (system.nodes.set record.handle.index node') handle = some found := by
  rw [tryResolveNode_set_of_ne fun hindex =>
    hne (handle_eq_of_index_eq hfound p.resolves hindex)]
  exact hfound

lemma resolves_of (hfound : tryResolveNode system.nodes handle = some found) : ∃ found',
      tryResolveNode (system.nodes.set record.handle.index node') handle = some found' ∧
        found'.dependents = found.dependents := by
  rcases eq_or_ne handle record.handle with rfl | hne
  · obtain rfl := Option.some.inj (hfound.symm.trans p.resolves)
    exact ⟨node', p.resolves_self, p.dependents_eq⟩
  · exact ⟨found, p.resolves_of_ne hfound hne, rfl⟩

lemma resolved_before
    (hfound : tryResolveNode (system.nodes.set record.handle.index node') handle = some found) :
    ∃ before, tryResolveNode system.nodes handle = some before := by
  rw [tryResolveNode_set p.slot p.generation_eq p.completed_eq] at hfound
  split_ifs at hfound with hindex
  · obtain ⟨before, hbefore, -⟩ := Option.map_eq_some_iff.1 hfound
    exact ⟨before, hbefore⟩
  · exact ⟨found, hfound⟩

/-- A record after the step is the changed one of the job, or one that was there. -/
lemma record_cases {index : ℕ} {after : JobRecord}
    (hafter : (system.jobs.modify job change)[index]? = some after) :
    index = job ∧ after = change record ∨ index ≠ job ∧ system.jobs[index]? = some after := by
  obtain ⟨before, hbefore, ⟨rfl, rfl⟩ | ⟨hne, rfl⟩⟩ := getElem?_modify_cases hafter
  · rw [Option.some.inj (hbefore.symm.trans p.get)]
    exact Or.inl ⟨rfl, rfl⟩
  · exact Or.inr ⟨hne, hbefore⟩

/-- What a step leaves of a record. -/
lemma exists_before {after : JobRecord} (hafter : after ∈ system.jobs.modify job change) :
    ∃ before ∈ system.jobs, after.handle = before.handle ∧
      after.dependencies = before.dependencies ∧ after.recycled = before.recycled := by
  obtain ⟨index, hindex⟩ := List.getElem?_of_mem hafter
  rcases p.record_cases hindex with ⟨-, rfl⟩ | ⟨-, hbefore⟩
  · obtain ⟨hhandle, hdependencies, hrecycled, -⟩ := p.keeps record
    exact ⟨record, List.mem_of_getElem? p.get, hhandle, hdependencies, hrecycled⟩
  · exact ⟨after, List.mem_of_getElem? hbefore, rfl, rfl, rfl⟩

/-- What has returned stays so. -/
lemma returned {index : ℕ} {before : JobRecord} (hbefore : system.jobs[index]? = some before)
    (hdone : before.returned = true) : ∃ after : JobRecord,
      (system.jobs.modify job change)[index]? = some after ∧ after.returned = true := by
  refine ⟨_, getElem?_modify_of hbefore, ?_⟩
  split_ifs
  · exact (p.keeps before).2.2.2 hdone
  · exact hdone

end Nodes

section Invariant

variable (h : JobInv system) (p : Progress system job record node node' change)
include h p

lemma nodesInv : NodesInv (system.nodes.set record.handle.index node') system.freeNodes
    (system.jobs.modify job change) where
  length_le := by
    rw [List.length_set]
    exact h.nodes.length_le
  free_nodup := h.nodes.free_nodup
  free := by
    intro index hfree
    obtain ⟨found, hfound, hdone⟩ := h.nodes.free index hfree
    refine ⟨found, ?_, hdone⟩
    rw [List.getElem?_set_ne]
    · exact hfound
    · rintro rfl
      obtain rfl := Option.some.inj (p.slot.symm.trans hfound)
      rw [← p.completed_eq, p.not_completed] at hdone
      cases hdone
  dependents_eq_nil := by
    intro found hfound hdone
    rcases List.mem_or_eq_of_mem_set hfound with hmem | rfl
    · exact h.nodes.dependents_eq_nil found hmem hdone
    · rw [p.not_completed] at hdone
      cases hdone
  generation_of_live := by
    intro index found hfound hlive
    rw [uses_congr p.map_handle_eq]
    rcases eq_or_ne record.handle.index index with rfl | hne
    · rw [List.getElem?_set_self (List.getElem?_eq_some_iff.1 p.slot).1] at hfound
      obtain rfl := Option.some.inj hfound
      rw [p.generation_eq]
      exact h.nodes.generation_of_live _ node p.slot (p.completed_eq ▸ hlive)
    · rw [List.getElem?_set_ne hne] at hfound
      exact h.nodes.generation_of_live index found hfound hlive
  generation_of_completed := by
    intro index found hfound hdone
    rw [uses_congr p.map_handle_eq]
    rcases eq_or_ne record.handle.index index with rfl | hne
    · rw [List.getElem?_set_self (List.getElem?_eq_some_iff.1 p.slot).1] at hfound
      obtain rfl := Option.some.inj hfound
      rw [p.not_completed] at hdone
      cases hdone
    · rw [List.getElem?_set_ne hne] at hfound
      exact h.nodes.generation_of_completed index found hfound hdone
  handle_bounds := by
    intro after hafter
    obtain ⟨before, hbefore, hsame, -⟩ := p.exists_before hafter
    rw [hsame, List.length_set, uses_congr p.map_handle_eq]
    exact h.nodes.handle_bounds before hbefore
  handles_nodup := p.map_handle_eq ▸ h.nodes.handles_nodup
  live_of_resolves := by
    intro after hafter found hfound
    obtain ⟨before, hbefore, hsame, -, hrecycled⟩ := p.exists_before hafter
    obtain ⟨found', hfound'⟩ := p.resolved_before hfound
    rw [hrecycled]
    exact h.nodes.live_of_resolves before hbefore found' (hsame ▸ hfound')

variable {after : JobRecord}

lemma liveJob {index : ℕ} (hafter : (system.jobs.modify job change)[index]? = some after)
    (hlive : after.recycled = false) :
    ∃ node, LiveJob (system.nodes.set record.handle.index node') index after node := by
  rcases p.record_cases hafter with ⟨rfl, rfl⟩ | ⟨hne, hbefore⟩
  · obtain ⟨found, hjob⟩ := h.live index record p.get p.live
    obtain rfl := Option.some.inj (hjob.resolves.symm.trans p.resolves)
    have hscheduled : node'.scheduled = true := by
      rw [p.node]
      exact p.scheduled
    have hremaining : node'.remainingDependencies = found.remainingDependencies := by rw [p.node]
    refine ⟨node', ?_, ?_, ?_, ?_, ?_⟩
    · rw [(p.keeps record).1]
      exact p.resolves_self
    · rw [hscheduled, hremaining]
      exact iff_of_true rfl (hjob.scheduled_iff.1 p.scheduled)
    · rw [hremaining, p.awaited_eq, (p.keeps record).1]
      exact hjob.remaining_eq
    · rw [hscheduled]
      intro hfalse
      cases hfalse
    · rw [p.starts]
      intro hfalse
      cases hfalse
  · obtain ⟨found, hjob⟩ := h.live index after hbefore hlive
    have hnehandle : after.handle ≠ record.handle := fun heq =>
      hne (h.nodes.job_eq_of_handle_eq hbefore p.get heq)
    exact ⟨found, p.resolves_of_ne hjob.resolves hnehandle, hjob.scheduled_iff,
      (p.awaited_eq after.handle).symm ▸ hjob.remaining_eq, hjob.waiting, hjob.unstarted⟩

lemma dependents {found : JobNode}
    (hfound : found ∈ system.nodes.set record.handle.index node') {handle : JobHandle}
    (hwaits : handle ∈ found.dependents) :
    ∃ after ∈ system.jobs.modify job change, after.handle = handle ∧ after.recycled = false := by
  obtain ⟨before, hmem, hwaits⟩ : ∃ before ∈ system.nodes, handle ∈ before.dependents := by
    rcases List.mem_or_eq_of_mem_set hfound with hmem | rfl
    · exact ⟨found, hmem, hwaits⟩
    · exact ⟨node, List.mem_of_getElem? p.slot, p.dependents_eq ▸ hwaits⟩
  obtain ⟨waiting, hwaiting, hname, hlive⟩ := h.dependents before hmem handle hwaits
  obtain ⟨index, hindex⟩ := List.getElem?_of_mem hwaiting
  refine ⟨_, List.mem_of_getElem? (getElem?_modify_of hindex), ?_⟩
  split_ifs
  · exact ⟨(p.keeps waiting).1.trans hname, (p.keeps waiting).2.2.1.trans hlive⟩
  · exact ⟨hname, hlive⟩

lemma awaiting (hafter : after ∈ system.jobs.modify job change) (hlive : after.recycled = false)
    {dependency : ℕ} (hdependency : dependency ∈ after.dependencies) :
    ∃ awaitedJob, (system.jobs.modify job change)[dependency]? = some awaitedJob ∧
      (awaitedJob.returned = true ∨ ∃ found,
        tryResolveNode (system.nodes.set record.handle.index node') awaitedJob.handle
          = some found ∧ after.handle ∈ found.dependents) := by
  obtain ⟨before, hbefore, hhandle, hdependencies, hrecycled⟩ := p.exists_before hafter
  obtain ⟨awaitedJob, hawaitedJob, hdone | ⟨found, hfound, hwaits⟩⟩ :=
    h.awaiting before hbefore (hrecycled ▸ hlive) dependency (hdependencies ▸ hdependency)
  · obtain ⟨after', hafter', hdone'⟩ := p.returned hawaitedJob hdone
    exact ⟨after', hafter', Or.inl hdone'⟩
  · obtain ⟨found', hfound', hdependents'⟩ := p.resolves_of hfound
    refine ⟨_, getElem?_modify_of hawaitedJob, Or.inr ⟨found', ?_, ?_⟩⟩
    · split_ifs
      · rw [(p.keeps awaitedJob).1]
        exact hfound'
      · exact hfound'
    · rw [hhandle, hdependents']
      exact hwaits

lemma started (hafter : after ∈ system.jobs.modify job change) (hstarted : 0 < after.starts)
    {dependency : ℕ} (hdependency : dependency ∈ after.dependencies) :
    ∃ awaitedJob, (system.jobs.modify job change)[dependency]? = some awaitedJob ∧
      awaitedJob.returned = true := by
  obtain ⟨index, hindex⟩ := List.getElem?_of_mem hafter
  rcases p.record_cases hindex with ⟨-, rfl⟩ | ⟨-, hbefore⟩
  · obtain ⟨found, hjob⟩ := h.live job record p.get p.live
    obtain rfl := Option.some.inj (hjob.resolves.symm.trans p.resolves)
    have hnone : awaited system.nodes record.handle = 0 :=
      hjob.remaining_eq.symm.trans (hjob.scheduled_iff.1 p.scheduled)
    obtain ⟨awaitedJob, hawaitedJob, hdone⟩ := h.dependencies_returned
      (List.mem_of_getElem? p.get) p.live hnone dependency ((p.keeps record).2.1 ▸ hdependency)
    exact p.returned hawaitedJob hdone
  · obtain ⟨awaitedJob, hawaitedJob, hdone⟩ := h.started after
      (List.mem_of_getElem? hbefore) hstarted dependency hdependency
    exact p.returned hawaitedJob hdone

lemma starts_le (hafter : after ∈ system.jobs.modify job change) :
    after.starts ≤ 1 := by
  obtain ⟨index, hindex⟩ := List.getElem?_of_mem hafter
  rcases p.record_cases hindex with ⟨-, rfl⟩ | ⟨-, hbefore⟩
  · exact p.starts.le
  · exact h.starts_le after (List.mem_of_getElem? hbefore)

lemma recycled (hafter : after ∈ system.jobs.modify job change) (hdone : after.recycled = true) :
    after.starts = 1 ∧ after.returned = true := by
  obtain ⟨index, hindex⟩ := List.getElem?_of_mem hafter
  rcases p.record_cases hindex with ⟨-, rfl⟩ | ⟨-, hbefore⟩
  · rw [(p.keeps record).2.2.1, p.live] at hdone
    cases hdone
  · exact h.recycled after (List.mem_of_getElem? hbefore) hdone

omit h in
lemma carried_self {phase : CarrierPhase} (hholds : phase.Holds job (change record) node') :
    Carried (system.nodes.set record.handle.index node') (system.jobs.modify job change)
      record.handle phase := by
  refine ⟨job, change record, node', ?_, (p.keeps record).1, ?_, p.resolves_self, ?_, hholds⟩
  · rw [getElem?_modify_of p.get, if_pos rfl]
  · rw [(p.keeps record).2.2.1, p.live]
  · rw [p.node]
    exact p.scheduled

omit h in
lemma carried_of_ne {handle : JobHandle} {phase : CarrierPhase}
    (hcarried : Carried system.nodes system.jobs handle phase) (hne : handle ≠ record.handle) :
    Carried (system.nodes.set record.handle.index node') (system.jobs.modify job change) handle
      phase := by
  obtain ⟨other, before, found, hbefore, hname, hlive, hfound, hscheduled, hphase⟩ := hcarried
  have hother : other ≠ job := by
    rintro rfl
    obtain rfl := Option.some.inj (hbefore.symm.trans p.get)
    exact hne hname.symm
  refine ⟨other, before, found, ?_, hname, hlive, p.resolves_of_ne hfound hne, hscheduled, hphase⟩
  rw [getElem?_modify_of hbefore, if_neg hother]

omit h in
/-- No job is recycled. -/
lemma countP_eq : (system.jobs.modify job change).countP (fun record => !record.recycled)
    = system.jobs.countP fun record => !record.recycled := by
  have hmap : (system.jobs.modify job change).map (fun record => record.recycled)
      = system.jobs.map fun record => record.recycled := by
    refine List.ext_getElem? fun index => ?_
    rw [List.getElem?_map, List.getElem?_map, List.getElem?_modify]
    split_ifs
    · simp [Function.comp_def, fun record => (p.keeps record).2.2.1]
    · simp
  have hcount : ∀ jobs : List JobRecord, jobs.countP (fun record => !record.recycled)
      = (jobs.map fun record => record.recycled).countP fun recycled => !recycled := by
    intro jobs
    rw [List.countP_map]
    rfl
  rw [hcount, hcount, hmap]

end Invariant

end Progress

/-- A thread that carries the job before and after keeps the invariant. -/
lemma JobInv.progress (h : JobInv system) {thread job : ℕ} {point point' : ExecutePoint}
    {phase phase' : CarrierPhase} {record : JobRecord} {node node' : JobNode}
    {change : JobRecord → JobRecord} (p : Progress system job record node node' change)
    (hthread : system.threads[thread]? = some point)
    (hpoint : point.carriers = [(record.handle, phase)])
    (hpoint' : point'.carriers = [(record.handle, phase')]) (hleaving : point.isLeaving = false)
    (hleaving' : point'.isLeaving = false) (hholds : phase'.Holds job (change record) node') :
    JobInv { system with
      nodes := system.nodes.set record.handle.index node'
      threads := system.threads.set thread point'
      jobs := system.jobs.modify job change } := by
  have hperm := threads_perm hthread
  have hperm' := threads_set_perm hthread point'
  have hcarriers := carriers_perm system.queued hperm
  have hcarriers' := carriers_perm system.queued hperm'
  rw [hpoint] at hcarriers
  rw [hpoint'] at hcarriers'
  have hnodup := (hcarriers.map Prod.fst).nodup_iff.1 h.carriers_nodup
  refine ⟨p.nodesInv h, fun _ _ => p.liveJob h, fun _ hfound _ => p.dependents h hfound,
    fun _ hafter hlive _ => p.awaiting h hafter hlive,
    fun _ hafter hstarted _ => p.started h hafter hstarted, fun _ => p.starts_le h,
    fun _ => p.recycled h, (hcarriers'.map Prod.fst).nodup_iff.2 hnodup, ?_, ?_⟩
  · intro carrier hcarrier
    rcases List.mem_cons.1 (hcarriers'.mem_iff.1 hcarrier) with rfl | hrest
    · exact p.carried_self hholds
    · refine p.carried_of_ne (h.carried carrier (hcarriers.mem_iff.2
        (List.mem_cons_of_mem _ hrest))) fun heq => ?_
      exact (List.nodup_cons.1 hnodup).1 (List.mem_map.2 ⟨carrier, hrest, heq⟩)
  · have hbefore := h.pending
    have hcount := isLeaving_perm hperm
    have hcount' := isLeaving_perm hperm'
    rw [hleaving, if_neg Bool.false_ne_true] at hcount
    rw [hleaving', if_neg Bool.false_ne_true] at hcount'
    show system.pendingJobCount = (system.jobs.modify job change).countP
      (fun record => !record.recycled) +
        (system.threads.set thread point').countP ExecutePoint.isLeaving
    rw [p.countP_eq]
    omega

end NwbLot.Alloc
