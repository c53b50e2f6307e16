import NwbLot.Alloc.JobSubmission

/-!
# Every job once, after its dependencies

The invariant over whole runs of the job system, and the two ways out of it: a dependency list that
overflows its counter, and a node whose generations have all been used.
-/

namespace NwbLot.Alloc

open TaskGraph Runs

namespace JobSystem

/-! ## Steps -/

section Steps

variable {system next : JobSystem} {event : JobEvent}

/-- A step adds jobs behind those that there are, and keeps their handles. -/
lemma step_handles (hstep : step system event = some next) :
    (system.jobs.map fun job => job.handle) <+: next.jobs.map fun job => job.handle := by
  have hmodify : ∀ (task : Option ℕ) (change : JobRecord → JobRecord),
      (∀ record, (change record).handle = record.handle) →
      (system.jobs.map fun job => job.handle) <+:
        (modifyJob task change system.jobs).map fun job => job.handle := by
    intro task change hhandle
    cases task with
    | none => exact List.prefix_rfl
    | some job =>
      show _ <+: (system.jobs.modify job change).map fun job => job.handle
      exact ⟨[], by rw [List.append_nil, map_handle_modify hhandle]⟩
  cases event with
  | submit task dependencies =>
    obtain rfl := Option.some.inj hstep
    split_ifs
    · unfold submit
      split
      · exact List.prefix_rfl
      · dsimp only
        rw [List.map_append]
        exact List.prefix_append _ _
    · exact List.prefix_rfl
  | take position =>
    simp only [step] at hstep
    split at hstep
    · cases hstep
    · cases hstep
      exact List.prefix_rfl
  | execute thread =>
    simp only [step] at hstep
    split at hstep
    · split at hstep
      · cases hstep
        exact List.prefix_rfl
      · cases hstep
        exact hmodify _ _ fun _ => rfl
    · cases hstep
  | finish thread =>
    simp only [step] at hstep
    split at hstep
    · cases hstep
      exact hmodify _ _ fun _ => rfl
    · cases hstep
  | complete thread =>
    simp only [step] at hstep
    split at hstep
    · split at hstep
      · cases hstep
        exact List.prefix_rfl
      · cases hstep
        exact hmodify _ _ fun _ => rfl
    · cases hstep
  | countOff thread =>
    simp only [step] at hstep
    split at hstep
    · cases hstep
      exact List.prefix_rfl
    · cases hstep

lemma uses_le_of_step (hstep : step system event = some next) (index : ℕ) :
    uses system.jobs index ≤ uses next.jobs index := by
  have hmap : ∀ jobs : List JobRecord, uses jobs index
      = (jobs.map fun record => record.handle).countP fun handle => handle.index = index := by
    intro jobs
    rw [uses, List.countP_map]
    rfl
  rw [hmap, hmap]
  exact (step_handles hstep).sublist.countP_le

lemma carried_of_thread (h : JobInv system) {thread : ℕ} {point : ExecutePoint}
    {handle : JobHandle} {phase : CarrierPhase} (hthread : system.threads[thread]? = some point)
    (hpoint : point.carriers = [(handle, phase)]) :
    Carried system.nodes system.jobs handle phase := by
  refine h.carried (handle, phase) ?_
  refine List.mem_append_right _ (List.mem_flatMap.2 ⟨point, List.mem_of_getElem? hthread, ?_⟩)
  rw [hpoint]
  exact List.mem_cons_self

/-- A thread takes a job out of the queue. -/
lemma take_inv (h : JobInv system) {position : ℕ}
    (hstep : step system (.take position) = some next) : JobInv next := by
  simp only [step] at hstep
  split at hstep
  · cases hstep
  · next handle hhandle =>
    cases hstep
    obtain ⟨hlt, rfl⟩ := List.getElem?_eq_some_iff.1 hhandle
    refine h.move ?_ ?_
    · have hqueued := (List.getElem_cons_eraseIdx_perm hlt).map
        fun handle => (handle, CarrierPhase.ready)
      unfold carriers
      rw [List.flatMap_cons]
      refine (List.perm_append_comm_assoc _ _ _).trans ?_
      rw [← List.append_assoc]
      exact hqueued.append_right _
    · rw [List.countP_cons]
      rfl

/-- A thread moves the function of its job out of the node. -/
lemma execute_inv (h : JobInv system) {thread : ℕ}
    (hstep : step system (.execute thread) = some next) : JobInv next := by
  simp only [step] at hstep
  split at hstep
  · next current workFirstDepth hthread =>
    obtain ⟨job, record, node, hget, rfl, hlive, hresolves, hscheduled, hfunc, hstarts⟩ :=
      carried_of_thread h hthread rfl
    have htake : takeFunction system.nodes record.handle
        = some (some job, system.nodes.set record.handle.index { node with func := none }) := by
      rw [takeFunction, hresolves]
      simp only [hscheduled, if_true, hfunc]
    rw [htake] at hstep
    cases hstep
    have hunreturned : record.returned = false := by
      obtain ⟨node', hjob⟩ := h.live job record hget hlive
      exact hjob.unstarted hstarts
    exact h.progress ⟨hget, hlive, hresolves, hscheduled, rfl, fun _ => ⟨rfl, rfl, rfl, id⟩,
      by rw [hstarts]⟩ hthread rfl rfl rfl rfl ⟨rfl, by rw [hstarts], hunreturned⟩
  · cases hstep

/-- The function of a job returns. -/
lemma finish_inv (h : JobInv system) {thread : ℕ}
    (hstep : step system (.finish thread) = some next) : JobInv next := by
  simp only [step] at hstep
  split at hstep
  · next current workFirstDepth task hthread =>
    cases hstep
    obtain ⟨job, record, node, hget, rfl, hlive, hresolves, hscheduled, rfl, hstarts, -⟩ :=
      carried_of_thread h hthread rfl
    have hsame : system.nodes.set record.handle.index node = system.nodes := by
      obtain ⟨hlt, rfl⟩ := List.getElem?_eq_some_iff.1 (tryResolveNode_eq_some.1 hresolves).2.1
      exact List.set_getElem_self hlt
    have hprogress : JobInv { system with
        nodes := system.nodes.set record.handle.index node
        threads := system.threads.set thread (.returned record.handle workFirstDepth (some job))
        jobs := system.jobs.modify job fun job => { job with returned := true } } :=
      h.progress ⟨hget, hlive, hresolves, hscheduled, rfl,
        fun _ => ⟨rfl, rfl, rfl, fun _ => rfl⟩, hstarts⟩ hthread rfl rfl rfl rfl
        ⟨rfl, hstarts, rfl⟩
    rw [hsame] at hprogress
    exact hprogress
  · cases hstep

lemma complete_inv (h : JobInv system) (huses : ∀ index, uses system.jobs index ≤ u32Max)
    {thread : ℕ} (hstep : step system (.complete thread) = some next) : JobInv next := by
  simp only [step] at hstep
  split at hstep
  · next current workFirstDepth task hthread =>
    obtain ⟨job, record, node, -, -, -, hresolves, -⟩ := carried_of_thread h hthread rfl
    split at hstep
    · next hnone =>
      rw [completeNode, hresolves] at hnone
      cases hnone
    · next released hreleased =>
      cases hstep
      exact h.complete huses hthread hreleased
  · cases hstep

/-- A thread leaves `complete`, with the next job or without. -/
lemma countOff_inv (h : JobInv system) {thread : ℕ}
    (hstep : step system (.countOff thread) = some next) : JobInv next := by
  simp only [step] at hstep
  split at hstep
  · next inlineContinuation workFirstDepth hthread =>
    cases hstep
    have hcarriers := carriers_perm system.queued (threads_perm hthread)
    have hcount := isLeaving_perm (threads_perm hthread)
    have hpending := h.pending
    simp only [ExecutePoint.isLeaving, if_true] at hcount
    refine h.move ?_ ?_
    · refine List.Perm.trans ?_ hcarriers.symm
      split_ifs with hvalid
      · refine (carriers_perm _ (threads_set_perm hthread _)).trans (List.Perm.of_eq ?_)
        simp only [ExecutePoint.carriers, hvalid, if_true]
      · simp only [ExecutePoint.carriers, hvalid, Bool.false_eq_true, if_false, List.nil_append]
        exact List.Perm.refl _
    · have hafter : (if inlineContinuation.valid = true then
          system.threads.set thread (.starting inlineContinuation (workFirstDepth + 1))
        else system.threads.eraseIdx thread).countP ExecutePoint.isLeaving
          = (system.threads.eraseIdx thread).countP ExecutePoint.isLeaving := by
        split_ifs
        · rw [isLeaving_perm (threads_set_perm hthread _)]
          simp only [ExecutePoint.isLeaving, Bool.false_eq_true, if_false, Nat.zero_add]
        · rfl
      omega
  · cases hstep

/-- One step keeps the invariant. -/
lemma step_inv (h : JobInv system) (hadmissible : Admissible system event)
    (hstep : step system event = some next) (huses : ∀ index, uses next.jobs index ≤ u32Max) :
    JobInv next := by
  have husesBefore : ∀ index, uses system.jobs index ≤ u32Max := fun index =>
    (uses_le_of_step hstep index).trans (huses index)
  cases event with
  | submit task dependencies =>
    obtain rfl := Option.some.inj hstep
    cases task with
    | false => exact h
    | true => exact h.submit hadmissible huses
  | take position => exact take_inv h hstep
  | execute thread => exact execute_inv h hstep
  | finish thread => exact finish_inv h hstep
  | complete thread => exact complete_inv h husesBefore hstep
  | countOff thread => exact countOff_inv h hstep

end Steps

/-! ## Runs -/

/-- What the job system promises in one state. -/
structure JobsInOrder (system : JobSystem) : Prop where
  /-- No function is started twice, and none is left out before its node is recycled. -/
  starts : ∀ job ∈ system.jobs, job.starts ≤ 1 ∧ (job.recycled = true → job.starts = 1)
  /-- A started job's dependencies have returned. -/
  dependencies : ∀ job ∈ system.jobs, 0 < job.starts → ∀ dependency ∈ job.dependencies,
    ∃ awaitedJob, system.jobs[dependency]? = some awaitedJob ∧ awaitedJob.returned = true
  complete : ∀ job ∈ system.jobs, isComplete system.nodes job.handle = true → job.returned = true
  /-- No two jobs have one handle, and that of a recycled node does not resolve. -/
  handles_nodup : (system.jobs.map fun job => job.handle).Nodup
  stale : ∀ job ∈ system.jobs, job.recycled = true →
    tryResolveNode system.nodes job.handle = none
  /-- `waitAll` returns at zero. -/
  pending : (system.jobs.countP fun job => !job.returned) ≤ system.pendingJobCount

lemma run_inv {events : List JobEvent} {system : JobSystem}
    (hrun : Run step Admissible {} events system)
    (huses : ∀ index, uses system.jobs index ≤ u32Max) : JobInv system := by
  have hall : (∀ index, uses system.jobs index ≤ u32Max) → JobInv system := by
    refine hrun.invariant (P := fun system =>
      (∀ index, uses system.jobs index ≤ u32Max) → JobInv system) (fun _ => jobInv_initial) ?_
    intro before event after hadmissible hstep hinv hafter
    exact step_inv (hinv fun index => (uses_le_of_step hstep index).trans (hafter index))
      hadmissible hstep hafter
  exact hall huses

end JobSystem

lemma JobInv.inOrder {system : JobSystem} (h : JobInv system) : JobSystem.JobsInOrder system where
  starts := fun job hjob => ⟨h.starts_le job hjob, fun hdone => (h.recycled job hjob hdone).1⟩
  dependencies := h.started
  complete := by
    intro job hjob hcomplete
    rw [isComplete_eq, Option.isNone_iff_eq_none] at hcomplete
    by_cases hdone : job.recycled = true
    · exact (h.recycled job hjob hdone).2
    · obtain ⟨index, hindex⟩ := List.getElem?_of_mem hjob
      obtain ⟨node, hlive⟩ := h.live index job hindex (Bool.eq_false_of_not_eq_true hdone)
      rw [hlive.resolves] at hcomplete
      cases hcomplete
  handles_nodup := h.nodes.handles_nodup
  stale := by
    intro job hjob hdone
    cases hresolves : tryResolveNode system.nodes job.handle with
    | none => rfl
    | some node =>
      rw [h.nodes.live_of_resolves job hjob node hresolves] at hdone
      cases hdone
  pending := by
    rw [h.pending]
    refine le_trans (List.countP_mono_left fun job hjob hrunning => ?_) (Nat.le_add_right _ _)
    by_contra hdone
    rw [Bool.not_eq_true, Bool.not_eq_false'] at hdone
    rw [(h.recycled job hjob hdone).2] at hrunning
    cases hrunning

/-- In every run of the job system whose submissions name earlier handles, with fewer pending
entries than their counter holds, and in which no node is used more often than it has generations:
every job's function is started once before its node is recycled, and after its dependencies. -/
theorem jobSystem_contract {events : List JobEvent} {system : JobSystem}
    (hrun : Run JobSystem.step JobSystem.Admissible {} events system)
    (huses : ∀ index, JobSystem.uses system.jobs index ≤ u32Max) :
    JobSystem.JobsInOrder system :=
  (JobSystem.run_inv hrun huses).inOrder

/-- A job, one that waits for it twice, the thread that runs both, and a third job on a recycled
node. -/
def reusedNodeEvents : List JobEvent :=
  [.submit true [], .submit true [⟨0, 1⟩, ⟨0, 1⟩], .take 0, .execute 0, .finish 0, .complete 0,
   .countOff 0, .execute 0, .finish 0, .complete 0, .countOff 0, .submit true [⟨0, 1⟩]]

theorem jobSystem_contract_reusedNode : ∃ system,
    Run JobSystem.step JobSystem.Admissible {} reusedNodeEvents system ∧
      system.jobs.map (fun job => (job.handle, job.starts))
        = [(⟨0, 1⟩, 1), (⟨1, 1⟩, 1), (⟨1, 2⟩, 0)] ∧
      JobSystem.JobsInOrder system := by
  have hrun : ∃ system, Run JobSystem.step JobSystem.Admissible {} reusedNodeEvents system ∧
      system.jobs.map (fun job => (job.handle, job.starts))
        = [(⟨0, 1⟩, 1), (⟨1, 1⟩, 1), (⟨1, 2⟩, 0)] := by
    refine ⟨_, Run.cons ?_ rfl (Run.cons ?_ rfl (Run.cons ⟨trivial, trivial⟩ rfl
      (Run.cons ⟨trivial, trivial⟩ rfl (Run.cons ⟨trivial, trivial⟩ rfl
      (Run.cons ⟨trivial, trivial⟩ rfl (Run.cons ⟨trivial, trivial⟩ rfl
      (Run.cons ⟨trivial, trivial⟩ rfl (Run.cons ⟨trivial, trivial⟩ rfl
      (Run.cons ⟨trivial, trivial⟩ rfl (Run.cons ⟨trivial, trivial⟩ rfl
      (Run.cons ?_ rfl .refl))))))))))), ?_⟩
    · exact ⟨by unfold JobSystem.EarlierHandles; decide,
        by unfold JobSystem.CountsDependencies; decide⟩
    · exact ⟨by unfold JobSystem.EarlierHandles; decide,
        by unfold JobSystem.CountsDependencies; decide⟩
    · exact ⟨by unfold JobSystem.EarlierHandles; decide,
        by unfold JobSystem.CountsDependencies; decide⟩
    · decide
  obtain ⟨system, hrun, hjobs⟩ := hrun
  refine ⟨system, hrun, hjobs, jobSystem_contract hrun fun index => ?_⟩
  have hlength : system.jobs.length = 3 := by
    rw [← List.length_map (f := fun job : JobRecord => (job.handle, job.starts)), hjobs]
    rfl
  exact (List.countP_le_length).trans (by rw [hlength]; decide)

/-! ## Where the counters end -/

namespace JobSystem

/-- A node of a job that is scheduled and has not started. -/
def scheduledNode (job : ℕ) (dependents : List JobHandle) : JobNode :=
  { func := some job, dependents := dependents, completed := false, scheduled := true }

/-- The loop of `submitWithDependencies` over one pending handle again and again. -/
lemma foldl_registerDependency_replicate (count : ℕ) :
    (List.replicate count (⟨0, 1⟩ : JobHandle)).foldl (registerDependency ⟨1, 1⟩)
        ([scheduledNode 0 [], { func := some 1, completed := false }], 0)
      = ([scheduledNode 0 (List.replicate count ⟨1, 1⟩), { func := some 1, completed := false }],
          count % 2 ^ 32) := by
  induction count with
  | zero => rfl
  | succ count ih =>
    rw [List.replicate_succ', List.foldl_append, ih, List.foldl_cons, List.foldl_nil,
      List.replicate_succ']
    have hresolves : tryResolveNode [scheduledNode 0 (List.replicate count ⟨1, 1⟩),
        { func := some 1, completed := false }] ⟨0, 1⟩
        = some (scheduledNode 0 (List.replicate count ⟨1, 1⟩)) :=
      tryResolveNode_eq_some.2 ⟨rfl, rfl, rfl, rfl⟩
    rw [registerDependency, hresolves]
    dsimp only
    rw [Nat.mod_add_mod]
    rfl

/-- A second job whose list names the first, still pending, so often that its counter wraps. -/
def wrappedCounterEvents : List JobEvent :=
  [.submit true [], .submit true (List.replicate (2 ^ 32) ⟨0, 1⟩), .take 1, .execute 0]

/-- The system after the second submission. -/
def wrappedCounter : JobSystem where
  nodes := [scheduledNode 0 (List.replicate (2 ^ 32) ⟨1, 1⟩), scheduledNode 1 []]
  pendingJobCount := 2
  queued := [⟨0, 1⟩, ⟨1, 1⟩]
  jobs := [{ handle := ⟨0, 1⟩, dependencies := [] }, { handle := ⟨1, 1⟩, dependencies := [0] }]

/-- The first job is submitted. -/
def oneJob : JobSystem where
  nodes := [scheduledNode 0 []]
  pendingJobCount := 1
  queued := [⟨0, 1⟩]
  jobs := [{ handle := ⟨0, 1⟩, dependencies := [] }]

lemma submit_oneJob : oneJob.submit (List.replicate (2 ^ 32) ⟨0, 1⟩) = wrappedCounter := by
  have hacquire : acquireNode oneJob.jobs.length oneJob.nodes oneJob.freeNodes
      = some ([scheduledNode 0 [], { func := some 1, completed := false }], [], ⟨1, 1⟩) := rfl
  have hjobs : unfinishedJobs oneJob.jobs (List.replicate (2 ^ 32) ⟨0, 1⟩) = [0] := by
    have hmem : (List.replicate (2 ^ 32) (⟨0, 1⟩ : JobHandle)).contains ⟨0, 1⟩ = true := by
      rw [List.contains_iff_mem]
      exact List.mem_replicate.2 ⟨by decide, rfl⟩
    show (List.range 1).filter _ = [0]
    simp only [List.range_one, List.filter_cons, oneJob, List.getElem?_cons_zero, hmem,
      Bool.not_false, Bool.and_self, if_true, List.filter_nil]
  have hregister : registerDependencies
      [scheduledNode 0 [], { func := some 1, completed := false }] ⟨1, 1⟩
        (List.replicate (2 ^ 32) ⟨0, 1⟩)
      = ([scheduledNode 0 (List.replicate (2 ^ 32) ⟨1, 1⟩), scheduledNode 1 []], true) := by
    rw [registerDependencies, foldl_registerDependency_replicate, Nat.mod_self]
    rfl
  rw [submit, hacquire]
  dsimp only
  rw [hregister, hjobs]
  rfl

/-- The only node is free, and its next use has the generation. -/
def idle (generation : ℕ) (completedGeneration : ℕ) (jobs : List JobRecord) : JobSystem where
  nodes := [{ generation := generation, completedGeneration := completedGeneration }]
  freeNodes := [0]
  jobs := jobs

/-- A job without dependencies, from its submission to its last step. -/
def cycleEvents : List JobEvent :=
  [.submit true [], .take 0, .execute 0, .finish 0, .complete 0, .countOff 0]

/-- The record that a cycle leaves. -/
def finishedJob (generation : ℕ) : JobRecord where
  handle := ⟨0, generation⟩
  dependencies := []
  starts := 1
  returned := true
  recycled := true

lemma modify_length_append {α : Type} (items : List α) (item : α) (change : α → α) :
    (items ++ [item]).modify items.length change = items ++ [change item] := by
  induction items with
  | nil => rfl
  | cons head rest ih =>
    rw [List.cons_append, List.length_cons, List.modify_succ_cons, ih, List.cons_append]

/-- The only node, in use, with the job's function or without it. -/
def busyNode (generation completedGeneration : ℕ) (func : Option ℕ) : JobNode where
  func := func
  completedGeneration := completedGeneration
  generation := generation
  completed := false
  scheduled := true

/-- The system in the middle of a cycle. -/
def busy (generation completedGeneration : ℕ) (func : Option ℕ) (queued : List JobHandle)
    (threads : List ExecutePoint) (jobs : List JobRecord) : JobSystem where
  nodes := [busyNode generation completedGeneration func]
  pendingJobCount := 1
  queued := queued
  threads := threads
  jobs := jobs

lemma step_submit_idle (generation completedGeneration : ℕ) (jobs : List JobRecord) :
    step (idle generation completedGeneration jobs) (.submit true [])
      = some (busy generation completedGeneration (some jobs.length) [⟨0, generation⟩] []
          (jobs ++ [{ handle := ⟨0, generation⟩, dependencies := [] }])) := by
  have hnone : unfinishedJobs jobs [] = [] := by
    refine List.filter_eq_nil_iff.2 fun job _ => ?_
    cases jobs[job]? <;> simp
  simp only [step, if_true, submit, acquireNode, idle, registerDependencies]
  rw [hnone]
  rfl

lemma admissible_submit_nil (system : JobSystem) : Admissible system (.submit true []) :=
  ⟨fun _ hdependency => absurd hdependency List.not_mem_nil, Nat.two_pow_pos 32⟩

/-- One cycle moves the only node on by a generation. -/
lemma run_cycle {generation completedGeneration : ℕ} {jobs : List JobRecord}
    (hgeneration : generation ≠ 0) :
    Run step Admissible (idle generation completedGeneration jobs) cycleEvents
      (idle (nextGeneration generation) generation (jobs ++ [finishedJob generation])) := by
  have hvalid : (⟨0, generation⟩ : JobHandle).valid = true := by
    have hindex : (0 : ℕ) ≠ u32Max := by decide
    rw [JobHandle.valid, Bool.and_eq_true, bne_iff_ne, bne_iff_ne]
    exact ⟨hindex, hgeneration⟩
  have hresolves : ∀ func, tryResolveNode [busyNode generation completedGeneration func]
      ⟨0, generation⟩ = some (busyNode generation completedGeneration func) := fun func =>
    tryResolveNode_eq_some.2 ⟨hvalid, rfl, rfl, rfl⟩
  have hsubmit := step_submit_idle generation completedGeneration jobs
  have hexecute : step (busy generation completedGeneration (some jobs.length) []
      [.starting ⟨0, generation⟩ 0]
        (jobs ++ [{ handle := ⟨0, generation⟩, dependencies := [] }])) (.execute 0)
      = some (busy generation completedGeneration none []
          [.running ⟨0, generation⟩ 0 (some jobs.length)]
          (jobs ++ [{ handle := ⟨0, generation⟩, dependencies := [], starts := 1 }])) := by
    simp only [step, busy, List.getElem?_cons_zero, takeFunction, hresolves]
    simp only [busyNode, if_true, modifyJob, modify_length_append]
    rfl
  have hfinish : step (busy generation completedGeneration none []
      [.running ⟨0, generation⟩ 0 (some jobs.length)]
        (jobs ++ [{ handle := ⟨0, generation⟩, dependencies := [], starts := 1 }])) (.finish 0)
      = some (busy generation completedGeneration none []
          [.returned ⟨0, generation⟩ 0 (some jobs.length)]
          (jobs ++ [{ handle := ⟨0, generation⟩, dependencies := [], starts := 1,
                      returned := true }])) := by
    simp only [step, busy, List.getElem?_cons_zero, modifyJob, modify_length_append]
    rfl
  have hcomplete : step (busy generation completedGeneration none []
      [.returned ⟨0, generation⟩ 0 (some jobs.length)]
        (jobs ++ [{ handle := ⟨0, generation⟩, dependencies := [], starts := 1,
                    returned := true }])) (.complete 0)
      = some { idle (nextGeneration generation) generation (jobs ++ [finishedJob generation]) with
          pendingJobCount := 1
          threads := [.leaving {} 0] } := by
    simp only [step, busy, List.getElem?_cons_zero, completeNode, hresolves, modifyJob,
      modify_length_append]
    rfl
  exact Run.cons (admissible_submit_nil _) hsubmit (Run.cons ⟨trivial, trivial⟩ rfl
    (Run.cons ⟨trivial, trivial⟩ hexecute (Run.cons ⟨trivial, trivial⟩ hfinish
    (Run.cons ⟨trivial, trivial⟩ hcomplete (Run.cons ⟨trivial, trivial⟩ rfl .refl)))))

/-- Cycle by cycle, the only node reaches every generation. -/
lemma exists_run_idle (count : ℕ) (hcount : count + 2 < 2 ^ 32) :
    ∃ events jobs, Run step Admissible {} events (idle (count + 2) (count + 1) jobs) ∧
      finishedJob 1 ∈ jobs ∧ jobs.length = count + 1 := by
  induction count with
  | zero =>
    refine ⟨cycleEvents, [finishedJob 1], ?_, List.mem_singleton.2 rfl, rfl⟩
    exact Run.cons (admissible_submit_nil _) rfl (Run.cons ⟨trivial, trivial⟩ rfl
      (Run.cons ⟨trivial, trivial⟩ rfl (Run.cons ⟨trivial, trivial⟩ rfl
      (Run.cons ⟨trivial, trivial⟩ rfl (Run.cons ⟨trivial, trivial⟩ rfl .refl)))))
  | succ count ih =>
    obtain ⟨events, jobs, hrun, hmem, hlength⟩ := ih (by omega)
    refine ⟨events ++ cycleEvents, jobs ++ [finishedJob (count + 2)], ?_,
      List.mem_append_left _ hmem, ?_⟩
    · have hcycle : Run step Admissible (idle (count + 2) (count + 1) jobs) cycleEvents
          (idle (nextGeneration (count + 2)) (count + 2) (jobs ++ [finishedJob (count + 2)])) :=
        run_cycle (Nat.succ_ne_zero _)
      have hnext : nextGeneration (count + 2) = count + 3 := by
        rw [nextGeneration, Nat.mod_eq_of_lt (by omega), if_neg (Nat.succ_ne_zero _)]
      rw [hnext] at hcycle
      exact hrun.append hcycle
    · rw [List.length_append, hlength, List.length_singleton]

end JobSystem

/-- A list that names one pending handle `2 ^ 32` times wraps the counter of dependencies, and the
job starts although that dependency has not returned; and the `2 ^ 32`-th use of a node has the
generation of the first, whose handle then resolves again. -/
theorem jobSystem_wrappedCounters :
    (∃ system,
      Run JobSystem.step JobSystem.EarlierHandles {} JobSystem.wrappedCounterEvents system ∧
      ∃ job ∈ system.jobs, 0 < job.starts ∧ ∃ dependency ∈ job.dependencies,
        ∃ awaitedJob, system.jobs[dependency]? = some awaitedJob ∧ awaitedJob.returned = false) ∧
    ∃ events system, Run JobSystem.step JobSystem.Admissible {} events system ∧
      (∀ index, JobSystem.uses system.jobs index ≤ 2 ^ 32) ∧
      ∃ job ∈ system.jobs, job.recycled = true ∧
        (tryResolveNode system.nodes job.handle).isSome = true := by
  constructor
  · have hearlier : JobSystem.EarlierHandles JobSystem.oneJob
        (.submit true (List.replicate (2 ^ 32) ⟨0, 1⟩)) := by
      intro dependency hdependency _
      exact ⟨_, List.mem_cons_self, (List.eq_of_mem_replicate hdependency).symm⟩
    refine ⟨_, Run.cons (fun _ hdependency => absurd hdependency List.not_mem_nil) rfl
      (Run.cons hearlier (congrArg some JobSystem.submit_oneJob) (Run.cons trivial rfl
        (Run.cons trivial rfl .refl))), { handle := ⟨1, 1⟩, dependencies := [0], starts := 1 },
      List.mem_cons_of_mem _ List.mem_cons_self, Nat.one_pos, 0, List.mem_cons_self, _, rfl, rfl⟩
  · obtain ⟨events, jobs, hrun, hmem, hlength⟩ :=
      JobSystem.exists_run_idle (2 ^ 32 - 3) (by decide)
    have hlast : Run JobSystem.step JobSystem.Admissible
        (JobSystem.idle (2 ^ 32 - 3 + 2) (2 ^ 32 - 3 + 1) jobs) JobSystem.cycleEvents
        (JobSystem.idle 1 (2 ^ 32 - 3 + 2) (jobs ++ [JobSystem.finishedJob (2 ^ 32 - 3 + 2)])) :=
      JobSystem.run_cycle (Nat.succ_ne_zero _)
    have hagain := (hrun.append hlast).snoc (JobSystem.admissible_submit_nil _)
      (JobSystem.step_submit_idle 1 (2 ^ 32 - 3 + 2) _)
    refine ⟨_, _, hagain, fun index => ?_, JobSystem.finishedJob 1,
      List.mem_append_left _ (List.mem_append_left _ hmem), rfl, rfl⟩
    refine (List.countP_le_length).trans (le_of_eq ?_)
    simp only [JobSystem.busy, List.length_append, hlength, List.length_singleton]
    decide

end NwbLot.Alloc
