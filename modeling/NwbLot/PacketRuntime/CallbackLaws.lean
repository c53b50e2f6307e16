import NwbLot.PacketRuntime.LifecycleCalls

/-!
# Laws of the callback operations

What the interleaving proofs need from one operation: which states its sections admit, what they
lead to, and that a task which passed the first section passes the last one.
-/

namespace NwbLot.PacketRuntime

open TaskGraph

/-! ## States and sections -/

/-- Neither in a callback window nor past it. -/
def GpuTaskLifecycleState.idle : GpuTaskLifecycleState → Bool
  | .declared | .recording | .recorded | .submitting => true
  | _ => false

/-- Past its callback. -/
def GpuTaskLifecycleState.finished : GpuTaskLifecycleState → Bool
  | .accepted | .discarded => true
  | _ => false

/-- The same payload and thunks. -/
def SameThunks (task task' : GpuTaskLifecycleNode) : Prop :=
  task'.payload = task.payload ∧ task'.hasAcceptPayload = task.hasAcceptPayload ∧
    task'.hasDiscardPayload = task.hasDiscardPayload

lemma SameThunks.owesCallback {task task' : GpuTaskLifecycleNode} (h : SameThunks task task')
    (kind : CallbackKind) : task'.owesCallback kind = task.owesCallback kind := by
  obtain ⟨hpayload, haccept, hdiscard⟩ := h
  cases kind with
  | accept => simp [GpuTaskLifecycleNode.owesCallback, GpuTaskLifecycleNode.hasThunk, hpayload,
      haccept]
  | discard => simp [GpuTaskLifecycleNode.owesCallback, GpuTaskLifecycleNode.hasThunk, hpayload,
      hdiscard]

namespace GpuTaskGraphLifecycle

variable {graph : GpuTaskGraphLifecycle}

variable {tasks : List GpuTaskId}

lemma admitted_iff {admits : GpuTaskLifecycleNode → Bool} :
    graph.admitted tasks admits = true ↔ ∀ id ∈ tasks, graph.validTask id = true ∧
      ∃ task, graph.tasks[id.index]? = some task ∧ admits task = true := by
  simp [admitted, Option.any_eq_true]

variable {update : GpuTaskLifecycleNode → GpuTaskLifecycleNode}

lemma packetSection_eq_some {allowed : Bool} {admits : GpuTaskLifecycleNode → Bool}
    {graph' : GpuTaskGraphLifecycle} :
    graph.packetSection allowed tasks admits update = some graph' ↔
      allowed = true ∧ graph.admitted tasks admits = true ∧
        graph' = graph.updateTasks tasks update := by
  unfold packetSection
  by_cases h : allowed = true ∧ graph.admitted tasks admits = true
  · simp [h.1, h.2, eq_comm]
  · rw [if_neg (by simpa using h)]
    constructor
    · intro hnone
      cases hnone
    · rintro ⟨hallowed, hadmitted, -⟩
      exact absurd ⟨hallowed, hadmitted⟩ h

lemma getElem?_updateTasks (tasks : List GpuTaskId)
    (update : GpuTaskLifecycleNode → GpuTaskLifecycleNode) (i : ℕ) :
    (graph.updateTasks tasks update).tasks[i]? =
      (graph.tasks[i]?).map fun task =>
        if tasks.any (·.index == i) then update task else task := by
  simp [updateTasks, List.getElem?_mapIdx]

/-- A task that the section names. -/
lemma getElem?_updateTasks_of_mem {id : GpuTaskId} (hid : id ∈ tasks) :
    (graph.updateTasks tasks update).tasks[id.index]? = (graph.tasks[id.index]?).map update := by
  have hany : tasks.any (·.index == id.index) = true := List.any_eq_true.2 ⟨id, hid, by simp⟩
  simp [getElem?_updateTasks, hany]

/-- A task that the section does not name. -/
lemma getElem?_updateTasks_of_forall_ne {i : ℕ} (hi : ∀ id ∈ tasks, id.index ≠ i) :
    (graph.updateTasks tasks update).tasks[i]? = graph.tasks[i]? := by
  have hany : tasks.any (·.index == i) = false := by
    simpa [List.any_eq_false] using hi
  simp [getElem?_updateTasks, hany]

/-- A section that changes none of its tasks changes nothing. -/
lemma updateTasks_eq_self
    (h : ∀ id ∈ tasks, ∀ task, graph.tasks[id.index]? = some task → update task = task) :
    graph.updateTasks tasks update = graph := by
  have htasks : (graph.updateTasks tasks update).tasks = graph.tasks := by
    apply List.ext_getElem?
    intro i
    by_cases hi : ∃ id ∈ tasks, id.index = i
    · obtain ⟨id, hid, rfl⟩ := hi
      rw [getElem?_updateTasks_of_mem hid]
      cases htask : graph.tasks[id.index]? with
      | none => rfl
      | some task => simp [h id hid task htask]
    · exact getElem?_updateTasks_of_forall_ne fun id hid heq => hi ⟨id, hid, heq⟩
  calc graph.updateTasks tasks update
      = { graph with tasks := (graph.updateTasks tasks update).tasks } := rfl
    _ = graph := by rw [htasks]

@[simp] lemma validTask_updateTasks (tasks : List GpuTaskId)
    (update : GpuTaskLifecycleNode → GpuTaskLifecycleNode) (id : GpuTaskId) :
    (graph.updateTasks tasks update).validTask id = graph.validTask id := by
  simp [validTask, updateTasks]

/-- Valid ids of one graph differ in their index. -/
lemma validTask_index_inj {a b : GpuTaskId} (ha : graph.validTask a = true)
    (hb : graph.validTask b = true) (h : a.index = b.index) : a = b := by
  simp only [validTask, Bool.and_eq_true, beq_iff_eq] at ha hb
  obtain ⟨index, generation⟩ := a
  obtain ⟨index', generation'⟩ := b
  simp only at h ha hb
  rw [h, ha.1.2, hb.1.2]

lemma inAttempt_iff {planGeneration attempt : ℕ} :
    graph.inAttempt planGeneration attempt = true ↔ graph.teardownInProgress = false ∧
      graph.activeRecordingPlanGeneration = planGeneration ∧
      graph.activeRecordingAttemptGeneration = attempt := by
  simp [inAttempt, and_assoc]

end GpuTaskGraphLifecycle

/-! ## Laws -/

/-- What every operation with callbacks obeys. -/
structure CallbackOperation.Lawful (op : CallbackOperation) : Prop where
  open_attempt : ∀ graph, op.openAllowed graph = true →
    graph.teardownInProgress = false ∧ op.attempt = graph.activeRecordingAttemptGeneration
  open_close : ∀ graph, op.openAllowed graph = true → op.closeAllowed graph = true
  close_attempt : ∀ graph, op.closeAllowed graph = true →
    op.attempt = graph.activeRecordingAttemptGeneration
  close_congr : ∀ graph graph' : GpuTaskGraphLifecycle,
    graph'.teardownInProgress = graph.teardownInProgress →
    graph'.activeRecordingPlanGeneration = graph.activeRecordingPlanGeneration →
    graph'.activeRecordingAttemptGeneration = graph.activeRecordingAttemptGeneration →
    op.closeAllowed graph' = op.closeAllowed graph
  close_release : ∀ graph : GpuTaskGraphLifecycle, op.closeAllowed graph = true →
    op.closeAllowed { graph with teardownInProgress := false } = true
  opens_state : ∀ graph task, op.opens graph task = true →
    task.lifecycleState.idle = true ∨ (op.rereads = true ∧ task.lifecycleState = op.kind.done)
  opening_idle : ∀ task : GpuTaskLifecycleNode, task.lifecycleState.idle = true →
    (op.opening task).lifecycleState = op.kind.transit
  opening_done : op.rereads = true → ∀ task : GpuTaskLifecycleNode,
    task.lifecycleState = op.kind.done → op.opening task = task
  opening_closes : ∀ graph task, op.opens graph task = true → op.closes (op.opening task) = true
  opening_thunks : ∀ task, SameThunks task (op.opening task)
  closes_state : ∀ task, op.closes task = true →
    task.lifecycleState = op.kind.transit ∨
      (op.rereads = true ∧ task.lifecycleState = op.kind.done)
  closing_transit : ∀ task : GpuTaskLifecycleNode, task.lifecycleState = op.kind.transit →
    (op.closing task).lifecycleState = op.kind.done
  closing_done : op.rereads = true → ∀ task : GpuTaskLifecycleNode,
    task.lifecycleState = op.kind.done → op.closing task = task
  closing_thunks : ∀ task, SameThunks task (op.closing task)

section Instances

variable (plan : PublishedPlan) (tasks : List GpuTaskId) (lease : PacketLease)

variable {graph : GpuTaskGraphLifecycle} {planGeneration attempt : ℕ}

lemma inAttempt_congr {graph' : GpuTaskGraphLifecycle}
    (hteardown : graph'.teardownInProgress = graph.teardownInProgress)
    (hplan : graph'.activeRecordingPlanGeneration = graph.activeRecordingPlanGeneration)
    (hattempt : graph'.activeRecordingAttemptGeneration
      = graph.activeRecordingAttemptGeneration) :
    graph'.inAttempt planGeneration attempt = graph.inAttempt planGeneration attempt := by
  simp [GpuTaskGraphLifecycle.inAttempt, hteardown, hplan, hattempt]

lemma inAttempt_release (h : graph.inAttempt planGeneration attempt = true) :
    ({ graph with teardownInProgress := false } : GpuTaskGraphLifecycle).inAttempt planGeneration
      attempt = true := by
  rw [GpuTaskGraphLifecycle.inAttempt_iff] at h ⊢
  exact ⟨rfl, h.2⟩

lemma inAttempt_attempt (h : graph.inAttempt planGeneration attempt = true) :
    graph.teardownInProgress = false ∧ attempt = graph.activeRecordingAttemptGeneration := by
  rw [GpuTaskGraphLifecycle.inAttempt_iff] at h
  exact ⟨h.1, h.2.2.symm⟩

/-- The operations on a lease are lawful when they start from an idle state and neither moving a
task nor releasing its claim touches what the last section checks. -/
lemma leaseOperation_lawful {kind : CallbackKind} {source : GpuTaskLifecycleState}
    {claim : GpuTaskLifecycleNode → ℕ} {ready : GpuTaskLifecycleNode → Bool}
    {release : GpuTaskLifecycleNode → GpuTaskLifecycleNode} (hsource : source.idle = true)
    (hclaim : ∀ task state, claim { task with lifecycleState := state } = claim task)
    (hrelease : ∀ task, SameThunks task (release task)) :
    (leaseOperation kind plan tasks lease source claim ready release).Lawful where
  open_attempt := fun _ => inAttempt_attempt
  open_close := fun _ => id
  close_attempt := fun _ h => (inAttempt_attempt h).2
  close_congr := fun _ _ => inAttempt_congr
  close_release := fun _ => inAttempt_release
  opens_state := by
    intro _ task h
    simp only [leaseOperation, Bool.and_eq_true, beq_iff_eq] at h
    rw [h.1.1.1]
    exact Or.inl hsource
  opening_idle := fun _ _ => rfl
  opening_done := by intro h; cases h
  opening_closes := by
    intro _ task h
    simp only [leaseOperation, Bool.and_eq_true, beq_iff_eq] at h ⊢
    exact ⟨⟨trivial, h.1.1.2⟩, by rw [hclaim, h.1.2]⟩
  opening_thunks := fun _ => ⟨rfl, rfl, rfl⟩
  closes_state := by
    intro task h
    simp only [leaseOperation, Bool.and_eq_true, beq_iff_eq] at h
    exact Or.inl h.1.1
  closing_transit := fun _ _ => rfl
  closing_done := by intro h; cases h
  closing_thunks := hrelease

lemma discardUnacceptedPacket_lawful (attempt : ℕ) :
    (discardUnacceptedPacketOperation plan tasks attempt).Lawful where
  open_attempt := fun _ => inAttempt_attempt
  open_close := fun _ => id
  close_attempt := fun _ h => (inAttempt_attempt h).2
  close_congr := fun _ _ => inAttempt_congr
  close_release := fun _ => inAttempt_release
  opens_state := by
    intro _ task h
    simp only [discardUnacceptedPacketOperation, Bool.and_eq_true, Bool.or_eq_true,
      beq_iff_eq] at h
    rcases h.1 with (hdeclared | hrecorded) | hdiscarded
    · simp [hdeclared, GpuTaskLifecycleState.idle]
    · simp [hrecorded, GpuTaskLifecycleState.idle]
    · exact Or.inr ⟨rfl, hdiscarded⟩
  opening_idle := by
    intro task h
    have hne : task.lifecycleState ≠ .discarded := by
      intro heq
      rw [heq] at h
      cases h
    simp [discardUnacceptedPacketOperation, hne, CallbackKind.transit]
  opening_done := by
    intro _ task h
    have hstate : task.lifecycleState = .discarded := h
    simp [discardUnacceptedPacketOperation, hstate]
  opening_closes := by
    intro _ task h
    simp only [discardUnacceptedPacketOperation, Bool.and_eq_true] at h ⊢
    by_cases hstate : task.lifecycleState = .discarded
    · simpa [hstate] using h.2
    · simpa [hstate] using h.2
  opening_thunks := by
    intro task
    simp only [discardUnacceptedPacketOperation]
    split
    · exact ⟨rfl, rfl, rfl⟩
    · exact ⟨rfl, rfl, rfl⟩
  closes_state := by
    intro task h
    simp only [discardUnacceptedPacketOperation, Bool.and_eq_true, Bool.or_eq_true,
      beq_iff_eq] at h
    exact h.1.imp id fun hdiscarded => ⟨rfl, hdiscarded⟩
  closing_transit := by
    intro task h
    have hstate : task.lifecycleState = .discarding := h
    simp [discardUnacceptedPacketOperation, hstate, CallbackKind.done]
  closing_done := by
    intro _ task h
    have hstate : task.lifecycleState = .discarded := h
    simp [discardUnacceptedPacketOperation, hstate]
  closing_thunks := by
    intro task
    simp only [discardUnacceptedPacketOperation]
    split
    · exact ⟨rfl, rfl, rfl⟩
    · exact ⟨rfl, rfl, rfl⟩

lemma taskSectionAllowed_iff :
    taskSectionAllowed attempt graph = true ↔ graph.teardownInProgress = false ∧ attempt ≠ 0 ∧
      attempt = graph.activeRecordingAttemptGeneration := by
  simp [taskSectionAllowed, and_assoc]

lemma acceptTask_lawful (task : GpuTaskId) (token : QueueSubmissionToken) (attempt : ℕ) :
    (acceptTaskOperation task token attempt).Lawful where
  open_attempt := by
    intro graph h
    simp only [acceptTaskOperation, Bool.and_eq_true, taskSectionAllowed_iff] at h
    exact ⟨h.2.1, h.2.2.2⟩
  open_close := by
    intro graph h
    simp only [acceptTaskOperation, Bool.and_eq_true, taskSectionAllowed_iff] at h
    simpa [acceptTaskOperation] using h.2.2.2
  close_attempt := by
    intro graph h
    simpa [acceptTaskOperation] using h
  close_congr := by
    intro graph graph' _ _ hattempt
    simp [acceptTaskOperation, hattempt]
  close_release := fun _ h => h
  opens_state := by
    intro graph task h
    simp only [acceptTaskOperation, Bool.and_eq_true, beq_iff_eq] at h
    rw [h.1]
    split
    · exact Or.inl rfl
    · exact Or.inl rfl
  opening_idle := fun _ _ => rfl
  opening_done := by intro h; cases h
  opening_closes := by
    intro _ task h
    simp only [acceptTaskOperation, Bool.and_eq_true, beq_iff_eq] at h ⊢
    exact ⟨trivial, h.2⟩
  opening_thunks := fun _ => ⟨rfl, rfl, rfl⟩
  closes_state := by
    intro task h
    simp only [acceptTaskOperation, Bool.and_eq_true, beq_iff_eq] at h
    exact Or.inl h.1
  closing_transit := fun _ _ => rfl
  closing_done := by intro h; cases h
  closing_thunks := fun _ => ⟨rfl, rfl, rfl⟩

lemma discardTask_lawful (task : GpuTaskId) (attempt : ℕ) :
    (discardTaskOperation task attempt).Lawful where
  open_attempt := by
    intro graph h
    rw [discardTaskOperation, taskSectionAllowed_iff] at h
    exact ⟨h.1, h.2.2⟩
  open_close := by
    intro graph h
    rw [discardTaskOperation, taskSectionAllowed_iff] at h
    simpa [discardTaskOperation] using h.2.2
  close_attempt := by
    intro graph h
    simpa [discardTaskOperation] using h
  close_congr := by
    intro graph graph' _ _ hattempt
    simp [discardTaskOperation, hattempt]
  close_release := fun _ h => h
  opens_state := by
    intro graph task h
    simp only [discardTaskOperation, Bool.and_eq_true, Bool.or_eq_true, beq_iff_eq] at h
    rcases h.1 with hdeclared | hrecorded
    · simp [hdeclared, GpuTaskLifecycleState.idle]
    · simp [hrecorded, GpuTaskLifecycleState.idle]
  opening_idle := fun _ _ => rfl
  opening_done := by intro h; cases h
  opening_closes := by
    intro _ task h
    simp only [discardTaskOperation, Bool.and_eq_true, beq_iff_eq] at h ⊢
    exact ⟨trivial, h.2⟩
  opening_thunks := fun _ => ⟨rfl, rfl, rfl⟩
  closes_state := by
    intro task h
    simp only [discardTaskOperation, Bool.and_eq_true, beq_iff_eq] at h
    exact Or.inl h.1
  closing_transit := fun _ _ => rfl
  closing_done := by intro h; cases h
  closing_thunks := fun _ => ⟨rfl, rfl, rfl⟩

/-- Every operation with callbacks is lawful. -/
theorem CallbackCall.lawful (call : CallbackCall) : call.operation.Lawful := by
  cases call with
  | abortPacketRecording plan tasks lease =>
    exact leaseOperation_lawful plan tasks lease rfl (fun _ _ => rfl) fun _ => ⟨rfl, rfl, rfl⟩
  | completePacketSubmission plan tasks token lease =>
    exact leaseOperation_lawful plan tasks lease rfl (fun _ _ => rfl) fun _ => ⟨rfl, rfl, rfl⟩
  | abortPacketSubmission plan tasks lease =>
    exact leaseOperation_lawful plan tasks lease rfl (fun _ _ => rfl) fun _ => ⟨rfl, rfl, rfl⟩
  | discardUnacceptedPacket plan tasks attempt =>
    exact discardUnacceptedPacket_lawful plan tasks attempt
  | acceptTask task token attempt => exact acceptTask_lawful task token attempt
  | discardTask task attempt => exact discardTask_lawful task attempt

end Instances

end NwbLot.PacketRuntime
