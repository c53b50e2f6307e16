import NwbLot.PacketRuntime.CallbackLaws
import NwbLot.PacketRuntime.Transaction

/-!
# What a whole call does to the graph

A call on the graph either leaves it as it is or moves every task it names from one group of states
to one state.

`MovesTo` is such a move, under one recording attempt and with every other task kept; `Records` is
the like for the recorder calls, task by task.
-/

namespace NwbLot.PacketRuntime

open TaskGraph

/-! ## Moving the tasks of a packet -/

/-- A state in which `discardUnacceptedPacket` takes a task. -/
def GpuTaskLifecycleState.discardable : GpuTaskLifecycleState → Bool
  | .declared | .recorded | .discarded => true
  | _ => false

/-- Every task of the list is in one state of one attempt. -/
def TasksIn (graph : GpuTaskGraphLifecycle) (tasks : List GpuTaskId) (attempt : ℕ)
    (state : GpuTaskLifecycleState) : Prop :=
  ∀ id ∈ tasks, ∃ task, graph.tasks[id.index]? = some task ∧ task.lifecycleState = state ∧
    task.lifecycleAttemptGeneration = attempt

/-- The graph moves the listed tasks of one attempt from source states to a target, and nothing
else. -/
structure MovesTo (graph graph' : GpuTaskGraphLifecycle) (tasks : List GpuTaskId) (attempt : ℕ)
    (source : GpuTaskLifecycleState → Bool) (target : GpuTaskLifecycleState) : Prop where
  from_source : ∀ id ∈ tasks, ∃ task, graph.tasks[id.index]? = some task ∧
    source task.lifecycleState = true ∧ task.lifecycleAttemptGeneration = attempt
  to_target : TasksIn graph' tasks attempt target
  other : ∀ i, (∀ id ∈ tasks, id.index ≠ i) → graph'.tasks[i]? = graph.tasks[i]?
  frame : graph' = { graph with tasks := graph'.tasks, nextGeneration := graph'.nextGeneration }
  length : graph'.tasks.length = graph.tasks.length

namespace GpuTaskGraphLifecycle

variable {graph : GpuTaskGraphLifecycle}

@[simp] lemma length_updateTasks (tasks : List GpuTaskId)
    (update : GpuTaskLifecycleNode → GpuTaskLifecycleNode) :
    (graph.updateTasks tasks update).tasks.length = graph.tasks.length := by
  simp [updateTasks]

/-- A lawful operation is refused as a whole or comes to its end. -/
lemma runOperation_cases (graph : GpuTaskGraphLifecycle) {op : CallbackOperation}
    (hlaw : op.Lawful) :
    graph.runOperation op = (graph, false) ∨
      (graph.admitted op.tasks (op.opens graph) = true ∧ op.openAllowed graph = true ∧
        graph.runOperation op
          = ((graph.updateTasks op.tasks op.opening).updateTasks op.tasks op.closing, true)) := by
  unfold runOperation
  cases hopen : op.openSection graph with
  | none => exact Or.inl rfl
  | some opened =>
    obtain ⟨hallowed, hadmitted, rfl⟩ := packetSection_eq_some.1 hopen
    have hcloses : (graph.updateTasks op.tasks op.opening).admitted op.tasks op.closes = true := by
      rw [admitted_iff] at hadmitted ⊢
      intro id hid
      obtain ⟨hvalid, task, htask, hopens⟩ := hadmitted id hid
      refine ⟨by rw [validTask_updateTasks]; exact hvalid, op.opening task, ?_,
        hlaw.opening_closes _ _ hopens⟩
      rw [getElem?_updateTasks_of_mem hid, htask, Option.map_some]
    have hallows : op.closeAllowed (graph.updateTasks op.tasks op.opening) = true :=
      (hlaw.close_congr graph (graph.updateTasks op.tasks op.opening) rfl rfl rfl).trans
        (hlaw.open_close _ hallowed)
    have hclose : op.closeSection (graph.updateTasks op.tasks op.opening)
        = some ((graph.updateTasks op.tasks op.opening).updateTasks op.tasks op.closing) :=
      packetSection_eq_some.2 ⟨hallows, hcloses, rfl⟩
    exact Or.inr ⟨hadmitted, hallowed, by simp only [hclose]⟩

variable {tasks : List GpuTaskId}

/-- The two updates of an operation move its tasks when each of them leads where it should. -/
lemma movesTo_of_updates {admits : GpuTaskLifecycleNode → Bool}
    {opening closing : GpuTaskLifecycleNode → GpuTaskLifecycleNode} {attempt : ℕ}
    {source : GpuTaskLifecycleState → Bool} {target : GpuTaskLifecycleState}
    (hadmitted : graph.admitted tasks admits = true) (hsource : ∀ task, admits task = true →
      source task.lifecycleState = true ∧ task.lifecycleAttemptGeneration = attempt)
    (htarget : ∀ task, admits task = true →
      (closing (opening task)).lifecycleState = target ∧
        (closing (opening task)).lifecycleAttemptGeneration = attempt) :
    MovesTo graph ((graph.updateTasks tasks opening).updateTasks tasks closing) tasks attempt
      source target where
  from_source := by
    intro id hid
    obtain ⟨-, task, htask, hadmits⟩ := admitted_iff.1 hadmitted id hid
    exact ⟨task, htask, hsource task hadmits⟩
  to_target := by
    intro id hid
    obtain ⟨-, task, htask, hadmits⟩ := admitted_iff.1 hadmitted id hid
    refine ⟨closing (opening task), ?_, htarget task hadmits⟩
    rw [getElem?_updateTasks_of_mem hid, getElem?_updateTasks_of_mem hid, htask]
    rfl
  other := by
    intro i hi
    rw [getElem?_updateTasks_of_forall_ne hi, getElem?_updateTasks_of_forall_ne hi]
  frame := rfl
  length := by simp

lemma runCallbackCall_cases (graph : GpuTaskGraphLifecycle) (call : CallbackCall) :
    graph.runCallbackCall call = (graph, false) ∨
      (call.argumentsAccepted graph = true ∧
        graph.admitted call.operation.tasks (call.operation.opens graph) = true ∧
        graph.runCallbackCall call
          = ((graph.updateTasks call.operation.tasks call.operation.opening).updateTasks
            call.operation.tasks call.operation.closing, true)) := by
  unfold runCallbackCall
  by_cases harguments : call.argumentsAccepted graph = true
  · rw [if_pos harguments]
    rcases runOperation_cases graph call.lawful with hrefused | ⟨hadmitted, -, hran⟩
    · exact Or.inl hrefused
    · exact Or.inr ⟨harguments, hadmitted, hran⟩
  · exact Or.inl (if_neg harguments)

variable {source : GpuTaskLifecycleState} {kind : CallbackKind} {plan : PublishedPlan}
  {lease : PacketLease} {ready : GpuTaskLifecycleNode → Bool}

/-- A call on a lease that came to its end moved the lease's tasks. -/
lemma movesTo_leaseOperation {claim : GpuTaskLifecycleNode → ℕ}
    {release : GpuTaskLifecycleNode → GpuTaskLifecycleNode}
    (hrelease : ∀ task, (release task).lifecycleAttemptGeneration
      = task.lifecycleAttemptGeneration) (hadmitted : graph.admitted tasks
      ((leaseOperation kind plan tasks lease source claim ready release).opens graph) = true) :
    MovesTo graph
      ((graph.updateTasks tasks
        (leaseOperation kind plan tasks lease source claim ready release).opening).updateTasks
          tasks (leaseOperation kind plan tasks lease source claim ready release).closing)
      tasks lease.recordingAttemptGeneration (· == source) kind.done := by
  apply movesTo_of_updates hadmitted
  · intro task hopens
    simp only [leaseOperation, Bool.and_eq_true, beq_iff_eq] at hopens
    exact ⟨by simp [hopens.1.1.1], hopens.1.1.2⟩
  · intro task hopens
    simp only [leaseOperation, Bool.and_eq_true, beq_iff_eq] at hopens
    exact ⟨rfl, (hrelease _).trans hopens.1.1.2⟩

/-- A call on a lease brings all tasks of the claim to the end of its callbacks, or none. -/
lemma leaseCall_cases (graph : GpuTaskGraphLifecycle) (call : CallbackCall)
    {claim : GpuTaskLifecycleNode → ℕ} {release : GpuTaskLifecycleNode → GpuTaskLifecycleNode}
    (hcall : call.operation = leaseOperation kind plan tasks lease source claim ready release)
    (hrelease : ∀ task, (release task).lifecycleAttemptGeneration
      = task.lifecycleAttemptGeneration) :
    graph.runCallbackCall call = (graph, false) ∨
      ∃ graph', graph.runCallbackCall call = (graph', true) ∧
        MovesTo graph graph' tasks lease.recordingAttemptGeneration (· == source) kind.done := by
  rcases runCallbackCall_cases graph call with hrefused | ⟨-, hadmitted, hran⟩
  · exact Or.inl hrefused
  · rw [hcall] at hadmitted hran
    exact Or.inr ⟨_, hran, movesTo_leaseOperation hrelease hadmitted⟩

/-- `discardUnacceptedPacket` discards all tasks it names or none. -/
lemma discardUnacceptedPacket_cases (graph : GpuTaskGraphLifecycle) (plan : PublishedPlan)
    (tasks : List GpuTaskId)
    (attempt : ℕ) :
    graph.runCallbackCall (.discardUnacceptedPacket plan tasks attempt) = (graph, false) ∨
      ∃ graph', graph.runCallbackCall (.discardUnacceptedPacket plan tasks attempt)
          = (graph', true) ∧
        MovesTo graph graph' tasks attempt (·.discardable) .discarded := by
  rcases runCallbackCall_cases graph (.discardUnacceptedPacket plan tasks attempt)
    with hrefused | ⟨-, hadmitted, hran⟩
  · exact Or.inl hrefused
  · refine Or.inr ⟨_, hran, movesTo_of_updates hadmitted ?_ ?_⟩
    · intro task hopens
      simp only [CallbackCall.operation, discardUnacceptedPacketOperation, Bool.and_eq_true,
        Bool.or_eq_true, beq_iff_eq] at hopens
      refine ⟨?_, hopens.2⟩
      rcases hopens.1 with (hstate | hstate) | hstate
      · rw [hstate]; rfl
      · rw [hstate]; rfl
      · rw [hstate]; rfl
    · intro task hopens
      simp only [CallbackCall.operation, discardUnacceptedPacketOperation, Bool.and_eq_true,
        Bool.or_eq_true, beq_iff_eq] at hopens
      -- A task that was discarded before passes both updates unchanged.
      by_cases hstate : task.lifecycleState = .discarded
      · simp [CallbackCall.operation, discardUnacceptedPacketOperation, hstate, hopens.2]
      · simp [CallbackCall.operation, discardUnacceptedPacketOperation, hstate, hopens.2]

/-- `beginPacketSubmission` claims all tasks it names or none. -/
lemma reservePacketSubmission_cases (graph : GpuTaskGraphLifecycle) (plan : PublishedPlan)
    (tasks : List GpuTaskId)
    (attempt : ℕ) (outLease : GpuTaskPacketSubmissionLease) :
    graph.reservePacketSubmission plan tasks attempt outLease = (graph, none) ∨
      ∃ graph' lease, graph.reservePacketSubmission plan tasks attempt outLease
          = (graph', some lease) ∧
        MovesTo graph graph' tasks attempt (· == .recorded) .submitting := by
  unfold reservePacketSubmission beginPacketSubmission claimSection
  split
  · split
    · next hguard =>
      have hclaim : (allocateGeneration graph.nextGeneration).1 ≠ 0 :=
        allocateGeneration_ne_zero _
      rw [Bool.and_eq_true] at hguard
      simp only [hclaim, if_false]
      refine Or.inr ⟨_, _, rfl, ?_⟩
      have hadmits := admitted_iff.1 hguard.2
      refine ⟨?_, ?_, ?_, rfl, by simp⟩
      · intro id hid
        obtain ⟨-, task, htask, hopen⟩ := hadmits id hid
        simp only [Bool.and_eq_true, beq_iff_eq] at hopen
        exact ⟨task, htask, by simp [hopen.1.1.1.1], hopen.1.1.1.2⟩
      · intro id hid
        obtain ⟨-, task, htask, hopen⟩ := hadmits id hid
        simp only [Bool.and_eq_true, beq_iff_eq] at hopen
        refine ⟨{ task with
          lifecycleState := .submitting
          submissionClaimGeneration := (allocateGeneration graph.nextGeneration).1 }, ?_, rfl,
          hopen.1.1.1.2⟩
        rw [getElem?_updateTasks_of_mem hid]
        show (graph.tasks[id.index]?).map _ = _
        rw [htask]
        rfl
      · intro i hi
        exact getElem?_updateTasks_of_forall_ne hi
    · exact Or.inl rfl
  · exact Or.inl rfl

end GpuTaskGraphLifecycle

/-! ## Recorder calls -/

/-- A task that neither a submission nor a callback has touched. -/
def GpuTaskLifecycleState.untouched : GpuTaskLifecycleState → Bool
  | .declared | .recording | .recorded => true
  | _ => false

/-- What a recorder call can do to the task at an index: nothing, or it moves an untouched task on,
by an abort to `discarded`. -/
def RecordsTask (aborts : Bool) (task task' : GpuTaskLifecycleNode) : Prop :=
  task' = task ∨ (task.lifecycleState.untouched = true ∧
    task'.lifecycleAttemptGeneration = task.lifecycleAttemptGeneration ∧
    (task'.lifecycleState.untouched = true ∨
      (aborts = true ∧ task'.lifecycleState = .discarded)))

/-- What a recorder call can do to the graph. -/
structure Records (aborts : Bool) (graph graph' : GpuTaskGraphLifecycle) : Prop where
  task : ∀ (i : ℕ) (task' : GpuTaskLifecycleNode), graph'.tasks[i]? = some task' →
    ∃ task, graph.tasks[i]? = some task ∧ RecordsTask aborts task task'
  frame : graph' = { graph with tasks := graph'.tasks, nextGeneration := graph'.nextGeneration }
  length : graph'.tasks.length = graph.tasks.length

namespace Records

variable {aborts : Bool} {graph graph' graph'' : GpuTaskGraphLifecycle}

lemma refl (aborts : Bool) (graph : GpuTaskGraphLifecycle) : Records aborts graph graph where
  task := fun _ task' htask' => ⟨task', htask', Or.inl rfl⟩
  frame := rfl
  length := rfl

/-- The task behind a recorder call. -/
lemma task_after (h : Records aborts graph graph') {i : ℕ} {task : GpuTaskLifecycleNode}
    (htask : graph.tasks[i]? = some task) :
    ∃ task', graph'.tasks[i]? = some task' ∧ RecordsTask aborts task task' := by
  have hi : i < graph'.tasks.length := by
    rw [h.length]
    exact (List.getElem?_eq_some_iff.1 htask).1
  obtain ⟨task₀, htask₀, hrecords⟩ := h.task i _ (List.getElem?_eq_getElem hi)
  rw [htask] at htask₀
  cases htask₀
  exact ⟨_, List.getElem?_eq_getElem hi, hrecords⟩

variable {tasks : List GpuTaskId} {admits : GpuTaskLifecycleNode → Bool}
  {update : GpuTaskLifecycleNode → GpuTaskLifecycleNode}

/-- An update of admitted tasks that keeps the attempt and moves untouched tasks on. -/
lemma of_updateTasks (hadmitted : graph.admitted tasks admits = true)
    (hupdate : ∀ task, admits task = true → RecordsTask aborts task (update task))
    (hframe : graph' = { graph with
      tasks := (graph.updateTasks tasks update).tasks
      nextGeneration := graph'.nextGeneration }) : Records aborts graph graph' where
  task := by
    intro i task' htask'
    have htasks : graph'.tasks = (graph.updateTasks tasks update).tasks := by rw [hframe]
    rw [htasks] at htask'
    by_cases hi : ∃ id ∈ tasks, id.index = i
    · obtain ⟨id, hid, rfl⟩ := hi
      obtain ⟨-, task, htask, hadmits⟩ :=
        GpuTaskGraphLifecycle.admitted_iff.1 hadmitted id hid
      rw [GpuTaskGraphLifecycle.getElem?_updateTasks_of_mem hid, htask] at htask'
      cases htask'
      exact ⟨task, htask, hupdate task hadmits⟩
    · rw [GpuTaskGraphLifecycle.getElem?_updateTasks_of_forall_ne
        fun id hid heq => hi ⟨id, hid, heq⟩] at htask'
      exact ⟨task', htask', Or.inl rfl⟩
  frame := by
    have htasks : graph'.tasks = (graph.updateTasks tasks update).tasks := by rw [hframe]
    rw [htasks]
    exact hframe
  length := by
    have htasks : graph'.tasks = (graph.updateTasks tasks update).tasks := by rw [hframe]
    rw [htasks, GpuTaskGraphLifecycle.length_updateTasks]

/-- A section that checks its tasks and updates them. -/
lemma of_packetSection {allowed : Bool}
    (hsection : graph.packetSection allowed tasks admits update = some graph')
    (hupdate : ∀ task, admits task = true → RecordsTask aborts task (update task)) :
    Records aborts graph graph' := by
  obtain ⟨-, hadmitted, rfl⟩ := GpuTaskGraphLifecycle.packetSection_eq_some.1 hsection
  exact of_updateTasks hadmitted hupdate rfl

lemma trans (h : Records aborts graph graph') (h' : Records aborts graph' graph'') :
    Records aborts graph graph'' where
  task := by
    intro i task'' htask''
    obtain ⟨task', htask', hlater⟩ := h'.task i task'' htask''
    obtain ⟨task, htask, hearlier⟩ := h.task i task' htask'
    refine ⟨task, htask, ?_⟩
    rcases hlater with rfl | ⟨huntouched', hattempt', hstate'⟩
    · exact hearlier
    · rcases hearlier with rfl | ⟨huntouched, hattempt, -⟩
      · exact Or.inr ⟨huntouched', hattempt', hstate'⟩
      · exact Or.inr ⟨huntouched, hattempt'.trans hattempt, hstate'⟩
  frame := by
    rw [h'.frame, h.frame]
  length := h'.length.trans h.length

end Records

variable {graph : GpuTaskGraphLifecycle}

/-- The two sections of `recordTask`. -/
lemma RecordTaskCall.records (call : RecordTaskCall) (aborts : Bool)
    {opened : GpuTaskGraphLifecycle} (hopen : call.openSection graph = some opened) :
    Records aborts graph ((call.closeSection opened).getD opened) := by
  have hopened : Records aborts graph opened := by
    apply Records.of_packetSection hopen
    intro task hadmits
    simp only [Bool.and_eq_true, beq_iff_eq] at hadmits
    have hstate : task.lifecycleState = .recording := by
      exact hadmits.1.1.1.1.1.1.1.1.1.1
    refine Or.inr ⟨?_, rfl, Or.inl ?_⟩
    · rw [hstate]; rfl
    · show task.lifecycleState.untouched = true
      rw [hstate]; rfl
  cases hclose : call.closeSection opened with
  | none => exact hopened
  | some closed =>
    refine hopened.trans (Records.of_packetSection hclose ?_)
    intro task hadmits
    simp only [Bool.and_eq_true, beq_iff_eq] at hadmits
    refine Or.inr ⟨?_, rfl, Or.inl ?_⟩
    · rw [hadmits.1.1.1]; rfl
    · show task.lifecycleState.untouched = true
      rw [hadmits.1.1.1]; rfl

/-- A task that a movement names. -/
lemma MovesTo.records {graph' : GpuTaskGraphLifecycle} {tasks : List GpuTaskId} {attempt : ℕ}
    {source : GpuTaskLifecycleState → Bool}
    (h : MovesTo graph graph' tasks attempt source .discarded)
    (hsource : ∀ state, source state = true → state.untouched = true) :
    Records true graph graph' where
  task := by
    intro i task' htask'
    by_cases hi : ∃ id ∈ tasks, id.index = i
    · obtain ⟨id, hid, rfl⟩ := hi
      obtain ⟨task, htask, hstate, hattempt⟩ := h.from_source id hid
      obtain ⟨moved, hmoved, hstate', hattempt'⟩ := h.to_target id hid
      rw [htask'] at hmoved
      cases hmoved
      exact ⟨task, htask, Or.inr ⟨hsource _ hstate, hattempt'.trans hattempt.symm,
        Or.inr ⟨rfl, hstate'⟩⟩⟩
    · rw [h.other i fun id hid heq => hi ⟨id, hid, heq⟩] at htask'
      exact ⟨task', htask', Or.inl rfl⟩
  frame := h.frame
  length := h.length

/-- The recorder only touches what no submission and no callback has touched. -/
theorem records_record (graph : GpuTaskGraphLifecycle) (call : RecorderCall) :
    Records call.aborts graph (graph.record call) := by
  cases call with
  | beginPacketRecording plan tasks attempt outLease =>
    simp only [GpuTaskGraphLifecycle.record]
    split
    · unfold GpuTaskGraphLifecycle.beginPacketRecording GpuTaskGraphLifecycle.claimSection
      split
      · next hguard =>
        rw [Bool.and_eq_true] at hguard
        have hclaim : (allocateGeneration graph.nextGeneration).1 ≠ 0 :=
          allocateGeneration_ne_zero _
        simp only [hclaim, if_false]
        refine Records.of_updateTasks hguard.2 (fun task hadmits => ?_) rfl
        simp only [Bool.and_eq_true, beq_iff_eq] at hadmits
        refine Or.inr ⟨?_, rfl, Or.inl rfl⟩
        rw [hadmits.1]; rfl
      · exact .refl _ _
    · exact .refl _ _
  | recordTask call =>
    simp only [GpuTaskGraphLifecycle.record]
    split
    · cases hopen : call.openSection graph with
      | none => exact .refl _ _
      | some opened => exact call.records _ hopen
    · exact .refl _ _
  | completePacketRecording plan tasks lease =>
    simp only [GpuTaskGraphLifecycle.record]
    split
    · cases hsection : graph.completePacketRecording plan tasks lease with
      | none => exact .refl _ _
      | some graph' =>
        apply Records.of_packetSection hsection
        intro task hadmits
        simp only [Bool.and_eq_true, beq_iff_eq] at hadmits
        refine Or.inr ⟨?_, rfl, Or.inl rfl⟩
        rw [hadmits.1.1.1.1]; rfl
    · exact .refl _ _
  | abortPacketRecording plan tasks lease =>
    simp only [GpuTaskGraphLifecycle.record]
    rcases GpuTaskGraphLifecycle.leaseCall_cases graph (.abortPacketRecording plan tasks lease) rfl
      (fun _ => rfl) with hrefused | ⟨graph', hran, hmoves⟩
    · rw [hrefused]
      exact .refl _ _
    · rw [hran]
      apply hmoves.records
      intro state hstate
      rw [beq_iff_eq.1 hstate]; rfl

end NwbLot.PacketRuntime
