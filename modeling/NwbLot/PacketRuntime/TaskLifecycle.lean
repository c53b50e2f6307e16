import NwbLot.TaskGraph.CompiledPlan

/-!
# Task lifecycle

What `GpuTaskGraph` guards with `m_lifecycleMutex`: the lifecycle fields of its tasks, the active
recording plan and attempt, and the locked sections of `task_graph_packet_lifecycle.cpp` and
`task_graph_state.cpp` as functions on them.  Callbacks run between two such sections.
-/

namespace NwbLot.PacketRuntime

open TaskGraph

/-! ## Generations -/

/-- `s_NextGeneration.fetch_add(1u)`: the value read and the value left. -/
def fetchAddGeneration (next : ℕ) : ℕ × ℕ := (next, (next + 1) % 2 ^ 64)

/-- `GpuTaskGraph::allocateGeneration`: a generation and the counter behind it. -/
def allocateGeneration (next : ℕ) : ℕ × ℕ :=
  let (generation, next) := fetchAddGeneration next
  if generation = 0 then fetchAddGeneration next else (generation, next)

lemma allocateGeneration_ne_zero (next : ℕ) : (allocateGeneration next).1 ≠ 0 := by
  unfold allocateGeneration fetchAddGeneration
  by_cases h : next = 0
  · simp [h]
  · simp [h]

/-! ## Lifecycle state -/

/-- The states of a task. -/
inductive GpuTaskLifecycleState
  | declared
  | recording
  | recorded
  | discarding
  | submitting
  | accepting
  | accepted
  | discarded
  deriving DecidableEq, Repr, Inhabited

/-- The two callbacks a payload can receive. -/
inductive CallbackKind
  | accept
  | discard
  deriving DecidableEq, Repr

/-- `GpuTaskNode::payload`: null from the start, live, or null again after teardown. -/
inductive TaskPayload
  | null
  | live
  | destroyed
  deriving DecidableEq, Repr, Inhabited

/-- The fields of `GpuTaskNode` that the lifecycle reads and writes. -/
structure GpuTaskLifecycleNode where
  payload : TaskPayload := .null
  hasRecordPayload : Bool := false
  hasAcceptPayload : Bool := false
  hasDiscardPayload : Bool := false
  lifecycleState : GpuTaskLifecycleState := .declared
  lifecycleAttemptGeneration : ℕ := 0
  recordingClaimGeneration : ℕ := 0
  submissionClaimGeneration : ℕ := 0
  recordThunkInProgress : Bool := false
  recordThunkCompleted : Bool := false
  deriving DecidableEq, Repr, Inhabited

namespace GpuTaskLifecycleNode

variable (task : GpuTaskLifecycleNode)

/-- `acceptPayload` or `discardPayload`. -/
def hasThunk : CallbackKind → Bool
  | .accept => task.hasAcceptPayload
  | .discard => task.hasDiscardPayload

/-- `task.payload && task.acceptPayload`, and the same for `discardPayload`. -/
def runsCallback (kind : CallbackKind) : Bool :=
  task.payload == .live && task.hasThunk kind

/-- The task was declared with a payload and the thunk. -/
def owesCallback (kind : CallbackKind) : Bool :=
  task.payload != .null && task.hasThunk kind

/-- The fields that both recording resets clear. -/
def clearRecordThunk : GpuTaskLifecycleNode :=
  { task with recordThunkInProgress := false, recordThunkCompleted := false }

end GpuTaskLifecycleNode

/-- The lifecycle part of `GpuTaskGraph`, with the process-wide generation counter it allocates
from. -/
structure GpuTaskGraphLifecycle where
  tasks : List GpuTaskLifecycleNode := []
  generation : ℕ := 0
  declarationRevision : ℕ := 0
  presentEndpoint : Option GpuPresentEndpoint := none
  activeRecordingAttemptGeneration : ℕ := 0
  activeRecordingPlanGeneration : ℕ := 0
  teardownInProgress : Bool := false
  nextGeneration : ℕ := 1
  deriving DecidableEq, Repr, Inhabited

/-! ## Published plans -/

/-- A `GpuCompiledGraph` as the runtime reads it: the compiler's vectors with the fields that
publication writes. -/
structure PublishedPlan where
  compiled : GpuCompiledGraph := {}
  published : Bool := false
  declarationRevision : ℕ := 0
  graphTaskCount : ℕ := 0
  deriving Repr, Inhabited

namespace PublishedPlan

variable (plan : PublishedPlan)

/-- The plan's generation. -/
def planGeneration : ℕ := plan.compiled.planGeneration

/-- The plan is published. -/
def valid : Bool := plan.published && plan.planGeneration != 0

/-- The handle names a packet of the plan. -/
def validPacket (packetID : GpuSubmissionPacketId) : Bool :=
  plan.valid && packetID.valid && packetID.generation == plan.planGeneration
    && packetID.index < plan.compiled.packets.length

/-- `GpuCompiledGraph::packet`, which requires `validPacket`. -/
def packet (packetID : GpuSubmissionPacketId) : GpuSubmissionPacket :=
  (plan.compiled.packets[packetID.index]?).getD {}

/-- The ids behind `packetTasks(packetID)` and `packet(packetID).taskCount`. -/
def packetTasks (packetID : GpuSubmissionPacketId) : List GpuTaskId :=
  plan.compiled.packetTasksOf (plan.packet packetID)

/-- `GpuCompiledGraph::validFor`. -/
def validFor (graph : GpuTaskGraphLifecycle) : Bool :=
  plan.valid
    && plan.compiled.graphGeneration == graph.generation
    && plan.declarationRevision == graph.declarationRevision
    && plan.graphTaskCount == graph.tasks.length
    && plan.compiled.tasks.length == plan.graphTaskCount
    && plan.compiled.packetTasks.length == plan.graphTaskCount
    && ((plan.graphTaskCount == 0 && plan.compiled.packets.isEmpty)
      || (0 < plan.graphTaskCount && !plan.compiled.packets.isEmpty
        && plan.compiled.packets.length ≤ plan.graphTaskCount))
    && plan.compiled.presentEndpoint.isSome == graph.presentEndpoint.isSome
    && (match graph.presentEndpoint, plan.compiled.presentEndpoint with
      | some declared, some endpoint =>
        endpoint.producer.valid && endpoint.backBuffer.valid && endpoint.packet.valid
          && endpoint.queue.valid
          && endpoint.producer == declared.producer
          && endpoint.backBuffer == declared.backBuffer
          && endpoint.producer.generation == plan.compiled.graphGeneration
          && endpoint.backBuffer.generation == plan.compiled.graphGeneration
          && plan.validPacket endpoint.packet
          && endpoint.packet == plan.compiled.findCompiledPacketForTask endpoint.producer
          && (plan.compiled.findCompiledQueueInfo endpoint.queue).isSome
      | none, _ => true
      | some _, none => false)

lemma valid_of_validFor {plan : PublishedPlan} {graph : GpuTaskGraphLifecycle}
    (h : plan.validFor graph = true) : plan.valid = true := by
  simp only [validFor, Bool.and_eq_true] at h
  exact h.1.1.1.1.1.1.1.1

end PublishedPlan

/-! ## Leases -/

/-- What the two lease classes carry; a default lease is invalid. -/
structure PacketLease where
  planGeneration : ℕ := 0
  recordingAttemptGeneration : ℕ := 0
  claimGeneration : ℕ := 0
  deriving DecidableEq, Repr, Inhabited

/-- The lease names a claim. -/
def PacketLease.valid (lease : PacketLease) : Bool :=
  lease.planGeneration != 0 && lease.recordingAttemptGeneration != 0 && lease.claimGeneration != 0

/-- A claim for recording. -/
abbrev GpuTaskPacketRecordingLease := PacketLease
/-- A claim for submission. -/
abbrev GpuTaskPacketSubmissionLease := PacketLease

/-! ## Locked sections -/

namespace GpuTaskGraphLifecycle

variable (graph : GpuTaskGraphLifecycle)

/-- The handle names a task of the graph. -/
def validTask (id : GpuTaskId) : Bool :=
  id.valid && id.generation == graph.generation && id.index < graph.tasks.length

/-- The first loop of a section: every id is valid and its task passes the checks. -/
def admitted (tasks : List GpuTaskId) (admits : GpuTaskLifecycleNode → Bool) : Bool :=
  tasks.all fun id => graph.validTask id && (graph.tasks[id.index]?).any admits

/-- The second loop of a section.  Every update of the source is idempotent, so one application
stands for the ids that name the same task. -/
def updateTasks (tasks : List GpuTaskId)
    (update : GpuTaskLifecycleNode → GpuTaskLifecycleNode) : GpuTaskGraphLifecycle :=
  { graph with
    tasks := graph.tasks.mapIdx fun i task =>
      if tasks.any (·.index == i) then update task else task }

/-- The guard of the packet sections on teardown, plan and attempt. -/
def inAttempt (planGeneration recordingAttemptGeneration : ℕ) : Bool :=
  !graph.teardownInProgress
    && graph.activeRecordingPlanGeneration == planGeneration
    && graph.activeRecordingAttemptGeneration == recordingAttemptGeneration

/-- A section that checks every task and then updates every task. -/
def packetSection (allowed : Bool) (tasks : List GpuTaskId)
    (admits : GpuTaskLifecycleNode → Bool)
    (update : GpuTaskLifecycleNode → GpuTaskLifecycleNode) : Option GpuTaskGraphLifecycle :=
  if allowed && graph.admitted tasks admits then some (graph.updateTasks tasks update) else none

/-- A section that also stamps its tasks with a fresh claim. -/
def claimSection (planGeneration recordingAttemptGeneration : ℕ) (tasks : List GpuTaskId)
    (admits : GpuTaskLifecycleNode → Bool)
    (update : ℕ → GpuTaskLifecycleNode → GpuTaskLifecycleNode) :
    GpuTaskGraphLifecycle × Option PacketLease :=
  if graph.inAttempt planGeneration recordingAttemptGeneration && graph.admitted tasks admits then
    let (claim, next) := allocateGeneration graph.nextGeneration
    let graph := { graph with nextGeneration := next }
    if claim = 0 then (graph, none)
    else (graph.updateTasks tasks (update claim),
      some ⟨planGeneration, recordingAttemptGeneration, claim⟩)
  else (graph, none)

/-! ### Recording claims -/

/-- The argument checks that precede the lock. -/
def packetArguments (plan : PublishedPlan) (tasks : List GpuTaskId) : Bool :=
  plan.validFor graph && !tasks.isEmpty

/-- The locked section of `beginPacketRecording`. -/
def beginPacketRecording (plan : PublishedPlan) (tasks : List GpuTaskId)
    (recordingAttemptGeneration : ℕ) :
    GpuTaskGraphLifecycle × Option GpuTaskPacketRecordingLease :=
  graph.claimSection plan.planGeneration recordingAttemptGeneration tasks
    (fun task => task.lifecycleState == .declared
      && task.lifecycleAttemptGeneration == recordingAttemptGeneration)
    (fun claim task => { task.clearRecordThunk with
      lifecycleState := .recording
      recordingClaimGeneration := claim
      submissionClaimGeneration := 0 })

/-- The locked section of `completePacketRecording`. -/
def completePacketRecording (plan : PublishedPlan) (tasks : List GpuTaskId)
    (lease : GpuTaskPacketRecordingLease) : Option GpuTaskGraphLifecycle :=
  graph.packetSection (graph.inAttempt plan.planGeneration lease.recordingAttemptGeneration) tasks
    (fun task => task.lifecycleState == .recording
      && task.lifecycleAttemptGeneration == lease.recordingAttemptGeneration
      && task.recordingClaimGeneration == lease.claimGeneration
      && !task.recordThunkInProgress
      && !(task.hasRecordPayload && !task.recordThunkCompleted))
    (fun task => { task.clearRecordThunk with
      lifecycleState := .recorded
      recordingClaimGeneration := 0 })

/-- `packetReadyForSubmission`, which changes nothing. -/
def packetReadyForSubmission (plan : PublishedPlan) (tasks : List GpuTaskId)
    (recordingAttemptGeneration : ℕ) : Bool :=
  graph.packetArguments plan tasks && recordingAttemptGeneration != 0
    && graph.inAttempt plan.planGeneration recordingAttemptGeneration
    && graph.admitted tasks (fun task => task.lifecycleState == .recorded
      && task.lifecycleAttemptGeneration == recordingAttemptGeneration)

/-! ### Submission claims -/

/-- The locked section of `beginPacketSubmission`. -/
def beginPacketSubmission (plan : PublishedPlan) (tasks : List GpuTaskId)
    (recordingAttemptGeneration : ℕ) :
    GpuTaskGraphLifecycle × Option GpuTaskPacketSubmissionLease :=
  graph.claimSection plan.planGeneration recordingAttemptGeneration tasks
    (fun task => task.lifecycleState == .recorded
      && task.lifecycleAttemptGeneration == recordingAttemptGeneration
      && task.recordingClaimGeneration == 0
      && task.submissionClaimGeneration == 0
      && !task.recordThunkInProgress)
    (fun claim task => { task with
      lifecycleState := .submitting
      submissionClaimGeneration := claim })

/-! ### Recording attempts -/

/-- A state in which `beginRecordingAttempt` finds the previous attempt still in use. -/
def attemptInUse : GpuTaskLifecycleState → Bool
  | .declared | .discarded => false
  | _ => true

/-- What `beginRecordingAttempt` does under its lock. -/
inductive AttemptOutcome
  | refused
  | kept
  | rearmed (graph : GpuTaskGraphLifecycle)

/-- The loop over all tasks lets the attempt be replaced. -/
def rearmable (planChanged : Bool) : Bool :=
  graph.tasks.all fun task =>
    task.lifecycleAttemptGeneration == graph.activeRecordingAttemptGeneration
      && !attemptInUse task.lifecycleState
      && !((graph.activeRecordingPlanGeneration == 0 && task.lifecycleState == .discarded)
        || ((!planChanged || graph.activeRecordingPlanGeneration != 0)
          && task.lifecycleState != .discarded))

/-- Every task starts over in a fresh attempt for the plan. -/
def rearm (planGeneration : ℕ) : GpuTaskGraphLifecycle :=
  let (attempt, next) := allocateGeneration graph.nextGeneration
  { graph with
    activeRecordingPlanGeneration := planGeneration
    activeRecordingAttemptGeneration := attempt
    nextGeneration := next
    tasks := graph.tasks.map fun task => { task.clearRecordThunk with
      lifecycleState := .declared
      lifecycleAttemptGeneration := attempt
      recordingClaimGeneration := 0
      submissionClaimGeneration := 0 } }

/-- The locked section of `beginRecordingAttempt`. -/
def beginRecordingAttempt (plan : PublishedPlan) (tasks : List GpuTaskId) : AttemptOutcome :=
  if graph.teardownInProgress then .refused
  else if !graph.admitted tasks (fun task =>
      task.lifecycleAttemptGeneration == graph.activeRecordingAttemptGeneration
        && !attemptInUse task.lifecycleState) then .refused
  else
    let selectedTaskWasDiscarded := tasks.any fun id =>
      (graph.tasks[id.index]?).any (·.lifecycleState == .discarded)
    let planChanged := graph.activeRecordingPlanGeneration != plan.planGeneration
    if !planChanged && !selectedTaskWasDiscarded then .kept
    else if graph.rearmable planChanged then .rearmed (graph.rearm plan.planGeneration)
    else .refused

end GpuTaskGraphLifecycle

/-! ## Operations with callbacks -/

/-- An operation that runs callbacks between two locked sections. -/
structure CallbackOperation where
  kind : CallbackKind
  tasks : List GpuTaskId
  /-- The attempt the caller carries. -/
  attempt : ℕ
  openAllowed : GpuTaskGraphLifecycle → Bool
  opens : GpuTaskGraphLifecycle → GpuTaskLifecycleNode → Bool
  opening : GpuTaskLifecycleNode → GpuTaskLifecycleNode
  /-- The callback loop looks at the task's state again before each callback. -/
  rereads : Bool
  closeAllowed : GpuTaskGraphLifecycle → Bool
  closes : GpuTaskLifecycleNode → Bool
  closing : GpuTaskLifecycleNode → GpuTaskLifecycleNode

/-- The state a task has while its callback runs. -/
def CallbackKind.transit : CallbackKind → GpuTaskLifecycleState
  | .accept => .accepting
  | .discard => .discarding

/-- The state a task has after its callback. -/
def CallbackKind.done : CallbackKind → GpuTaskLifecycleState
  | .accept => .accepted
  | .discard => .discarded

namespace CallbackOperation

/-- The section before the callbacks. -/
def openSection (op : CallbackOperation) (graph : GpuTaskGraphLifecycle) :
    Option GpuTaskGraphLifecycle :=
  graph.packetSection (op.openAllowed graph) op.tasks (op.opens graph) op.opening

/-- The section after the callbacks. -/
def closeSection (op : CallbackOperation) (graph : GpuTaskGraphLifecycle) :
    Option GpuTaskGraphLifecycle :=
  graph.packetSection (op.closeAllowed graph) op.tasks op.closes op.closing

end CallbackOperation

/-- The operations on a lease: the tasks leave one state under the lease's claim, and both sections
check plan, attempt and claim. -/
def leaseOperation (kind : CallbackKind) (plan : PublishedPlan) (tasks : List GpuTaskId)
    (lease : PacketLease) (source : GpuTaskLifecycleState)
    (claim : GpuTaskLifecycleNode → ℕ) (ready : GpuTaskLifecycleNode → Bool)
    (release : GpuTaskLifecycleNode → GpuTaskLifecycleNode) : CallbackOperation where
  kind := kind
  tasks := tasks
  attempt := lease.recordingAttemptGeneration
  openAllowed := fun graph =>
    graph.inAttempt plan.planGeneration lease.recordingAttemptGeneration
  opens := fun _ task => task.lifecycleState == source
    && task.lifecycleAttemptGeneration == lease.recordingAttemptGeneration
    && claim task == lease.claimGeneration
    && ready task
  opening := fun task => { task with lifecycleState := kind.transit }
  rereads := false
  closeAllowed := fun graph =>
    graph.inAttempt plan.planGeneration lease.recordingAttemptGeneration
  closes := fun task => task.lifecycleState == kind.transit
    && task.lifecycleAttemptGeneration == lease.recordingAttemptGeneration
    && claim task == lease.claimGeneration
  closing := fun task => { release task with lifecycleState := kind.done }

/-- `completePacketSubmission`. -/
def completePacketSubmissionOperation (plan : PublishedPlan) (tasks : List GpuTaskId)
    (lease : GpuTaskPacketSubmissionLease) : CallbackOperation :=
  leaseOperation .accept plan tasks lease .submitting (·.submissionClaimGeneration)
    (fun _ => true) (fun task => { task with submissionClaimGeneration := 0 })

/-- `abortPacketSubmission`. -/
def abortPacketSubmissionOperation (plan : PublishedPlan) (tasks : List GpuTaskId)
    (lease : GpuTaskPacketSubmissionLease) : CallbackOperation :=
  leaseOperation .discard plan tasks lease .submitting (·.submissionClaimGeneration)
    (fun _ => true) (fun task => { task with submissionClaimGeneration := 0 })

/-- `abortPacketRecording`, which waits for a running record thunk. -/
def abortPacketRecordingOperation (plan : PublishedPlan) (tasks : List GpuTaskId)
    (lease : GpuTaskPacketRecordingLease) : CallbackOperation :=
  leaseOperation .discard plan tasks lease .recording (·.recordingClaimGeneration)
    (fun task => !task.recordThunkInProgress)
    (fun task => { task.clearRecordThunk with recordingClaimGeneration := 0 })

/-- `discardUnacceptedPacket`: tasks that are already discarded stay so, and the callback loop
asks every task again whether it is being discarded. -/
def discardUnacceptedPacketOperation (plan : PublishedPlan) (tasks : List GpuTaskId)
    (recordingAttemptGeneration : ℕ) : CallbackOperation where
  kind := .discard
  tasks := tasks
  attempt := recordingAttemptGeneration
  openAllowed := fun graph => graph.inAttempt plan.planGeneration recordingAttemptGeneration
  opens := fun _ task => (task.lifecycleState == .declared || task.lifecycleState == .recorded
      || task.lifecycleState == .discarded)
    && task.lifecycleAttemptGeneration == recordingAttemptGeneration
  opening := fun task =>
    if task.lifecycleState != .discarded then { task with lifecycleState := .discarding } else task
  rereads := true
  closeAllowed := fun graph => graph.inAttempt plan.planGeneration recordingAttemptGeneration
  closes := fun task =>
    (task.lifecycleState == .discarding || task.lifecycleState == .discarded)
      && task.lifecycleAttemptGeneration == recordingAttemptGeneration
  closing := fun task =>
    if task.lifecycleState == .discarding then
      { task with lifecycleState := .discarded, recordingClaimGeneration := 0 }
    else task

/-- The section guards that `acceptTask` and `discardTask` share. -/
def taskSectionAllowed (recordingAttemptGeneration : ℕ) (graph : GpuTaskGraphLifecycle) : Bool :=
  !graph.teardownInProgress && recordingAttemptGeneration != 0
    && recordingAttemptGeneration == graph.activeRecordingAttemptGeneration

/-- `acceptTask` with an explicit attempt.  Its last section has no teardown check. -/
def acceptTaskOperation (task : GpuTaskId) (token : QueueSubmissionToken)
    (recordingAttemptGeneration : ℕ) : CallbackOperation where
  kind := .accept
  tasks := [task]
  attempt := recordingAttemptGeneration
  openAllowed := fun graph => token.valid && taskSectionAllowed recordingAttemptGeneration graph
  opens := fun graph task =>
    task.lifecycleState
        == (if graph.activeRecordingPlanGeneration = 0 then .declared else .recorded)
      && task.lifecycleAttemptGeneration == recordingAttemptGeneration
  opening := fun task => { task with lifecycleState := .accepting }
  rereads := false
  closeAllowed := fun graph =>
    recordingAttemptGeneration == graph.activeRecordingAttemptGeneration
  closes := fun task => task.lifecycleState == .accepting
    && task.lifecycleAttemptGeneration == recordingAttemptGeneration
  closing := fun task => { task with lifecycleState := .accepted }

/-- `discardTask` with an explicit attempt. -/
def discardTaskOperation (task : GpuTaskId) (recordingAttemptGeneration : ℕ) :
    CallbackOperation where
  kind := .discard
  tasks := [task]
  attempt := recordingAttemptGeneration
  openAllowed := taskSectionAllowed recordingAttemptGeneration
  opens := fun _ task => (task.lifecycleState == .declared || task.lifecycleState == .recorded)
    && task.lifecycleAttemptGeneration == recordingAttemptGeneration
  opening := fun task => { task with lifecycleState := .discarding }
  rereads := false
  closeAllowed := fun graph =>
    recordingAttemptGeneration == graph.activeRecordingAttemptGeneration
  closes := fun task => task.lifecycleState == .discarding
    && task.lifecycleAttemptGeneration == recordingAttemptGeneration
  closing := fun task => { task with lifecycleState := .discarded, recordingClaimGeneration := 0 }

end NwbLot.PacketRuntime
