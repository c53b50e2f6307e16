import NwbLot.PacketRuntime.TaskLifecycle

/-!
# Interleaved lifecycle calls

The lifecycle calls of any number of threads on one graph, cut at the lock: argument checks, locked
sections and callbacks are separate steps, and a schedule is a list of events.
-/

namespace NwbLot.PacketRuntime

open TaskGraph

/-! ## Calls -/

/-- The calls with one locked section and no callback. -/
inductive LockedCall
  | beginRecordingAttempt (plan : PublishedPlan) (tasks : List GpuTaskId)
  | beginPacketRecording (plan : PublishedPlan) (tasks : List GpuTaskId)
      (recordingAttemptGeneration : ℕ) (outLease : GpuTaskPacketRecordingLease)
  | completePacketRecording (plan : PublishedPlan) (tasks : List GpuTaskId)
      (lease : GpuTaskPacketRecordingLease)
  | beginPacketSubmission (plan : PublishedPlan) (tasks : List GpuTaskId)
      (recordingAttemptGeneration : ℕ) (outLease : GpuTaskPacketSubmissionLease)

/-- The calls that run callbacks between two locked sections. -/
inductive CallbackCall
  | abortPacketRecording (plan : PublishedPlan) (tasks : List GpuTaskId)
      (lease : GpuTaskPacketRecordingLease)
  | completePacketSubmission (plan : PublishedPlan) (tasks : List GpuTaskId)
      (token : QueueSubmissionToken) (lease : GpuTaskPacketSubmissionLease)
  | abortPacketSubmission (plan : PublishedPlan) (tasks : List GpuTaskId)
      (lease : GpuTaskPacketSubmissionLease)
  | discardUnacceptedPacket (plan : PublishedPlan) (tasks : List GpuTaskId)
      (recordingAttemptGeneration : ℕ)
  | acceptTask (task : GpuTaskId) (token : QueueSubmissionToken) (recordingAttemptGeneration : ℕ)
  | discardTask (task : GpuTaskId) (recordingAttemptGeneration : ℕ)

/-- The checks that `completePacketRecording` and the calls on leases make before they lock. -/
def leaseArguments (graph : GpuTaskGraphLifecycle) (plan : PublishedPlan) (tasks : List GpuTaskId)
    (lease : PacketLease) : Bool :=
  graph.packetArguments plan tasks && lease.valid && lease.planGeneration == plan.planGeneration

/-- The checks before the lock. -/
def LockedCall.argumentsAccepted (graph : GpuTaskGraphLifecycle) : LockedCall → Bool
  | .beginRecordingAttempt plan tasks => graph.packetArguments plan tasks
  | .beginPacketRecording plan tasks recordingAttemptGeneration outLease
  | .beginPacketSubmission plan tasks recordingAttemptGeneration outLease =>
    graph.packetArguments plan tasks && recordingAttemptGeneration != 0 && !outLease.valid
  | .completePacketRecording plan tasks lease => leaseArguments graph plan tasks lease

namespace CallbackCall

/-- The checks before the first lock. -/
def argumentsAccepted (graph : GpuTaskGraphLifecycle) : CallbackCall → Bool
  | .abortPacketRecording plan tasks lease
  | .abortPacketSubmission plan tasks lease => leaseArguments graph plan tasks lease
  | .completePacketSubmission plan tasks token lease =>
    leaseArguments graph plan tasks lease && token.valid
  | .discardUnacceptedPacket plan tasks recordingAttemptGeneration =>
    graph.packetArguments plan tasks && recordingAttemptGeneration != 0
  | .acceptTask _ _ _
  | .discardTask _ _ => true

/-- The operation of a call. -/
def operation : CallbackCall → CallbackOperation
  | .abortPacketRecording plan tasks lease => abortPacketRecordingOperation plan tasks lease
  | .completePacketSubmission plan tasks _ lease =>
    completePacketSubmissionOperation plan tasks lease
  | .abortPacketSubmission plan tasks lease => abortPacketSubmissionOperation plan tasks lease
  | .discardUnacceptedPacket plan tasks recordingAttemptGeneration =>
    discardUnacceptedPacketOperation plan tasks recordingAttemptGeneration
  | .acceptTask task token recordingAttemptGeneration =>
    acceptTaskOperation task token recordingAttemptGeneration
  | .discardTask task recordingAttemptGeneration =>
    discardTaskOperation task recordingAttemptGeneration

end CallbackCall

/-- One call of `recordTask`, with what its record thunk will return. -/
structure RecordTaskCall where
  task : GpuTaskId
  plan : PublishedPlan
  recordingAttemptGeneration : ℕ
  lease : GpuTaskPacketRecordingLease
  recorded : Bool

/-- A call as its caller makes it.  The two overloads without an attempt read it under the lock. -/
inductive LifecycleCall
  | locked (call : LockedCall)
  | callback (call : CallbackCall)
  | acceptActiveTask (task : GpuTaskId) (token : QueueSubmissionToken)
  | discardActiveTask (task : GpuTaskId)
  | recordTask (call : RecordTaskCall)
  | reset

/-- How far a `reset` has come. -/
inductive ResetPoint
  | entering
  | tearingDown
  | discarding (next : ℕ)
  | destroying
  | clearing
  | refusing

/-- A call that has passed its argument checks, before its next step. -/
inductive PendingCall
  | locked (call : LockedCall)
  | readingAcceptAttempt (task : GpuTaskId) (token : QueueSubmissionToken)
  | readingDiscardAttempt (task : GpuTaskId)
  | opening (call : CallbackCall)
  /-- In the callback loop; `moved` keeps the tasks that the call's own first section moved. -/
  | calling (call : CallbackCall) (next : ℕ) (moved : List GpuTaskId)
  | recordOpening (call : RecordTaskCall)
  | recordRunning (call : RecordTaskCall)
  | reset (point : ResetPoint)

/-- The argument checks, and where a call that passes them stands. -/
def LifecycleCall.enter (graph : GpuTaskGraphLifecycle) : LifecycleCall → Option PendingCall
  | .locked call => if call.argumentsAccepted graph then some (.locked call) else none
  | .callback call => if call.argumentsAccepted graph then some (.opening call) else none
  | .acceptActiveTask task token => some (.readingAcceptAttempt task token)
  | .discardActiveTask task => some (.readingDiscardAttempt task)
  | .recordTask call =>
    if graph.validTask call.task && call.lease.valid then some (.recordOpening call) else none
  | .reset => some (.reset .entering)

/-! ## Recording one task -/

namespace RecordTaskCall

variable (call : RecordTaskCall) (graph : GpuTaskGraphLifecycle)

/-- The section of `recordTask` before the record thunk. -/
def openSection : Option GpuTaskGraphLifecycle :=
  graph.packetSection (!graph.teardownInProgress) [call.task]
    (fun task => task.lifecycleState == .recording
      && task.lifecycleAttemptGeneration == call.recordingAttemptGeneration
      && call.recordingAttemptGeneration != 0
      && task.recordingClaimGeneration == call.lease.claimGeneration
      && !task.recordThunkInProgress
      && !task.recordThunkCompleted
      && call.plan.validFor graph
      && graph.activeRecordingPlanGeneration == call.plan.planGeneration
      && graph.activeRecordingAttemptGeneration == call.recordingAttemptGeneration
      && call.lease.planGeneration == call.plan.planGeneration
      && call.lease.recordingAttemptGeneration == call.recordingAttemptGeneration)
    (fun task => { task with recordThunkInProgress := true })

/-- The section of `recordTask` behind the record thunk. -/
def closeSection : Option GpuTaskGraphLifecycle :=
  graph.packetSection (graph.inAttempt call.plan.planGeneration call.recordingAttemptGeneration)
    [call.task]
    (fun task => task.lifecycleState == .recording
      && task.lifecycleAttemptGeneration == call.recordingAttemptGeneration
      && task.recordingClaimGeneration == call.lease.claimGeneration
      && task.recordThunkInProgress)
    (fun task => { task with
      recordThunkInProgress := false
      recordThunkCompleted := call.recorded })

end RecordTaskCall

/-! ## Teardown -/

namespace GpuTaskGraphLifecycle

variable (graph : GpuTaskGraphLifecycle)

/-- The task work that `reset` and `destroyTaskPayloads` wait for. -/
def workInFlight : Bool :=
  graph.tasks.any fun task => task.lifecycleState == .recording
    || task.lifecycleState == .submitting || task.lifecycleState == .accepting
    || task.lifecycleState == .discarding

/-- The first section of `destroyTaskPayloads`, past its check. -/
def discardUnresolved : GpuTaskGraphLifecycle :=
  { graph with
    tasks := graph.tasks.map fun task =>
      if task.lifecycleState == .declared || task.lifecycleState == .recording
          || task.lifecycleState == .recorded then
        { task with lifecycleState := .discarding }
      else task }

/-- The second section of `destroyTaskPayloads`. -/
def settleDiscarded : GpuTaskGraphLifecycle :=
  { graph with
    tasks := graph.tasks.map fun task =>
      if task.lifecycleState != .discarding then task
      else { task.clearRecordThunk with
        lifecycleState := .discarded
        recordingClaimGeneration := 0
        submissionClaimGeneration := 0 } }

/-- The last loop of `destroyTaskPayloads`. -/
def destroyPayloads : GpuTaskGraphLifecycle :=
  { graph with
    tasks := graph.tasks.map fun task =>
      { task with payload := if task.payload = .live then .destroyed else task.payload } }

/-- The last section of `reset`. -/
def clear : GpuTaskGraphLifecycle :=
  let (generation, next) := allocateGeneration graph.nextGeneration
  let (declarationRevision, next) := allocateGeneration next
  let (attempt, next) := allocateGeneration next
  { generation, declarationRevision
    activeRecordingAttemptGeneration := attempt
    nextGeneration := next }

end GpuTaskGraphLifecycle

/-! ## The system -/

/-- One callback: the task's index and the thunk that ran. -/
abbrev TaskCallback := ℕ × CallbackKind

/-- The graph, the pending call of every thread, and the callbacks of the active and of all earlier
recording attempts, newest first. -/
structure LifecycleSystem where
  graph : GpuTaskGraphLifecycle
  calls : ℕ → Option PendingCall := fun _ => none
  attemptCallbacks : List TaskCallback := []
  earlierCallbacks : List (List TaskCallback) := []

/-- What a schedule can do next.  Declarations and the generations that other graphs take from the
process-wide counter are events of the environment. -/
inductive LifecycleEvent
  | call (thread : ℕ) (call : LifecycleCall)
  | advance (thread : ℕ)
  | declareTask (hasPayload hasRecordPayload hasAcceptPayload hasDiscardPayload : Bool)
  | declarePresentEndpoint (endpoint : GpuPresentEndpoint)
  | allocateElsewhere

namespace LifecycleSystem

variable (s : LifecycleSystem)

/-- The thread's call moves on, or ends. -/
def resume (thread : ℕ) (pending : Option PendingCall) : LifecycleSystem :=
  { s with calls := Function.update s.calls thread pending }

/-- The thread's call ends. -/
def finish (thread : ℕ) : LifecycleSystem := s.resume thread none

/-- The graph is replaced. -/
def withGraph (graph : GpuTaskGraphLifecycle) : LifecycleSystem := { s with graph := graph }

/-- The graph starts an attempt: its callbacks are counted anew. -/
def startAttempt (graph : GpuTaskGraphLifecycle) : LifecycleSystem :=
  { s with
    graph := graph
    attemptCallbacks := []
    earlierCallbacks := s.attemptCallbacks :: s.earlierCallbacks }

/-- The callback of one task. -/
def runCallback (index : ℕ) (kind : CallbackKind) : LifecycleSystem :=
  if (s.graph.tasks[index]?).any (·.runsCallback kind) then
    { s with attemptCallbacks := (index, kind) :: s.attemptCallbacks }
  else s

/-- The locked section of a call without callbacks. -/
def runLocked : LockedCall → LifecycleSystem
  | .beginRecordingAttempt plan tasks =>
    match s.graph.beginRecordingAttempt plan tasks with
    | .refused | .kept => s
    | .rearmed graph => s.startAttempt graph
  | .beginPacketRecording plan tasks recordingAttemptGeneration _ =>
    s.withGraph (s.graph.beginPacketRecording plan tasks recordingAttemptGeneration).1
  | .completePacketRecording plan tasks lease =>
    s.withGraph ((s.graph.completePacketRecording plan tasks lease).getD s.graph)
  | .beginPacketSubmission plan tasks recordingAttemptGeneration _ =>
    s.withGraph (s.graph.beginPacketSubmission plan tasks recordingAttemptGeneration).1

/-- One iteration of the callback loop. -/
def runLoopCallback (op : CallbackOperation) (id : GpuTaskId) : LifecycleSystem :=
  if op.rereads
      && !(s.graph.tasks[id.index]?).any (·.lifecycleState == op.kind.transit) then s
  else s.runCallback id.index op.kind

/-- The tasks that a first section moves: all but those that are already where the call leads. -/
def movedTasks (op : CallbackOperation) : List GpuTaskId :=
  op.tasks.filter fun id =>
    !(s.graph.tasks[id.index]?).any (·.lifecycleState == op.kind.done)

/-- The next step of a `reset`. -/
def advanceReset (thread : ℕ) : ResetPoint → LifecycleSystem
  | .entering =>
    if s.graph.teardownInProgress || s.graph.workInFlight then s.finish thread
    else (s.withGraph { s.graph with teardownInProgress := true }).resume thread
      (some (.reset .tearingDown))
  | .tearingDown =>
    if s.graph.workInFlight then s.resume thread (some (.reset .refusing))
    else (s.withGraph s.graph.discardUnresolved).resume thread (some (.reset (.discarding 0)))
  | .discarding next =>
    if next < s.graph.tasks.length then
      (if (s.graph.tasks[next]?).any (·.lifecycleState == .discarding) then
        s.runCallback next .discard
      else s).resume thread (some (.reset (.discarding (next + 1))))
    else (s.withGraph s.graph.settleDiscarded).resume thread (some (.reset .destroying))
  | .destroying =>
    (s.withGraph s.graph.destroyPayloads).resume thread (some (.reset .clearing))
  | .clearing => (s.startAttempt s.graph.clear).finish thread
  | .refusing =>
    (s.withGraph { s.graph with teardownInProgress := false }).finish thread

/-- The next step of a pending call. -/
def advance (thread : ℕ) : PendingCall → LifecycleSystem
  | .locked call => (s.runLocked call).finish thread
  | .readingAcceptAttempt task token =>
    if s.graph.teardownInProgress || s.graph.activeRecordingPlanGeneration != 0 then
      s.finish thread
    else s.resume thread
      (some (.opening (.acceptTask task token s.graph.activeRecordingAttemptGeneration)))
  | .readingDiscardAttempt task =>
    if s.graph.teardownInProgress || s.graph.activeRecordingPlanGeneration != 0 then
      s.finish thread
    else s.resume thread
      (some (.opening (.discardTask task s.graph.activeRecordingAttemptGeneration)))
  | .opening call =>
    match call.operation.openSection s.graph with
    | none => s.finish thread
    | some graph => (s.withGraph graph).resume thread
      (some (.calling call 0 (s.movedTasks call.operation)))
  | .calling call next moved =>
    match call.operation.tasks[next]? with
    | some id => (s.runLoopCallback call.operation id).resume thread
      (some (.calling call (next + 1) moved))
    | none =>
      (s.withGraph ((call.operation.closeSection s.graph).getD s.graph)).finish thread
  | .recordOpening call =>
    match call.openSection s.graph with
    | none => s.finish thread
    | some graph => (s.withGraph graph).resume thread (some (.recordRunning call))
  | .recordRunning call =>
    (s.withGraph ((call.closeSection s.graph).getD s.graph)).finish thread
  | .reset point => s.advanceReset thread point

/-- The node that `appendTask` adds. -/
def declaredNode (hasPayload hasRecordPayload hasAcceptPayload hasDiscardPayload : Bool) :
    GpuTaskLifecycleNode where
  payload := if hasPayload then .live else .null
  hasRecordPayload := hasRecordPayload
  hasAcceptPayload := hasAcceptPayload
  hasDiscardPayload := hasDiscardPayload
  lifecycleAttemptGeneration := s.graph.activeRecordingAttemptGeneration

/-- One event; a busy thread starts no call, and nothing is declared during a teardown. -/
def step : LifecycleEvent → Option LifecycleSystem
  | .call thread call =>
    if (s.calls thread).isSome then none else some (s.resume thread (call.enter s.graph))
  | .advance thread => (s.calls thread).map (s.advance thread)
  | .declareTask hasPayload hasRecordPayload hasAcceptPayload hasDiscardPayload =>
    if s.graph.teardownInProgress then none
    else some (s.withGraph { s.graph with
      tasks := s.graph.tasks ++
        [s.declaredNode hasPayload hasRecordPayload hasAcceptPayload hasDiscardPayload] })
  | .declarePresentEndpoint endpoint =>
    let (declarationRevision, next) := allocateGeneration s.graph.nextGeneration
    some (s.withGraph { s.graph with
      presentEndpoint := some endpoint
      declarationRevision
      nextGeneration := next })
  | .allocateElsewhere =>
    some (s.withGraph { s.graph with
      nextGeneration := (allocateGeneration s.graph.nextGeneration).2 })

/-- A constructed graph takes its three generations from the counter. -/
def constructed (next : ℕ) : LifecycleSystem where
  graph :=
    let (generation, next) := allocateGeneration next
    let (declarationRevision, next) := allocateGeneration next
    let (attempt, next) := allocateGeneration next
    { generation, declarationRevision
      activeRecordingAttemptGeneration := attempt
      nextGeneration := next }

end LifecycleSystem

end NwbLot.PacketRuntime
