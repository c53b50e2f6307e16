import NwbLot.Library.Runs
import NwbLot.Vulkan.QueueSubmission

/-!
# The timeline of a queue and its command buffers

`queue.cpp`: the command buffers of a queue on their way from the pools to the command lists, with a
submission into the list of those in flight, and back once the timeline has passed it or when the
submission is rejected.

What a command buffer references (resources, descriptor heaps, retained states) is left out.
-/

namespace NwbLot.Vulkan

open TaskGraph Runs

/-- A command buffer and its last submission. -/
structure TrackedCommandBuffer where
  recordingID : ℕ := 0
  recordingWorkerIndex : ℕ := 0
  submissionID : ℕ := 0
  deriving DecidableEq, Repr

/-- A worker's shard of command buffers. -/
structure WorkerCommandArena where
  recordingWorkerIndex : ℕ
  commandBuffersPool : List TrackedCommandBuffer := []
  deriving DecidableEq, Repr

/-- A queue with its command buffers. -/
structure TimelineQueue extends Queue where
  lastRecordingID : ℕ := 0
  lastFinishedID : ℕ := 0
  commandBuffersInFlight : List TrackedCommandBuffer := []
  commandBuffersPool : List TrackedCommandBuffer := []
  workerCommandArenas : List WorkerCommandArena := []
  deriving Repr

/-- A command list and the command buffer it records into or has recorded. -/
structure RecordingList where
  queueType : CommandQueue := .kCount
  physicalQueue : GpuPhysicalQueueId := {}
  recordingWorkerIndex : ℕ := 0
  currentCmdBuf : Option TrackedCommandBuffer := none
  deriving DecidableEq, Repr

/-- What submission checks of a list. -/
def RecordingList.toCommandList (list : RecordingList) : CommandList where
  queueType := list.queueType
  physicalQueue := list.physicalQueue
  hasCommandBuffer := list.currentCmdBuf.isSome

/-! ## Retirement -/

namespace TimelineQueue

variable (queue : TimelineQueue)

/-- `push_back` into the pool of a worker's arena. -/
def pushWorker (cmdBuf : TrackedCommandBuffer) :
    List WorkerCommandArena → Option (List WorkerCommandArena)
  | [] => none
  | arena :: rest =>
    if arena.recordingWorkerIndex = cmdBuf.recordingWorkerIndex then
      some ({ arena with commandBuffersPool := arena.commandBuffersPool ++ [cmdBuf] } :: rest)
    else (pushWorker cmdBuf rest).map (arena :: ·)

/-- A worker's buffer returns to its arena, any other to the pool. -/
def recycleCommandBuffer (cmdBuf : TrackedCommandBuffer) : TimelineQueue :=
  if cmdBuf.recordingWorkerIndex = 0 then
    { queue with commandBuffersPool := queue.commandBuffersPool ++ [cmdBuf] }
  else
    match pushWorker cmdBuf queue.workerCommandArenas with
    | some workerCommandArenas => { queue with workerCommandArenas }
    | none => { queue with commandBuffersPool := queue.commandBuffersPool ++ [cmdBuf] }

/-- All of these return. -/
def recycleAll (cmdBufs : List TrackedCommandBuffer) : TimelineQueue :=
  cmdBufs.foldl recycleCommandBuffer queue

/-- The loop of `collectCompletedCommandBuffers`: the front of the list goes while it is
complete. -/
def collectLoop : List TrackedCommandBuffer → TimelineQueue → TimelineQueue
  | [], queue => { queue with commandBuffersInFlight := [] }
  | cmdBuf :: rest, queue =>
    if queue.lastFinishedID < cmdBuf.submissionID then
      { queue with commandBuffersInFlight := cmdBuf :: rest }
    else collectLoop rest (queue.recycleCommandBuffer cmdBuf)

/-- Completed buffers in flight return to the pool. -/
def collectCompletedCommandBuffers : TimelineQueue :=
  collectLoop queue.commandBuffersInFlight queue

/-- `updateLastFinishedID`; `completedValue` is what the device answers, if it does. -/
def updateLastFinishedID (completedValue : Option ℕ) : TimelineQueue :=
  if queue.trackingSemaphore = 0 then { queue with lastFinishedID := queue.lastSubmittedID }
  else
    match completedValue with
    | some value => { queue with lastFinishedID := max queue.lastFinishedID value }
    | none => queue

/-- A wait that succeeds completes every submission. -/
def waitForIdle (succeeded : Bool) : TimelineQueue :=
  if succeeded then
    { queue with lastFinishedID := queue.lastSubmittedID }.collectCompletedCommandBuffers
  else queue

/-! ## Acquisition -/

/-- `createCommandBuffer`; `created` when the device has one. -/
def createCommandBuffer (recordingWorkerIndex : ℕ) (created : Bool) :
    TimelineQueue × Option TrackedCommandBuffer :=
  if created then
    ({ queue with lastRecordingID := queue.lastRecordingID + 1 },
      some { recordingID := queue.lastRecordingID + 1, recordingWorkerIndex })
  else (queue, none)

/-- A command buffer from a pool is reset, or replaced when that fails. -/
def reuseCommandBuffer (cmdBuf : TrackedCommandBuffer) (recordingWorkerIndex : ℕ)
    (wasReset created : Bool) : TimelineQueue × Option TrackedCommandBuffer :=
  if wasReset then
    ({ queue with lastRecordingID := queue.lastRecordingID + 1 },
      some { cmdBuf with recordingID := queue.lastRecordingID + 1, recordingWorkerIndex })
  else queue.createCommandBuffer recordingWorkerIndex created

/-- The first direct command buffer of the pool, or a new one. -/
def takeDirectCommandBuffer (wasReset created : Bool) :
    TimelineQueue × Option TrackedCommandBuffer :=
  match queue.commandBuffersPool.find? (·.recordingWorkerIndex == 0) with
  | some cmdBuf =>
    { queue with
      commandBuffersPool := queue.commandBuffersPool.eraseP (·.recordingWorkerIndex == 0)
      }.reuseCommandBuffer cmdBuf 0 wasReset created
  | none => queue.createCommandBuffer 0 created

/-- A pooled buffer, or a new one. -/
def getOrCreateDirectCommandBuffer (completedValue : Option ℕ) (wasReset created : Bool) :
    TimelineQueue × Option TrackedCommandBuffer :=
  (queue.updateLastFinishedID completedValue).collectCompletedCommandBuffers.takeDirectCommandBuffer
    wasReset created

/-- The first command buffer of a worker's arena, and the arenas without it. -/
def popWorker (recordingWorkerIndex : ℕ) :
    List WorkerCommandArena → Option (Option TrackedCommandBuffer × List WorkerCommandArena)
  | [] => none
  | arena :: rest =>
    if arena.recordingWorkerIndex = recordingWorkerIndex then
      match arena.commandBuffersPool with
      | [] => some (none, arena :: rest)
      | cmdBuf :: pool => some (some cmdBuf, { arena with commandBuffersPool := pool } :: rest)
    else
      (popWorker recordingWorkerIndex rest).map fun (cmdBuf, arenas) => (cmdBuf, arena :: arenas)

/-- `getOrCreateWorkerCommandBuffer`; `arenaCreated` when the device has a pool for a new arena. -/
def getOrCreateWorkerCommandBuffer (recordingWorkerIndex : ℕ)
    (arenaCreated wasReset created : Bool) : TimelineQueue × Option TrackedCommandBuffer :=
  match popWorker recordingWorkerIndex queue.workerCommandArenas with
  | some (some cmdBuf, workerCommandArenas) =>
    { queue with workerCommandArenas }.reuseCommandBuffer cmdBuf recordingWorkerIndex wasReset
      created
  | some (none, _) => queue.createCommandBuffer recordingWorkerIndex created
  | none =>
    if arenaCreated then
      let arena : WorkerCommandArena := { recordingWorkerIndex }
      { queue with workerCommandArenas := queue.workerCommandArenas ++ [arena]
        }.createCommandBuffer recordingWorkerIndex created
    else (queue, none)

end TimelineQueue

/-! ## Submission -/

/-- A queue and the command lists recorded for it. -/
structure QueueSystem (ListId : Type) where
  queue : TimelineQueue
  lists : ListId → RecordingList

namespace QueueSystem

variable {ListId : Type} [DecidableEq ListId] (system : QueueSystem ListId)

/-- The command buffer of a list is replaced. -/
def setCommandBuffer (list : ListId) (cmdBuf : Option TrackedCommandBuffer) : QueueSystem ListId :=
  { system with
    lists := Function.update system.lists list { system.lists list with currentCmdBuf := cmdBuf } }

/-- The loop that moves the command buffers out of the lists: each gets the submission's number,
and a list that comes twice is empty the second time. -/
def takeCommandBuffers :
    QueueSystem ListId → List (Option ListId) → QueueSystem ListId × List TrackedCommandBuffer
  | system, [] => (system, [])
  | system, none :: rest => takeCommandBuffers system rest
  | system, some list :: rest =>
    match (system.lists list).currentCmdBuf with
    | none => takeCommandBuffers system rest
    | some cmdBuf =>
      let taken := takeCommandBuffers (system.setCommandBuffer list none) rest
      (taken.1, { cmdBuf with submissionID := system.queue.lastSubmittedID + 1 } :: taken.2)

/-- Nothing is pending. -/
def clearPendingSemaphores : QueueSystem ListId :=
  { system with queue := { system.queue with waitSemaphores := [], signalSemaphores := [] } }

/-- The command lists as the checks before the submission see them. -/
def commandLists (ppCmd : List (Option ListId)) : List (Option CommandList) :=
  ppCmd.map (·.map fun list => (system.lists list).toCommandList)

/-- `Queue::submit` of command lists, with the token if it is accepted. -/
def submit (ppCmd : List (Option ListId)) (localWaits : List SubmissionWait)
    (localSignals : List SubmissionSignal) (nativeAccepted : Bool) :
    QueueSystem ListId × Option ℕ :=
  if system.queue.refusesSubmission (system.commandLists ppCmd) localWaits localSignals then
    (system.clearPendingSemaphores, none)
  else
    let taken := system.takeCommandBuffers ppCmd
    if taken.2.isEmpty && !system.queue.hasPendingSemaphores localWaits localSignals then
      (taken.1, none)
    else if system.queue.trackingSemaphore = 0 || localWaits.any (·.semaphore == 0)
        || !nativeAccepted then
      let cleared := taken.1.clearPendingSemaphores
      ({ cleared with queue := cleared.queue.recycleAll taken.2 }, none)
    else
      let cleared := taken.1.clearPendingSemaphores
      let submissionID := cleared.queue.lastSubmittedID + 1
      ({ cleared with
          queue :=
            { cleared.queue with
              lastSubmittedID := submissionID
              commandBuffersInFlight := cleared.queue.commandBuffersInFlight ++ taken.2 } },
        some submissionID)

/-! ## Calls -/

/-- What happens to the queue and its lists, with the answers of the device. -/
inductive QueueCall (ListId : Type)
  | open (list : ListId) (completedValue : Option ℕ) (arenaCreated wasReset created : Bool)
  | drop (list : ListId)
  | addWaitSemaphore (semaphore value : ℕ)
  | addSignalSemaphore (semaphore value : ℕ)
  | submit (ppCmd : List (Option ListId)) (localWaits : List SubmissionWait)
      (localSignals : List SubmissionSignal) (nativeAccepted : Bool)
  | poll (completedValue : Option ℕ)
  | runGarbageCollection (completedValue : Option ℕ) (deviceLost : Bool)
  | waitForIdle (succeeded : Bool)
  deriving Repr

/-- `getOrCreateCommandBuffer` for a list that is opened. -/
def openList (list : ListId) (completedValue : Option ℕ) (arenaCreated wasReset created : Bool) :
    QueueSystem ListId :=
  let worker := (system.lists list).recordingWorkerIndex
  let acquired :=
    if worker = 0 then
      system.queue.getOrCreateDirectCommandBuffer completedValue wasReset created
    else system.queue.getOrCreateWorkerCommandBuffer worker arenaCreated wasReset created
  { system with queue := acquired.1 }.setCommandBuffer list acquired.2

/-- A call, with the token of an accepted submission. -/
def perform : QueueCall ListId → QueueSystem ListId × Option ℕ
  | .open list completedValue arenaCreated wasReset created =>
    (system.openList list completedValue arenaCreated wasReset created, none)
  | .drop list => (system.setCommandBuffer list none, none)
  | .addWaitSemaphore semaphore value =>
    if semaphore = 0 then (system, none)
    else
      ({ system with
          queue :=
            { system.queue with
              waitSemaphores := system.queue.waitSemaphores ++ [{ semaphore, value }] } }, none)
  | .addSignalSemaphore semaphore value =>
    if semaphore = 0 then (system, none)
    else
      ({ system with
          queue :=
            { system.queue with
              signalSemaphores := system.queue.signalSemaphores ++ [{ semaphore, value }] } }, none)
  | .submit ppCmd localWaits localSignals nativeAccepted =>
    system.submit ppCmd localWaits localSignals nativeAccepted
  | .poll completedValue =>
    ({ system with queue := system.queue.updateLastFinishedID completedValue }, none)
  | .runGarbageCollection completedValue deviceLost =>
    let updated := system.queue.updateLastFinishedID completedValue
    ({ system with
        queue := if deviceLost then updated else updated.collectCompletedCommandBuffers }, none)
  | .waitForIdle succeeded => ({ system with queue := system.queue.waitForIdle succeeded }, none)

/-- A new queue and its command lists. -/
def start (physicalQueue : GpuPhysicalQueueId) (queueID : CommandQueue) (trackingSemaphore : ℕ)
    (lists : ListId → RecordingList) : QueueSystem ListId where
  queue := { physicalQueue, queueID, trackingSemaphore }
  lists := lists

/-- An event of a run: a call and the token it got. -/
def step (system : QueueSystem ListId) (event : QueueCall ListId × Option ℕ) :
    Option (QueueSystem ListId) :=
  if (system.perform event.1).2 = event.2 then some (system.perform event.1).1 else none

/-- The value of the device that a call reads. -/
def QueueCall.completedValue : QueueCall ListId → Option ℕ
  | .open _ completedValue _ _ _ | .poll completedValue
  | .runGarbageCollection completedValue _ => completedValue
  | _ => none

end QueueSystem

end NwbLot.Vulkan
