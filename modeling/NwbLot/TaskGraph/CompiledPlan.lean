import NwbLot.Library.Spans
import NwbLot.TaskGraph.Analysis

/-!
# Compiled plan storage

The vectors of `GpuCompiledGraph` as the compiler passes fill them (`GpuTaskGraphCompiledPlanStorage`
of `compiler_internal.h`), their lookups, and the queue assignment the passes read.
-/

namespace NwbLot.TaskGraph

/-! ## Queue assignments -/

/-- Why a task got its queue. -/
inductive GpuTaskQueueAssignmentReason
  | unknown
  | requiredGraphics
  | preferredQueue
  | dedicatedCompute
  | dedicatedTransfer
  | fallback
  | conservativeAny
  | sameClassRouting
  deriving DecidableEq, Repr, Inhabited

/-- The queue of a task. -/
structure GpuTaskQueueAssignment where
  task : GpuTaskId := {}
  queue : GpuPhysicalQueueId := {}
  queueClass : CommandQueue := .kCount
  reason : GpuTaskQueueAssignmentReason := .unknown
  dedicated : Bool := false
  deriving DecidableEq, Repr, Inhabited

/-- A successful queue assignment. -/
structure GpuTaskGraphQueueAssignments where
  assignments : List GpuTaskQueueAssignment := []
  generation : ℕ := 0
  deriving Repr, Inhabited

/-- `GpuTaskGraphQueueAssignments::find`. -/
def GpuTaskGraphQueueAssignments.find (assignments : GpuTaskGraphQueueAssignments)
    (task : GpuTaskId) : Option GpuTaskQueueAssignment :=
  if task.generation ≠ assignments.generation then none
  else assignments.assignments.find? (·.task == task)

/-! ## Packets and compiled tasks -/

/-- When tasks share a packet. -/
inductive GpuTaskGraphPacketizationPolicy
  | explicitMerge
  | frontierSafe
  | frontierScored
  deriving DecidableEq, Repr, Inhabited

/-- Why a task joined a packet or opened one. -/
inductive GpuTaskPacketizationDecision
  | unknown
  | firstTask
  | mergeNotRequested
  | taskForcesBoundary
  | queueChanged
  | precedingTaskForcesBoundary
  | scoredMergeIneligible
  | mergeRequiresExplicitImmediateDependency
  | crossQueueConsumerFrontier
  | mergedExplicit
  | mergedFrontierScored
  | scoredMergeDomainMismatch
  deriving DecidableEq, Repr, Inhabited

/-- A packet with its spans in the plan's tables. -/
structure GpuSubmissionPacket where
  queue : GpuPhysicalQueueId := {}
  taskOffset : ℕ := 0
  taskCount : ℕ := 0
  dependencyOffset : ℕ := 0
  dependencyCount : ℕ := 0
  externalDependencyOffset : ℕ := 0
  externalDependencyCount : ℕ := 0
  recordingFrontier : ℕ := 0
  joinsAcceptedQueueFrontier : Bool := false
  deriving DecidableEq, Repr, Inhabited

/-- The consumer waits for the producer. -/
structure GpuPacketDependency where
  producer : GpuSubmissionPacketId := {}
  consumer : GpuSubmissionPacketId := {}
  deriving DecidableEq, Repr, Inhabited

/-- A task with its spans in the plan's tables. -/
structure GpuCompiledTask where
  task : GpuTaskId := {}
  queue : GpuPhysicalQueueId := {}
  packet : GpuSubmissionPacketId := {}
  packetizationDecision : GpuTaskPacketizationDecision := .unknown
  prologueStateSeedOffset : ℕ := 0
  prologueStateSeedCount : ℕ := 0
  prologueBarrierOffset : ℕ := 0
  prologueBarrierCount : ℕ := 0
  epilogueBarrierOffset : ℕ := 0
  epilogueBarrierCount : ℕ := 0
  deriving DecidableEq, Repr, Inhabited

/-- The task that leaves a range in its final state. -/
structure GpuCompiledExternalResourceExportSource where
  producerTask : GpuTaskId := {}
  sourceQueue : GpuPhysicalQueueId := {}
  range : GpuTaskResourceRange := {}
  deriving DecidableEq, Repr, Inhabited

/-- The export of a resource, over its sources. -/
structure GpuCompiledExternalResourceExport where
  resource : GpuGraphResourceId := {}
  producerTask : GpuTaskId := {}
  sourceQueue : GpuPhysicalQueueId := {}
  sourceOffset : ℕ := 0
  sourceCount : ℕ := 0
  destinationQueue : GpuPhysicalQueueId := {}
  finalState : ResourceStates := ResourceStates.unknown
  deriving DecidableEq, Repr, Inhabited

/-- The presented back buffer and its last packet. -/
structure GpuCompiledPresentEndpoint where
  producer : GpuTaskId := {}
  backBuffer : GpuGraphResourceId := {}
  packet : GpuSubmissionPacketId := {}
  queue : GpuPhysicalQueueId := {}
  deriving DecidableEq, Repr, Inhabited

/-! ## The plan -/

/-- The compiled vectors with the generations their handles carry. -/
structure GpuCompiledGraph where
  tasks : List GpuCompiledTask := []
  packets : List GpuSubmissionPacket := []
  packetTasks : List GpuTaskId := []
  packetDependencies : List GpuPacketDependency := []
  packetExternalDependencies : List GpuExternalCompletionId := []
  prologueStateSeeds : List GpuPacketStateSeed := []
  prologueBarriers : List GpuCompiledBarrier := []
  epilogueBarriers : List GpuCompiledBarrier := []
  externalResourceExports : List GpuCompiledExternalResourceExport := []
  externalResourceExportSources : List GpuCompiledExternalResourceExportSource := []
  queueTopology : GpuTaskGraphQueueTopology := []
  presentEndpoint : Option GpuCompiledPresentEndpoint := none
  graphGeneration : ℕ := 0
  deviceGeneration : ℕ := 0
  planGeneration : ℕ := 0
  deriving Repr, Inhabited

namespace GpuCompiledGraph

variable (plan : GpuCompiledGraph)

/-- The handle of the packet at an index. -/
def packetIdAt (index : ℕ) : GpuSubmissionPacketId := ⟨index, plan.planGeneration⟩

/-- `FindCompiledTask`. -/
def findCompiledTask (task : GpuTaskId) : Option GpuCompiledTask :=
  if !task.valid || task.generation != plan.graphGeneration then none
  else plan.tasks.find? (·.task == task)

/-- `FindCompiledPacketForTask`: the default handle when the task is not compiled. -/
def findCompiledPacketForTask (task : GpuTaskId) : GpuSubmissionPacketId :=
  match plan.findCompiledTask task with
  | some compiledTask => compiledTask.packet
  | none => {}

/-- `FindCompiledQueueInfo`. -/
def findCompiledQueueInfo (queue : GpuPhysicalQueueId) : Option GpuPhysicalQueueInfo :=
  if !queue.valid || queue.deviceGeneration != plan.deviceGeneration then none
  else plan.queueTopology.find? (·.id == queue)

/-- The tasks of one packet. -/
def packetTasksOf (packet : GpuSubmissionPacket) : List GpuTaskId :=
  Spans.part plan.packetTasks packet.taskOffset packet.taskCount

/-- `TaskPrologueStateSeeds`: none for an empty or out-of-range span. -/
def taskPrologueStateSeeds (task : GpuCompiledTask) : Option (List GpuPacketStateSeed) :=
  if task.prologueStateSeedCount = 0
      || plan.prologueStateSeeds.length < task.prologueStateSeedOffset
      || plan.prologueStateSeeds.length - task.prologueStateSeedOffset
        < task.prologueStateSeedCount then none
  else some (Spans.part plan.prologueStateSeeds task.prologueStateSeedOffset
    task.prologueStateSeedCount)

/-- The prologue barriers of a compiled task. -/
def prologueBarriersOf (task : GpuCompiledTask) : List GpuCompiledBarrier :=
  Spans.part plan.prologueBarriers task.prologueBarrierOffset task.prologueBarrierCount

/-- The epilogue barriers of a compiled task. -/
def epilogueBarriersOf (task : GpuCompiledTask) : List GpuCompiledBarrier :=
  Spans.part plan.epilogueBarriers task.epilogueBarrierOffset task.epilogueBarrierCount

/-- The packet dependencies recorded for one packet. -/
def packetDependenciesOf (packet : GpuSubmissionPacket) : List GpuPacketDependency :=
  Spans.part plan.packetDependencies packet.dependencyOffset packet.dependencyCount

end GpuCompiledGraph

end NwbLot.TaskGraph
