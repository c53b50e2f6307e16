import NwbLot.PacketRuntime.Transaction
import NwbLot.TaskGraph.InitialOwnerImports
import NwbLot.Vulkan.QueueSubmission

/-!
# Packet submission

`GpuTaskGraphSubmitter::submitPacket` of `packet_runtime_submission.cpp`: the wait tokens of a
packet, resolved and validated, and the native submission between the transaction's reservation and
its publication.
-/

namespace NwbLot.PacketRuntime

open TaskGraph Vulkan

/-! ## Recorded graphs -/

/-- The command lists a packet was recorded into. -/
structure GpuRecordedPacket where
  packet : GpuSubmissionPacketId := {}
  commandLists : List (Option CommandList) := []
  deriving Repr, Inhabited

/-- `GpuRecordedPacket::s_MaxCommandLists`. -/
def maxCommandLists : ℕ := 12

/-- A recorded graph; `reset` gives its three vectors one length. -/
structure GpuRecordedGraph where
  packets : List GpuRecordedPacket := []
  generation : ℕ := 0
  planGeneration : ℕ := 0
  recordingAttemptGeneration : ℕ := 0
  deviceGeneration : ℕ := 0
  isValid : Bool := false
  deriving Repr, Inhabited

namespace GpuRecordedGraph

variable (recordedGraph : GpuRecordedGraph)

/-- `GpuRecordedGraph::validFor` of a graph and a plan. -/
def validFor (graph : GpuTaskGraphLifecycle) (plan : PublishedPlan) : Bool :=
  recordedGraph.isValid && plan.valid
    && recordedGraph.generation == plan.compiled.graphGeneration
    && recordedGraph.planGeneration == plan.planGeneration
    && recordedGraph.deviceGeneration == plan.compiled.deviceGeneration
    && recordedGraph.packets.length == plan.compiled.packets.length
    && recordedGraph.recordingAttemptGeneration != 0
    && graph.matchesRecordingAttempt plan recordedGraph.recordingAttemptGeneration

/-- The recorded packet of a handle. -/
def find (packet : GpuSubmissionPacketId) : Option GpuRecordedPacket :=
  if !packet.valid || packet.generation != recordedGraph.planGeneration then none
  else (recordedGraph.packets[packet.index]?).filter fun recorded =>
    recorded.packet == packet && !recorded.commandLists.isEmpty

end GpuRecordedGraph

/-! ## External completions -/

/-- The token a caller binds to an imported completion. -/
structure GpuTaskGraphExternalCompletionToken where
  completion : GpuExternalCompletionId := {}
  token : QueueSubmissionToken := {}
  deriving DecidableEq, Repr, Inhabited

/-- The binding belongs to the plan. -/
def GpuTaskGraphExternalCompletionToken.validFor (binding : GpuTaskGraphExternalCompletionToken)
    (plan : PublishedPlan) : Bool :=
  plan.valid && binding.completion.valid
    && binding.completion.generation == plan.compiled.graphGeneration
    && binding.token.valid && binding.token.hasPhysicalQueueIdentity
    && binding.token.deviceGeneration == plan.compiled.deviceGeneration

/-! ## Owner handoffs -/

/-- `TextureRangeContains`. -/
def textureRangeContains (outer inner : TextureSubresourceSet) : Bool :=
  decide (outer.baseMipLevel ≤ inner.baseMipLevel)
    && decide (rangeEnd inner.baseMipLevel inner.numMipLevels allMipLevels
      ≤ rangeEnd outer.baseMipLevel outer.numMipLevels allMipLevels)
    && decide (outer.baseArraySlice ≤ inner.baseArraySlice)
    && decide (rangeEnd inner.baseArraySlice inner.numArraySlices allArraySlices
      ≤ rangeEnd outer.baseArraySlice outer.numArraySlices allArraySlices)

namespace GpuTaskGraphSubmitter

/-- `FindInitialOwnerHandoffSource` of submission: the only listed source between the barrier's
queues that contains its range. -/
def findInitialOwnerHandoffSource (resource : GpuTaskGraphResourceView)
    (barrier : GpuCompiledBarrier) : Option GpuTaskGraphInitialOwnerHandoffSourceView :=
  if resource.initialOwnerHandoffSources.isEmpty || resource.type != .texture then none
  else
    match resource.initialOwnerHandoffSources.filter fun source =>
        source.sourceQueue == barrier.sourceQueue
          && source.destinationQueue == barrier.destinationQueue
          && textureRangeContains source.range.textureSubresources
            barrier.range.textureSubresources with
    | [source] => some source
    | _ => none

section Validate

variable (graph : GpuTaskGraph) (plan : PublishedPlan) (completion : GpuExternalCompletionId)
  (token : QueueSubmissionToken)

/-- The token is one of the barrier's source queue. -/
def fromSourceQueue (barrier : GpuCompiledBarrier) (sourceQueue : GpuPhysicalQueueInfo) : Bool :=
  token.queue == sourceQueue.queueClass
    && token.matchesPhysicalQueue barrier.sourceQueue.index barrier.sourceQueue.deviceGeneration

/-- The checks against the listed source of a handoff. -/
def acceptsListedSource (barrier : GpuCompiledBarrier)
    (source : GpuTaskGraphInitialOwnerHandoffSourceView) : Bool :=
  (plan.compiled.findCompiledQueueInfo barrier.sourceQueue).any fun sourceQueue =>
    source.sourceQueue == barrier.sourceQueue
      && source.destinationQueue == barrier.destinationQueue
      && source.minimumCompletionToken.valid
      && source.minimumCompletionToken.matchesPhysicalQueue barrier.sourceQueue.index
        barrier.sourceQueue.deviceGeneration
      && decide (source.minimumCompletionToken.value ≤ token.value)
      && source.stateSource.any (fun states =>
        states.valid && plan.compiled.deviceGeneration != 0
          && states.deviceGeneration == plan.compiled.deviceGeneration)
      && fromSourceQueue token barrier sourceQueue

/-- The checks against the resource's own initial owner. -/
def acceptsInitialOwner (barrier : GpuCompiledBarrier) (resource : GpuTaskGraphResourceView) :
    Bool :=
  (plan.compiled.findCompiledQueueInfo barrier.sourceQueue).any fun sourceQueue =>
    resource.initialOwnerQueue == barrier.sourceQueue
      && resource.initialOwnerReleaseDestinationQueue == barrier.destinationQueue
      && resource.initialOwnerMinimumCompletionToken.valid
      && resource.initialOwnerMinimumCompletionToken.queue == sourceQueue.queueClass
      && resource.initialOwnerMinimumCompletionToken.matchesPhysicalQueue barrier.sourceQueue.index
        barrier.sourceQueue.deviceGeneration
      && decide (resource.initialOwnerMinimumCompletionToken.value ≤ token.value)
      && fromSourceQueue token barrier sourceQueue

/-- The body of the barrier loop of `ValidateInitialOwnershipCompletion`. -/
def acceptsHandoffBarrier (barrier : GpuCompiledBarrier) : Bool :=
  if !barrier.isInitialOwnerHandoff then true
  else if barrier.type != .textureOwnershipAcquire && barrier.type != .bufferOwnershipAcquire
      && barrier.type != .accelStructOwnershipAcquire then false
  else
    let resource := graph.resourceAt barrier.resource.index
    match findInitialOwnerHandoffSource resource barrier with
    | some source => source.completion != completion || acceptsListedSource plan token barrier source
    | none =>
      resource.initialOwnerHandoffSources.isEmpty
        && (resource.initialOwnerCompletion != completion
          || acceptsInitialOwner plan token barrier resource)

/-- `GpuCompiledGraph::taskPrologueBarriers` has the barriers that the task counts. -/
def hasPrologueBarriers (task : GpuCompiledTask) : Bool :=
  task.prologueBarrierCount == 0
    || (decide (task.prologueBarrierOffset ≤ plan.compiled.prologueBarriers.length)
      && decide (task.prologueBarrierCount
        ≤ plan.compiled.prologueBarriers.length - task.prologueBarrierOffset))

/-- `ValidateInitialOwnershipCompletion`. -/
def validateInitialOwnershipCompletion (packetID : GpuSubmissionPacketId) : Bool :=
  (plan.packetTasks packetID).all fun id =>
    (plan.compiled.findCompiledTask id).any fun task =>
      hasPrologueBarriers plan task
        && (plan.compiled.prologueBarriersOf task).all
          (acceptsHandoffBarrier graph plan completion token)

end Validate

end GpuTaskGraphSubmitter

/-! ## Wait tokens -/

namespace GpuGraphSubmissionTransaction

variable (transaction : GpuGraphSubmissionTransaction)

/-- `packetToken`: the token of an accepted packet. -/
def packetToken (packet : GpuSubmissionPacketId) : QueueSubmissionToken :=
  if !transaction.isValid || !packet.valid || packet.generation != transaction.planGeneration then {}
  else
    match transaction.packets[packet.index]? with
    | some runtime => if runtime.state = .accepted then runtime.token else {}
    | none => {}

/-- The tokens that `appendAcceptedQueueFrontierWaitTokens` appends: the latest accepted token of
every other queue. -/
def acceptedQueueFrontierWaitTokens (destinationQueue : GpuPhysicalQueueId) :
    Option (List QueueSubmissionToken) :=
  if !transaction.isValid || !destinationQueue.valid
      || destinationQueue.deviceGeneration != transaction.deviceGeneration then none
  else (transaction.latestAcceptedQueueTokens.filter (·.queue != destinationQueue)).mapM
    fun latest =>
      if latest.queue.valid && latest.queue.deviceGeneration == transaction.deviceGeneration
          && latest.token.valid then some latest.token
      else none

end GpuGraphSubmissionTransaction

namespace GpuTaskGraphSubmitter

section Waits

variable (graph : GpuTaskGraph) (plan : PublishedPlan)
  (transaction : GpuGraphSubmissionTransaction) (packetID : GpuSubmissionPacketId)
  (externalCompletionTokens : List GpuTaskGraphExternalCompletionToken)

/-- The tokens of the packets it depends on. -/
def dependencyTokens : Option (List QueueSubmissionToken) :=
  (plan.compiled.packetDependenciesOf (plan.packet packetID)).mapM fun dependency =>
    let token := transaction.packetToken dependency.producer
    if token.valid then some token else none

/-- The token bound to a completion, validated. -/
def externalToken (completion : GpuExternalCompletionId) : Option QueueSubmissionToken := do
  let binding ← externalCompletionTokens.find? (·.completion == completion)
  if binding.validFor plan
      && validateInitialOwnershipCompletion graph plan completion binding.token packetID
      && binding.token.valid then some binding.token
  else none

/-- The tokens of the external completions. -/
def externalTokens : Option (List QueueSubmissionToken) :=
  (plan.compiled.packetExternalDependenciesOf (plan.packet packetID)).mapM
    (externalToken graph plan packetID externalCompletionTokens)

/-- The tokens of the accepted frontier, if the packet joins it. -/
def frontierTokens : Option (List QueueSubmissionToken) :=
  if (plan.packet packetID).joinsAcceptedQueueFrontier then
    transaction.acceptedQueueFrontierWaitTokens (plan.packet packetID).queue
  else some []

/-- The wait tokens of `submitPacket`. -/
def waitTokens : Option (List QueueSubmissionToken) := do
  let dependencies ← dependencyTokens plan transaction packetID
  let external ← externalTokens graph plan packetID externalCompletionTokens
  let frontier ← frontierTokens plan transaction packetID
  some (dependencies ++ external ++ frontier)

end Waits

/-- One token of the statistics loop, with the tokens before it. -/
def countWait (queue : GpuPhysicalQueueId) (waitTokens : List QueueSubmissionToken)
    (info : NativeSubmissionInfo) (waitIndex : ℕ) : NativeSubmissionInfo :=
  let waitToken := waitTokens.getD waitIndex {}
  if waitToken.matchesPhysicalQueue queue.index queue.deviceGeneration then
    { info with sameQueueWaitElisionCount := info.sameQueueWaitElisionCount + 1 }
  else if (waitTokens.take waitIndex).any fun priorWaitToken =>
      waitToken.physicalQueueIndex == priorWaitToken.physicalQueueIndex
        && waitToken.deviceGeneration == priorWaitToken.deviceGeneration then
    { info with mergedTimelineWaitCount := info.mergedTimelineWaitCount + 1 }
  else { info with timelineWaitCount := info.timelineWaitCount + 1 }

/-- What a submission counts. -/
def nativeSubmissionInfo (queue : GpuPhysicalQueueId) (commandListCount : ℕ)
    (waitTokens : List QueueSubmissionToken) : NativeSubmissionInfo :=
  (List.range waitTokens.length).foldl (countWait queue waitTokens)
    { commandListCount, plannedWaitTokenCount := waitTokens.length }

end GpuTaskGraphSubmitter

/-! ## One submission -/

/-- A transaction, its graph and the device it submits to. -/
structure SubmissionSystem extends TransactionSystem where
  device : Device := {}
  deriving Repr, Inhabited

/-- A pre-submit hook: its callback's answer, or no callback. -/
structure QueueSubmissionPreSubmitHook where
  invoke : Option (Option SubmissionSignal) := none
  deriving Repr, Inhabited

/-- The arguments of `submitPacket`, with what its environment answers: whether the timing ticket, if
there is one, prepares the submission, and whether the driver accepts it. -/
structure SubmitPacketCall where
  recordedGraph : GpuRecordedGraph := {}
  packetID : GpuSubmissionPacketId := {}
  externalCompletionTokens : List GpuTaskGraphExternalCompletionToken := []
  timingTicket : Option Bool := none
  preSubmitHook : Option QueueSubmissionPreSubmitHook := none
  nativeAccepted : Bool := true
  deriving Repr, Inhabited

/-- A native submission with the tokens it was made to wait for. -/
structure SubmittedPacket where
  waitTokens : List QueueSubmissionToken
  token : QueueSubmissionToken
  submission : NativeSubmission
  deriving Repr

namespace SubmissionSystem

variable (s : SubmissionSystem) (graph : GpuTaskGraph) (plan : PublishedPlan)
  (call : SubmitPacketCall)

/-- The argument checks. -/
def acceptsArguments : Bool :=
  plan.validFor s.graph && graph.validForDeviceGeneration plan.compiled.deviceGeneration
    && s.device.deviceGeneration == plan.compiled.deviceGeneration
    && plan.validPacket call.packetID
    && call.recordedGraph.validFor s.graph plan
    && s.transaction.validFor plan
    && call.preSubmitHook.all (·.invoke.isSome)

/-- The packet's recording, when the packet can be submitted as it is. -/
def submittableRecording : Option GpuRecordedPacket :=
  if s.graph.packetReadyForSubmission plan (plan.packetTasks call.packetID)
      call.recordedGraph.recordingAttemptGeneration then
    (call.recordedGraph.find call.packetID).filter fun recordedPacket =>
      decide (recordedPacket.commandLists.length ≤ maxCommandLists)
        && (plan.compiled.findCompiledQueueInfo (plan.packet call.packetID).queue).isSome
        && s.device.matchesPhysicalQueueIdentity (plan.packet call.packetID).queue
        && recordedPacket.commandLists.all (·.any (·.hasCommandBuffer))
  else none

/-- The submission itself, through the timing ticket if there is one. -/
def executeSubmission (recordedPacket : GpuRecordedPacket)
    (waitTokens : List QueueSubmissionToken) :
    Device × Option (QueueSubmissionToken × NativeSubmission) :=
  if call.timingTicket = some false then (s.device, none)
  else s.device.executeCommandLists recordedPacket.commandLists (plan.packet call.packetID).queue
    waitTokens (call.preSubmitHook.bind (·.invoke)) call.nativeAccepted

/-- From the reservation on: the native submission and its publication. -/
def submitReserved (recordedPacket : GpuRecordedPacket) (waitTokens : List QueueSubmissionToken) :
    SubmissionSystem × Option SubmittedPacket × Bool :=
  match s.toTransactionSystem.beginPacketSubmission plan call.packetID
      call.recordedGraph.recordingAttemptGeneration {} with
  | (reserved, none) => ({ s with toTransactionSystem := reserved }, none, false)
  | (reserved, some lease) =>
    match s.executeSubmission plan call recordedPacket waitTokens with
    | (device, none) =>
      ({ toTransactionSystem := reserved.rejectSubmittingPacket plan call.packetID lease, device },
        none, false)
    | (device, some (token, submission)) =>
      if !token.valid then
        ({ toTransactionSystem := reserved.rejectSubmittingPacket plan call.packetID lease, device },
          some { waitTokens, token, submission }, false)
      else
        let accepted := reserved.acceptSubmittingPacket plan call.packetID token lease
          (some (GpuTaskGraphSubmitter.nativeSubmissionInfo (plan.packet call.packetID).queue
            recordedPacket.commandLists.length waitTokens))
        ({ toTransactionSystem := accepted.1, device }, some { waitTokens, token, submission },
          accepted.2)

/-- `GpuTaskGraphSubmitter::submitPacket`: the system afterwards, the native submission if there was
one, and the answer. -/
def submitPacket : SubmissionSystem × Option SubmittedPacket × Bool :=
  if !s.acceptsArguments graph plan call then (s, none, false)
  else match s.submittableRecording plan call with
  | none => (s, none, false)
  | some recordedPacket =>
    match GpuTaskGraphSubmitter.waitTokens graph plan s.transaction call.packetID
        call.externalCompletionTokens with
    | none => (s, none, false)
    | some waitTokens => s.submitReserved plan call recordedPacket waitTokens

end SubmissionSystem

end NwbLot.PacketRuntime
