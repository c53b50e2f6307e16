import NwbLot.PacketRuntime.LifecycleCalls

/-!
# Submission transactions

`GpuGraphSubmissionTransaction` with the graph it drives: the calls of
`packet_runtime_transaction.cpp` and `packet_runtime_transaction_rejection.cpp`, each of which moves
the transaction and the task lifecycles in several phases.
-/

namespace NwbLot.PacketRuntime

open TaskGraph

/-! ## Whole calls on the graph -/

namespace GpuTaskGraphLifecycle

variable (graph : GpuTaskGraphLifecycle)

/-- `GpuTaskGraph::matchesRecordingAttempt`. -/
def matchesRecordingAttempt (plan : PublishedPlan) (recordingAttemptGeneration : ℕ) : Bool :=
  recordingAttemptGeneration != 0 && plan.validFor graph
    && graph.inAttempt plan.planGeneration recordingAttemptGeneration

/-- The two locked sections of a call with callbacks, and whether it came to its end. -/
def runOperation (op : CallbackOperation) : GpuTaskGraphLifecycle × Bool :=
  match op.openSection graph with
  | none => (graph, false)
  | some opened =>
    match op.closeSection opened with
    | none => (opened, false)
    | some closed => (closed, true)

/-- A call with callbacks from its argument checks on. -/
def runCallbackCall (call : CallbackCall) : GpuTaskGraphLifecycle × Bool :=
  if call.argumentsAccepted graph then graph.runOperation call.operation else (graph, false)

/-- `GpuTaskGraph::beginPacketSubmission` from its argument checks on. -/
def reservePacketSubmission (plan : PublishedPlan) (tasks : List GpuTaskId)
    (recordingAttemptGeneration : ℕ) (outLease : GpuTaskPacketSubmissionLease) :
    GpuTaskGraphLifecycle × Option GpuTaskPacketSubmissionLease :=
  if (LockedCall.beginPacketSubmission plan tasks recordingAttemptGeneration
      outLease).argumentsAccepted graph then
    graph.beginPacketSubmission plan tasks recordingAttemptGeneration
  else (graph, none)

end GpuTaskGraphLifecycle

namespace PublishedPlan

variable (plan : PublishedPlan)

/-- `GpuCompiledGraph::packetIdAt`. -/
def packetIdAt (index : ℕ) : GpuSubmissionPacketId :=
  if index < plan.compiled.packets.length then plan.compiled.packetIdAt index else {}

end PublishedPlan

/-! ## Packets of a transaction -/

/-- The states of a packet. -/
inductive GpuPacketRuntimeState
  | declared
  | recorded
  | submitting
  | rejecting
  | accepted
  | rejected
  deriving DecidableEq, Repr, Inhabited

/-- The counters of one `Device::executeCommandLists` call. -/
structure NativeSubmissionInfo where
  commandListCount : ℕ := 0
  plannedWaitTokenCount : ℕ := 0
  sameQueueWaitElisionCount : ℕ := 0
  timelineWaitCount : ℕ := 0
  mergedTimelineWaitCount : ℕ := 0
  deriving DecidableEq, Repr, Inhabited

/-- What has become of a packet. -/
structure GpuPacketRuntime where
  state : GpuPacketRuntimeState := .declared
  token : QueueSubmissionToken := {}
  native : NativeSubmissionInfo := {}
  hasNativeSubmission : Bool := false
  nativeSubmissionRejected : Bool := false
  deriving DecidableEq, Repr, Inhabited

/-- The last accepted submission on a queue. -/
structure LatestAcceptedQueueToken where
  queue : GpuPhysicalQueueId := {}
  token : QueueSubmissionToken := {}
  deriving DecidableEq, Repr, Inhabited

/-- The counters of one queue class. -/
structure QueueClassSubmissionCounts where
  nativeSubmissionCount : ℕ := 0
  nativeCommandListCount : ℕ := 0
  timelineWaitCount : ℕ := 0
  deriving DecidableEq, Repr, Inhabited

/-- The counters of a plan. -/
structure GpuTaskGraphSubmissionStatistics where
  graphGeneration : ℕ := 0
  planGeneration : ℕ := 0
  recordingAttemptGeneration : ℕ := 0
  deviceGeneration : ℕ := 0
  acceptedPacketCount : ℕ := 0
  acceptedTaskCount : ℕ := 0
  rejectedPacketCount : ℕ := 0
  rejectedTaskCount : ℕ := 0
  nativeSubmissionCount : ℕ := 0
  rejectedSubmissionCount : ℕ := 0
  native : NativeSubmissionInfo := {}
  acceptedFrontierSubmissionCount : ℕ := 0
  graphicsCounts : QueueClassSubmissionCounts := {}
  computeCounts : QueueClassSubmissionCounts := {}
  transferCounts : QueueClassSubmissionCounts := {}
  deriving DecidableEq, Repr, Inhabited

/-! ## The transaction -/

/-- The packets of a plan under submission. -/
structure GpuGraphSubmissionTransaction where
  packets : List GpuPacketRuntime := []
  latestAcceptedQueueTokens : List LatestAcceptedQueueToken := []
  externalResourceHandoffScratch : List GpuGraphResourceId := []
  generation : ℕ := 0
  planGeneration : ℕ := 0
  recordingAttemptGeneration : ℕ := 0
  deviceGeneration : ℕ := 0
  acceptedSubmissionCount : ℕ := 0
  submissionStatistics : GpuTaskGraphSubmissionStatistics := {}
  isValid : Bool := false
  deriving DecidableEq, Repr, Inhabited

namespace NativeSubmissionInfo

/-- The counters of one more submission. -/
def add (total info : NativeSubmissionInfo) : NativeSubmissionInfo where
  commandListCount := total.commandListCount + info.commandListCount
  plannedWaitTokenCount := total.plannedWaitTokenCount + info.plannedWaitTokenCount
  sameQueueWaitElisionCount := total.sameQueueWaitElisionCount + info.sameQueueWaitElisionCount
  timelineWaitCount := total.timelineWaitCount + info.timelineWaitCount
  mergedTimelineWaitCount := total.mergedTimelineWaitCount + info.mergedTimelineWaitCount

end NativeSubmissionInfo

/-- One more submission on a queue of the class. -/
def QueueClassSubmissionCounts.add (counts : QueueClassSubmissionCounts)
    (info : NativeSubmissionInfo) : QueueClassSubmissionCounts where
  nativeSubmissionCount := counts.nativeSubmissionCount + 1
  nativeCommandListCount := counts.nativeCommandListCount + info.commandListCount
  timelineWaitCount := counts.timelineWaitCount + info.timelineWaitCount

namespace GpuTaskGraphSubmissionStatistics

variable (statistics : GpuTaskGraphSubmissionStatistics)

/-- The three arrays indexed by queue class. -/
def countQueueClass (queueClass : CommandQueue) (info : NativeSubmissionInfo) :
    GpuTaskGraphSubmissionStatistics :=
  match queueClass with
  | .graphics => { statistics with graphicsCounts := statistics.graphicsCounts.add info }
  | .compute => { statistics with computeCounts := statistics.computeCounts.add info }
  | .transfer => { statistics with transferCounts := statistics.transferCounts.add info }
  | .kCount => statistics

/-- A packet's submission is counted. -/
def countNative (packet : GpuSubmissionPacket) (queueClass : CommandQueue)
    (info : NativeSubmissionInfo) : GpuTaskGraphSubmissionStatistics :=
  { statistics with
    nativeSubmissionCount := statistics.nativeSubmissionCount + 1
    native := statistics.native.add info
    acceptedFrontierSubmissionCount := statistics.acceptedFrontierSubmissionCount
      + (if packet.joinsAcceptedQueueFrontier then 1 else 0) }.countQueueClass queueClass info

/-- A packet is accepted. -/
def countAccepted (packet : GpuSubmissionPacket) : GpuTaskGraphSubmissionStatistics :=
  { statistics with
    acceptedPacketCount := statistics.acceptedPacketCount + 1
    acceptedTaskCount := statistics.acceptedTaskCount + packet.taskCount }

/-- A packet is rejected. -/
def countRejected (packet : GpuSubmissionPacket) : GpuTaskGraphSubmissionStatistics :=
  { statistics with
    rejectedPacketCount := statistics.rejectedPacketCount + 1
    rejectedTaskCount := statistics.rejectedTaskCount + packet.taskCount }

end GpuTaskGraphSubmissionStatistics

/-- The assignment of the latest accepted token of a queue. -/
def putLatestToken (queue : GpuPhysicalQueueId) (token : QueueSubmissionToken) :
    List LatestAcceptedQueueToken → List LatestAcceptedQueueToken
  | [] => [{ queue, token }]
  | latest :: rest =>
    if latest.queue = queue then { latest with token } :: rest
    else latest :: putLatestToken queue token rest

namespace GpuGraphSubmissionTransaction

variable (transaction : GpuGraphSubmissionTransaction) (plan : PublishedPlan)

/-- `validForLocked`, which `validFor` calls under the lock. -/
def validFor : Bool :=
  transaction.isValid && plan.valid
    && transaction.generation == plan.compiled.graphGeneration
    && transaction.planGeneration == plan.planGeneration
    && transaction.deviceGeneration == plan.compiled.deviceGeneration
    && transaction.packets.length == plan.compiled.packets.length
    && transaction.externalResourceHandoffScratch.length
      == plan.compiled.externalResourceExports.length

/-- `reset` of a plan: a fresh transaction, invalid when an export names no resource. -/
def reset : GpuGraphSubmissionTransaction :=
  if transaction.packets.any fun runtime =>
      runtime.state == .submitting || runtime.state == .rejecting then transaction
  else
    let cleared : GpuGraphSubmissionTransaction :=
      { generation := plan.compiled.graphGeneration
        planGeneration := plan.planGeneration
        deviceGeneration := plan.compiled.deviceGeneration }
    if !plan.valid || !plan.compiled.externalResourceExports.all (·.resource.valid) then cleared
    else { cleared with
      packets := List.replicate plan.compiled.packets.length {}
      externalResourceHandoffScratch := plan.compiled.externalResourceExports.map (·.resource)
      submissionStatistics :=
        { graphGeneration := plan.compiled.graphGeneration
          planGeneration := plan.planGeneration
          deviceGeneration := plan.compiled.deviceGeneration }
      isValid := true }

/-- The state of the packet at an index. -/
def stateAt (index : ℕ) : Option GpuPacketRuntimeState :=
  (transaction.packets[index]?).map (·.state)

/-- One packet is in a new state. -/
def setState (index : ℕ) (state : GpuPacketRuntimeState) : GpuGraphSubmissionTransaction :=
  { transaction with
    packets := transaction.packets.modify index fun runtime => { runtime with state } }

/-- `bindRecordingAttempt`: nothing when the attempt is not the graph's, or not the bound one. -/
def bindRecordingAttempt (graph : GpuTaskGraphLifecycle) (recordingAttemptGeneration : ℕ) :
    Option GpuGraphSubmissionTransaction :=
  if graph.matchesRecordingAttempt plan recordingAttemptGeneration && transaction.validFor plan
      && (transaction.recordingAttemptGeneration == 0
        || transaction.recordingAttemptGeneration == recordingAttemptGeneration) then
    some { transaction with
      recordingAttemptGeneration
      submissionStatistics :=
        { transaction.submissionStatistics with recordingAttemptGeneration } }
  else none

/-- The checks of a section on one packet of the bound attempt, and the packet's state. -/
def ownedState (packetID : GpuSubmissionPacketId) (recordingAttemptGeneration : ℕ) :
    Option GpuPacketRuntimeState :=
  if transaction.validFor plan
      && transaction.recordingAttemptGeneration == recordingAttemptGeneration then
    transaction.stateAt packetID.index
  else none

/-- The way back when the graph refuses: the packet gets its previous state again. -/
def restore (packetID : GpuSubmissionPacketId) (reserved previousState : GpuPacketRuntimeState) :
    GpuGraphSubmissionTransaction :=
  if transaction.validFor plan && transaction.stateAt packetID.index == some reserved then
    transaction.setState packetID.index previousState
  else transaction

/-- The queue of a packet, when the token is one of its submissions. -/
def submissionQueue (packet : GpuSubmissionPacket) (token : QueueSubmissionToken) :
    Option GpuPhysicalQueueInfo :=
  (plan.compiled.findCompiledQueueInfo packet.queue).filter fun queueInfo =>
    queueInfo.queueClass.known && token.queue == queueInfo.queueClass
      && token.matchesPhysicalQueue packet.queue.index packet.queue.deviceGeneration

/-- `++m_acceptedSubmissionCount`, which skips zero. -/
def nextSubmissionCount (count : ℕ) : ℕ :=
  if (count + 1) % 2 ^ 64 = 0 then 1 else (count + 1) % 2 ^ 64

/-- The last section of `acceptSubmittingPacket`. -/
def publishAccepted (index : ℕ) (packet : GpuSubmissionPacket) (queueClass : CommandQueue)
    (token : QueueSubmissionToken) (nativeSubmissionInfo : Option NativeSubmissionInfo) :
    GpuGraphSubmissionTransaction :=
  { transaction with
    packets := transaction.packets.modify index fun runtime => { runtime with
      state := .accepted
      token
      native := nativeSubmissionInfo.getD runtime.native
      hasNativeSubmission := runtime.hasNativeSubmission || nativeSubmissionInfo.isSome }
    acceptedSubmissionCount := nextSubmissionCount transaction.acceptedSubmissionCount
    submissionStatistics :=
      match nativeSubmissionInfo with
      | some info =>
        (transaction.submissionStatistics.countAccepted packet).countNative packet queueClass info
      | none => transaction.submissionStatistics.countAccepted packet
    latestAcceptedQueueTokens :=
      putLatestToken packet.queue token transaction.latestAcceptedQueueTokens }

/-- The last section of `rejectPacket`. -/
def publishRejected (packetID : GpuSubmissionPacketId) (packet : GpuSubmissionPacket) :
    GpuGraphSubmissionTransaction :=
  if transaction.validFor plan && transaction.stateAt packetID.index == some .rejecting then
    { transaction.setState packetID.index .rejected with
      submissionStatistics := transaction.submissionStatistics.countRejected packet }
  else transaction

/-- The last section of `rejectSubmittingPacket`. -/
def publishSubmissionRejected (packetID : GpuSubmissionPacketId) (packet : GpuSubmissionPacket) :
    GpuGraphSubmissionTransaction :=
  if transaction.validFor plan && transaction.stateAt packetID.index == some .submitting then
    { transaction with
      packets := transaction.packets.modify packetID.index fun runtime =>
        { runtime with state := .rejected, nativeSubmissionRejected := true }
      submissionStatistics :=
        { transaction.submissionStatistics.countRejected packet with
          rejectedSubmissionCount :=
            transaction.submissionStatistics.rejectedSubmissionCount + 1 } }
  else transaction

end GpuGraphSubmissionTransaction

/-! ## Calls on transaction and graph -/

/-- A transaction with the graph its calls name. -/
structure TransactionSystem where
  graph : GpuTaskGraphLifecycle := {}
  transaction : GpuGraphSubmissionTransaction := {}
  deriving DecidableEq, Repr, Inhabited

namespace TransactionSystem

variable (s : TransactionSystem) (plan : PublishedPlan)

/-- The transaction is replaced. -/
def withTransaction (transaction : GpuGraphSubmissionTransaction) : TransactionSystem :=
  { s with transaction }

/-- The transaction turns to an attempt of its graph. -/
def bindRecordingAttempt (recordingAttemptGeneration : ℕ) : Option TransactionSystem :=
  (s.transaction.bindRecordingAttempt plan s.graph recordingAttemptGeneration).map
    s.withTransaction

/-- A packet ready to be submitted in an attempt that the transaction is, or can be, bound to. -/
def bindReadyPacket (packetID : GpuSubmissionPacketId) (recordingAttemptGeneration : ℕ) :
    Option TransactionSystem :=
  if plan.validPacket packetID && s.graph.packetReadyForSubmission plan (plan.packetTasks packetID)
      recordingAttemptGeneration then
    s.bindRecordingAttempt plan recordingAttemptGeneration
  else none

/-- A declared packet whose tasks are recorded becomes recorded. -/
def markPacketRecorded (packetID : GpuSubmissionPacketId) (recordingAttemptGeneration : ℕ) :
    TransactionSystem × Bool :=
  match s.bindReadyPacket plan packetID recordingAttemptGeneration with
  | none => (s, false)
  | some s =>
    if s.transaction.ownedState plan packetID recordingAttemptGeneration = some .declared then
      (s.withTransaction (s.transaction.setState packetID.index .recorded), true)
    else (s, false)

/-- The state from which a packet can be submitted or rejected. -/
def unresolved : GpuPacketRuntimeState → Bool
  | .declared | .recorded => true
  | _ => false

/-- A packet under a new claim for submission. -/
def beginPacketSubmission (packetID : GpuSubmissionPacketId) (recordingAttemptGeneration : ℕ)
    (outLease : GpuTaskPacketSubmissionLease) :
    TransactionSystem × Option GpuTaskPacketSubmissionLease :=
  if !s.transaction.validFor plan || outLease.valid then (s, none)
  else match s.bindReadyPacket plan packetID recordingAttemptGeneration with
  | none => (s, none)
  | some s =>
    match (s.transaction.ownedState plan packetID recordingAttemptGeneration).filter
        unresolved with
    | none => (s, none)
    | some previousState =>
      let reserved := s.transaction.setState packetID.index .submitting
      match s.graph.reservePacketSubmission plan (plan.packetTasks packetID)
          recordingAttemptGeneration outLease with
      | (graph, some lease) => ({ graph, transaction := reserved }, some lease)
      | (graph, none) =>
        ({ graph, transaction := reserved.restore plan packetID .submitting previousState }, none)

/-- The lease's packet is accepted. -/
def acceptSubmittingPacket (packetID : GpuSubmissionPacketId) (token : QueueSubmissionToken)
    (lease : GpuTaskPacketSubmissionLease) (nativeSubmissionInfo : Option NativeSubmissionInfo) :
    TransactionSystem × Bool :=
  if !s.transaction.validFor plan || !plan.validPacket packetID || !token.valid || !lease.valid
      || lease.planGeneration != plan.planGeneration then (s, false)
  else match s.bindRecordingAttempt plan lease.recordingAttemptGeneration with
  | none => (s, false)
  | some s =>
    let packet := plan.packet packetID
    match GpuGraphSubmissionTransaction.submissionQueue plan packet token with
    | none => (s, false)
    | some queueInfo =>
      match s.graph.runCallbackCall
          (.completePacketSubmission plan (plan.packetTasks packetID) token lease) with
      | (graph, false) => ({ s with graph }, false)
      | (graph, true) =>
        ({ graph, transaction := s.transaction.publishAccepted packetID.index packet
            queueInfo.queueClass token nativeSubmissionInfo }, true)

/-- A packet is claimed and accepted at once. -/
def acceptPacket (packetID : GpuSubmissionPacketId) (token : QueueSubmissionToken) :
    TransactionSystem × Bool :=
  let recordingAttemptGeneration := s.transaction.recordingAttemptGeneration
  if !s.transaction.validFor plan || !plan.validPacket packetID || !token.valid
      || recordingAttemptGeneration == 0
      || (GpuGraphSubmissionTransaction.submissionQueue plan (plan.packet packetID)
        token).isNone then (s, false)
  else match s.beginPacketSubmission plan packetID recordingAttemptGeneration {} with
  | (s, none) => (s, false)
  | (s, some lease) => s.acceptSubmittingPacket plan packetID token lease none

/-- `rejectPacket` with an explicit attempt. -/
def rejectPacket (packetID : GpuSubmissionPacketId) (recordingAttemptGeneration : ℕ) :
    TransactionSystem :=
  if !s.transaction.validFor plan || !plan.validPacket packetID then s
  else match s.bindRecordingAttempt plan recordingAttemptGeneration with
  | none => s
  | some s =>
    match (s.transaction.ownedState plan packetID recordingAttemptGeneration).filter
        unresolved with
    | none => s
    | some previousState =>
      let reserved := s.transaction.setState packetID.index .rejecting
      match s.graph.runCallbackCall (.discardUnacceptedPacket plan (plan.packetTasks packetID)
          recordingAttemptGeneration) with
      | (graph, false) =>
        { graph, transaction := reserved.restore plan packetID .rejecting previousState }
      | (graph, true) =>
        { graph, transaction := reserved.publishRejected plan packetID (plan.packet packetID) }

/-- The lease's packet is rejected. -/
def rejectSubmittingPacket (packetID : GpuSubmissionPacketId)
    (lease : GpuTaskPacketSubmissionLease) : TransactionSystem :=
  if !s.transaction.validFor plan || !plan.validPacket packetID || !lease.valid
      || lease.planGeneration != plan.planGeneration then s
  else match s.bindRecordingAttempt plan lease.recordingAttemptGeneration with
  | none => s
  | some s =>
    if s.transaction.ownedState plan packetID lease.recordingAttemptGeneration
        ≠ some .submitting then s
    -- The graph resets the lease exactly when it comes to its end.
    else match s.graph.runCallbackCall
        (.abortPacketSubmission plan (plan.packetTasks packetID) lease) with
      | (graph, false) => { s with graph }
      | (graph, true) =>
        { graph
          transaction :=
            s.transaction.publishSubmissionRejected plan packetID (plan.packet packetID) }

/-- `rejectTask` with an explicit attempt. -/
def rejectTask (task : GpuTaskId) (recordingAttemptGeneration : ℕ) : TransactionSystem :=
  if !s.transaction.validFor plan then s
  else s.rejectPacket plan (plan.compiled.findCompiledPacketForTask task)
    recordingAttemptGeneration

/-- The loop of `discardUnaccepted` over the packets from one index on. -/
def discardPackets (recordingAttemptGeneration : ℕ) (s : TransactionSystem) :
    List ℕ → TransactionSystem × Bool
  | [] => (s, true)
  | packetIndex :: rest =>
    if !s.transaction.validFor plan
        || s.transaction.recordingAttemptGeneration != recordingAttemptGeneration then (s, false)
    else match s.transaction.stateAt packetIndex with
    | none | some .submitting | some .rejecting => (s, false)
    | some .accepted | some .rejected => discardPackets recordingAttemptGeneration s rest
    | some .declared | some .recorded =>
      if !(plan.packetIdAt packetIndex).valid then (s, false)
      else
        let s := s.rejectPacket plan (plan.packetIdAt packetIndex) recordingAttemptGeneration
        if s.transaction.validFor plan && s.transaction.stateAt packetIndex == some .rejected then
          discardPackets recordingAttemptGeneration s rest
        else (s, false)

/-- `discardUnaccepted` with an explicit attempt. -/
def discardUnaccepted (recordingAttemptGeneration : ℕ) : TransactionSystem × Bool :=
  if !s.transaction.validFor plan then (s, false)
  else match s.bindRecordingAttempt plan recordingAttemptGeneration with
  | none => (s, false)
  | some s => discardPackets plan recordingAttemptGeneration s
      (List.range plan.compiled.packets.length)

end TransactionSystem

/-! ## Sequences of calls -/

/-- One call on the transaction.  The overloads without an attempt take the bound one. -/
inductive TransactionCall
  | markPacketRecorded (packetID : GpuSubmissionPacketId) (recordingAttemptGeneration : ℕ)
  | acceptPacket (packetID : GpuSubmissionPacketId) (token : QueueSubmissionToken)
  | rejectPacket (packetID : GpuSubmissionPacketId) (recordingAttemptGeneration : Option ℕ)
  | rejectTask (task : GpuTaskId) (recordingAttemptGeneration : Option ℕ)
  | discardUnaccepted (recordingAttemptGeneration : Option ℕ)
  | beginPacketSubmission (packetID : GpuSubmissionPacketId) (recordingAttemptGeneration : ℕ)
      (outLease : GpuTaskPacketSubmissionLease)
  | acceptSubmittingPacket (packetID : GpuSubmissionPacketId) (token : QueueSubmissionToken)
      (lease : GpuTaskPacketSubmissionLease) (nativeSubmissionInfo : Option NativeSubmissionInfo)
  | rejectSubmittingPacket (packetID : GpuSubmissionPacketId)
      (lease : GpuTaskPacketSubmissionLease)

/-- The calls of the packet recorder on the graph. -/
inductive RecorderCall
  | beginPacketRecording (plan : PublishedPlan) (tasks : List GpuTaskId)
      (recordingAttemptGeneration : ℕ) (outLease : GpuTaskPacketRecordingLease)
  | recordTask (call : RecordTaskCall)
  | completePacketRecording (plan : PublishedPlan) (tasks : List GpuTaskId)
      (lease : GpuTaskPacketRecordingLease)
  | abortPacketRecording (plan : PublishedPlan) (tasks : List GpuTaskId)
      (lease : GpuTaskPacketRecordingLease)

/-- What happens next: a transaction call for a plan, or a recorder call. -/
inductive PacketCall
  | transaction (plan : PublishedPlan) (call : TransactionCall)
  | recorder (call : RecorderCall)

/-- The recorder's way out of a failed recording. -/
def RecorderCall.aborts : RecorderCall → Bool
  | .abortPacketRecording _ _ _ => true
  | _ => false

/-- The call gives up a recording. -/
def PacketCall.abortsRecording : PacketCall → Bool
  | .recorder call => call.aborts
  | .transaction _ _ => false

/-- The graph after a recorder call. -/
def GpuTaskGraphLifecycle.record (graph : GpuTaskGraphLifecycle) :
    RecorderCall → GpuTaskGraphLifecycle
  | .beginPacketRecording plan tasks recordingAttemptGeneration outLease =>
    if (LockedCall.beginPacketRecording plan tasks recordingAttemptGeneration
        outLease).argumentsAccepted graph then
      (graph.beginPacketRecording plan tasks recordingAttemptGeneration).1
    else graph
  | .recordTask call =>
    if graph.validTask call.task && call.lease.valid then
      match call.openSection graph with
      | none => graph
      | some opened => (call.closeSection opened).getD opened
    else graph
  | .completePacketRecording plan tasks lease =>
    if leaseArguments graph plan tasks lease then
      (graph.completePacketRecording plan tasks lease).getD graph
    else graph
  | .abortPacketRecording plan tasks lease =>
    (graph.runCallbackCall (.abortPacketRecording plan tasks lease)).1

namespace TransactionSystem

variable (s : TransactionSystem)

/-- The system after a transaction call. -/
def callTransaction (plan : PublishedPlan) : TransactionCall → TransactionSystem
  | .markPacketRecorded packetID recordingAttemptGeneration =>
    (s.markPacketRecorded plan packetID recordingAttemptGeneration).1
  | .acceptPacket packetID token => (s.acceptPacket plan packetID token).1
  | .rejectPacket packetID recordingAttemptGeneration =>
    s.rejectPacket plan packetID
      (recordingAttemptGeneration.getD s.transaction.recordingAttemptGeneration)
  | .rejectTask task recordingAttemptGeneration =>
    s.rejectTask plan task
      (recordingAttemptGeneration.getD s.transaction.recordingAttemptGeneration)
  | .discardUnaccepted recordingAttemptGeneration =>
    (s.discardUnaccepted plan
      (recordingAttemptGeneration.getD s.transaction.recordingAttemptGeneration)).1
  | .beginPacketSubmission packetID recordingAttemptGeneration outLease =>
    (s.beginPacketSubmission plan packetID recordingAttemptGeneration outLease).1
  | .acceptSubmittingPacket packetID token lease nativeSubmissionInfo =>
    (s.acceptSubmittingPacket plan packetID token lease nativeSubmissionInfo).1
  | .rejectSubmittingPacket packetID lease => s.rejectSubmittingPacket plan packetID lease

/-- The system after a call. -/
def call : PacketCall → TransactionSystem
  | .transaction plan call => s.callTransaction plan call
  | .recorder call => { s with graph := s.graph.record call }

/-- The system after a sequence of calls. -/
def run (calls : List PacketCall) : TransactionSystem := calls.foldl call s

end TransactionSystem

end NwbLot.PacketRuntime
