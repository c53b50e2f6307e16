import NwbLot.TaskGraph.ResourceState

/-!
# Exports, epilogues and packet dependencies

`compiler_finalization.cpp`: terminal state exports of imported resources, the grouping of pending
epilogue barriers by task, packet dependencies with their consistency checks, recording frontiers
and the presentation endpoint.
-/

namespace NwbLot.TaskGraph

/-! ## External exports -/

/-- What `appendTerminalState` accumulates for one resource. -/
structure ExternalExportState where
  exportTask : GpuTaskId := {}
  exportPacket : GpuSubmissionPacketId := {}
  exportSourceQueue : GpuPhysicalQueueId := {}
  usesOnePacket : Bool := true
  hasTerminalDeclaredRange : Bool := false
  sources : List GpuCompiledExternalResourceExportSource := []
  pendingEpilogueBarriers : List PendingCompiledEpilogueBarrier := []
  deriving Repr, Inhabited

section Exports

variable (plan : GpuCompiledGraph) (resource : GpuTaskGraphResourceView)

/-- The source of an external release: its packet joins the export, or a whole-resource export is
refused because a second packet or queue ends the resource. -/
def appendExportSource (acc : ExternalExportState) (state : TrackedCompiledResourceState)
    (terminalRange : GpuTaskResourceRange) : Option ExternalExportState :=
  let terminalPacket := plan.findCompiledPacketForTask state.task
  if !terminalPacket.valid then none
  else
    let joined : ExternalExportState :=
      if !acc.exportTask.valid then
        { acc with
          exportTask := state.task, exportPacket := terminalPacket,
          exportSourceQueue := state.queue }
      else if acc.exportPacket != terminalPacket || acc.exportSourceQueue != state.queue then
        { acc with usesOnePacket := false }
      else acc
    if resource.type != .texture
        && (joined.exportPacket != terminalPacket || joined.exportSourceQueue != state.queue) then none
    else
      some { joined with
        sources := joined.sources ++
          [{ producerTask := state.task, sourceQueue := state.queue, range := terminalRange }] }

/-- The release that follows the export of a resource leaving for another queue. -/
def externalFinalRelease (state : TrackedCompiledResourceState)
    (terminalRange : GpuTaskResourceRange) : Option (List PendingCompiledEpilogueBarrier) :=
  let destinationQueue := resource.externalFinalReleaseDestinationQueue
  if destinationQueue.valid && state.queue != destinationQueue then
    (ownershipReleaseBarrierType resource.type).map fun releaseType =>
      [{ task := state.task
         barrier := { resource := state.resource, range := terminalRange,
                      before := resource.externalFinalState, after := resource.externalFinalState,
                      sourceQueue := state.queue, destinationQueue, type := releaseType } }]
  else some []

/-- The export source of a resource that leaves the graph, nothing otherwise. -/
def recordExportSource (acc : ExternalExportState) (state : TrackedCompiledResourceState)
    (terminalRange : GpuTaskResourceRange) : Option ExternalExportState :=
  if resource.externalFinalReleaseDestinationQueue.valid then
    appendExportSource plan resource acc state terminalRange
  else some acc

/-- `appendTerminalState`: the export marker of one terminal range, and its release when the
resource leaves for another queue. -/
def appendTerminalState (exportType : GpuCompiledBarrierType) (acc : ExternalExportState)
    (terminal : TrackedCompiledResourceState × GpuTaskResourceRange) :
    Option ExternalExportState := do
  let sourced ← recordExportSource plan resource acc terminal.1 terminal.2
  let exported : PendingCompiledEpilogueBarrier :=
    { task := terminal.1.task
      barrier := { resource := terminal.1.resource, range := terminal.2,
                   before := terminal.1.state, after := resource.externalFinalState,
                   sourceQueue := terminal.1.queue, destinationQueue := terminal.1.queue,
                   type := exportType } }
  let released ← externalFinalRelease resource terminal.1 terminal.2
  some { sourced with
    hasTerminalDeclaredRange := true
    pendingEpilogueBarriers := sourced.pendingEpilogueBarriers ++ (exported :: released) }

/-- Tracked states of a whole resource without a later overlapping one. -/
def terminalWholeResourceStates : List TrackedCompiledResourceState →
    List (TrackedCompiledResourceState × GpuTaskResourceRange)
  | [] => []
  | state :: later =>
      let hasLaterOverlappingUse := later.any fun other =>
        other.resource == resource.id && rangesOverlap resource.type state.range other.range
      if state.resource == resource.id && !hasLaterOverlappingUse then
        (state, state.range) :: terminalWholeResourceStates later
      else terminalWholeResourceStates later

/-- The terminal states of a resource with their ranges. -/
def terminalStates (trackedStates : List TrackedCompiledResourceState) :
    Option (List (TrackedCompiledResourceState × GpuTaskResourceRange)) :=
  if resource.type == .texture then do
    let fragments ← collectTerminalTextureStateFragments trackedStates resource.id
    fragments.mapM fun fragment => fragment.state.map (·, fragment.range)
  else some (terminalWholeResourceStates resource trackedStates)

end Exports

/-- The vectors export planning appends to. -/
structure ExternalExportPlan where
  exports : List GpuCompiledExternalResourceExport := []
  sources : List GpuCompiledExternalResourceExportSource := []
  pendingEpilogueBarriers : List PendingCompiledEpilogueBarrier := []
  deriving Repr, Inhabited

/-- One resource of the export loop. -/
def planExternalResourceExport (plan : GpuCompiledGraph)
    (trackedStates : List TrackedCompiledResourceState) (exportPlan : ExternalExportPlan)
    (resource : GpuTaskGraphResourceView) : Option ExternalExportPlan :=
  if resource.externalFinalState == ResourceStates.unknown then some exportPlan
  else do
    let exportType ← stateExportBarrierType resource.type
    let terminals ← terminalStates resource trackedStates
    let state ← terminals.foldlM (appendTerminalState plan resource exportType) {}
    if !state.hasTerminalDeclaredRange then none
    else if resource.externalFinalReleaseDestinationQueue.valid
        && (!state.exportTask.valid || !state.exportPacket.valid
          || !state.exportSourceQueue.valid || state.sources.isEmpty) then none
    else
      let exports : List GpuCompiledExternalResourceExport :=
        if resource.externalFinalReleaseDestinationQueue.valid then
          [{ resource := resource.id
             producerTask := if state.usesOnePacket then state.exportTask else {}
             sourceQueue := if state.usesOnePacket then state.exportSourceQueue else {}
             sourceOffset := exportPlan.sources.length
             sourceCount := state.sources.length
             destinationQueue := resource.externalFinalReleaseDestinationQueue
             finalState := resource.externalFinalState }]
        else []
      some {
        exports := exportPlan.exports ++ exports
        sources := exportPlan.sources ++ state.sources
        pendingEpilogueBarriers :=
          exportPlan.pendingEpilogueBarriers ++ state.pendingEpilogueBarriers }

/-- `PlanExternalResourceExports`. -/
def planExternalResourceExports (graph : GpuTaskGraph) (plan : GpuCompiledGraph)
    (trackedStates : List TrackedCompiledResourceState) : Option ExternalExportPlan :=
  (List.range graph.resourceCount).foldlM
    (fun exportPlan index =>
      planExternalResourceExport plan trackedStates exportPlan (graph.resourceAt index)) {}

/-! ## Epilogues -/

/-- `AppendPendingEpilogueBarriers`: every task's pending barriers in one contiguous span. -/
def appendPendingEpilogueBarriers (pending : List PendingCompiledEpilogueBarrier) :
    List GpuCompiledTask → List GpuCompiledBarrier →
      List GpuCompiledTask × List GpuCompiledBarrier
  | [], epilogueBarriers => ([], epilogueBarriers)
  | compiledTask :: rest, epilogueBarriers =>
      let own := (pending.filter (·.task == compiledTask.task)).map (·.barrier)
      let later := appendPendingEpilogueBarriers pending rest (epilogueBarriers ++ own)
      ({ compiledTask with
          epilogueBarrierOffset := epilogueBarriers.length
          epilogueBarrierCount := own.length } :: later.1, later.2)

/-! ## Packet dependencies -/

section Dependencies

variable (plan : GpuCompiledGraph)

/-- `appendPacketDependency`: nothing for the packet itself or a known producer, a failure for a
producer that is not an earlier packet of the plan. -/
def appendPacketDependency (consumerPacketIndex : ℕ) (dependencies : List GpuPacketDependency)
    (producerPacket : GpuSubmissionPacketId) : Option (List GpuPacketDependency) :=
  if producerPacket = plan.packetIdAt consumerPacketIndex then some dependencies
  else if !producerPacket.valid || decide (consumerPacketIndex ≤ producerPacket.index)
      || producerPacket.generation != plan.planGeneration then none
  else if dependencies.any (·.producer == producerPacket) then some dependencies
  else some (dependencies ++
    [{ producer := producerPacket, consumer := plan.packetIdAt consumerPacketIndex }])

/-- The seeds of a compiled task; an empty span is fine, a dangling one is not. -/
def requireStateSeeds (compiledTask : GpuCompiledTask) : Option (List GpuPacketStateSeed) :=
  if compiledTask.prologueStateSeedCount = 0 then some []
  else plan.taskPrologueStateSeeds compiledTask

/-- The dependencies one consumer task contributes: its incoming edges, then its seeds. -/
def planConsumerTaskDependencies (edges : List GpuTaskDependencyEdge) (consumerPacketIndex : ℕ)
    (dependencies : List GpuPacketDependency) (consumerTask : GpuTaskId) :
    Option (List GpuPacketDependency) := do
  let compiledConsumerTask ← plan.findCompiledTask consumerTask
  let afterEdges ← (edges.filter (·.consumer == consumerTask)).foldlM
    (fun dependencies edge => appendPacketDependency plan consumerPacketIndex dependencies
      (plan.findCompiledPacketForTask edge.producer)) dependencies
  let stateSeeds ← requireStateSeeds plan compiledConsumerTask
  stateSeeds.foldlM
    (fun dependencies seed => appendPacketDependency plan consumerPacketIndex dependencies
      seed.sourcePacket) afterEdges

/-- `appendExternalDependency` of the consumer packet. -/
def appendPacketExternalDependency (completions : List GpuExternalCompletionId)
    (edge : GpuTaskExternalDependencyEdge) : List GpuExternalCompletionId :=
  if completions.contains edge.completion then completions else completions ++ [edge.completion]

/-- The completions one consumer task waits for, declared ones first. -/
def planConsumerTaskExternalDependencies
    (externalDependencies initialOwnershipDependencies : List GpuTaskExternalDependencyEdge)
    (completions : List GpuExternalCompletionId) (consumerTask : GpuTaskId) :
    List GpuExternalCompletionId :=
  ((externalDependencies ++ initialOwnershipDependencies).filter
    (·.consumer == consumerTask)).foldl appendPacketExternalDependency completions

/-- The packets planned so far with the two dependency vectors. -/
structure PacketDependencyState where
  packets : List GpuSubmissionPacket := []
  packetDependencies : List GpuPacketDependency := []
  packetExternalDependencies : List GpuExternalCompletionId := []
  deriving Repr, Inhabited

/-- One consumer packet of `PlanPacketDependencies`. -/
def planConsumerPacket (analysis : GpuTaskGraphAnalysis)
    (initialOwnershipDependencies : List GpuTaskExternalDependencyEdge)
    (state : PacketDependencyState) (packet : GpuSubmissionPacket) :
    Option PacketDependencyState := do
  let consumerTasks := plan.packetTasksOf packet
  let dependencies ← consumerTasks.foldlM
    (planConsumerTaskDependencies plan analysis.edges state.packets.length) []
  let completions := consumerTasks.foldl
    (planConsumerTaskExternalDependencies analysis.externalDependencies
      initialOwnershipDependencies) []
  some {
    packets := state.packets ++
      [{ packet with
          dependencyOffset := state.packetDependencies.length
          dependencyCount := dependencies.length
          externalDependencyOffset := state.packetExternalDependencies.length
          externalDependencyCount := completions.length }]
    packetDependencies := state.packetDependencies ++ dependencies
    packetExternalDependencies := state.packetExternalDependencies ++ completions }

/-- The first loop of `PlanPacketDependencies`. -/
def planConsumerPackets (analysis : GpuTaskGraphAnalysis)
    (initialOwnershipDependencies : List GpuTaskExternalDependencyEdge) :
    Option PacketDependencyState :=
  plan.packets.foldlM (planConsumerPacket plan analysis initialOwnershipDependencies) {}

/-! ## Recording frontiers -/

/-- The dependency passes the check of the second loop. -/
def consistentDependency (packetIndex : ℕ) (dependency : GpuPacketDependency) : Bool :=
  dependency.consumer.index == packetIndex
    && dependency.consumer.generation == plan.planGeneration
    && decide (dependency.producer.index < packetIndex)
    && dependency.producer.generation == plan.planGeneration

/-- The frontier a seed asks for; `frontiers` are those of the packets before `packetIndex`. -/
def raiseFrontier (packetIndex : ℕ) (frontiers : List ℕ) (frontier : ℕ)
    (seed : GpuPacketStateSeed) : Option ℕ :=
  let sourcePacket := seed.sourcePacket
  if !sourcePacket.valid || sourcePacket == plan.packetIdAt packetIndex
      || decide (packetIndex ≤ sourcePacket.index)
      || sourcePacket.generation != plan.planGeneration then none
  else
    let producerFrontier := frontiers.getD sourcePacket.index 0
    if producerFrontier = u32Max then none
    else some (max frontier (producerFrontier + 1))

/-- The frontier of one packet. -/
def planRecordingFrontier (frontiers : List ℕ) (packet : GpuSubmissionPacket) : Option ℕ :=
  let packetIndex := frontiers.length
  if !(plan.packetDependenciesOf packet).all (consistentDependency plan packetIndex) then none
  else
    (plan.packetTasksOf packet).foldlM
      (fun frontier task => do
        let compiledTask ← plan.findCompiledTask task
        let stateSeeds ← requireStateSeeds plan compiledTask
        stateSeeds.foldlM (raiseFrontier plan packetIndex frontiers) frontier) 0

/-- The second loop of `PlanPacketDependencies`: the frontiers of all packets. -/
def planRecordingFrontiers : Option (List ℕ) :=
  plan.packets.foldlM
    (fun frontiers packet => do
      let frontier ← planRecordingFrontier plan frontiers packet
      some (frontiers ++ [frontier])) []

/-! ## The presentation endpoint -/

def planPresentEndpoint (endpoint : GpuPresentEndpoint) : Option GpuCompiledPresentEndpoint := do
  let producer ← plan.findCompiledTask endpoint.producer
  let queue ← plan.findCompiledQueueInfo producer.queue
  if !producer.packet.valid || producer.packet.generation != plan.planGeneration
      || queue.queueClass != .graphics then none
  else some { producer := endpoint.producer, backBuffer := endpoint.backBuffer,
              packet := producer.packet, queue := queue.id }

end Dependencies

/-- The first two loops of `PlanPacketDependencies` on a plan: dependencies, then frontiers. -/
def planPacketOrder (plan : GpuCompiledGraph) (analysis : GpuTaskGraphAnalysis)
    (initialOwnershipDependencies : List GpuTaskExternalDependencyEdge) :
    Option GpuCompiledGraph := do
  let consumers ← planConsumerPackets plan analysis initialOwnershipDependencies
  let connected : GpuCompiledGraph :=
    { plan with
      packets := consumers.packets
      packetDependencies := consumers.packetDependencies
      packetExternalDependencies := consumers.packetExternalDependencies }
  let frontiers ← planRecordingFrontiers connected
  some { connected with
    packets := connected.packets.zipWith
      (fun packet frontier => { packet with recordingFrontier := frontier }) frontiers }

/-- `PlanPacketDependencies`. -/
def planPacketDependencies (graph : GpuTaskGraph) (analysis : GpuTaskGraphAnalysis)
    (initialOwnershipDependencies : List GpuTaskExternalDependencyEdge) (plan : GpuCompiledGraph) :
    Option GpuCompiledGraph := do
  let ordered ← planPacketOrder plan analysis initialOwnershipDependencies
  match graph.presentEndpoint with
  | none => some ordered
  | some endpoint => do
      let compiledEndpoint ← planPresentEndpoint ordered endpoint
      some { ordered with presentEndpoint := some compiledEndpoint }

end NwbLot.TaskGraph
