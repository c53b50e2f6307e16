import NwbLot.TaskGraph.Finalization
import NwbLot.TaskGraph.Packetization

/-!
# Compilation

`GpuTaskGraphCompiler::compile` of `compiler.cpp`, as the composition of its passes.  Queue
assignment reads timing histories in floating point and is a parameter: every result holds for
whatever assignment the compiler is given.  The process-wide plan generation is a parameter too.
-/

namespace NwbLot.TaskGraph

/-- A plan generation; `AllocateCompiledPlanGeneration` never returns zero. -/
abbrev CompiledPlanGeneration := { generation : ℕ // generation ≠ 0 }

/-- The options of a compile. -/
structure GpuTaskGraphCompileOptions where
  packetizationPolicy : GpuTaskGraphPacketizationPolicy := .explicitMerge
  allowMetadataOnlyTasks : Bool := false
  deriving Repr, Inhabited

/-- `assignQueues`: an assignment for the analyzed graph, or a failure. -/
abbrev QueueAssigner :=
  GpuTaskGraph → GpuTaskGraphAnalysis → GpuTaskGraphQueueTopology →
    Option GpuTaskGraphQueueAssignments

/-! ## Recordable graphs -/

/-- The use names a backend object of its resource's type, or a hazard domain. -/
def hasBackendObject (graph : GpuTaskGraph) (use : GpuTaskResourceUse) : Bool :=
  let resource := graph.resourceAt use.resource.index
  match resource.type with
  | .texture => (graph.textureForResource use.resource).isSome
  | .buffer => graph.validResource use.resource && resource.hasBuffer
  | .accelStruct => graph.validResource use.resource && resource.hasAccelStruct
  | .hazardDomain => true

/-- What a graph that must be recordable is refused for. -/
def recordPayloadDiagnostic (graph : GpuTaskGraph) : Option GpuTaskGraphAnalysisDiagnostic :=
  (List.range graph.taskCount).findSome? fun index =>
    let task := graph.taskAt index
    if !task.hasPayload || !task.hasRecordPayload then
      some { status := .missingTaskRecordPayload, task := task.id }
    else
      task.resourceUses.findSome? fun use =>
        if hasBackendObject graph use then none
        else some { status := .invalidResourceUse, task := task.id, resource := use.resource }

/-! ## Ownership metadata -/

section Ownership

variable (graph : GpuTaskGraph) (topology : GpuTaskGraphQueueTopology) (plan : GpuCompiledGraph)

/-- A completion token of the queue's class names exactly that queue. -/
def acceptsCompletionToken (queue : GpuPhysicalQueueId) (token : QueueSubmissionToken) : Bool :=
  (plan.findCompiledQueueInfo queue).any fun info =>
    token.valid && token.queue == info.queueClass
      && token.matchesPhysicalQueue queue.index queue.deviceGeneration

/-- A final release names a state and a compiled queue, on a resource that is not shared. -/
def acceptsExternalFinalRelease (resource : GpuTaskGraphResourceView) : Bool :=
  !resource.externalFinalReleaseDestinationQueue.valid
    || (resource.externalFinalState != ResourceStates.unknown
      && !resourceUsesConcurrentQueueSharing resource.queueSharing topology
      && (plan.findCompiledQueueInfo resource.externalFinalReleaseDestinationQueue).isSome)

/-- The range, queues, completion and state of the source resolve. -/
def acceptsInitialOwnerHandoffSource (texture : Option TextureDesc)
    (source : GpuTaskGraphInitialOwnerHandoffSourceView) : Bool :=
  (resolveTextureRangeForPlanning texture source.range).isSome
    && source.sourceQueue.valid
    && source.destinationQueue.valid
    && (plan.findCompiledQueueInfo source.destinationQueue).isSome
    && graph.validExternalCompletion source.completion
    && acceptsCompletionToken plan source.sourceQueue source.minimumCompletionToken
    && source.stateSource.isSome

/-- The handoff that a valid release destination announces. -/
def acceptsInitialOwnerHandoff (resource : GpuTaskGraphResourceView) : Bool :=
  !resource.initialOwnerReleaseDestinationQueue.valid
    || ((plan.findCompiledQueueInfo resource.initialOwnerReleaseDestinationQueue).isSome
      && graph.validExternalCompletion resource.initialOwnerCompletion
      && acceptsCompletionToken plan resource.initialOwnerQueue
        resource.initialOwnerMinimumCompletionToken
      && resource.initialOwnerStateSource.isSome)

/-- One resource of the ownership loop of `compile`. -/
def acceptsResourceOwnership (resource : GpuTaskGraphResourceView) : Bool :=
  acceptsExternalFinalRelease topology plan resource
    && (if !resource.initialOwnerHandoffSources.isEmpty then
        resource.type == .texture
          && !resourceUsesConcurrentQueueSharing resource.queueSharing topology
          && resource.initialOwnerHandoffSources.all
            (acceptsInitialOwnerHandoffSource graph plan (graph.textureForResource resource.id))
      else if !resource.initialOwnerQueue.valid then true
      else
        !resourceUsesConcurrentQueueSharing resource.queueSharing topology
          && (plan.findCompiledQueueInfo resource.initialOwnerQueue).isSome
          && acceptsInitialOwnerHandoff graph plan resource)

/-- Every resource's ownership is accepted. -/
def acceptsOwnershipMetadata : Bool :=
  (List.range graph.resourceCount).all fun index =>
    acceptsResourceOwnership graph topology plan (graph.resourceAt index)

end Ownership

/-! ## The passes -/

/-- The empty plan of a compilation. -/
def openPlan (graph : GpuTaskGraph) (topology : GpuTaskGraphQueueTopology)
    (deviceGeneration : ℕ) (planGeneration : CompiledPlanGeneration) : GpuCompiledGraph where
  queueTopology := topology
  graphGeneration := graph.generation
  deviceGeneration := deviceGeneration
  planGeneration := planGeneration.val

/-- The plan with packetization's vectors. -/
def GpuCompiledGraph.withPackets (plan : GpuCompiledGraph) (state : PacketizationState) :
    GpuCompiledGraph :=
  { plan with packets := state.packets, packetTasks := state.packetTasks, tasks := state.tasks }

/-- The plan with the vectors of state and export planning, epilogues grouped. -/
def GpuCompiledGraph.withStates (plan : GpuCompiledGraph) (states : ResourceStatePlan)
    (exports : ExternalExportPlan) : GpuCompiledGraph :=
  let plannedTasks := states.tasks ++ plan.tasks.drop states.tasks.length
  let grouped := appendPendingEpilogueBarriers
    (states.entries.pendingEpilogueBarriers ++ exports.pendingEpilogueBarriers) plannedTasks []
  { plan with
    tasks := grouped.1
    epilogueBarriers := grouped.2
    prologueStateSeeds := states.entries.prologueStateSeeds
    prologueBarriers := states.entries.prologueBarriers
    externalResourceExports := exports.exports
    externalResourceExportSources := exports.sources }

/-- State and export planning on a packetized plan: the plan before dependency planning, and the
initial-ownership waits. -/
def planResourceStates (graph : GpuTaskGraph) (topology : GpuTaskGraphQueueTopology)
    (analysis : GpuTaskGraphAnalysis) (plan : GpuCompiledGraph) :
    Option (GpuCompiledGraph × List GpuTaskExternalDependencyEdge) := do
  let states ← planTaskResourceStates graph topology plan analysis.topologicalOrder
  let exports ← planExternalResourceExports graph plan states.trackedResourceStates
  some (plan.withStates states exports, states.entries.initialOwnershipDependencies)

/-- What a successful compilation hands out. -/
structure GpuTaskGraphCompilation where
  analysis : GpuTaskGraphAnalysis := {}
  assignments : GpuTaskGraphQueueAssignments := {}
  compiledGraph : GpuCompiledGraph := {}
  deriving Repr, Inhabited

section Compile

variable (assignQueues : QueueAssigner) (options : GpuTaskGraphCompileOptions)
  (planGeneration : CompiledPlanGeneration) (graph : GpuTaskGraph)
  (topology : GpuTaskGraphQueueTopology)

/-- Everything up to state planning: the assignments and the packetized plan. -/
def compilePackets : Option (GpuTaskGraphQueueAssignments × GpuCompiledGraph) := do
  let analysis := analyze graph
  if !analysis.valid then none
  else if !options.allowMetadataOnlyTasks && (recordPayloadDiagnostic graph).isSome then none
  else do
    let assignments ← assignQueues graph analysis topology
    let firstQueue ← topology.head?
    if !graph.validForDeviceGeneration firstQueue.id.deviceGeneration then none
    else
      let plan := openPlan graph topology firstQueue.id.deviceGeneration planGeneration
      if !acceptsOwnershipMetadata graph topology plan then none
      else do
        let packets ← buildSubmissionPackets graph analysis assignments options.packetizationPolicy
          planGeneration.val
        some (assignments, plan.withPackets packets)

/-- Everything up to dependency planning. -/
def compileStates : Option
    (GpuTaskGraphQueueAssignments × GpuCompiledGraph × List GpuTaskExternalDependencyEdge) := do
  let packets ← compilePackets assignQueues options planGeneration graph topology
  let states ← planResourceStates graph topology (analyze graph) packets.2
  some (packets.1, states)

/-- `GpuTaskGraphCompiler::compile`. -/
def compile : Option GpuTaskGraphCompilation := do
  let (assignments, plan, initialOwnershipDependencies) ←
    compileStates assignQueues options planGeneration graph topology
  let compiledGraph ← planPacketDependencies graph (analyze graph) initialOwnershipDependencies plan
  some { analysis := analyze graph, assignments, compiledGraph }

end Compile

/-! ## Preferred queues

The part of `assignQueues` that decides for tasks with a fixed preference: tasks that do not let
the compiler override it and opt into neither routing nor timing feedback.  Compilation takes any
assignment; this one runs the compiler on concrete graphs. -/

/-- The queue of a task with a fixed preference. -/
def preferredQueue (topology : GpuTaskGraphQueueTopology) (request : GpuQueueRequest) :
    Option GpuPhysicalQueueInfo :=
  let best := findBestCompatibleQueue topology request.requiredCapabilities
  if hasCapabilities request.requiredCapabilities GpuQueueCapability.graphics then best .graphics
  else
    match request.preferredQueue with
    | .graphics => best .graphics
    | .compute => best .compute
    | .transfer => best .transfer
    | .any => best .graphics <|> best .kCount

/-- `assignQueues` over tasks with fixed preferences. -/
def assignPreferredQueues : QueueAssigner := fun graph analysis topology => do
  let assignments ← analysis.topologicalOrder.mapM fun id => do
    let queue ← preferredQueue topology (graph.taskAt id.index).queue
    some { task := id, queue := queue.id, queueClass := queue.queueClass,
           reason := .preferredQueue, dedicated := queue.dedicated : GpuTaskQueueAssignment }
  some { assignments, generation := graph.generation }

/-! ## Small graphs -/

/-- One Graphics queue. -/
def singleQueueTopology : GpuTaskGraphQueueTopology :=
  [{ id := ⟨0, 1⟩, queueClass := .graphics, capabilities := 7, familyIndex := 0 }]

/-- A Graphics and a Compute queue of different families. -/
def twoFamilyTopology : GpuTaskGraphQueueTopology :=
  [{ id := ⟨0, 1⟩, queueClass := .graphics, capabilities := 7, familyIndex := 0 },
   { id := ⟨1, 1⟩, queueClass := .compute, capabilities := 3, familyIndex := 1 }]

/-- A recordable task with a fixed queue preference. -/
def recordedTask (identity : Name) (preferredQueue : GpuQueuePreference)
    (resourceUses : List GpuTaskResourceUse) : GpuTaskNode :=
  { identity, resourceUses, hasPayload := true, hasRecordPayload := true
    queue := { preferredQueue, compilerMayOverridePreference := false } }

/-- A buffer with a backend object. -/
def bufferNode (identity : Name) (initialState : ResourceStates) : GpuGraphResourceNode :=
  { identity, type := .buffer, hasBuffer := true, deviceGeneration := 1, initialState }

lemma length_oneBuffer : [bufferNode 3 ResourceStates.common].length ≤ u32Max := by decide

lemma oneBuffer_declared : ∀ resource ∈ [bufferNode 3 ResourceStates.common],
    validResourceDeclaration (validHandle 1 0) resource = true := by decide

end NwbLot.TaskGraph
