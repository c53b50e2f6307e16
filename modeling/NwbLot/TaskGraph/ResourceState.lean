import NwbLot.TaskGraph.CompiledPlan

/-!
# Resource state planning

`PlanTaskResourceStates` of `compiler_resource_state.cpp`: for every use in topological order, the
state seeds, ownership handoffs and transitions of the part of its range the task has not declared
yet, against the newest earlier state of each piece.

The source appends to four vectors that nothing in this pass reads back, so a step here returns
what it appends (`StatePlanEntries`), in the source's order for each vector.
-/

namespace NwbLot.TaskGraph

/-! ## Barrier kinds -/

/-- `TransitionBarrierType`. -/
def transitionBarrierType : GpuGraphResourceType → GpuCompiledBarrierType
  | .texture => .textureTransition
  | .buffer => .bufferTransition
  | .accelStruct => .accelStructTransition
  | .hazardDomain => .textureTransition

/-- `UavBarrierType`. -/
def uavBarrierType : GpuGraphResourceType → GpuCompiledBarrierType
  | .texture => .textureUav
  | .buffer => .bufferUav
  | .accelStruct => .accelStructUav
  | .hazardDomain => .textureUav

/-- `StateExportBarrierType`; `kCount` is `none`. -/
def stateExportBarrierType : GpuGraphResourceType → Option GpuCompiledBarrierType
  | .texture => some .textureStateExport
  | .buffer => some .bufferStateExport
  | .accelStruct => some .accelStructStateExport
  | .hazardDomain => none

/-- `OwnershipReleaseBarrierType`; `kCount` is `none`. -/
def ownershipReleaseBarrierType : GpuGraphResourceType → Option GpuCompiledBarrierType
  | .texture => some .textureOwnershipRelease
  | .buffer => some .bufferOwnershipRelease
  | .accelStruct => some .accelStructOwnershipRelease
  | .hazardDomain => none

/-- `OwnershipAcquireBarrierType`; `kCount` is `none`. -/
def ownershipAcquireBarrierType : GpuGraphResourceType → Option GpuCompiledBarrierType
  | .texture => some .textureOwnershipAcquire
  | .buffer => some .bufferOwnershipAcquire
  | .accelStruct => some .accelStructOwnershipAcquire
  | .hazardDomain => none

/-! ## What a step appends -/

/-- A barrier that an earlier task has to end with. -/
structure PendingCompiledEpilogueBarrier where
  task : GpuTaskId := {}
  barrier : GpuCompiledBarrier := {}
  deriving DecidableEq, Repr, Inhabited

/-- Appended seeds, prologue barriers, pending releases and initial-ownership waits. -/
structure StatePlanEntries where
  prologueStateSeeds : List GpuPacketStateSeed := []
  prologueBarriers : List GpuCompiledBarrier := []
  pendingEpilogueBarriers : List PendingCompiledEpilogueBarrier := []
  initialOwnershipDependencies : List GpuTaskExternalDependencyEdge := []
  deriving DecidableEq, Repr, Inhabited

namespace StatePlanEntries

/-- The entries of both. -/
def append (xs ys : StatePlanEntries) : StatePlanEntries where
  prologueStateSeeds := xs.prologueStateSeeds ++ ys.prologueStateSeeds
  prologueBarriers := xs.prologueBarriers ++ ys.prologueBarriers
  pendingEpilogueBarriers := xs.pendingEpilogueBarriers ++ ys.pendingEpilogueBarriers
  initialOwnershipDependencies :=
    xs.initialOwnershipDependencies ++ ys.initialOwnershipDependencies

instance : Append StatePlanEntries := ⟨append⟩

@[simp] lemma append_seeds (xs ys : StatePlanEntries) :
    (xs ++ ys).prologueStateSeeds = xs.prologueStateSeeds ++ ys.prologueStateSeeds := rfl

@[simp] lemma append_barriers (xs ys : StatePlanEntries) :
    (xs ++ ys).prologueBarriers = xs.prologueBarriers ++ ys.prologueBarriers := rfl

@[simp] lemma append_pending (xs ys : StatePlanEntries) :
    (xs ++ ys).pendingEpilogueBarriers
      = xs.pendingEpilogueBarriers ++ ys.pendingEpilogueBarriers := rfl

@[simp] lemma append_ownership (xs ys : StatePlanEntries) :
    (xs ++ ys).initialOwnershipDependencies
      = xs.initialOwnershipDependencies ++ ys.initialOwnershipDependencies := rfl

/-- Concatenation in order. -/
def concat (entries : List StatePlanEntries) : StatePlanEntries :=
  entries.foldr append {}

@[simp] lemma concat_nil : concat [] = {} := rfl

@[simp] lemma concat_cons (x : StatePlanEntries) (xs : List StatePlanEntries) :
    concat (x :: xs) = x ++ concat xs := rfl

end StatePlanEntries

/-! ## Initial owners -/

/-- The external source a first use imports. -/
structure InitialOwnerImport where
  sourceQueue : GpuPhysicalQueueId := {}
  completion : GpuExternalCompletionId := {}
  acquireType : GpuCompiledBarrierType := .textureOwnershipAcquire
  deriving DecidableEq, Repr, Inhabited

/-- `FindInitialOwnerHandoffSource`: exactly one listed source must contain the first-use range. -/
def findInitialOwnerHandoffSource (resource : GpuTaskGraphResourceView)
    (texture : Option TextureDesc) (firstUseRange : GpuTaskResourceRange)
    (destinationQueue : GpuPhysicalQueueId) : Option GpuTaskGraphInitialOwnerHandoffSourceView :=
  let matching := resource.initialOwnerHandoffSources.filter fun source =>
    source.destinationQueue == destinationQueue
      && (resolveTextureRangeForPlanning texture source.range).any fun plannedSourceRange =>
        rangeContains resource.type plannedSourceRange firstUseRange
  match matching with
  | [source] => some source
  | _ => none

/-- The ownership branch of a first use: refused, an import, or nothing to import. -/
def resolveInitialOwner (resource : GpuTaskGraphResourceView) (texture : Option TextureDesc)
    (range : GpuTaskResourceRange) (queue : GpuPhysicalQueueId) :
    Option (Option InitialOwnerImport) :=
  if resource.initialOwnerReleaseDestinationQueue.valid
      && resource.initialOwnerReleaseDestinationQueue != queue then none
  else if !resource.initialOwnerHandoffSources.isEmpty then do
    let source ← findInitialOwnerHandoffSource resource texture range queue
    let acquireType ← ownershipAcquireBarrierType resource.type
    some (some { sourceQueue := source.sourceQueue, completion := source.completion, acquireType })
  else if resource.initialOwnerQueue.valid && resource.initialOwnerQueue != queue then
    if !resource.initialOwnerReleaseDestinationQueue.valid
        || resource.initialOwnerReleaseDestinationQueue != queue
        || !resource.initialOwnerCompletion.valid
        || resource.initialOwnerStateSource.isNone then none
    else do
      let acquireType ← ownershipAcquireBarrierType resource.type
      some (some { sourceQueue := resource.initialOwnerQueue,
                   completion := resource.initialOwnerCompletion, acquireType })
  else some none

/-! ## One range against its previous state -/

section PlanRange

variable (topology : GpuTaskGraphQueueTopology) (plan : GpuCompiledGraph)
  (resource : GpuTaskGraphResourceView) (use : GpuTaskResourceUse) (task : GpuCompiledTask)

/-- `needsUavDependency`. -/
def needsUavDependency (previousState : TrackedCompiledResourceState) : Bool :=
  previousState.state == use.requiredState
    && ResourceStates.hasUnorderedAccess previousState.state
    && (isWriteAccess previousState.access || isWriteAccess use.access)

/-- `mayOmitInternalStateSeed`. -/
def mayOmitInternalStateSeed (previousState : TrackedCompiledResourceState)
    (concurrentQueuePair : Bool) : Bool :=
  let readOnlySameState :=
    previousState.access == .read && use.access == .read
      && previousState.state == use.requiredState && !needsUavDependency use previousState
  use.hasIndependentStateSource && readOnlySameState && concurrentQueuePair

/-- The release in the previous task's epilogue with its acquire. -/
def planOwnershipHandoff (range : GpuTaskResourceRange)
    (previousState : TrackedCompiledResourceState) : Option StatePlanEntries := do
  let releaseType ← ownershipReleaseBarrierType resource.type
  let acquireType ← ownershipAcquireBarrierType resource.type
  let barrier : GpuCompiledBarrier :=
    { resource := use.resource, range, before := previousState.state, after := previousState.state,
      sourceQueue := previousState.queue, destinationQueue := task.queue }
  some { pendingEpilogueBarriers :=
          [{ task := previousState.task, barrier := { barrier with type := releaseType } }]
         prologueBarriers := [{ barrier with type := acquireType }] }

/-- The seed naming the packet whose state snapshot the range starts from. -/
def planStateSeed (range : GpuTaskResourceRange) (previousState : TrackedCompiledResourceState)
    (sourcePacket : GpuSubmissionPacketId) (concurrentQueuePair : Bool) : StatePlanEntries :=
  if mayOmitInternalStateSeed use previousState concurrentQueuePair then {}
  else { prologueStateSeeds := [{ resource := use.resource, range, sourcePacket }] }

/-- `requiresExclusiveOwnershipHandoff`. -/
def requiresExclusiveOwnershipHandoff (sourceQueue destinationQueue : GpuPhysicalQueueInfo) :
    Bool :=
  !resourceUsesConcurrentQueueSharing resource.queueSharing topology
    && sourceQueue.familyIndex != destinationQueue.familyIndex

/-- Nothing, or the ownership handoff when the queues' families differ. -/
def planExclusiveHandoff (range : GpuTaskResourceRange)
    (previousState : TrackedCompiledResourceState)
    (sourceQueue destinationQueue : GpuPhysicalQueueInfo) : Option StatePlanEntries :=
  if requiresExclusiveOwnershipHandoff topology resource sourceQueue destinationQueue then
    planOwnershipHandoff resource use task range previousState
  else some {}

/-- The exclusive handoff and the seed from an earlier packet. -/
def planPacketHandoff (range : GpuTaskResourceRange)
    (previousState : TrackedCompiledResourceState) : Option StatePlanEntries :=
  let sourcePacket := plan.findCompiledPacketForTask previousState.task
  if !sourcePacket.valid then none
  else if sourcePacket = task.packet then some {}
  else do
    let sourceQueue ← plan.findCompiledQueueInfo previousState.queue
    let destinationQueue ← plan.findCompiledQueueInfo task.queue
    let concurrentQueuePair := resourceSharesQueuePairConcurrently resource.queueSharing topology
      sourceQueue destinationQueue
    if sourceQueue.familyIndex != destinationQueue.familyIndex
        && resourceUsesConcurrentQueueSharing resource.queueSharing topology
        && !concurrentQueuePair then none
    else do
      let handoff ← planExclusiveHandoff topology resource use task range previousState sourceQueue
        destinationQueue
      some (handoff ++ planStateSeed use range previousState sourcePacket concurrentQueuePair)

/-- The imported external owner of a first use. -/
def planInitialOwnerImport (range : GpuTaskResourceRange) (owner : InitialOwnerImport) :
    StatePlanEntries where
  prologueBarriers :=
    [{ resource := use.resource, range, before := resource.initialState,
       after := resource.initialState, sourceQueue := owner.sourceQueue,
       destinationQueue := task.queue, type := owner.acquireType, isInitialOwnerHandoff := true }]
  initialOwnershipDependencies := [{ completion := owner.completion, consumer := task.task }]

/-- The UAV barrier or transition after an earlier graph state. -/
def planTransition (range : GpuTaskResourceRange) (previousState : TrackedCompiledResourceState) :
    StatePlanEntries :=
  let needsUav := needsUavDependency use previousState
  if previousState.state != use.requiredState || needsUav then
    { prologueBarriers :=
        [{ resource := use.resource, range, before := previousState.state,
           after := use.requiredState, sourceQueue := previousState.queue,
           destinationQueue := task.queue,
           type := if needsUav then uavBarrierType resource.type
             else transitionBarrierType resource.type }] }
  else {}

/-- A range with an earlier graph state: handoff, then the transition or UAV barrier. -/
def planFromPreviousState (range : GpuTaskResourceRange)
    (previousState : TrackedCompiledResourceState) : Option StatePlanEntries := do
  let handoff ← planPacketHandoff topology plan resource use task range previousState
  some (handoff ++ planTransition resource use task range previousState)

/-- The marker or transition from the declared initial state. -/
def planInitialTransition (range : GpuTaskResourceRange) (hasInitialOwnerStateSeed : Bool) :
    StatePlanEntries :=
  let materializesGraphInitialState :=
    !hasInitialOwnerStateSeed && resource.initialState != ResourceStates.unknown
  let requiresExplicitInitialStateSource :=
    !hasInitialOwnerStateSeed && resource.hasBackendResource
      && resource.initialState == ResourceStates.unknown && isReadAccess use.access
  if materializesGraphInitialState || resource.initialState != use.requiredState then
    { prologueBarriers :=
        [{ resource := use.resource, range, before := resource.initialState,
           after := use.requiredState, sourceQueue := task.queue, destinationQueue := task.queue,
           type := transitionBarrierType resource.type,
           isGraphInitialState :=
             materializesGraphInitialState || requiresExplicitInitialStateSource }] }
  else {}

/-- A first use in the graph: the import, then the initial transition. -/
def planFromInitialState (range : GpuTaskResourceRange) (owner : Option InitialOwnerImport)
    (hasInitialOwnerStateSeed : Bool) : StatePlanEntries :=
  let imported : StatePlanEntries :=
    match owner with
    | none => {}
    | some owner => planInitialOwnerImport resource use task range owner
  imported ++ planInitialTransition resource use task range hasInitialOwnerStateSeed

end PlanRange

/-! ## One use -/

section PlanUse

variable (graph : GpuTaskGraph) (topology : GpuTaskGraphQueueTopology) (plan : GpuCompiledGraph)
  (task : GpuCompiledTask)

/-- The tracked entry of a planned use. -/
def trackedState (use : GpuTaskResourceUse) (plannedRange : GpuTaskResourceRange) :
    TrackedCompiledResourceState where
  resource := use.resource
  range := plannedRange
  state := use.requiredState
  access := use.access
  task := task.task
  queue := task.queue

/-- The fragment loop's body. -/
def planTextureFragment (use : GpuTaskResourceUse) (fragment : TrackedTextureStateFragment) :
    Option StatePlanEntries :=
  let resource := graph.resourceAt use.resource.index
  match fragment.state with
  | some previousState =>
      planFromPreviousState topology plan resource use task fragment.range previousState
  | none => do
      let owner ← resolveInitialOwner resource (graph.textureForResource use.resource)
        fragment.range task.queue
      some (planFromInitialState resource use task fragment.range owner owner.isSome)

/-- The texture branch of the use loop. -/
def planTextureUse (previousUses : List GpuTaskResourceUse)
    (trackedStates : List TrackedCompiledResourceState) (use : GpuTaskResourceUse) :
    Option (List TrackedCompiledResourceState × StatePlanEntries) := do
  let texture := graph.textureForResource use.resource
  let plannedRange ← resolveTextureRangeForPlanning texture use.range
  let firstUseRanges ← collectTextureFirstUseRangesWithinTask previousUses use.resource texture
    plannedRange
  let fragments ← collectLatestTextureStateFragments trackedStates use.resource firstUseRanges
  let entries ← fragments.mapM (planTextureFragment graph topology plan task use)
  some ([trackedState task use plannedRange], StatePlanEntries.concat entries)

/-- The whole-resource branch of the use loop. -/
def planWholeResourceUse (previousUses : List GpuTaskResourceUse)
    (trackedStates : List TrackedCompiledResourceState) (use : GpuTaskResourceUse) :
    Option (List TrackedCompiledResourceState × StatePlanEntries) :=
  let resource := graph.resourceAt use.resource.index
  let tracked := [trackedState task use use.range]
  -- a later use of the same task only becomes the state later tasks see
  if previousUses.any fun previousUse =>
      previousUse.resource == use.resource
        && rangesOverlap resource.type previousUse.range use.range then
    some (tracked, {})
  else
    let previousState := trackedStates.reverse.find? fun candidate =>
      candidate.resource == use.resource && rangesOverlap resource.type candidate.range use.range
    match previousState with
    | some previousState => do
        let entries ← planFromPreviousState topology plan resource use task use.range previousState
        some (tracked, entries)
    | none => do
        let owner ← resolveInitialOwner resource none use.range task.queue
        let hasInitialOwnerStateSeed := !resource.initialOwnerHandoffSources.isEmpty
          || (resource.initialOwnerReleaseDestinationQueue.valid
            && resource.initialOwnerStateSource.isSome)
        some (tracked, planFromInitialState resource use task use.range owner
          hasInitialOwnerStateSeed)

/-- The body of the use loop. -/
def planResourceUse (taskQueue : GpuPhysicalQueueInfo) (previousUses : List GpuTaskResourceUse)
    (trackedStates : List TrackedCompiledResourceState) (use : GpuTaskResourceUse) :
    Option (List TrackedCompiledResourceState × StatePlanEntries) :=
  let resource := graph.resourceAt use.resource.index
  if resource.type == .hazardDomain || use.requiredState == ResourceStates.unknown then
    some ([], {})
  else if resourceUsesConcurrentQueueSharing resource.queueSharing topology
      && !resourceSharingIncludesQueueClass resource.queueSharing taskQueue.queueClass then none
  else if resource.type == .texture then
    planTextureUse graph topology plan task previousUses trackedStates use
  else planWholeResourceUse graph topology plan task previousUses trackedStates use

/-- The use loop of one task: the tracked states it leaves and everything it appends. -/
def planTaskUses (taskQueue : GpuPhysicalQueueInfo) :
    List GpuTaskResourceUse → List TrackedCompiledResourceState → List GpuTaskResourceUse →
      Option (List TrackedCompiledResourceState × StatePlanEntries)
  | _, trackedStates, [] => some (trackedStates, {})
  | previousUses, trackedStates, use :: rest => do
      let planned ← planResourceUse graph topology plan task taskQueue previousUses trackedStates use
      let later ← planTaskUses taskQueue (previousUses ++ [use]) (trackedStates ++ planned.1) rest
      some (later.1, planned.2 ++ later.2)

end PlanUse

/-! ## All tasks -/

/-- The pass's working state; `tasks` are the compiled tasks planned so far, with their spans. -/
structure ResourceStatePlan where
  tasks : List GpuCompiledTask := []
  trackedResourceStates : List TrackedCompiledResourceState := []
  entries : StatePlanEntries := {}
  deriving Repr, Inhabited

/-- The body of the task loop.  Lookups go through the plan packetization left: this pass changes
only the spans of its tasks. -/
def planTask (graph : GpuTaskGraph) (topology : GpuTaskGraphQueueTopology)
    (plan : GpuCompiledGraph) (state : ResourceStatePlan) (taskID : GpuTaskId) :
    Option ResourceStatePlan := do
  let compiledTask ← plan.tasks[state.tasks.length]?
  if compiledTask.task ≠ taskID then none
  else do
    let taskQueue ← plan.findCompiledQueueInfo compiledTask.queue
    let planned ← planTaskUses graph topology plan compiledTask taskQueue []
      state.trackedResourceStates (graph.taskAt taskID.index).resourceUses
    some {
      tasks := state.tasks ++
        [{ compiledTask with
            prologueStateSeedOffset := state.entries.prologueStateSeeds.length
            prologueBarrierOffset := state.entries.prologueBarriers.length
            prologueStateSeedCount := planned.2.prologueStateSeeds.length
            prologueBarrierCount := planned.2.prologueBarriers.length }]
      trackedResourceStates := planned.1
      entries := state.entries ++ planned.2 }

/-- `PlanTaskResourceStates`. -/
def planTaskResourceStates (graph : GpuTaskGraph) (topology : GpuTaskGraphQueueTopology)
    (plan : GpuCompiledGraph) (topologicalOrder : List GpuTaskId) : Option ResourceStatePlan :=
  topologicalOrder.foldlM (planTask graph topology plan) {}

end NwbLot.TaskGraph
