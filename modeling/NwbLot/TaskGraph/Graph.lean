import NwbLot.TaskGraph.Types

/-!
# The declared graph

`GpuTaskGraph` as the compiler reads it: the task and resource declarations, the imported
completions and the optional presentation endpoint.  Per-task slices of the graph-owned
vectors (`m_dependencies`, `m_resourceUses`, ...) are lists of the task.

Resource sets are expanded into ordinary uses when a task is appended, so a task declaration
already carries the expanded list.  `appendResource` refuses ill-formed ownership metadata;
its checks are `validResourceDeclaration`, and every resource of a `GpuTaskGraph` has passed
them.
-/

namespace NwbLot.TaskGraph

/-! ## Imported objects -/

/-- The kinds of textures. -/
inductive TextureDimension
  | unknown
  | texture1D
  | texture1DArray
  | texture2D
  | texture2DArray
  | textureCube
  | textureCubeArray
  | texture2DMS
  | texture2DMSArray
  | texture3D
  deriving DecidableEq, Repr, Inhabited

/-- The extent of a typed texture that subresource resolution reads. -/
structure TextureDesc where
  arraySize : UInt32 := 1
  mipLevels : UInt32 := 1
  dimension : TextureDimension := .texture2D
  deriving DecidableEq, Repr, Inhabited

/-- A graph-owned copy of a native state snapshot.  The compiler only asks whether it is valid
and for which device; `identity` tells two snapshots apart. -/
structure CommandListResourceStateHandoff where
  identity : ℕ := 0
  valid : Bool := true
  deviceGeneration : ℕ := 0
  deriving DecidableEq, Repr, Inhabited

/-- One external ownership source of an imported texture range. -/
structure GpuTaskGraphInitialOwnerHandoffSourceView where
  range : GpuTaskResourceRange := {}
  sourceQueue : GpuPhysicalQueueId := {}
  destinationQueue : GpuPhysicalQueueId := {}
  completion : GpuExternalCompletionId := {}
  minimumCompletionToken : QueueSubmissionToken := {}
  stateSource : Option CommandListResourceStateHandoff := none
  deriving DecidableEq, Repr, Inhabited

/-- `GpuGraphResourceNode` without its marker label. -/
structure GpuGraphResourceNode where
  identity : Name := 0
  type : GpuGraphResourceType := .hazardDomain
  texture : Option TextureDesc := none
  hasBuffer : Bool := false
  hasAccelStruct : Bool := false
  deviceGeneration : ℕ := 0
  initialState : ResourceStates := ResourceStates.unknown
  externalFinalState : ResourceStates := ResourceStates.unknown
  externalFinalReleaseDestinationQueue : GpuPhysicalQueueId := {}
  initialOwnerQueue : GpuPhysicalQueueId := {}
  initialOwnerReleaseDestinationQueue : GpuPhysicalQueueId := {}
  initialOwnerCompletion : GpuExternalCompletionId := {}
  initialOwnerMinimumCompletionToken : QueueSubmissionToken := {}
  initialOwnerStateSource : Option CommandListResourceStateHandoff := none
  initialOwnerHandoffSources : List GpuTaskGraphInitialOwnerHandoffSourceView := []
  queueSharing : ResourceQueueSharing := ResourceQueueSharing.exclusive
  deriving DecidableEq, Repr, Inhabited

/-- `GpuTaskNode` without its marker label and lifecycle state. -/
structure GpuTaskNode where
  identity : Name := 0
  queue : GpuQueueRequest := {}
  scheduling : GpuTaskSchedulingHint := {}
  dependencies : List GpuTaskId := []
  externalDependencies : List GpuExternalCompletionId := []
  externalStateSources : List (Option CommandListResourceStateHandoff) := []
  resourceUses : List GpuTaskResourceUse := []
  hasPayload : Bool := false
  hasRecordPayload : Bool := false
  timing : GpuTaskTimingMetadata := {}
  deriving DecidableEq, Repr, Inhabited

/-! ## Symbolic range ends -/

/-- End of a subresource interval; the symbolic count reaches `Limit<u64>::s_Max`.
`RangeEnd` in the compiler and `TextureRangeEnd` in the graph are this function. -/
def rangeEnd (base count all : UInt32) : ℕ :=
  if count = all then u64Max else base.toNat + count.toNat

/-- `ValidTextureRange`, also `IsValidTextureRange`. -/
def isValidTextureRange (range : TextureSubresourceSet) : Bool :=
  range.numMipLevels != 0 && range.numArraySlices != 0

/-- `TextureRangesOverlap`. -/
def textureRangesOverlap (lhs rhs : TextureSubresourceSet) : Bool :=
  lhs.baseMipLevel.toNat < rangeEnd rhs.baseMipLevel rhs.numMipLevels allMipLevels
    && rhs.baseMipLevel.toNat < rangeEnd lhs.baseMipLevel lhs.numMipLevels allMipLevels
    && lhs.baseArraySlice.toNat < rangeEnd rhs.baseArraySlice rhs.numArraySlices allArraySlices
    && rhs.baseArraySlice.toNat < rangeEnd lhs.baseArraySlice lhs.numArraySlices allArraySlices

/-! ## What `appendResource` accepts -/

/-- One multi-source entry passes its own checks. -/
def validInitialOwnerHandoffSource (validCompletion : GpuExternalCompletionId → Bool)
    (source : GpuTaskGraphInitialOwnerHandoffSourceView) : Bool :=
  isValidTextureRange source.range.textureSubresources
    && source.sourceQueue.valid
    && source.destinationQueue.valid
    && source.completion.valid
    && validCompletion source.completion
    && source.minimumCompletionToken.valid
    && source.minimumCompletionToken.matchesPhysicalQueue source.sourceQueue.index
      source.sourceQueue.deviceGeneration
    && source.stateSource.isSome

/-- No two listed sources overlap. -/
def disjointInitialOwnerHandoffSources :
    List GpuTaskGraphInitialOwnerHandoffSourceView → Bool
  | [] => true
  | source :: rest =>
      rest.all (fun later =>
        !textureRangesOverlap later.range.textureSubresources source.range.textureSubresources)
      && disjointInitialOwnerHandoffSources rest

/-- The resource kinds that have a native state and an owner. -/
def GpuGraphResourceType.hasNativeState : GpuGraphResourceType → Bool
  | .hazardDomain => false
  | _ => true

/-- The checks of `appendResource`, on the stored record. -/
def validResourceDeclaration (validCompletion : GpuExternalCompletionId → Bool)
    (desc : GpuGraphResourceNode) : Bool :=
  let hasInitialOwnerHandoff :=
    desc.initialOwnerReleaseDestinationQueue.valid
      || desc.initialOwnerCompletion.valid
      || desc.initialOwnerMinimumCompletionToken.valid
      || desc.initialOwnerStateSource.isSome
  let hasMultiInitialOwnerHandoff := !desc.initialOwnerHandoffSources.isEmpty
  let hasExternalFinalRelease := desc.externalFinalReleaseDestinationQueue.valid
  desc.identity != 0
    && (desc.externalFinalState == ResourceStates.unknown || desc.type.hasNativeState)
    && (!hasExternalFinalRelease
      || (desc.externalFinalState != ResourceStates.unknown && desc.type.hasNativeState))
    && (!hasMultiInitialOwnerHandoff
      || (desc.type == .texture
        && !hasInitialOwnerHandoff
        && !desc.initialOwnerQueue.valid
        && desc.initialState != ResourceStates.unknown
        && desc.queueSharing == ResourceQueueSharing.exclusive))
    && (!desc.initialOwnerQueue.valid || desc.type.hasNativeState)
    && (!hasInitialOwnerHandoff
      || (desc.initialOwnerQueue.valid
        && desc.initialOwnerReleaseDestinationQueue.valid
        && desc.initialOwnerReleaseDestinationQueue != desc.initialOwnerQueue
        && desc.initialOwnerCompletion.valid
        && validCompletion desc.initialOwnerCompletion
        && desc.initialOwnerMinimumCompletionToken.valid
        && desc.initialOwnerMinimumCompletionToken.matchesPhysicalQueue
          desc.initialOwnerQueue.index desc.initialOwnerQueue.deviceGeneration
        && desc.initialOwnerStateSource.isSome
        && desc.initialState != ResourceStates.unknown))
    && desc.initialOwnerHandoffSources.all (validInitialOwnerHandoffSource validCompletion)
    && disjointInitialOwnerHandoffSources desc.initialOwnerHandoffSources

/-- A handle of this kind names one of the first `count` entries of generation `generation`. -/
def validHandle {kind : HandleKind} (generation count : ℕ) (id : GraphHandle kind) : Bool :=
  id.valid && id.generation == generation && decide (id.index < count)

/-! ## The graph -/

/-- A declared graph.  `appendTask`, `appendResource` and `appendExternalCompletion` refuse to
grow a vector past `Limit<u32>::s_Max`, and generations are allocated nonzero. -/
structure GpuTaskGraph where
  generation : ℕ
  tasks : List GpuTaskNode
  resources : List GpuGraphResourceNode
  externalCompletions : List Name
  /-- Device generations of the pipelines that retain a backend handle. -/
  pipelineDeviceGenerations : List ℕ := []
  presentEndpoint : Option GpuPresentEndpoint := none
  generation_ne_zero : generation ≠ 0
  tasks_length_le : tasks.length ≤ u32Max
  resources_length_le : resources.length ≤ u32Max
  resources_declared : ∀ resource ∈ resources,
    validResourceDeclaration (validHandle generation externalCompletions.length) resource = true

/-- A task declaration together with its handle. -/
structure GpuTaskGraphTaskView extends GpuTaskNode where
  id : GpuTaskId := {}
  deriving DecidableEq, Repr, Inhabited

/-- A resource declaration together with its handle. -/
structure GpuTaskGraphResourceView extends GpuGraphResourceNode where
  id : GpuGraphResourceId := {}
  deriving DecidableEq, Repr, Inhabited

/-- `hasBackendResource`. -/
def GpuGraphResourceNode.hasBackendResource (resource : GpuGraphResourceNode) : Bool :=
  resource.texture.isSome || resource.hasBuffer || resource.hasAccelStruct

namespace GpuTaskGraph

variable (graph : GpuTaskGraph)

/-- The number of tasks. -/
def taskCount : ℕ := graph.tasks.length

/-- The number of resources. -/
def resourceCount : ℕ := graph.resources.length

/-- The handle of the task at an index. -/
def taskIdAt (index : ℕ) : GpuTaskId := ⟨index, graph.generation⟩

/-- `taskAt`; the source asserts that the index is in range. -/
def taskAt (index : ℕ) : GpuTaskGraphTaskView :=
  { toGpuTaskNode := graph.tasks.getD index {}, id := graph.taskIdAt index }

/-- `resourceAt`; the source asserts that the index is in range. -/
def resourceAt (index : ℕ) : GpuTaskGraphResourceView :=
  { toGpuGraphResourceNode := graph.resources.getD index {}, id := ⟨index, graph.generation⟩ }

/-- The handle names a task of the graph. -/
def validTask (id : GpuTaskId) : Bool := validHandle graph.generation graph.tasks.length id

/-- The handle names a resource of the graph. -/
def validResource (id : GpuGraphResourceId) : Bool :=
  validHandle graph.generation graph.resources.length id

/-- The handle names a completion of the graph. -/
def validExternalCompletion (id : GpuExternalCompletionId) : Bool :=
  validHandle graph.generation graph.externalCompletions.length id

/-- `textureForResource`: the typed texture of a valid texture handle. -/
def textureForResource (id : GpuGraphResourceId) : Option TextureDesc :=
  if graph.validResource id then
    let node := graph.resourceAt id.index
    if node.type = .texture then node.texture else none
  else none

/-- `validStateSource` of `validForDeviceGeneration`: an invalid snapshot stays a record-time
failure. -/
def validStateSource (deviceGeneration : ℕ) :
    Option CommandListResourceStateHandoff → Bool
  | none => true
  | some states => !states.valid || states.deviceGeneration == deviceGeneration

/-- No retained backend object or valid snapshot belongs to another device generation. -/
def validForDeviceGeneration (deviceGeneration : ℕ) : Bool :=
  deviceGeneration != 0
    && graph.tasks.all (fun task =>
      task.externalStateSources.all (validStateSource deviceGeneration))
    && graph.resources.all (fun resource =>
      (!resource.hasBackendResource || resource.deviceGeneration == deviceGeneration)
        && validStateSource deviceGeneration resource.initialOwnerStateSource)
    && graph.resources.all (fun resource =>
      resource.initialOwnerHandoffSources.all (fun source =>
        validStateSource deviceGeneration source.stateSource))
    && graph.pipelineDeviceGenerations.all (· == deviceGeneration)

@[simp] lemma taskAt_id (index : ℕ) : (graph.taskAt index).id = graph.taskIdAt index := rfl

@[simp] lemma taskIdAt_index (index : ℕ) : (graph.taskIdAt index).index = index := rfl

@[simp] lemma taskIdAt_generation (index : ℕ) :
    (graph.taskIdAt index).generation = graph.generation := rfl

lemma validTask_iff {id : GpuTaskId} :
    graph.validTask id = true ↔
      id.valid = true ∧ id.generation = graph.generation ∧ id.index < graph.taskCount := by
  simp [validTask, validHandle, taskCount, and_assoc]

/-- In-range indices have valid handles: the vector never reaches the sentinel index. -/
lemma validTask_taskIdAt {index : ℕ} (h : index < graph.taskCount) :
    graph.validTask (graph.taskIdAt index) = true := by
  have hbound : index ≠ u32Max := by
    have := graph.tasks_length_le
    simp only [taskCount] at h
    omega
  rw [validTask_iff]
  refine ⟨?_, rfl, h⟩
  simp [GraphHandle.valid, hbound, graph.generation_ne_zero]

/-- A valid handle is the handle of its own index. -/
lemma eq_taskIdAt_of_validTask {id : GpuTaskId} (h : graph.validTask id = true) :
    id = graph.taskIdAt id.index := by
  obtain ⟨-, hgen, -⟩ := graph.validTask_iff.1 h
  cases id
  simp_all [taskIdAt]

lemma taskIdAt_injective : Function.Injective graph.taskIdAt := by
  intro a b h
  simpa [taskIdAt] using h

end GpuTaskGraph

/-! ## Queue classes, families and sharing

The part of `compiler_queue_policy.cpp` that validation, queue assignment and state planning read. -/

/-- `s_ValidQueueCapabilityMask`. -/
def validQueueCapabilityMask : GpuQueueCapability :=
  GpuQueueCapability.transfer ||| GpuQueueCapability.compute ||| GpuQueueCapability.graphics

/-- Every required capability is available. -/
def hasCapabilities (available required : GpuQueueCapability) : Bool :=
  (available &&& required) == required

/-- `IsValidQueueRequest`; the preference enumeration is in range by its type. -/
def isValidQueueRequest (request : GpuQueueRequest) : Bool :=
  (request.requiredCapabilities &&& ~~~validQueueCapabilityMask) == 0

/-- `QueueSharingBitForQueueClass`. -/
def queueSharingBitForQueueClass : CommandQueue → ResourceQueueSharing
  | .graphics => ResourceQueueSharing.graphics
  | .compute => ResourceQueueSharing.asyncCompute
  | .transfer => ResourceQueueSharing.transfer
  | .kCount => 0

/-- The resource is shared with the class. -/
def resourceSharingIncludesQueueClass (sharing : ResourceQueueSharing)
    (queueClass : CommandQueue) : Bool :=
  let queueBit := queueSharingBitForQueueClass queueClass
  queueBit != 0 && (sharing &&& queueBit) != 0

/-- Number of distinct families among the included queues, given the queues already visited. -/
def includedFamilyCount (sharing : ResourceQueueSharing) (visited : GpuTaskGraphQueueTopology) :
    GpuTaskGraphQueueTopology → ℕ
  | [] => 0
  | queue :: rest =>
      let later := includedFamilyCount sharing (visited ++ [queue]) rest
      if !resourceSharingIncludesQueueClass sharing queue.queueClass then later
      else
        let familyAlreadyIncluded := visited.any fun previous =>
          resourceSharingIncludesQueueClass sharing previous.queueClass
            && previous.familyIndex == queue.familyIndex
        if familyAlreadyIncluded then later else later + 1

/-- A sharing mask becomes concurrent sharing only when it names at least two families of the
topology. -/
def resourceUsesConcurrentQueueSharing (sharing : ResourceQueueSharing)
    (topology : GpuTaskGraphQueueTopology) : Bool :=
  sharing != ResourceQueueSharing.exclusive
    && decide (2 ≤ includedFamilyCount sharing [] topology)

/-- Both queues may use the resource without a transfer. -/
def resourceSharesQueuePairConcurrently (sharing : ResourceQueueSharing)
    (topology : GpuTaskGraphQueueTopology) (sourceQueue destinationQueue : GpuPhysicalQueueInfo) :
    Bool :=
  sourceQueue.familyIndex != destinationQueue.familyIndex
    && resourceUsesConcurrentQueueSharing sharing topology
    && resourceSharingIncludesQueueClass sharing sourceQueue.queueClass
    && resourceSharingIncludesQueueClass sharing destinationQueue.queueClass

/-- The access reads. -/
def isReadAccess (access : GpuTaskResourceAccess) : Bool :=
  access == .read || access == .readWrite

/-- The access writes. -/
def isWriteAccess (access : GpuTaskResourceAccess) : Bool :=
  access == .write || access == .readWrite

/-- Every declared access reads or writes. -/
lemma isReadAccess_or_isWriteAccess (access : GpuTaskResourceAccess) :
    isReadAccess access = true ∨ isWriteAccess access = true := by
  cases access <;> decide

/-- Concurrent sharing of a pair presupposes that the resource is shared at all. -/
lemma resourceUsesConcurrentQueueSharing_of_pair {sharing : ResourceQueueSharing}
    {topology : GpuTaskGraphQueueTopology} {source destination : GpuPhysicalQueueInfo}
    (h : resourceSharesQueuePairConcurrently sharing topology source destination = true) :
    resourceUsesConcurrentQueueSharing sharing topology = true := by
  simp only [resourceSharesQueuePairConcurrently, Bool.and_eq_true] at h
  exact h.1.1.2

/-! ## Queue selection -/

/-- Enumeration order of `CommandQueue`. -/
def CommandQueue.rank : CommandQueue → ℕ
  | .graphics => 0
  | .compute => 1
  | .transfer => 2
  | .kCount => 3

/-- `IsBetterQueue`. -/
def isBetterQueue (candidate : GpuPhysicalQueueInfo) : Option GpuPhysicalQueueInfo → Bool
  | none => true
  | some current =>
      if candidate.id.index ≠ current.id.index then decide (candidate.id.index < current.id.index)
      else decide (candidate.queueClass.rank < current.queueClass.rank)

/-- `FindBestCompatibleQueue`; a required class of `kCount` is any class. -/
def findBestCompatibleQueue (topology : GpuTaskGraphQueueTopology)
    (requiredCapabilities : GpuQueueCapability) (requiredClass : CommandQueue) :
    Option GpuPhysicalQueueInfo :=
  topology.foldl
    (fun result queue =>
      if (requiredClass != .kCount && queue.queueClass != requiredClass)
          || !hasCapabilities queue.capabilities requiredCapabilities
          || !isBetterQueue queue result then result
      else some queue) none

/-- Only a graphics queue will do. -/
def requiresGraphics (requiredCapabilities : GpuQueueCapability) : Bool :=
  hasCapabilities requiredCapabilities GpuQueueCapability.graphics

/-- The task gains from its own compute queue. -/
def shouldUseDedicatedCompute (hint : GpuTaskSchedulingHint) : Bool :=
  hint.cost != .tiny && hint.overlapPreferred && !hint.avoidQueueCrossing

/-- `ShouldUseDedicatedTransfer`: the threshold of Compute. -/
def shouldUseDedicatedTransfer (hint : GpuTaskSchedulingHint) : Bool :=
  shouldUseDedicatedCompute hint

/-- What a task adds to the load of its queue. -/
def queueCostWeight : GpuTaskCostHint → ℕ
  | .tiny => 1
  | .small => 2
  | .medium => 4
  | .large => 8

/-! ## Valid topologies -/

/-- The capability that a queue of a class must have. -/
def queueClassCapability : CommandQueue → Option GpuQueueCapability
  | .graphics => some GpuQueueCapability.graphics
  | .compute => some GpuQueueCapability.compute
  | .transfer => some GpuQueueCapability.transfer
  | .kCount => none

/-- The checks of one queue on its own. -/
def isValidQueueInfo (queue : GpuPhysicalQueueInfo) : Bool :=
  queue.id.valid
    && queue.queueClass.known
    && queue.familyIndex != u32Max
    && queue.capabilities != 0
    && (queue.capabilities &&& ~~~validQueueCapabilityMask) == 0
    && (queueClassCapability queue.queueClass).any (hasCapabilities queue.capabilities)

/-- The queue loop of `IsValidQueueTopology`, given the queues already visited. -/
def areValidQueues (deviceGeneration : ℕ) (visited : GpuTaskGraphQueueTopology) :
    GpuTaskGraphQueueTopology → Bool
  | [] => true
  | queue :: rest =>
      isValidQueueInfo queue
        && queue.id.deviceGeneration == deviceGeneration
        && visited.all (fun previous =>
          previous.id != queue.id
            && !(previous.familyIndex == queue.familyIndex
              && previous.queueIndex == queue.queueIndex))
        && areValidQueues deviceGeneration (visited ++ [queue]) rest

/-- `IsValidQueueTopology`; every queue has the device generation of the first one. -/
def isValidQueueTopology (topology : GpuTaskGraphQueueTopology) : Bool :=
  match topology with
  | [] => false
  | first :: _ => areValidQueues first.id.deviceGeneration [] topology

end NwbLot.TaskGraph
