import Mathlib.Algebra.GroupWithZero.Nat
import Mathlib.Data.Nat.Basic
import Mathlib.Data.List.Basic

/-!
# Graph-facing value types

Handles, enumerations, resource ranges, resource uses, barriers and seeds of
`core/graphics/task_graph/types.h`, with the queue and token types of the RHI they name.

Every handle is an index with a generation.  `GraphHandle` carries the kind as a phantom
parameter, so a task handle and a resource handle stay different types although the source
writes the same struct five times.
-/

namespace NwbLot

/-- `Limit<u16>::s_Max`. -/
def u16Max : ℕ := 2 ^ 16 - 1

/-- `Limit<u32>::s_Max`. -/
def u32Max : ℕ := 2 ^ 32 - 1

/-- `Limit<u64>::s_Max`. -/
def u64Max : ℕ := 2 ^ 64 - 1

/-- A hashed name; `0` is `NAME_NONE`. -/
abbrev Name := ℕ

namespace TaskGraph

/-! ## Handles -/

/-- What a graph handle names. -/
inductive HandleKind
  | task
  | resource
  | externalCompletion
  | packet
  deriving DecidableEq, Repr

/-- An index into one generation of a graph (or, for packets, of a compiled plan). -/
structure GraphHandle (kind : HandleKind) where
  index : ℕ := u32Max
  generation : ℕ := 0
  deriving DecidableEq, Repr, Inhabited

/-- A default-constructed handle is invalid in both components. -/
def GraphHandle.valid {kind : HandleKind} (h : GraphHandle kind) : Bool :=
  h.index != u32Max && h.generation != 0

/-- A task of one graph generation. -/
abbrev GpuTaskId := GraphHandle .task
/-- A resource of one graph generation. -/
abbrev GpuGraphResourceId := GraphHandle .resource
/-- An external completion of one graph generation. -/
abbrev GpuExternalCompletionId := GraphHandle .externalCompletion
/-- A packet of one plan generation. -/
abbrev GpuSubmissionPacketId := GraphHandle .packet

/-! ## Physical queues and submission tokens -/

/-- Broad queue classes; `kCount` is what a default-constructed token or queue record holds. -/
inductive CommandQueue
  | graphics
  | compute
  | transfer
  | kCount
  deriving DecidableEq, Repr, Inhabited

/-- `queue < CommandQueue::kCount`. -/
def CommandQueue.known : CommandQueue → Bool
  | .kCount => false
  | _ => true

/-- Identity of one physical queue, scoped to one logical-device generation. -/
structure GpuPhysicalQueueId where
  index : ℕ := u16Max
  deviceGeneration : ℕ := 0
  deriving DecidableEq, Repr, Inhabited

/-- The handle names a queue. -/
def GpuPhysicalQueueId.valid (q : GpuPhysicalQueueId) : Bool :=
  q.index != u16Max && q.deviceGeneration != 0

/-- The capability bits of a queue or a queue request (`u8` mask). -/
abbrev GpuQueueCapability := BitVec 8

namespace GpuQueueCapability

/-- Copies. -/
def transfer : GpuQueueCapability := 1
/-- Dispatches. -/
def compute : GpuQueueCapability := 2
/-- Draws. -/
def graphics : GpuQueueCapability := 4
end GpuQueueCapability

/-- One registered physical queue.  `queueIndex` and `dedicated` are read by queue assignment
only. -/
structure GpuPhysicalQueueInfo where
  id : GpuPhysicalQueueId := {}
  queueClass : CommandQueue := .kCount
  capabilities : GpuQueueCapability := 0
  familyIndex : ℕ := u32Max
  queueIndex : ℕ := 0
  dedicated : Bool := false
  deriving DecidableEq, Repr, Inhabited

/-- The device's registered queues, in registration order. -/
abbrev GpuTaskGraphQueueTopology := List GpuPhysicalQueueInfo

/-- Completion of one submission on a queue timeline. -/
structure QueueSubmissionToken where
  queue : CommandQueue := .kCount
  value : ℕ := 0
  physicalQueueIndex : ℕ := u16Max
  deviceGeneration : ℕ := 0
  deriving DecidableEq, Repr, Inhabited

/-- The token names a submission. -/
def QueueSubmissionToken.valid (t : QueueSubmissionToken) : Bool :=
  t.queue.known && t.value != 0

/-- The token says which physical queue it is of. -/
def QueueSubmissionToken.hasPhysicalQueueIdentity (t : QueueSubmissionToken) : Bool :=
  t.physicalQueueIndex != u16Max && t.deviceGeneration != 0

/-- The token is of this physical queue. -/
def QueueSubmissionToken.matchesPhysicalQueue (t : QueueSubmissionToken)
    (index generation : ℕ) : Bool :=
  t.hasPhysicalQueueIdentity && t.physicalQueueIndex == index && t.deviceGeneration == generation

/-! ## Resource states, sharing and ranges -/

/-- The `u32` state mask of a resource. -/
abbrev ResourceStates := BitVec 32

namespace ResourceStates

/-- No state is known. -/
def unknown : ResourceStates := 0
/-- The common state. -/
def common : ResourceStates := 1
/-- Read as a constant buffer. -/
def constantBuffer : ResourceStates := 2
/-- Read by shaders. -/
def shaderResource : ResourceStates := 32
/-- Read and written by shaders. -/
def unorderedAccess : ResourceStates := 64
/-- Written by copies. -/
def copyDest : ResourceStates := 2048
/-- Read by copies. -/
def copySource : ResourceStates := 4096

/-- The states include unordered access. -/
def hasUnorderedAccess (states : ResourceStates) : Bool :=
  (states &&& unorderedAccess) != unknown
end ResourceStates

/-- The `u8` mask of queue classes a resource was created concurrent for. -/
abbrev ResourceQueueSharing := BitVec 8

namespace ResourceQueueSharing

/-- One queue family at a time owns the resource. -/
def exclusive : ResourceQueueSharing := 0
/-- Shared with the graphics family. -/
def graphics : ResourceQueueSharing := 1
/-- Shared with the compute family. -/
def asyncCompute : ResourceQueueSharing := 2
/-- Shared with the transfer family. -/
def transfer : ResourceQueueSharing := 4
end ResourceQueueSharing

/-- A rectangle of mips and array slices.  A count of all ones is the symbolic "all remaining"
count. -/
structure TextureSubresourceSet where
  baseMipLevel : UInt32 := 0
  numMipLevels : UInt32 := 1
  baseArraySlice : UInt32 := 0
  numArraySlices : UInt32 := 1
  deriving DecidableEq, Repr, Inhabited

/-- `TextureSubresourceSet::AllMipLevels`. -/
def allMipLevels : UInt32 := 0xFFFFFFFF

/-- `TextureSubresourceSet::AllArraySlices`. -/
def allArraySlices : UInt32 := 0xFFFFFFFF

/-- `s_AllSubresources`. -/
def allSubresources : TextureSubresourceSet := ⟨0, allMipLevels, 0, allArraySlices⟩

/-- A range of bytes. -/
structure BufferRange where
  byteOffset : UInt64 := 0
  byteSize : UInt64 := 0
  deriving DecidableEq, Repr, Inhabited

/-- `s_EntireBuffer`. -/
def entireBuffer : BufferRange := ⟨0, 0xFFFFFFFFFFFFFFFF⟩

/-- A use names both kinds of range; the resource's type decides which one is read. -/
structure GpuTaskResourceRange where
  textureSubresources : TextureSubresourceSet := allSubresources
  bufferRange : BufferRange := entireBuffer
  deriving DecidableEq, Repr, Inhabited

/-! ## Declarations -/

/-- The kinds of resources. -/
inductive GpuGraphResourceType
  | texture
  | buffer
  | accelStruct
  | hazardDomain
  deriving DecidableEq, Repr, Inhabited

/-- What a task does with a resource. -/
inductive GpuTaskResourceAccess
  | read
  | write
  | readWrite
  deriving DecidableEq, Repr, Inhabited

/-- Why one task comes before another. -/
inductive GpuTaskHazardType
  | unknown
  | explicit
  | readAfterWrite
  | writeAfterRead
  | writeAfterWrite
  deriving DecidableEq, Repr, Inhabited

/-- The declared cost of a task. -/
inductive GpuTaskCostHint
  | tiny
  | small
  | medium
  | large
  deriving DecidableEq, Repr, Inhabited

/-- Enumeration order, which the scored merge compares. -/
def GpuTaskCostHint.rank : GpuTaskCostHint → ℕ
  | .tiny => 0
  | .small => 1
  | .medium => 2
  | .large => 3

/-- The class that a task asks for. -/
inductive GpuQueuePreference
  | graphics
  | compute
  | transfer
  | any
  deriving DecidableEq, Repr, Inhabited

/-- One declared access of a task. -/
structure GpuTaskResourceUse where
  resource : GpuGraphResourceId := {}
  range : GpuTaskResourceRange := {}
  requiredState : ResourceStates := ResourceStates.unknown
  access : GpuTaskResourceAccess := .read
  hasIndependentStateSource : Bool := false
  deriving DecidableEq, Repr, Inhabited

/-- The consumer comes after the producer. -/
structure GpuTaskDependencyEdge where
  producer : GpuTaskId := {}
  consumer : GpuTaskId := {}
  resource : GpuGraphResourceId := {}
  hazard : GpuTaskHazardType := .unknown
  deriving DecidableEq, Repr, Inhabited

/-- The consumer waits for an external completion. -/
structure GpuTaskExternalDependencyEdge where
  completion : GpuExternalCompletionId := {}
  consumer : GpuTaskId := {}
  deriving DecidableEq, Repr, Inhabited

/-- What a task needs and prefers of its queue. -/
structure GpuQueueRequest where
  requiredCapabilities : GpuQueueCapability := 0
  preferredQueue : GpuQueuePreference := .any
  allowFallback : Bool := true
  compilerMayOverridePreference : Bool := true
  deriving DecidableEq, Repr, Inhabited

/-- The scheduling hints that queue assignment and packetization read. -/
structure GpuTaskSchedulingHint where
  cost : GpuTaskCostHint := .medium
  overlapPreferred : Bool := true
  avoidQueueCrossing : Bool := false
  forceSubmissionBoundary : Bool := false
  allowPacketMerge : Bool := true
  mergeWithPrevious : Bool := false
  allowMergeAcrossConsumerFrontier : Bool := false
  joinsAcceptedQueueFrontier : Bool := false
  allowSameClassQueueRouting : Bool := false
  preferNonPrimarySameClassQueue : Bool := false
  preserveSameClassQueueWithDirectDependency : Bool := false
  allowCrossFamilySameClassQueueRouting : Bool := false
  allowTimingFeedbackRouting : Bool := false
  frontierScoredMergeDomain : Name := 0
  deriving DecidableEq, Repr, Inhabited

/-- Optional dimensions of a timing-history key. -/
structure GpuTaskTimingMetadata where
  variant : ℕ := 0
  resolutionClass : ℕ := 0
  deriving DecidableEq, Repr, Inhabited

/-! ## Compiled barriers and seeds -/

/-- The kinds of barriers. -/
inductive GpuCompiledBarrierType
  | textureTransition
  | bufferTransition
  | accelStructTransition
  | textureUav
  | bufferUav
  | accelStructUav
  | textureOwnershipRelease
  | textureOwnershipAcquire
  | bufferOwnershipRelease
  | bufferOwnershipAcquire
  | textureStateExport
  | bufferStateExport
  | accelStructOwnershipRelease
  | accelStructOwnershipAcquire
  | accelStructStateExport
  deriving DecidableEq, Repr, Inhabited

/-- A barrier over a range, on one queue or between two. -/
structure GpuCompiledBarrier where
  resource : GpuGraphResourceId := {}
  range : GpuTaskResourceRange := {}
  before : ResourceStates := ResourceStates.unknown
  after : ResourceStates := ResourceStates.unknown
  sourceQueue : GpuPhysicalQueueId := {}
  destinationQueue : GpuPhysicalQueueId := {}
  type : GpuCompiledBarrierType := .textureTransition
  isGraphInitialState : Bool := false
  isInitialOwnerHandoff : Bool := false
  deriving DecidableEq, Repr, Inhabited

/-- Names the prior packet that owns the state snapshot of a declared range. -/
structure GpuPacketStateSeed where
  resource : GpuGraphResourceId := {}
  range : GpuTaskResourceRange := {}
  sourcePacket : GpuSubmissionPacketId := {}
  deriving DecidableEq, Repr, Inhabited

/-- The task behind which a back buffer is presented. -/
structure GpuPresentEndpoint where
  producer : GpuTaskId := {}
  backBuffer : GpuGraphResourceId := {}
  deriving DecidableEq, Repr, Inhabited

end TaskGraph
end NwbLot
