import Mathlib.Data.List.Nodup
import Mathlib.Data.List.Perm.Lattice
import NwbLot.TaskGraph.Types

/-!
# Upload memory

The upload manager hands out pieces of mapped buffers to command buffers.  A chunk is active for
the command buffer that owns it, goes to the pool when its owner is submitted or discarded, and is
taken from the pool again once the queue has completed its version.
-/

namespace NwbLot.Vulkan

open TaskGraph

/-- A buffer that the device created for a chunk. -/
structure UploadBuffer where
  id : ℕ
  byteSize : ℕ
  deriving DecidableEq, Repr

/-- A buffer that is given out piece by piece. -/
structure BufferChunk (Owner : Type) where
  buffer : UploadBuffer
  owner : Option Owner
  physicalQueue : GpuPhysicalQueueId
  size : ℕ
  allocated : ℕ := 0
  version : ℕ := 0
  deriving DecidableEq, Repr

/-- The chunks in use on one queue. -/
structure ActiveQueueChunks (Owner : Type) where
  queue : GpuPhysicalQueueId
  chunks : List (BufferChunk Owner) := []
  deriving DecidableEq, Repr

/-- The pooled chunks and those in use. -/
structure UploadManager (Owner : Type) where
  defaultChunkSize : ℕ
  memoryLimit : ℕ
  chunkPool : List (BufferChunk Owner) := []
  activeChunks : List (ActiveQueueChunks Owner) := []
  chunkPoolBytes : ℕ := 0
  deriving DecidableEq, Repr

/-- The outputs of a suballocation. -/
structure Suballocation where
  buffer : UploadBuffer
  offset : ℕ
  deriving DecidableEq, Repr

/-! ## Suballocation -/

/-- `AlignUpChecked` on 64 bits. -/
def alignUpU64Checked (value alignment : ℕ) : Option ℕ :=
  if alignment = 0 then some value
  else if value % alignment = 0 then some value
  else if u64Max - (alignment - value % alignment) < value then none
  else some (value + (alignment - value % alignment))

namespace BufferChunk

variable {Owner : Type}

/-- A piece behind what the chunk has given. -/
def trySuballocate (chunk : BufferChunk Owner) (size alignment : ℕ) :
    Option (Suballocation × BufferChunk Owner) :=
  match alignUpU64Checked chunk.allocated alignment with
  | none => none
  | some alignedOffset =>
    if chunk.size < alignedOffset ∨ chunk.size - alignedOffset < size then none
    else some (⟨chunk.buffer, alignedOffset⟩, { chunk with allocated := alignedOffset + size })

/-- The chunk as it goes back to the pool. -/
def recycled (version : ℕ) (resetAllocated : Bool) (chunk : BufferChunk Owner) :
    BufferChunk Owner :=
  { chunk with
    owner := none
    allocated := if resetAllocated then 0 else chunk.allocated
    version := version }

end BufferChunk

/-- The owner's chunks, tried from the back of the list. -/
def suballocateOwned {Owner : Type} [DecidableEq Owner] (owner : Owner) (size alignment : ℕ) :
    List (BufferChunk Owner) → Option (Suballocation × List (BufferChunk Owner))
  | [] => none
  | chunk :: rest =>
    match suballocateOwned owner size alignment rest with
    | some (suballocation, rest') => some (suballocation, chunk :: rest')
    | none =>
      if chunk.owner = some owner then
        (chunk.trySuballocate size alignment).map fun found => (found.1, found.2 :: rest)
      else none

/-- The first pooled chunk of the queue that is large enough and complete. -/
def takePooled {Owner : Type} (queue : GpuPhysicalQueueId) (size completedVersion : ℕ) :
    List (BufferChunk Owner) → Option (BufferChunk Owner × List (BufferChunk Owner))
  | [] => none
  | chunk :: rest =>
    if chunk.physicalQueue = queue ∧ size ≤ chunk.size ∧ chunk.version ≤ completedVersion then
      some (chunk, rest)
    else (takePooled queue size completedVersion rest).map fun found =>
      (found.1, chunk :: found.2)

/-- The entries after a change of the first entry of the queue. -/
def updateActive {Owner : Type} (queue : GpuPhysicalQueueId) (chunks : List (BufferChunk Owner)) :
    List (ActiveQueueChunks Owner) → List (ActiveQueueChunks Owner)
  | [] => []
  | entry :: rest =>
    if entry.queue = queue then { entry with chunks := chunks } :: rest
    else entry :: updateActive queue chunks rest

/-- The loop of `trimChunkPoolLocked`.  The completion of a chunk's queue is read anew for every
chunk; the reads are told apart by the number of chunks behind. -/
def trimChunks {Owner : Type} (memoryLimit : ℕ)
    (queueGetCompletedInstance : ℕ → GpuPhysicalQueueId → ℕ) :
    ℕ → List (BufferChunk Owner) → ℕ × List (BufferChunk Owner)
  | chunkPoolBytes, [] => (chunkPoolBytes, [])
  | chunkPoolBytes, chunk :: rest =>
    if memoryLimit < chunkPoolBytes then
      if chunk.physicalQueue.valid = false ∨
          queueGetCompletedInstance rest.length chunk.physicalQueue < chunk.version then
        let trimmed := trimChunks memoryLimit queueGetCompletedInstance chunkPoolBytes rest
        (trimmed.1, chunk :: trimmed.2)
      else
        trimChunks memoryLimit queueGetCompletedInstance
          (if chunk.size ≤ chunkPoolBytes then chunkPoolBytes - chunk.size else 0) rest
    else (chunkPoolBytes, chunk :: rest)

namespace UploadManager

variable {Owner : Type}

/-- Complete chunks go while the pool is over its limit. -/
def trimChunkPool (manager : UploadManager Owner)
    (queueGetCompletedInstance : ℕ → GpuPhysicalQueueId → ℕ) : UploadManager Owner :=
  if manager.memoryLimit = 0 then manager
  else
    let trimmed := trimChunks manager.memoryLimit queueGetCompletedInstance manager.chunkPoolBytes
      manager.chunkPool
    { manager with chunkPoolBytes := trimmed.1, chunkPool := trimmed.2 }

/-- The chunks of the queue, when it has an entry. -/
def activeChunksOf (manager : UploadManager Owner) (queue : GpuPhysicalQueueId) :
    Option (List (BufferChunk Owner)) :=
  (manager.activeChunks.find? fun entry => entry.queue = queue).map fun entry => entry.chunks

/-- `findActiveChunksLocked`: the manager with the entry made, and the chunks of the queue. -/
def findActiveChunks (manager : UploadManager Owner) (queue : GpuPhysicalQueueId)
    (create : Bool) : Option (UploadManager Owner × List (BufferChunk Owner)) :=
  if queue.valid then
    match manager.activeChunksOf queue with
    | some chunks => some (manager, chunks)
    | none =>
      if create then
        some ({ manager with activeChunks := manager.activeChunks ++ [{ queue := queue }] }, [])
      else none
  else none

/-- The active chunks of a queue are replaced. -/
def setActiveChunks (manager : UploadManager Owner) (queue : GpuPhysicalQueueId)
    (chunks : List (BufferChunk Owner)) : UploadManager Owner :=
  { manager with activeChunks := updateActive queue chunks manager.activeChunks }

/-- `recycleActiveChunkLocked`, on the pool. -/
def recycleActiveChunk (version : ℕ) (resetAllocated : Bool) (manager : UploadManager Owner)
    (chunk : BufferChunk Owner) : UploadManager Owner :=
  { manager with
    chunkPoolBytes :=
      if u64Max - chunk.size < manager.chunkPoolBytes then u64Max
      else manager.chunkPoolBytes + chunk.size
    chunkPool := manager.chunkPool ++ [chunk.recycled version resetAllocated] }

/-- The loop of `recycleMatchingActiveChunks` over the chunks of one queue. -/
def recycleChunks (manager : UploadManager Owner) (queue : GpuPhysicalQueueId) (version : ℕ)
    (resetAllocated : Bool) (predicate : Option Owner → Bool)
    (chunks : List (BufferChunk Owner)) : UploadManager Owner :=
  ((chunks.filter fun chunk => predicate chunk.owner).foldl
      (recycleActiveChunk version resetAllocated) manager).setActiveChunks queue
    (chunks.filter fun chunk => !predicate chunk.owner)

/-- The chunks of selected owners go to the pool. -/
def recycleMatchingActiveChunks (manager : UploadManager Owner) (queue : GpuPhysicalQueueId)
    (version : ℕ) (resetAllocated : Bool) (predicate : Option Owner → Bool)
    (queueGetCompletedInstance : ℕ → GpuPhysicalQueueId → ℕ) : UploadManager Owner :=
  match manager.findActiveChunks queue false with
  | none => manager
  | some (manager, chunks) =>
    (manager.recycleChunks queue version resetAllocated predicate chunks).trimChunkPool
      queueGetCompletedInstance

variable [DecidableEq Owner]

/-- `suballocateBuffer`.  `outputs` says that both required output pointers are given, a null owner
is `none`, and `createBuffer` is the device's answer for a new buffer of a byte size. -/
def suballocateBuffer (matchesPhysicalQueueIdentity : GpuPhysicalQueueId → Bool)
    (createBuffer : ℕ → Option UploadBuffer) (manager : UploadManager Owner) (size : ℕ)
    (outputs : Bool) (owner : Option Owner) (queue : GpuPhysicalQueueId)
    (completedVersion alignment : ℕ) : UploadManager Owner × Option Suballocation :=
  match outputs, owner with
  | false, _ => (manager, none)
  | true, none => (manager, none)
  | true, some owner =>
    if matchesPhysicalQueueIdentity queue = false then (manager, none)
    else
      match manager.findActiveChunks queue true with
      | none => (manager, none)
      | some (manager, chunks) =>
        match suballocateOwned owner size alignment chunks with
        | some (suballocation, chunks) => (manager.setActiveChunks queue chunks, some suballocation)
        | none =>
          match takePooled queue size completedVersion manager.chunkPool with
          | some (pooledChunk, chunkPool) =>
            let manager := { manager with
              chunkPoolBytes :=
                if pooledChunk.size ≤ manager.chunkPoolBytes then
                  manager.chunkPoolBytes - pooledChunk.size
                else 0
              chunkPool := chunkPool }
            let currentChunk := { pooledChunk with
              owner := some owner
              allocated := 0
              version := completedVersion }
            match currentChunk.trySuballocate size alignment with
            | none => (manager.setActiveChunks queue (chunks ++ [currentChunk]), none)
            | some (suballocation, currentChunk) =>
              (manager.setActiveChunks queue (chunks ++ [currentChunk]), some suballocation)
          | none =>
            let chunkSize := max size manager.defaultChunkSize
            match createBuffer chunkSize with
            | none => (manager, none)
            | some buffer =>
              let currentChunk : BufferChunk Owner :=
                { buffer := buffer, owner := some owner, physicalQueue := queue, size := chunkSize,
                  version := completedVersion }
              match currentChunk.trySuballocate size alignment with
              | none => (manager.setActiveChunks queue (chunks ++ [currentChunk]), none)
              | some (suballocation, currentChunk) =>
                (manager.setActiveChunks queue (chunks ++ [currentChunk]), some suballocation)

/-- More submitted owners than this are looked up in a set. -/
def submittedOwnerLookupThreshold : ℕ := 8

/-- `IsSubmittedOwner`. -/
def isSubmittedOwner (owners : List (Option Owner)) (owner : Option Owner) : Bool :=
  owners.any fun submitted => submitted == owner

/-- `IsSubmittedOwnerInLookup`: the lookup holds the owners that are not null. -/
def isSubmittedOwnerInLookup (owners : List (Option Owner)) (owner : Option Owner) : Bool :=
  owner.isSome && (owners.filter fun submitted => submitted.isSome).contains owner

/-- The chunks of submitted owners go to the pool. -/
def submitChunks (matchesPhysicalQueueIdentity : GpuPhysicalQueueId → Bool)
    (manager : UploadManager Owner) (queue : GpuPhysicalQueueId) (submittedVersion : ℕ)
    (submittedOwners : List (Option Owner))
    (queueGetCompletedInstance : ℕ → GpuPhysicalQueueId → ℕ) : UploadManager Owner :=
  if matchesPhysicalQueueIdentity queue = false ∨ submittedOwners.length = 0 then manager
  else if submittedOwnerLookupThreshold < submittedOwners.length then
    manager.recycleMatchingActiveChunks queue submittedVersion false
      (isSubmittedOwnerInLookup submittedOwners) queueGetCompletedInstance
  else
    manager.recycleMatchingActiveChunks queue submittedVersion false
      (isSubmittedOwner submittedOwners) queueGetCompletedInstance

/-- The chunks of a discarded owner go to the pool. -/
def discardChunks (matchesPhysicalQueueIdentity : GpuPhysicalQueueId → Bool)
    (manager : UploadManager Owner) (queue : GpuPhysicalQueueId) (owner : Option Owner)
    (reusableVersion : ℕ) (queueGetCompletedInstance : ℕ → GpuPhysicalQueueId → ℕ) :
    UploadManager Owner :=
  if matchesPhysicalQueueIdentity queue = false ∨ owner = none then manager
  else
    manager.recycleMatchingActiveChunks queue reusableVersion true (fun held => held = owner)
      queueGetCompletedInstance

end UploadManager
end NwbLot.Vulkan
