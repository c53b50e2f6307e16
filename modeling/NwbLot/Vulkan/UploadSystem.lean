import NwbLot.Library.Runs
import NwbLot.Vulkan.UploadMoves

/-!
# Upload memory among its command buffers

The calls on one upload manager, each of them one locked section, and the progress of the queues.
The state also keeps what was handed out and how far it has come.
-/

namespace NwbLot.Vulkan

open TaskGraph Runs

/-- The manager, what it handed out, and the queues. -/
structure UploadSystem (Owner : Type) where
  manager : UploadManager Owner
  completed : GpuPhysicalQueueId → ℕ := fun _ => 0
  allocations : List (UploadAllocation Owner) := []
  nextBuffer : ℕ := 0
  /-- The most bytes that the pool held at any moment, trimming still to come included. -/
  poolPeak : ℕ := 0

/-- A call on the manager, or progress of a queue.  `created` says whether the device creates the
buffer that a suballocation asks for, and `reads` are the completions that trimming reads. -/
inductive UploadEvent (Owner : Type)
  | suballocateBuffer (size : ℕ) (outputs : Bool) (owner : Option Owner)
      (queue : GpuPhysicalQueueId) (completedVersion alignment : ℕ) (created : Bool)
  | submitChunks (queue : GpuPhysicalQueueId) (submittedVersion : ℕ)
      (submittedOwners : List (Option Owner)) (reads : ℕ → GpuPhysicalQueueId → ℕ)
  | discardChunks (queue : GpuPhysicalQueueId) (owner : Option Owner) (reusableVersion : ℕ)
      (reads : ℕ → GpuPhysicalQueueId → ℕ)
  | complete (queue : GpuPhysicalQueueId) (value : ℕ)

/-- The active chunks that a submission or a discard returns to the pool. -/
def returnedChunks {Owner : Type} (queue : GpuPhysicalQueueId) (predicate : Option Owner → Bool)
    (active : List (BufferChunk Owner)) : List (BufferChunk Owner) :=
  active.filter fun chunk => chunk.physicalQueue = queue && predicate chunk.owner

/-- The record of a suballocation that succeeded. -/
def handedOut {Owner : Type} (queue : GpuPhysicalQueueId) (size alignment : ℕ) :
    Option Owner → Option Suballocation → List (UploadAllocation Owner)
  | some owner, some suballocation =>
    [{ buffer := suballocation.buffer, offset := suballocation.offset, size := size,
       alignment := alignment, owner := owner, queue := queue }]
  | _, _ => []

namespace UploadSystem

variable {Owner : Type}

/-- A manager before its first call. -/
def initial (defaultChunkSize memoryLimit : ℕ) : UploadSystem Owner where
  manager := { defaultChunkSize := defaultChunkSize, memoryLimit := memoryLimit }

/-- What the callers promise: a completed version was read from the queue, and the queues only
advance. -/
def Truthful (system : UploadSystem Owner) : UploadEvent Owner → Prop
  | .suballocateBuffer _ _ _ queue completedVersion _ _ =>
    completedVersion ≤ system.completed queue
  | .submitChunks _ _ _ reads => ∀ read queue, reads read queue ≤ system.completed queue
  | .discardChunks _ _ _ reads => ∀ read queue, reads read queue ≤ system.completed queue
  | .complete queue value => system.completed queue ≤ value

variable [DecidableEq Owner]

/-- The step of an event, if it can happen. -/
def step (matchesPhysicalQueueIdentity : GpuPhysicalQueueId → Bool)
    (system : UploadSystem Owner) : UploadEvent Owner → Option (UploadSystem Owner)
  | .suballocateBuffer size outputs owner queue completedVersion alignment created =>
    let result := system.manager.suballocateBuffer matchesPhysicalQueueIdentity
      (fun byteSize => if created then some ⟨system.nextBuffer, byteSize⟩ else none)
      size outputs owner queue completedVersion alignment
    some { system with
      manager := result.1
      allocations := system.allocations ++ handedOut queue size alignment owner result.2
      nextBuffer := system.nextBuffer + 1 }
  | .submitChunks queue submittedVersion submittedOwners reads =>
    if matchesPhysicalQueueIdentity queue then
      some { system with
        manager := system.manager.submitChunks matchesPhysicalQueueIdentity queue submittedVersion
          submittedOwners reads
        allocations := setUploadProgress queue (fun owner => submittedOwners.contains (some owner))
          (.submitted submittedVersion) system.allocations
        poolPeak := max system.poolPeak (totalSize system.manager.chunkPool +
          totalSize (returnedChunks queue (fun owner => submittedOwners.contains owner)
            (allActive system.manager.activeChunks))) }
    else some system
  | .discardChunks queue owner reusableVersion reads =>
    if matchesPhysicalQueueIdentity queue then
      some { system with
        manager := system.manager.discardChunks matchesPhysicalQueueIdentity queue owner
          reusableVersion reads
        allocations := setUploadProgress queue (fun held => some held = owner) .discarded
          system.allocations
        poolPeak := max system.poolPeak (totalSize system.manager.chunkPool +
          totalSize (returnedChunks queue (fun held => held.isSome && held = owner)
            (allActive system.manager.activeChunks))) }
    else some system
  | .complete queue value =>
    some { system with completed := Function.update system.completed queue value }

end UploadSystem

/-- A pooled chunk whose version its queue has not completed is still pooled. -/
def KeepsIncomplete {Owner : Type} (before after : UploadSystem Owner) : Prop :=
  ∀ chunk ∈ before.manager.chunkPool, before.completed chunk.physicalQueue < chunk.version →
    chunk ∈ after.manager.chunkPool

variable {Owner : Type}

/-! ## Recycling -/

section Recycling

variable {predicate : Option Owner → Bool} {queue : GpuPhysicalQueueId}

lemma returnedChunks_append (chunks chunks' : List (BufferChunk Owner)) :
    returnedChunks queue predicate (chunks ++ chunks')
      = returnedChunks queue predicate chunks ++ returnedChunks queue predicate chunks' :=
  List.filter_append ..

lemma returnedChunks_eq_nil {chunks : List (BufferChunk Owner)}
    (h : ∀ chunk ∈ chunks, chunk.physicalQueue ≠ queue) :
    returnedChunks queue predicate chunks = [] := by
  refine List.filter_eq_nil_iff.2 fun chunk hchunk hreturned => ?_
  rw [Bool.and_eq_true, decide_eq_true_eq] at hreturned
  exact h chunk hchunk hreturned.1

lemma returnedChunks_eq_filter {chunks : List (BufferChunk Owner)}
    (h : ∀ chunk ∈ chunks, chunk.physicalQueue = queue) :
    returnedChunks queue predicate chunks = chunks.filter fun chunk => predicate chunk.owner := by
  refine List.filter_congr fun chunk hchunk => ?_
  rw [decide_eq_true (h chunk hchunk), Bool.true_and]

namespace UploadManager

/-- Trimming keeps what its reads have not found complete, and the byte count. -/
lemma trimChunkPool_spec (manager : UploadManager Owner) (reads : ℕ → GpuPhysicalQueueId → ℕ) :
    (manager.trimChunkPool reads).activeChunks = manager.activeChunks ∧
      (manager.trimChunkPool reads).chunkPool.Sublist manager.chunkPool ∧
      (∀ chunk ∈ manager.chunkPool, chunk ∈ (manager.trimChunkPool reads).chunkPool ∨
        ∃ read, chunk.version ≤ reads read chunk.physicalQueue) ∧
      (manager.chunkPoolBytes = totalSize manager.chunkPool →
        (manager.trimChunkPool reads).chunkPoolBytes
          = totalSize (manager.trimChunkPool reads).chunkPool) := by
  unfold trimChunkPool
  split_ifs with hlimit
  · exact ⟨rfl, List.Sublist.refl _, fun chunk hchunk => Or.inl hchunk, id⟩
  · obtain ⟨hsub, hdropped, hbytes⟩ :=
      trimChunks_spec manager.memoryLimit reads manager.chunkPool manager.chunkPoolBytes
    refine ⟨rfl, hsub, hdropped, fun htotal => ?_⟩
    have hzero := hbytes 0 (by rw [htotal, Nat.zero_add])
    rw [Nat.zero_add] at hzero
    exact hzero

/-- The returned chunks go behind the pool, which is then trimmed. -/
lemma recycleMatchingActiveChunks_spec {manager : UploadManager Owner}
    (hentries : ActiveEntries manager.activeChunks) (queue : GpuPhysicalQueueId) (version : ℕ)
    (resetAllocated : Bool) (predicate : Option Owner → Bool)
    (reads : ℕ → GpuPhysicalQueueId → ℕ) {after : UploadManager Owner}
    (hafter : manager.recycleMatchingActiveChunks queue version resetAllocated predicate reads
      = after) :
    ActiveEntries after.activeChunks ∧
      ∃ kept pool, (allActive manager.activeChunks).Perm
          (returnedChunks queue predicate (allActive manager.activeChunks) ++ kept) ∧
        (∀ chunk ∈ kept, chunk.physicalQueue = queue → predicate chunk.owner = false) ∧
        (allActive after.activeChunks).Perm kept ∧
        pool.Perm (manager.chunkPool ++
          (returnedChunks queue predicate (allActive manager.activeChunks)).map
            (BufferChunk.recycled version resetAllocated)) ∧
        after.chunkPool.Sublist pool ∧
        (∀ chunk ∈ pool, chunk ∈ after.chunkPool ∨
          ∃ read, chunk.version ≤ reads read chunk.physicalQueue) ∧
        (totalSize manager.chunkPool +
            totalSize (returnedChunks queue predicate (allActive manager.activeChunks)) ≤ u64Max →
          manager.chunkPoolBytes = totalSize manager.chunkPool →
          after.chunkPoolBytes = totalSize after.chunkPool) := by
  unfold recycleMatchingActiveChunks at hafter
  split at hafter
  · next hnone =>
    subst hafter
    have hne := physicalQueue_ne_of_findActiveChunks hentries hnone
    rw [returnedChunks_eq_nil hne]
    refine ⟨hentries, allActive manager.activeChunks, manager.chunkPool, List.Perm.refl _,
      fun chunk hchunk heq => absurd heq (hne chunk hchunk), List.Perm.refl _, by simp,
      List.Sublist.refl _, fun chunk hchunk => Or.inl hchunk, fun _ hbytes => hbytes⟩
  · next found chunks hfound =>
    obtain ⟨-, hsame, hentries', hon, hactive, others, hperm, hothers, hupdate⟩ :=
      findActiveChunks_spec hentries hfound
    have hreturned : (returnedChunks queue predicate (allActive manager.activeChunks)).Perm
        (chunks.filter fun chunk => predicate chunk.owner) := by
      have hsplit := hperm.filter fun chunk =>
        chunk.physicalQueue = queue && predicate chunk.owner
      refine hsplit.trans (List.Perm.of_eq ?_)
      exact (returnedChunks_append chunks others).trans
        (by rw [returnedChunks_eq_nil hothers, List.append_nil, returnedChunks_eq_filter hon])
    obtain ⟨hfields, hbytes⟩ := foldl_recycleActiveChunk version resetAllocated
      (chunks.filter fun chunk => predicate chunk.owner) found
    obtain ⟨hactive', hsub, hdropped, htrimmed⟩ := trimChunkPool_spec
      (found.recycleChunks queue version resetAllocated predicate chunks) reads
    rw [hafter] at hactive' hsub hdropped htrimmed
    have hpool : (found.recycleChunks queue version resetAllocated predicate chunks).chunkPool
        = manager.chunkPool ++ (chunks.filter fun chunk => predicate chunk.owner).map
            (BufferChunk.recycled version resetAllocated) := by
      rw [recycleChunks, setActiveChunks, hfields, hsame]
    have hlists : (found.recycleChunks queue version resetAllocated predicate chunks).activeChunks
        = updateActive queue (chunks.filter fun chunk => !predicate chunk.owner)
            found.activeChunks := by
      rw [recycleChunks, setActiveChunks, hfields]
    have hkept : ∀ chunk ∈ chunks.filter fun chunk => !predicate chunk.owner,
        chunk.physicalQueue = queue := fun chunk hchunk =>
      hon chunk (List.mem_of_mem_filter hchunk)
    refine ⟨?_, (chunks.filter fun chunk => !predicate chunk.owner) ++ others,
      (found.recycleChunks queue version resetAllocated predicate chunks).chunkPool,
      ?_, ?_, ?_, ?_, hsub, hdropped, ?_⟩
    · rw [hactive', hlists]
      exact hentries'.updateActive hkept
    · refine hperm.trans ?_
      rw [← List.append_assoc]
      refine List.Perm.append_right others ?_
      exact ((List.filter_append_perm (fun chunk => predicate chunk.owner) chunks).symm).trans
        (hreturned.symm.append_right _)
    · intro chunk hchunk heq
      rcases List.mem_append.1 hchunk with hmem | hother
      · simpa using (List.mem_filter.1 hmem).2
      · exact absurd heq (hothers chunk hother)
    · rw [hactive', hlists]
      exact hupdate _
    · rw [hpool]
      exact (hreturned.symm.map _).append_left _
    · intro hfits htotal
      apply htrimmed
      rw [totalSize_perm hreturned] at hfits
      have hfound' : found.chunkPool = manager.chunkPool ∧
          found.chunkPoolBytes = manager.chunkPoolBytes := by
        rw [hsame]
        exact ⟨rfl, rfl⟩
      rw [hpool, totalSize_append, totalSize_map_recycled]
      show (List.foldl (recycleActiveChunk version resetAllocated) found _).chunkPoolBytes = _
      rw [hbytes (by rw [hfound'.1]; exact hfits) (by rw [hfound'.1, hfound'.2]; exact htotal),
        hfound'.1]

end UploadManager
end Recycling
end NwbLot.Vulkan
