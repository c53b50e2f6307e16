import Mathlib.Algebra.BigOperators.Group.List.Basic
import Mathlib.Algebra.Order.Group.Nat
import NwbLot.Vulkan.UploadManager

/-!
# The table of upload chunks

The allocations that were handed out, and how far the command buffers that own them have come.  An
allocation in use lies in a chunk that is active for its owner, or in a pooled chunk whose version
is not complete before the allocation's submission is.
-/

namespace NwbLot.Vulkan

open TaskGraph

/-- How far the command buffer of an allocation has come. -/
inductive UploadProgress
  | pending
  | submitted (version : ℕ)
  | discarded
  deriving DecidableEq, Repr

/-- A piece of a buffer that was handed to a command buffer. -/
structure UploadAllocation (Owner : Type) where
  buffer : UploadBuffer
  offset : ℕ
  size : ℕ
  alignment : ℕ
  owner : Owner
  queue : GpuPhysicalQueueId
  progress : UploadProgress := .pending
  deriving DecidableEq, Repr

variable {Owner : Type}

/-- The owner is not submitted yet, or its submission is not complete yet. -/
def UploadAllocation.InUse (completed : GpuPhysicalQueueId → ℕ)
    (allocation : UploadAllocation Owner) : Prop :=
  match allocation.progress with
  | .pending => True
  | .submitted version => completed allocation.queue < version
  | .discarded => False

/-- The pending allocations of the selected owners on a queue, as far as they have come now. -/
def setUploadProgress (queue : GpuPhysicalQueueId) (selects : Owner → Bool)
    (progress : UploadProgress) (allocations : List (UploadAllocation Owner)) :
    List (UploadAllocation Owner) :=
  allocations.map fun allocation =>
    if allocation.progress = .pending ∧ allocation.queue = queue ∧ selects allocation.owner then
      { allocation with progress := progress }
    else allocation

/-- The pool and the active chunks against the record of allocations. -/
structure ChunkTable (completed : GpuPhysicalQueueId → ℕ) (pool active : List (BufferChunk Owner))
    (allocations : List (UploadAllocation Owner)) (nextBuffer : ℕ) : Prop where
  buffers_nodup : ((pool ++ active).map fun chunk => chunk.buffer.id).Nodup
  size_eq : ∀ chunk ∈ pool ++ active, chunk.size = chunk.buffer.byteSize
  id_lt : ∀ chunk ∈ pool ++ active, chunk.buffer.id < nextBuffer
  active_of_mem : ∀ chunk ∈ active, ∃ owner, chunk.owner = some owner ∧
    ∀ allocation ∈ allocations, allocation.InUse completed → allocation.buffer = chunk.buffer →
      allocation.progress = .pending ∧ allocation.owner = owner ∧
        allocation.queue = chunk.physicalQueue ∧
        allocation.offset + allocation.size ≤ chunk.allocated
  pooled_of_mem : ∀ chunk ∈ pool, ∀ allocation ∈ allocations, allocation.InUse completed →
    allocation.buffer = chunk.buffer → ∃ version ≤ chunk.version,
      allocation.progress = .submitted version ∧ allocation.queue = chunk.physicalQueue
  held : ∀ allocation ∈ allocations, allocation.InUse completed →
    ∃ chunk ∈ pool ++ active, chunk.buffer = allocation.buffer
  fits : ∀ allocation ∈ allocations,
    allocation.offset + allocation.size ≤ allocation.buffer.byteSize ∧
      (allocation.alignment = 0 ∨ allocation.alignment ∣ allocation.offset)
  known : ∀ allocation ∈ allocations, allocation.buffer.id < nextBuffer
  ordered : allocations.Pairwise fun earlier later => earlier.InUse completed →
    later.InUse completed → earlier.buffer = later.buffer →
      earlier.owner = later.owner ∧ earlier.offset + earlier.size ≤ later.offset

namespace ChunkTable

variable {completed : GpuPhysicalQueueId → ℕ} {pool active : List (BufferChunk Owner)}
  {allocations : List (UploadAllocation Owner)} {nextBuffer : ℕ}

/-- Nothing is handed out before the first suballocation. -/
lemma empty (completed : GpuPhysicalQueueId → ℕ) :
    ChunkTable completed ([] : List (BufferChunk Owner)) [] [] 0 where
  buffers_nodup := List.nodup_nil
  size_eq := by simp
  id_lt := by simp
  active_of_mem := by simp
  pooled_of_mem := by simp
  held := by simp
  fits := by simp
  known := by simp
  ordered := List.Pairwise.nil

/-- Allocations in use on one buffer are on one chunk. -/
lemma buffer_eq_of_id_eq (h : ChunkTable completed pool active allocations nextBuffer)
    {allocation other : UploadAllocation Owner} (hallocation : allocation ∈ allocations)
    (hother : other ∈ allocations) (huse : allocation.InUse completed)
    (huse' : other.InUse completed) (hid : allocation.buffer.id = other.buffer.id) :
    allocation.buffer = other.buffer := by
  obtain ⟨chunk, hchunk, hbuffer⟩ := h.held allocation hallocation huse
  obtain ⟨chunk', hchunk', hbuffer'⟩ := h.held other hother huse'
  have hsame : chunk = chunk' := by
    refine List.inj_on_of_nodup_map h.buffers_nodup hchunk hchunk' ?_
    rw [hbuffer, hbuffer']
    exact hid
  rw [← hbuffer, ← hbuffer', hsame]

lemma perm (h : ChunkTable completed pool active allocations nextBuffer)
    {pool' active' : List (BufferChunk Owner)} (hpool : pool.Perm pool')
    (hactive : active.Perm active') :
    ChunkTable completed pool' active' allocations nextBuffer where
  buffers_nodup := ((hpool.append hactive).map _).nodup_iff.1 h.buffers_nodup
  size_eq := fun chunk hmem => h.size_eq chunk ((hpool.append hactive).mem_iff.2 hmem)
  id_lt := fun chunk hmem => h.id_lt chunk ((hpool.append hactive).mem_iff.2 hmem)
  active_of_mem := fun chunk hmem => h.active_of_mem chunk (hactive.mem_iff.2 hmem)
  pooled_of_mem := fun chunk hmem => h.pooled_of_mem chunk (hpool.mem_iff.2 hmem)
  held := by
    intro allocation hmem huse
    obtain ⟨chunk, hchunk, hbuffer⟩ := h.held allocation hmem huse
    exact ⟨chunk, (hpool.append hactive).mem_iff.1 hchunk, hbuffer⟩
  fits := h.fits
  known := h.known
  ordered := h.ordered

/-- Progress of the queues only ends uses. -/
lemma mono (h : ChunkTable completed pool active allocations nextBuffer)
    {completed' : GpuPhysicalQueueId → ℕ} (hmono : ∀ queue, completed queue ≤ completed' queue) :
    ChunkTable completed' pool active allocations nextBuffer := by
  have hearlier : ∀ allocation : UploadAllocation Owner, allocation.InUse completed' →
      allocation.InUse completed := by
    intro allocation huse
    unfold UploadAllocation.InUse at huse ⊢
    split at huse
    · trivial
    · exact (hmono allocation.queue).trans_lt huse
    · exact huse
  exact
    { buffers_nodup := h.buffers_nodup
      size_eq := h.size_eq
      id_lt := h.id_lt
      active_of_mem := by
        intro chunk hmem
        obtain ⟨owner, howner, hall⟩ := h.active_of_mem chunk hmem
        exact ⟨owner, howner, fun allocation hallocation huse =>
          hall allocation hallocation (hearlier allocation huse)⟩
      pooled_of_mem := fun chunk hmem allocation hallocation huse =>
        h.pooled_of_mem chunk hmem allocation hallocation (hearlier allocation huse)
      held := fun allocation hallocation huse =>
        h.held allocation hallocation (hearlier allocation huse)
      fits := h.fits
      known := h.known
      ordered := h.ordered.imp fun hpair huse huse' =>
        hpair (hearlier _ huse) (hearlier _ huse') }

lemma next (h : ChunkTable completed pool active allocations nextBuffer) {nextBuffer' : ℕ}
    (hnext : nextBuffer ≤ nextBuffer') :
    ChunkTable completed pool active allocations nextBuffer' :=
  { h with
    id_lt := fun chunk hmem => (h.id_lt chunk hmem).trans_le hnext
    known := fun allocation hmem => (h.known allocation hmem).trans_le hnext }

variable {chunk : BufferChunk Owner}

/-- A piece behind everything that the chunk has given so far. -/
lemma allocate (h : ChunkTable completed pool (chunk :: active) allocations nextBuffer)
    {owner : Owner} (howner : chunk.owner = some owner) {size alignment offset : ℕ}
    (hbehind : chunk.allocated ≤ offset) (hfits : offset + size ≤ chunk.size)
    (haligned : alignment = 0 ∨ alignment ∣ offset) :
    ChunkTable completed pool ({ chunk with allocated := offset + size } :: active)
      (allocations ++ [{ buffer := chunk.buffer, offset := offset, size := size,
                         alignment := alignment, owner := owner, queue := chunk.physicalQueue }])
      nextBuffer where
  buffers_nodup := by
    have hnodup := h.buffers_nodup
    rw [List.map_append, List.map_cons] at hnodup ⊢
    exact hnodup
  size_eq := by
    intro other hother
    rw [List.mem_append, List.mem_cons] at hother
    rcases hother with hpool | rfl | hactive
    · exact h.size_eq other (List.mem_append_left _ hpool)
    · exact h.size_eq chunk (by simp)
    · exact h.size_eq other (by simp [hactive])
  id_lt := by
    intro other hother
    rw [List.mem_append, List.mem_cons] at hother
    rcases hother with hpool | rfl | hactive
    · exact h.id_lt other (List.mem_append_left _ hpool)
    · exact h.id_lt chunk (by simp)
    · exact h.id_lt other (by simp [hactive])
  active_of_mem := by
    intro other hother
    rcases List.mem_cons.1 hother with rfl | hactive
    · obtain ⟨owner', howner', hall⟩ := h.active_of_mem chunk (by simp)
      obtain rfl : owner = owner' := Option.some.inj (howner.symm.trans howner')
      refine ⟨owner, howner, fun allocation hallocation huse hbuffer => ?_⟩
      rcases List.mem_append.1 hallocation with hold | hnew
      · obtain ⟨hprogress, hsame, hqueue, hend⟩ := hall allocation hold huse hbuffer
        exact ⟨hprogress, hsame, hqueue, hend.trans (hbehind.trans (Nat.le_add_right _ _))⟩
      · obtain rfl := List.mem_singleton.1 hnew
        exact ⟨rfl, rfl, rfl, le_rfl⟩
    · obtain ⟨owner', howner', hall⟩ := h.active_of_mem other (by simp [hactive])
      refine ⟨owner', howner', fun allocation hallocation huse hbuffer => ?_⟩
      rcases List.mem_append.1 hallocation with hold | hnew
      · exact hall allocation hold huse hbuffer
      · obtain rfl := List.mem_singleton.1 hnew
        -- The chunk that gave the piece is another one than this.
        have hnodup := (List.nodup_append.1 (List.map_append ▸ h.buffers_nodup)).2.1
        rw [List.map_cons, List.nodup_cons] at hnodup
        exact absurd (List.mem_map.2 ⟨other, hactive, congrArg UploadBuffer.id hbuffer.symm⟩)
          hnodup.1
  pooled_of_mem := by
    intro other hother allocation hallocation huse hbuffer
    rcases List.mem_append.1 hallocation with hold | hnew
    · exact h.pooled_of_mem other hother allocation hold huse hbuffer
    · obtain rfl := List.mem_singleton.1 hnew
      have hdisjoint := (List.nodup_append.1 (List.map_append ▸ h.buffers_nodup)).2.2
      exact absurd (congrArg UploadBuffer.id hbuffer.symm)
        (hdisjoint _ (List.mem_map.2 ⟨other, hother, rfl⟩) _
          (List.mem_map.2 ⟨chunk, by simp, rfl⟩))
  held := by
    intro allocation hallocation huse
    rcases List.mem_append.1 hallocation with hold | hnew
    · obtain ⟨other, hother, hbuffer⟩ := h.held allocation hold huse
      rw [List.mem_append, List.mem_cons] at hother
      rcases hother with hpool | rfl | hactive
      · exact ⟨other, List.mem_append_left _ hpool, hbuffer⟩
      · exact ⟨_, List.mem_append_right _ List.mem_cons_self, hbuffer⟩
      · exact ⟨other, by simp [hactive], hbuffer⟩
    · obtain rfl := List.mem_singleton.1 hnew
      exact ⟨_, List.mem_append_right _ List.mem_cons_self, rfl⟩
  fits := by
    intro allocation hallocation
    rcases List.mem_append.1 hallocation with hold | hnew
    · exact h.fits allocation hold
    · obtain rfl := List.mem_singleton.1 hnew
      exact ⟨hfits.trans_eq (h.size_eq chunk (by simp)), haligned⟩
  known := by
    intro allocation hallocation
    rcases List.mem_append.1 hallocation with hold | hnew
    · exact h.known allocation hold
    · obtain rfl := List.mem_singleton.1 hnew
      exact h.id_lt chunk (by simp)
  ordered := by
    refine List.pairwise_append.2 ⟨h.ordered, List.pairwise_singleton _ _, ?_⟩
    intro earlier hearlier later hlater huse _ hbuffer
    obtain rfl := List.mem_singleton.1 hlater
    obtain ⟨owner', howner', hall⟩ := h.active_of_mem chunk (by simp)
    obtain rfl : owner = owner' := Option.some.inj (howner.symm.trans howner')
    obtain ⟨-, hsame, -, hend⟩ := hall earlier hearlier huse hbuffer
    exact ⟨hsame, hend.trans hbehind⟩

/-- A pooled chunk whose version is complete holds nothing in use. -/
lemma not_inUse_of_complete (h : ChunkTable completed pool active allocations nextBuffer)
    (hchunk : chunk ∈ pool) (hcomplete : chunk.version ≤ completed chunk.physicalQueue)
    {allocation : UploadAllocation Owner} (hallocation : allocation ∈ allocations)
    (hbuffer : allocation.buffer = chunk.buffer) : ¬ allocation.InUse completed := by
  intro huse
  obtain ⟨version, hversion, hprogress, hqueue⟩ :=
    h.pooled_of_mem chunk hchunk allocation hallocation huse hbuffer
  rw [UploadAllocation.InUse, hprogress, hqueue] at huse
  exact absurd (hversion.trans hcomplete) (not_le.2 huse)

/-- A complete chunk leaves the pool for a new owner. -/
lemma reuse (h : ChunkTable completed (chunk :: pool) active allocations nextBuffer)
    (hcomplete : chunk.version ≤ completed chunk.physicalQueue) (owner : Owner) (version : ℕ) :
    ChunkTable completed pool
      ({ chunk with owner := some owner, allocated := 0, version := version } :: active)
      allocations nextBuffer where
  buffers_nodup := by
    have hnodup := h.buffers_nodup
    rw [List.map_append, List.map_cons] at hnodup ⊢
    exact (List.perm_middle.nodup_iff).2 hnodup
  size_eq := by
    intro other hother
    rw [List.mem_append, List.mem_cons] at hother
    rcases hother with hpool | rfl | hactive
    · exact h.size_eq other (by simp [hpool])
    · exact h.size_eq chunk (by simp)
    · exact h.size_eq other (by simp [hactive])
  id_lt := by
    intro other hother
    rw [List.mem_append, List.mem_cons] at hother
    rcases hother with hpool | rfl | hactive
    · exact h.id_lt other (by simp [hpool])
    · exact h.id_lt chunk (by simp)
    · exact h.id_lt other (by simp [hactive])
  active_of_mem := by
    intro other hother
    rcases List.mem_cons.1 hother with rfl | hactive
    · exact ⟨owner, rfl, fun allocation hallocation huse hbuffer =>
        absurd huse (h.not_inUse_of_complete List.mem_cons_self hcomplete hallocation hbuffer)⟩
    · exact h.active_of_mem other hactive
  pooled_of_mem := fun other hother => h.pooled_of_mem other (List.mem_cons_of_mem _ hother)
  held := by
    intro allocation hallocation huse
    obtain ⟨other, hother, hbuffer⟩ := h.held allocation hallocation huse
    rw [List.mem_append, List.mem_cons] at hother
    rcases hother with (rfl | hpool) | hactive
    · exact ⟨_, List.mem_append_right _ List.mem_cons_self, hbuffer⟩
    · exact ⟨other, List.mem_append_left _ hpool, hbuffer⟩
    · exact ⟨other, by simp [hactive], hbuffer⟩
  fits := h.fits
  known := h.known
  ordered := h.ordered

/-- A chunk on a new buffer. -/
lemma create (h : ChunkTable completed pool active allocations nextBuffer)
    (hid : chunk.buffer.id = nextBuffer) (hsize : chunk.size = chunk.buffer.byteSize)
    {owner : Owner} (howner : chunk.owner = some owner) :
    ChunkTable completed pool (chunk :: active) allocations (nextBuffer + 1) where
  buffers_nodup := by
    rw [List.map_append, List.map_cons]
    refine List.perm_middle.nodup_iff.2 (List.nodup_cons.2 ⟨?_, ?_⟩)
    · rw [← List.map_append]
      intro hmem
      obtain ⟨other, hother, hsame⟩ := List.mem_map.1 hmem
      exact absurd (hsame.trans hid) (h.id_lt other hother).ne
    · rw [← List.map_append]
      exact h.buffers_nodup
  size_eq := by
    intro other hother
    rw [List.mem_append, List.mem_cons] at hother
    rcases hother with hpool | rfl | hactive
    · exact h.size_eq other (by simp [hpool])
    · exact hsize
    · exact h.size_eq other (by simp [hactive])
  id_lt := by
    intro other hother
    rw [List.mem_append, List.mem_cons] at hother
    rcases hother with hpool | rfl | hactive
    · exact (h.id_lt other (by simp [hpool])).trans (Nat.lt_succ_self _)
    · exact hid.trans_lt (Nat.lt_succ_self _)
    · exact (h.id_lt other (by simp [hactive])).trans (Nat.lt_succ_self _)
  active_of_mem := by
    intro other hother
    rcases List.mem_cons.1 hother with rfl | hactive
    · refine ⟨owner, howner, fun allocation hallocation _ hbuffer => ?_⟩
      exact absurd (hbuffer ▸ hid) (h.known allocation hallocation).ne
    · exact h.active_of_mem other hactive
  pooled_of_mem := h.pooled_of_mem
  held := by
    intro allocation hallocation huse
    obtain ⟨other, hother, hbuffer⟩ := h.held allocation hallocation huse
    rcases List.mem_append.1 hother with hpool | hactive
    · exact ⟨other, List.mem_append_left _ hpool, hbuffer⟩
    · exact ⟨other, by simp [hactive], hbuffer⟩
  fits := h.fits
  known := fun allocation hmem => (h.known allocation hmem).trans (Nat.lt_succ_self _)
  ordered := h.ordered

/-- Complete chunks may be dropped from the pool. -/
lemma drop (h : ChunkTable completed pool active allocations nextBuffer)
    {pool' : List (BufferChunk Owner)} (hsub : pool'.Sublist pool)
    (hdropped : ∀ chunk ∈ pool, chunk ∈ pool' ∨
      chunk.version ≤ completed chunk.physicalQueue) :
    ChunkTable completed pool' active allocations nextBuffer where
  buffers_nodup := ((hsub.append (List.Sublist.refl active)).map _).nodup h.buffers_nodup
  size_eq := fun chunk hmem =>
    h.size_eq chunk ((hsub.append (List.Sublist.refl active)).subset hmem)
  id_lt := fun chunk hmem =>
    h.id_lt chunk ((hsub.append (List.Sublist.refl active)).subset hmem)
  active_of_mem := h.active_of_mem
  pooled_of_mem := fun chunk hmem => h.pooled_of_mem chunk (hsub.subset hmem)
  held := by
    intro allocation hallocation huse
    obtain ⟨chunk, hchunk, hbuffer⟩ := h.held allocation hallocation huse
    rcases List.mem_append.1 hchunk with hpool | hactive
    · rcases hdropped chunk hpool with hkept | hcomplete
      · exact ⟨chunk, List.mem_append_left _ hkept, hbuffer⟩
      · exact absurd huse (h.not_inUse_of_complete hpool hcomplete hallocation hbuffer.symm)
    · exact ⟨chunk, List.mem_append_right _ hactive, hbuffer⟩
  fits := h.fits
  known := h.known
  ordered := h.ordered

/-- An allocation before and after the owners that are selected on a queue came to `progress`. -/
structure ProgressStep (completed : GpuPhysicalQueueId → ℕ) (queue : GpuPhysicalQueueId)
    (selects : Owner → Bool) (progress : UploadProgress) (before after : UploadAllocation Owner) :
    Prop where
  /-- Only the progress changed. -/
  eq : after = { before with progress := after.progress }
  /-- What is in use afterwards was in use before. -/
  inUse : after.InUse completed → before.InUse completed
  /-- The pending allocations of the selected owners changed, and no others. -/
  selected : (after = before ∧
      ¬ (before.progress = .pending ∧ before.queue = queue ∧ selects before.owner = true)) ∨
    (after.progress = progress ∧ before.progress = .pending ∧ before.queue = queue ∧
      selects before.owner = true)

namespace ProgressStep

variable {queue : GpuPhysicalQueueId} {selects : Owner → Bool} {progress : UploadProgress}
  {before after : UploadAllocation Owner}

lemma buffer_eq (h : ProgressStep completed queue selects progress before after) :
    after.buffer = before.buffer := by
  rw [h.eq]

lemma queue_eq (h : ProgressStep completed queue selects progress before after) :
    after.queue = before.queue := by
  rw [h.eq]

variable (completed queue selects progress) in
lemma ite (before : UploadAllocation Owner) :
    ProgressStep completed queue selects progress before
      (if before.progress = .pending ∧ before.queue = queue ∧ selects before.owner then
        { before with progress := progress }
      else before) := by
  split_ifs with hselected
  · refine ⟨rfl, fun _ => ?_, Or.inr ⟨rfl, hselected⟩⟩
    rw [UploadAllocation.InUse, hselected.1]
    trivial
  · exact ⟨rfl, id, Or.inl ⟨rfl, hselected⟩⟩

variable (completed) in
lemma of_mem (hmem : after ∈ setUploadProgress queue selects progress allocations) :
    ∃ before ∈ allocations, ProgressStep completed queue selects progress before after := by
  obtain ⟨before, hbefore, rfl⟩ := List.mem_map.1 hmem
  exact ⟨before, hbefore, ite completed queue selects progress before⟩

end ProgressStep

section Recycle

variable {returned : List (BufferChunk Owner)} {queue : GpuPhysicalQueueId}
  {selects : Owner → Bool} {progress : UploadProgress} {version : ℕ} {resetAllocated : Bool}

variable {chunk : BufferChunk Owner}

/-- A chunk afterwards is a chunk of before, on the same buffer. -/
lemma recycle_source
    (hchunk : chunk ∈ pool ++ returned.map (BufferChunk.recycled version resetAllocated) ++
      active) :
    ∃ before ∈ pool ++ (returned ++ active), chunk.buffer = before.buffer ∧
      chunk.size = before.size := by
  rw [List.mem_append, List.mem_append] at hchunk
  rcases hchunk with (hpool | hnew) | hactive
  · exact ⟨chunk, by simp [hpool], rfl, rfl⟩
  · obtain ⟨before, hbefore, rfl⟩ := List.mem_map.1 hnew
    exact ⟨before, by simp [hbefore], rfl, rfl⟩
  · exact ⟨chunk, by simp [hactive], rfl, rfl⟩

lemma recycle_buffers_nodup
    (h : ChunkTable completed pool (returned ++ active) allocations nextBuffer) :
    ((pool ++ returned.map (BufferChunk.recycled version resetAllocated) ++ active).map
      fun chunk => chunk.buffer.id).Nodup := by
  have hbuffers : (pool ++ returned.map (BufferChunk.recycled version resetAllocated) ++
      active).map (fun chunk => chunk.buffer.id)
        = (pool ++ (returned ++ active)).map fun chunk => chunk.buffer.id := by
    simp [BufferChunk.recycled, Function.comp_def]
  rw [hbuffers]
  exact h.buffers_nodup

/-- An active chunk that was not selected keeps its owner and what is in use on it. -/
lemma recycle_active_of_mem
    (h : ChunkTable completed pool (returned ++ active) allocations nextBuffer)
    (hkept : ∀ chunk ∈ active, chunk.physicalQueue = queue →
      ∀ owner, chunk.owner = some owner → selects owner = false) (hchunk : chunk ∈ active) :
    ∃ owner, chunk.owner = some owner ∧
      ∀ allocation ∈ setUploadProgress queue selects progress allocations,
        allocation.InUse completed → allocation.buffer = chunk.buffer →
          allocation.progress = .pending ∧ allocation.owner = owner ∧
            allocation.queue = chunk.physicalQueue ∧
            allocation.offset + allocation.size ≤ chunk.allocated := by
  obtain ⟨owner, howner, hall⟩ := h.active_of_mem chunk (List.mem_append_right _ hchunk)
  refine ⟨owner, howner, fun allocation hallocation huse hbuffer => ?_⟩
  obtain ⟨before, hbefore, hstep⟩ := ProgressStep.of_mem completed hallocation
  obtain ⟨hpending, hsame, hqueue, hend⟩ :=
    hall before hbefore (hstep.inUse huse) (hstep.buffer_eq.symm.trans hbuffer)
  rcases hstep.selected with ⟨rfl, -⟩ | ⟨-, -, hon, hselected⟩
  · exact ⟨hpending, hsame, hqueue, hend⟩
  · -- The chunk was not selected, so its pending allocations were not either.
    have hnot := hkept chunk hchunk (hqueue.symm.trans hon) owner howner
    rw [hsame, hnot] at hselected
    cases hselected

variable {allocation : UploadAllocation Owner}

/-- What is in use on a chunk that stays in the pool was submitted before. -/
lemma recycle_pooled_of_mem_pool (h : ChunkTable completed pool active allocations nextBuffer)
    (hchunk : chunk ∈ pool)
    (hallocation : allocation ∈ setUploadProgress queue selects progress allocations)
    (huse : allocation.InUse completed) (hbuffer : allocation.buffer = chunk.buffer) :
    ∃ at' ≤ chunk.version,
      allocation.progress = .submitted at' ∧ allocation.queue = chunk.physicalQueue := by
  obtain ⟨before, hbefore, hstep⟩ := ProgressStep.of_mem completed hallocation
  obtain ⟨at', hat, hsubmitted, hqueue⟩ := h.pooled_of_mem chunk hchunk before hbefore
    (hstep.inUse huse) (hstep.buffer_eq.symm.trans hbuffer)
  rcases hstep.selected with ⟨rfl, -⟩ | ⟨-, hpending, -⟩
  · exact ⟨at', hat, hsubmitted, hqueue⟩
  · rw [hpending] at hsubmitted
    cases hsubmitted

/-- What is in use on a chunk that goes to the pool was submitted now. -/
lemma recycle_pooled_of_mem_returned
    (h : ChunkTable completed pool (returned ++ active) allocations nextBuffer)
    (hprogress : progress = .discarded ∨ progress = .submitted version)
    (hreturned : ∀ chunk ∈ returned, chunk.physicalQueue = queue ∧
      ∀ owner, chunk.owner = some owner → selects owner = true) {source : BufferChunk Owner}
    (hsource : source ∈ returned)
    (hallocation : allocation ∈ setUploadProgress queue selects progress allocations)
    (huse : allocation.InUse completed) (hbuffer : allocation.buffer = source.buffer) :
    allocation.progress = .submitted version ∧ allocation.queue = source.physicalQueue := by
  obtain ⟨before, hbefore, hstep⟩ := ProgressStep.of_mem completed hallocation
  obtain ⟨owner, howner, hall⟩ := h.active_of_mem source (List.mem_append_left _ hsource)
  obtain ⟨hpending, hsame, hqueue, -⟩ :=
    hall before hbefore (hstep.inUse huse) (hstep.buffer_eq.symm.trans hbuffer)
  obtain ⟨hon, hselected⟩ := hreturned source hsource
  rcases hstep.selected with ⟨rfl, hnot⟩ | ⟨hnow, -⟩
  · exact absurd ⟨hpending, hqueue.trans hon, hsame ▸ hselected owner howner⟩ hnot
  · rcases hprogress with rfl | rfl
    · rw [UploadAllocation.InUse, hnow] at huse
      exact huse.elim
    · exact ⟨hnow, hstep.queue_eq.trans hqueue⟩

lemma recycle_held (h : ChunkTable completed pool (returned ++ active) allocations nextBuffer)
    (hallocation : allocation ∈ setUploadProgress queue selects progress allocations)
    (huse : allocation.InUse completed) :
    ∃ chunk ∈ pool ++ returned.map (BufferChunk.recycled version resetAllocated) ++ active,
      chunk.buffer = allocation.buffer := by
  obtain ⟨before, hbefore, hstep⟩ := ProgressStep.of_mem completed hallocation
  obtain ⟨chunk, hchunk, hsame⟩ := h.held before hbefore (hstep.inUse huse)
  have hbuffer := hsame.trans hstep.buffer_eq.symm
  rw [List.mem_append, List.mem_append] at hchunk
  rcases hchunk with hpool | hsource | hactive
  · exact ⟨chunk, by simp [hpool], hbuffer⟩
  · exact ⟨chunk.recycled version resetAllocated,
      List.mem_append_left _ (List.mem_append_right _ (List.mem_map.2 ⟨chunk, hsource, rfl⟩)),
      hbuffer⟩
  · exact ⟨chunk, List.mem_append_right _ hactive, hbuffer⟩

lemma recycle_ordered (h : ChunkTable completed pool active allocations nextBuffer) :
    (setUploadProgress queue selects progress allocations).Pairwise fun earlier later =>
      earlier.InUse completed → later.InUse completed → earlier.buffer = later.buffer →
        earlier.owner = later.owner ∧ earlier.offset + earlier.size ≤ later.offset := by
  refine List.pairwise_map.2 (h.ordered.imp ?_)
  intro earlier later hpair huse huse' hbuffer
  have hstep := ProgressStep.ite completed queue selects progress earlier
  have hstep' := ProgressStep.ite completed queue selects progress later
  have hall := hpair (hstep.inUse huse) (hstep'.inUse huse')
    (hstep.buffer_eq.symm.trans (hbuffer.trans hstep'.buffer_eq))
  rw [hstep.eq, hstep'.eq]
  exact hall

variable (selects resetAllocated) in
/-- The chunks of the selected owners go to the pool, with the version at which their owners were
submitted, or after their owners were discarded. -/
lemma recycle (h : ChunkTable completed pool (returned ++ active) allocations nextBuffer)
    (hprogress : progress = .discarded ∨ progress = .submitted version)
    (hreturned : ∀ chunk ∈ returned, chunk.physicalQueue = queue ∧
      ∀ owner, chunk.owner = some owner → selects owner = true)
    (hkept : ∀ chunk ∈ active, chunk.physicalQueue = queue →
      ∀ owner, chunk.owner = some owner → selects owner = false) :
    ChunkTable completed (pool ++ returned.map (BufferChunk.recycled version resetAllocated)) active
      (setUploadProgress queue selects progress allocations) nextBuffer where
  buffers_nodup := h.recycle_buffers_nodup
  size_eq := by
    intro chunk hchunk
    obtain ⟨before, hbefore, hbuffer, hsize⟩ := recycle_source hchunk
    rw [hbuffer, hsize]
    exact h.size_eq before hbefore
  id_lt := by
    intro chunk hchunk
    obtain ⟨before, hbefore, hbuffer, -⟩ := recycle_source hchunk
    rw [hbuffer]
    exact h.id_lt before hbefore
  active_of_mem := fun chunk hchunk => h.recycle_active_of_mem hkept hchunk
  pooled_of_mem := by
    intro chunk hchunk allocation hallocation huse hbuffer
    rcases List.mem_append.1 hchunk with hpool | hnew
    · exact h.recycle_pooled_of_mem_pool hpool hallocation huse hbuffer
    · obtain ⟨source, hsource, rfl⟩ := List.mem_map.1 hnew
      have hnow :=
        h.recycle_pooled_of_mem_returned hprogress hreturned hsource hallocation huse hbuffer
      exact ⟨version, le_rfl, hnow⟩
  held := fun allocation hallocation huse => h.recycle_held hallocation huse
  fits := by
    intro allocation hallocation
    obtain ⟨before, hbefore, hstep⟩ := ProgressStep.of_mem completed hallocation
    rw [hstep.eq]
    exact h.fits before hbefore
  known := by
    intro allocation hallocation
    obtain ⟨before, hbefore, hstep⟩ := ProgressStep.of_mem completed hallocation
    rw [hstep.eq]
    exact h.known before hbefore
  ordered := h.recycle_ordered

end Recycle

end ChunkTable
end NwbLot.Vulkan
