import Mathlib.Algebra.Order.BigOperators.Group.List
import NwbLot.Vulkan.UploadSystem

/-!
# Upload memory is never overwritten while in use

The invariant of the upload manager over whole runs: the table of chunks, the entries of the
queues and the byte count of the pool.

`UploadInv` is kept by each locked section and by the progress of a queue; what is safe is read
off it.
-/

namespace NwbLot.Vulkan

open TaskGraph Runs

variable {Owner : Type}

structure UploadInv (completed : GpuPhysicalQueueId → ℕ) (manager : UploadManager Owner)
    (allocations : List (UploadAllocation Owner)) (nextBuffer poolPeak : ℕ) : Prop where
  entries : ActiveEntries manager.activeChunks
  table : ChunkTable completed manager.chunkPool (allActive manager.activeChunks) allocations
    nextBuffer
  total_le : totalSize manager.chunkPool ≤ poolPeak
  bytes : poolPeak ≤ u64Max → manager.chunkPoolBytes = totalSize manager.chunkPool

namespace UploadInv

variable {completed : GpuPhysicalQueueId → ℕ} {manager : UploadManager Owner}
  {allocations : List (UploadAllocation Owner)} {nextBuffer poolPeak : ℕ}

lemma initial (completed : GpuPhysicalQueueId → ℕ) (defaultChunkSize memoryLimit : ℕ) :
    UploadInv completed
      ({ defaultChunkSize := defaultChunkSize, memoryLimit := memoryLimit } : UploadManager Owner)
      [] 0 0 where
  entries := ⟨List.nodup_nil, by simp, by simp⟩
  table := ChunkTable.empty completed
  total_le := le_rfl
  bytes := fun _ => rfl

lemma mono (h : UploadInv completed manager allocations nextBuffer poolPeak)
    {completed' : GpuPhysicalQueueId → ℕ} (hmono : ∀ queue, completed queue ≤ completed' queue) :
    UploadInv completed' manager allocations nextBuffer poolPeak :=
  { h with table := h.table.mono hmono }

lemma next (h : UploadInv completed manager allocations nextBuffer poolPeak) :
    UploadInv completed manager allocations (nextBuffer + 1) poolPeak :=
  { h with table := h.table.next (Nat.le_succ _) }

/-! ## Submission and discard -/

variable {reads : ℕ → GpuPhysicalQueueId → ℕ}

/-- A submission or a discard of selected owners on a queue. -/
lemma recycle (h : UploadInv completed manager allocations nextBuffer poolPeak)
    (queue : GpuPhysicalQueueId) {predicate predicate' : Option Owner → Bool}
    {selects : Owner → Bool} (version : ℕ) (resetAllocated : Bool)
    (hreads : ∀ read queue, reads read queue ≤ completed queue) {progress : UploadProgress}
    (hprogress : progress = .discarded ∨ progress = .submitted version)
    (hpredicate : ∀ owner, predicate (some owner) = selects owner)
    (hpredicate' : ∀ owner, predicate' (some owner) = selects owner) :
    UploadInv completed
      (manager.recycleMatchingActiveChunks queue version resetAllocated predicate reads)
      (setUploadProgress queue selects progress allocations) nextBuffer
      (max poolPeak (totalSize manager.chunkPool +
        totalSize (returnedChunks queue predicate' (allActive manager.activeChunks)))) ∧
    ∀ chunk ∈ manager.chunkPool ++ (returnedChunks queue predicate'
        (allActive manager.activeChunks)).map (BufferChunk.recycled version resetAllocated),
      chunk ∈ (manager.recycleMatchingActiveChunks queue version resetAllocated predicate
        reads).chunkPool ∨ chunk.version ≤ completed chunk.physicalQueue := by
  have hagree : returnedChunks queue predicate' (allActive manager.activeChunks)
      = returnedChunks queue predicate (allActive manager.activeChunks) := by
    refine List.filter_congr fun chunk hchunk => ?_
    obtain ⟨owner, howner, -⟩ := h.table.active_of_mem chunk hchunk
    rw [howner, hpredicate, hpredicate']
  rw [hagree]
  obtain ⟨hentries, kept, pool, hperm, hkept, hactive, hpool, hsub, hdropped, hbytes⟩ :=
    UploadManager.recycleMatchingActiveChunks_spec h.entries queue version resetAllocated
      predicate reads rfl
  have hrecycled := (h.table.perm (List.Perm.refl _) hperm).recycle selects resetAllocated
    hprogress
    (by
      intro chunk hchunk
      have hreturned := (List.mem_filter.1 hchunk).2
      rw [Bool.and_eq_true, decide_eq_true_eq] at hreturned
      refine ⟨hreturned.1, fun owner howner => ?_⟩
      rw [← hpredicate, ← howner]
      exact hreturned.2)
    (by
      intro chunk hchunk hqueue owner howner
      rw [← hpredicate, ← howner]
      exact hkept chunk hchunk hqueue)
  have htotal : totalSize pool = totalSize manager.chunkPool +
      totalSize (returnedChunks queue predicate (allActive manager.activeChunks)) := by
    rw [totalSize_perm hpool, totalSize_append, totalSize_map_recycled]
  have hcomplete : ∀ chunk ∈ pool, chunk ∈ (manager.recycleMatchingActiveChunks queue version
      resetAllocated predicate reads).chunkPool ∨
        chunk.version ≤ completed chunk.physicalQueue := by
    intro chunk hchunk
    refine (hdropped chunk hchunk).imp_right ?_
    rintro ⟨read, hread⟩
    exact hread.trans (hreads read chunk.physicalQueue)
  refine ⟨?_, fun chunk hchunk => hcomplete chunk (hpool.mem_iff.2 hchunk)⟩
  exact
    { entries := hentries
      table := (hrecycled.perm hpool.symm hactive.symm).drop hsub hcomplete
      total_le := by
        refine le_trans ?_ (le_max_right _ _)
        rw [← htotal]
        exact (hsub.map _).sum_le_sum fun _ _ => Nat.zero_le _
      bytes := by
        intro hpeak
        exact hbytes ((le_max_right _ _).trans hpeak) (h.bytes ((le_max_left _ _).trans hpeak)) }

variable {queue : GpuPhysicalQueueId}

lemma submitChunks [DecidableEq Owner]
    (h : UploadInv completed manager allocations nextBuffer poolPeak)
    {matchesPhysicalQueueIdentity : GpuPhysicalQueueId → Bool}
    (hmatches : matchesPhysicalQueueIdentity queue = true) (submittedVersion : ℕ)
    (submittedOwners : List (Option Owner))
    (hreads : ∀ read queue, reads read queue ≤ completed queue) :
    UploadInv completed
      (manager.submitChunks matchesPhysicalQueueIdentity queue submittedVersion submittedOwners
        reads)
      (setUploadProgress queue (fun owner => submittedOwners.contains (some owner))
        (.submitted submittedVersion) allocations) nextBuffer
      (max poolPeak (totalSize manager.chunkPool +
        totalSize (returnedChunks queue (fun owner => submittedOwners.contains owner)
          (allActive manager.activeChunks)))) ∧
    ∀ chunk ∈ manager.chunkPool ++ (returnedChunks queue
        (fun owner => submittedOwners.contains owner) (allActive manager.activeChunks)).map
          (BufferChunk.recycled submittedVersion false),
      chunk ∈ (manager.submitChunks matchesPhysicalQueueIdentity queue submittedVersion
        submittedOwners reads).chunkPool ∨ chunk.version ≤ completed chunk.physicalQueue := by
  unfold UploadManager.submitChunks
  split_ifs with hnone hmany
  · -- Without owners nothing is selected, and the lists stay.
    have hnil : submittedOwners = [] := by
      simpa [hmatches] using hnone
    subst hnil
    have hreturned : returnedChunks queue (fun owner => ([] : List (Option Owner)).contains owner)
        (allActive manager.activeChunks) = [] := by
      simp [returnedChunks]
    have hsame : setUploadProgress queue
        (fun owner => ([] : List (Option Owner)).contains (some owner))
        (.submitted submittedVersion) allocations = allocations := by
      simp [setUploadProgress]
    rw [hreturned, hsame, totalSize_nil, Nat.add_zero, max_eq_left h.total_le]
    refine ⟨h, fun chunk hchunk => Or.inl ?_⟩
    rw [List.map_nil, List.append_nil] at hchunk
    exact hchunk
  · refine h.recycle queue submittedVersion false hreads (Or.inr rfl) (fun owner => ?_)
      fun owner => rfl
    simp [UploadManager.isSubmittedOwnerInLookup]
  · refine h.recycle queue submittedVersion false hreads (Or.inr rfl) (fun owner => ?_)
      fun owner => rfl
    rw [UploadManager.isSubmittedOwner, List.contains_eq_any_beq]
    exact congrArg (List.any submittedOwners) (funext fun submitted => BEq.comm)

lemma discardChunks [DecidableEq Owner]
    (h : UploadInv completed manager allocations nextBuffer poolPeak)
    {matchesPhysicalQueueIdentity : GpuPhysicalQueueId → Bool}
    (hmatches : matchesPhysicalQueueIdentity queue = true) (owner : Option Owner)
    (reusableVersion : ℕ) (hreads : ∀ read queue, reads read queue ≤ completed queue) :
    UploadInv completed
      (manager.discardChunks matchesPhysicalQueueIdentity queue owner reusableVersion reads)
      (setUploadProgress queue (fun held => some held = owner) .discarded allocations) nextBuffer
      (max poolPeak (totalSize manager.chunkPool +
        totalSize (returnedChunks queue (fun held => held.isSome && held = owner)
          (allActive manager.activeChunks)))) ∧
    ∀ chunk ∈ manager.chunkPool ++ (returnedChunks queue
        (fun held => held.isSome && held = owner) (allActive manager.activeChunks)).map
          (BufferChunk.recycled reusableVersion true),
      chunk ∈ (manager.discardChunks matchesPhysicalQueueIdentity queue owner reusableVersion
        reads).chunkPool ∨ chunk.version ≤ completed chunk.physicalQueue := by
  unfold UploadManager.discardChunks
  split_ifs with hnone
  · have hnull : owner = none := by
      simpa [hmatches] using hnone
    subst hnull
    have hreturned : returnedChunks queue (fun held : Option Owner => held.isSome && held = none)
        (allActive manager.activeChunks) = [] := by
      refine List.filter_eq_nil_iff.2 fun chunk _ => ?_
      cases chunk.owner <;> simp
    have hsame : setUploadProgress queue (fun held : Owner => some held = none) .discarded
        allocations = allocations := by
      simp [setUploadProgress]
    rw [hreturned, hsame, totalSize_nil, Nat.add_zero, max_eq_left h.total_le]
    refine ⟨h, fun chunk hchunk => Or.inl ?_⟩
    rw [List.map_nil, List.append_nil] at hchunk
    exact hchunk
  · exact h.recycle queue reusableVersion true hreads (Or.inl rfl) (fun held => rfl)
      fun held => by simp

/-! ## Suballocation -/

/-- A chunk that has just become active gives its first piece, or none. -/
lemma activate {found after : UploadManager Owner} {chunks others : List (BufferChunk Owner)}
    {current : BufferChunk Owner} {owner : Owner} {size alignment : ℕ}
    {result : Option Suballocation} (hafter : (match current.trySuballocate size alignment with
      | none => (found.setActiveChunks queue (chunks ++ [current]), none)
      | some (suballocation, current) =>
        (found.setActiveChunks queue (chunks ++ [current]), some suballocation))
        = (after, result)) (hentries : ActiveEntries found.activeChunks)
    (hon : ∀ chunk ∈ chunks, chunk.physicalQueue = queue)
    (hupdate : ∀ replaced, (allActive (updateActive queue replaced found.activeChunks)).Perm
      (replaced ++ others)) (howner : current.owner = some owner)
    (hqueue : current.physicalQueue = queue)
    (htable : ChunkTable completed found.chunkPool (current :: (chunks ++ others)) allocations
      nextBuffer) (htotal : totalSize found.chunkPool ≤ poolPeak)
    (hbytes : poolPeak ≤ u64Max → found.chunkPoolBytes = totalSize found.chunkPool) :
    UploadInv completed after (allocations ++ handedOut queue size alignment (some owner) result)
        nextBuffer poolPeak ∧ after.chunkPool = found.chunkPool := by
  have hlists : ∀ last : BufferChunk Owner, last.physicalQueue = queue →
      ActiveEntries (updateActive queue (chunks ++ [last]) found.activeChunks) ∧
        (last :: (chunks ++ others)).Perm
          (allActive (updateActive queue (chunks ++ [last]) found.activeChunks)) := by
    intro last hlast
    refine ⟨hentries.updateActive fun chunk hchunk => ?_, ?_⟩
    · rcases List.mem_append.1 hchunk with hold | hnew
      · exact hon chunk hold
      · rw [List.mem_singleton.1 hnew]
        exact hlast
    · refine List.Perm.symm ((hupdate _).trans ?_)
      rw [List.append_assoc]
      exact List.perm_middle
  split at hafter
  · cases hafter
    obtain ⟨hentries', hperm⟩ := hlists current hqueue
    rw [handedOut, List.append_nil]
    · exact ⟨⟨hentries', htable.perm (List.Perm.refl _) hperm, htotal, hbytes⟩, rfl⟩
    · rintro owner' suballocation - hnone
      cases hnone
  · next suballocation current' hgive =>
    cases hafter
    obtain ⟨hbuffer, hbehind, hfits, haligned, rfl⟩ := BufferChunk.trySuballocate_spec hgive
    obtain ⟨hentries', hperm⟩ :=
      hlists { current with allocated := suballocation.offset + size } hqueue
    rw [handedOut, hbuffer, ← hqueue]
    exact ⟨⟨hqueue ▸ hentries', (htable.allocate howner hbehind hfits haligned).perm
      (List.Perm.refl _) (hqueue ▸ hperm), htotal, hbytes⟩, rfl⟩

lemma suballocateBuffer [DecidableEq Owner]
    (h : UploadInv completed manager allocations nextBuffer poolPeak)
    (matchesPhysicalQueueIdentity : GpuPhysicalQueueId → Bool) (created : Bool) (size : ℕ)
    (outputs : Bool) (owner : Option Owner) {completedVersion : ℕ}
    (hcompleted : completedVersion ≤ completed queue) (alignment : ℕ) {after : UploadManager Owner}
    {result : Option Suballocation} (hafter : manager.suballocateBuffer matchesPhysicalQueueIdentity
      (fun byteSize => if created then some ⟨nextBuffer, byteSize⟩ else none)
      size outputs owner queue completedVersion alignment = (after, result)) :
    UploadInv completed after (allocations ++ handedOut queue size alignment owner result)
        (nextBuffer + 1) poolPeak ∧
      ∀ chunk ∈ manager.chunkPool, chunk ∈ after.chunkPool ∨
        chunk.version ≤ completed chunk.physicalQueue := by
  have hrefused : ∀ {manager' : UploadManager Owner} {owner : Option Owner},
      UploadInv completed manager' allocations nextBuffer poolPeak →
      UploadInv completed manager' (allocations ++ handedOut queue size alignment owner none)
        (nextBuffer + 1) poolPeak := by
    intro manager' owner hinv
    have hnone : handedOut queue size alignment owner none = [] := by
      cases owner <;> rfl
    rw [hnone, List.append_nil]
    exact hinv.next
  unfold UploadManager.suballocateBuffer at hafter
  split at hafter
  · cases hafter
    exact ⟨hrefused h, fun chunk hchunk => Or.inl hchunk⟩
  · cases hafter
    exact ⟨hrefused h, fun chunk hchunk => Or.inl hchunk⟩
  next outputs' owner' owner =>
  by_cases hmatches : matchesPhysicalQueueIdentity queue = false
  · rw [if_pos hmatches] at hafter
    cases hafter
    exact ⟨hrefused h, fun chunk hchunk => Or.inl hchunk⟩
  rw [if_neg hmatches] at hafter
  split at hafter
  · cases hafter
    exact ⟨hrefused h, fun chunk hchunk => Or.inl hchunk⟩
  next found chunks hfound =>
  obtain ⟨-, hsame, hentries, hon, hactive, others, hperm, -, hupdate⟩ :=
    UploadManager.findActiveChunks_spec h.entries hfound
  have hpool : found.chunkPool = manager.chunkPool := by rw [hsame]
  have hbytes : found.chunkPoolBytes = manager.chunkPoolBytes := by rw [hsame]
  have hfoundInv : UploadInv completed found allocations nextBuffer poolPeak :=
    { entries := hentries
      table := h.table.perm (List.Perm.of_eq hpool.symm) (List.Perm.of_eq hactive.symm)
      total_le := hpool ▸ h.total_le
      bytes := fun hpeak => hbytes.trans ((h.bytes hpeak).trans (hpool ▸ rfl)) }
  have htable := hfoundInv.table.perm (List.Perm.refl _) (hactive ▸ hperm)
  rw [← hpool]
  split at hafter
  · -- One of the owner's active chunks gives the piece.
    next suballocation chunks' howned =>
    cases hafter
    obtain ⟨chunk, chunk', rest, howner, hgive, hchunks, hchunks'⟩ := suballocateOwned_spec howned
    obtain ⟨hbuffer, hbehind, hfits, haligned, rfl⟩ := BufferChunk.trySuballocate_spec hgive
    have hqueue : chunk.physicalQueue = queue := hon chunk (hchunks.mem_iff.2 List.mem_cons_self)
    have hon' : ∀ other ∈ chunks', other.physicalQueue = queue := by
      intro other hother
      rcases List.mem_cons.1 (hchunks'.mem_iff.1 hother) with rfl | hrest
      · exact hqueue
      · exact hon other (hchunks.mem_iff.2 (List.mem_cons_of_mem _ hrest))
    have hgiven := ((htable.perm (List.Perm.refl _) (hchunks.append_right others)).allocate
      howner hbehind hfits haligned).next (Nat.le_succ _)
    subst hqueue
    rw [handedOut, hbuffer]
    refine ⟨⟨hentries.updateActive hon', hgiven.perm (List.Perm.refl _) ?_,
      hfoundInv.total_le, hfoundInv.bytes⟩, fun other hother => Or.inl hother⟩
    exact ((hupdate chunks').trans (hchunks'.append_right others)).symm
  split at hafter
  · -- The first complete chunk of the pool becomes the owner's.
    next pooledChunk chunkPool hpooled =>
    obtain ⟨hqueue, hversion, htaken⟩ := takePooled_spec hpooled
    have hcomplete : pooledChunk.version ≤ completed pooledChunk.physicalQueue := by
      rw [hqueue]
      exact hversion.trans hcompleted
    have htotal := totalSize_perm htaken
    rw [totalSize_cons] at htotal
    have hreused := ((htable.perm htaken (List.Perm.refl _)).reuse hcomplete owner
      completedVersion).next (Nat.le_succ nextBuffer)
    have hpeak : totalSize chunkPool ≤ poolPeak := by
      have hbefore := hfoundInv.total_le
      omega
    have hcounted : poolPeak ≤ u64Max → (if pooledChunk.size ≤ found.chunkPoolBytes then
        found.chunkPoolBytes - pooledChunk.size else 0) = totalSize chunkPool := by
      intro hfits
      have hbefore := hfoundInv.bytes hfits
      rw [if_pos (by omega)]
      omega
    obtain ⟨hinv, hsamePool⟩ :=
      activate hafter hentries hon hupdate rfl hqueue hreused hpeak hcounted
    refine ⟨hinv, fun chunk hchunk => ?_⟩
    rcases List.mem_cons.1 (htaken.mem_iff.1 hchunk) with rfl | hleft
    · exact Or.inr hcomplete
    · exact Or.inl (hsamePool ▸ hleft)
  · -- A chunk on a new buffer.
    cases created with
    | false =>
      cases hafter
      exact ⟨hrefused hfoundInv, fun chunk hchunk => Or.inl hchunk⟩
    | true =>
      have hnew : ∀ current : BufferChunk Owner, current.buffer.id = nextBuffer →
          current.size = current.buffer.byteSize → current.owner = some owner →
          ChunkTable completed found.chunkPool (current :: (chunks ++ others)) allocations
            (nextBuffer + 1) :=
        fun current hid hsize howner => htable.create hid hsize howner
      obtain ⟨hinv, hsamePool⟩ := activate hafter hentries hon hupdate rfl rfl
        (hnew _ rfl rfl rfl) hfoundInv.total_le hfoundInv.bytes
      exact ⟨hinv, fun chunk hchunk => Or.inl (hsamePool ▸ hchunk)⟩

end UploadInv

/-! ## Runs -/

/-- Upload memory in one state of the manager. -/
structure UploadMemorySafe (system : UploadSystem Owner) : Prop where
  buffers_nodup : ((system.manager.chunkPool ++ allActive system.manager.activeChunks).map
    fun chunk => chunk.buffer.id).Nodup
  /-- What is in use lies in its chunk, at its alignment. -/
  inside : ∀ allocation ∈ system.allocations, allocation.InUse system.completed →
    (allocation.alignment = 0 ∨ allocation.alignment ∣ allocation.offset) ∧
      ∃ chunk ∈ system.manager.chunkPool ++ allActive system.manager.activeChunks,
        chunk.buffer = allocation.buffer ∧ allocation.offset + allocation.size ≤ chunk.size
  disjoint : system.allocations.Pairwise fun allocation other =>
    allocation.InUse system.completed → other.InUse system.completed →
      allocation.buffer.id = other.buffer.id →
        allocation.offset + allocation.size ≤ other.offset ∨
          other.offset + other.size ≤ allocation.offset
  /-- What is in use on one chunk has one owner. -/
  owner_eq : ∀ allocation ∈ system.allocations, ∀ other ∈ system.allocations,
    allocation.InUse system.completed → other.InUse system.completed →
      allocation.buffer.id = other.buffer.id → allocation.owner = other.owner
  /-- An active chunk belongs to the owner of what is in use on it. -/
  active_owner : ∀ chunk ∈ allActive system.manager.activeChunks,
    ∀ allocation ∈ system.allocations, allocation.InUse system.completed →
      allocation.buffer.id = chunk.buffer.id → chunk.owner = some allocation.owner
  bytes : system.poolPeak ≤ u64Max →
    system.manager.chunkPoolBytes = totalSize system.manager.chunkPool

lemma UploadInv.safe {system : UploadSystem Owner}
    (h : UploadInv system.completed system.manager system.allocations system.nextBuffer
      system.poolPeak) : UploadMemorySafe system where
  buffers_nodup := h.table.buffers_nodup
  inside := by
    intro allocation hallocation huse
    obtain ⟨hfits, haligned⟩ := h.table.fits allocation hallocation
    obtain ⟨chunk, hchunk, hbuffer⟩ := h.table.held allocation hallocation huse
    refine ⟨haligned, chunk, hchunk, hbuffer, ?_⟩
    rw [h.table.size_eq chunk hchunk, hbuffer]
    exact hfits
  disjoint := by
    refine h.table.ordered.imp_of_mem ?_
    intro allocation other hallocation hother hordered huse huse' hid
    have hbuffer := h.table.buffer_eq_of_id_eq hallocation hother huse huse' hid
    exact Or.inl (hordered huse huse' hbuffer).2
  owner_eq := by
    have hall := List.Pairwise.forall_of_forall_of_flip
      (fun allocation _ _ _ _ => rfl : ∀ allocation ∈ system.allocations,
        allocation.InUse system.completed → allocation.InUse system.completed →
          allocation.buffer = allocation.buffer → allocation.owner = allocation.owner)
      (h.table.ordered.imp fun hpair huse huse' hbuffer => (hpair huse huse' hbuffer).1)
      (h.table.ordered.imp fun hpair huse huse' hbuffer => (hpair huse' huse hbuffer.symm).1.symm)
    intro allocation hallocation other hother huse huse' hid
    exact hall hallocation hother huse huse'
      (h.table.buffer_eq_of_id_eq hallocation hother huse huse' hid)
  active_owner := by
    intro chunk hchunk allocation hallocation huse hid
    obtain ⟨owner, howner, hall⟩ := h.table.active_of_mem chunk hchunk
    obtain ⟨other, hother, hbuffer⟩ := h.table.held allocation hallocation huse
    have hsame : other = chunk := by
      refine List.inj_on_of_nodup_map h.table.buffers_nodup hother
        (List.mem_append_right _ hchunk) ?_
      rw [hbuffer]
      exact hid
    subst hsame
    rw [howner, (hall allocation hallocation huse hbuffer.symm).2.1]
  bytes := h.bytes

namespace UploadSystem

variable [DecidableEq Owner]

/-- One call keeps the invariant, and drops no chunk that is incomplete. -/
lemma step_inv {matchesPhysicalQueueIdentity : GpuPhysicalQueueId → Bool}
    {system next : UploadSystem Owner} {event : UploadEvent Owner}
    (htruthful : system.Truthful event)
    (hstep : step matchesPhysicalQueueIdentity system event = some next)
    (h : UploadInv system.completed system.manager system.allocations system.nextBuffer
      system.poolPeak) :
    UploadInv next.completed next.manager next.allocations next.nextBuffer next.poolPeak ∧
      KeepsIncomplete system next := by
  have hkeeps : ∀ (after : UploadSystem Owner) (chunks : List (BufferChunk Owner)),
      (∀ chunk ∈ system.manager.chunkPool ++ chunks, chunk ∈ after.manager.chunkPool ∨
        chunk.version ≤ system.completed chunk.physicalQueue) → KeepsIncomplete system after := by
    intro after chunks hall chunk hchunk hincomplete
    exact (hall chunk (List.mem_append_left _ hchunk)).resolve_right (not_le.2 hincomplete)
  cases event with
  | suballocateBuffer size outputs owner queue completedVersion alignment created =>
    obtain rfl := Option.some.inj hstep
    obtain ⟨hinv, hkept⟩ := h.suballocateBuffer matchesPhysicalQueueIdentity created size outputs
      owner htruthful alignment rfl
    exact ⟨hinv, hkeeps _ [] fun chunk hchunk => hkept chunk (by simpa using hchunk)⟩
  | submitChunks queue submittedVersion submittedOwners reads =>
    simp only [step] at hstep
    split_ifs at hstep with hmatches
    · obtain rfl := Option.some.inj hstep
      obtain ⟨hinv, hkept⟩ := h.submitChunks hmatches submittedVersion submittedOwners htruthful
      exact ⟨hinv, hkeeps _ _ hkept⟩
    · obtain rfl := Option.some.inj hstep
      exact ⟨h, fun chunk hchunk _ => hchunk⟩
  | discardChunks queue owner reusableVersion reads =>
    simp only [step] at hstep
    split_ifs at hstep with hmatches
    · obtain rfl := Option.some.inj hstep
      obtain ⟨hinv, hkept⟩ := h.discardChunks hmatches owner reusableVersion htruthful
      exact ⟨hinv, hkeeps _ _ hkept⟩
    · obtain rfl := Option.some.inj hstep
      exact ⟨h, fun chunk hchunk _ => hchunk⟩
  | complete queue value =>
    obtain rfl := Option.some.inj hstep
    refine ⟨h.mono fun other => ?_, fun chunk hchunk _ => hchunk⟩
    show system.completed other ≤ Function.update system.completed queue value other
    rcases eq_or_ne other queue with rfl | hne
    · rw [Function.update_self]
      exact htruthful
    · rw [Function.update_of_ne hne]

lemma run_inv {matchesPhysicalQueueIdentity : GpuPhysicalQueueId → Bool}
    {defaultChunkSize memoryLimit : ℕ} {events : List (UploadEvent Owner)}
    {system : UploadSystem Owner}
    (hrun : Run (step matchesPhysicalQueueIdentity) Truthful
      (initial defaultChunkSize memoryLimit) events system) :
    UploadInv system.completed system.manager system.allocations system.nextBuffer
      system.poolPeak :=
  hrun.invariant (UploadInv.initial _ _ _) fun _ _ _ htruthful hstep h =>
    (step_inv htruthful hstep h).1

end UploadSystem

/-- In every run of an upload manager, what is in use lies in its chunk and overlaps nothing else
in use, a chunk serves one owner at a time, and the pool's byte count is the size of its chunks.
No call drops a pooled chunk whose version is incomplete, nor one that it has just submitted. -/
theorem uploadMemory_contract [DecidableEq Owner]
    {matchesPhysicalQueueIdentity : GpuPhysicalQueueId → Bool} {defaultChunkSize memoryLimit : ℕ}
    {events : List (UploadEvent Owner)} {system : UploadSystem Owner}
    (hrun : Run (UploadSystem.step matchesPhysicalQueueIdentity) UploadSystem.Truthful
      (UploadSystem.initial defaultChunkSize memoryLimit) events system) :
    UploadMemorySafe system ∧
      (∀ event next, system.Truthful event →
        UploadSystem.step matchesPhysicalQueueIdentity system event = some next →
          KeepsIncomplete system next) ∧
      ∀ queue submittedVersion submittedOwners reads next,
        system.Truthful (.submitChunks queue submittedVersion submittedOwners reads) →
        UploadSystem.step matchesPhysicalQueueIdentity system
          (.submitChunks queue submittedVersion submittedOwners reads) = some next →
        matchesPhysicalQueueIdentity queue = true → system.completed queue < submittedVersion →
        ∀ chunk ∈ returnedChunks queue (fun owner => submittedOwners.contains owner)
          (allActive system.manager.activeChunks),
          chunk.recycled submittedVersion false ∈ next.manager.chunkPool := by
  have hinv := UploadSystem.run_inv hrun
  refine ⟨hinv.safe, fun event next htruthful hstep =>
    (UploadSystem.step_inv htruthful hstep hinv).2, ?_⟩
  intro queue submittedVersion submittedOwners reads next htruthful hstep hmatches hincomplete
    chunk hchunk
  simp only [UploadSystem.step, hmatches, if_true] at hstep
  obtain rfl := Option.some.inj hstep
  obtain ⟨-, hkept⟩ := hinv.submitChunks hmatches submittedVersion submittedOwners htruthful
  have hqueue : chunk.physicalQueue = queue := by
    have hreturned := (List.mem_filter.1 hchunk).2
    rw [Bool.and_eq_true, decide_eq_true_eq] at hreturned
    exact hreturned.1
  refine (hkept _ (List.mem_append_right _ (List.mem_map.2 ⟨chunk, hchunk, rfl⟩))).resolve_right ?_
  show ¬ submittedVersion ≤ system.completed chunk.physicalQueue
  rw [hqueue]
  exact not_le.2 hincomplete

/-- Two uploads of one command buffer, its submission, an upload of a second one while the first
is on the queue, and one of a third after it, which gets the first chunk again. -/
def reusedChunkEvents : List (UploadEvent ℕ) :=
  [.suballocateBuffer 3 true (some 0) ⟨0, 1⟩ 0 4 true,
   .suballocateBuffer 5 true (some 0) ⟨0, 1⟩ 0 4 true,
   .submitChunks ⟨0, 1⟩ 1 [some 0] fun _ _ => 0,
   .suballocateBuffer 8 true (some 1) ⟨0, 1⟩ 0 4 true,
   .complete ⟨0, 1⟩ 1,
   .suballocateBuffer 16 true (some 2) ⟨0, 1⟩ 1 4 true]

theorem uploadMemory_contract_reusedChunk :
    ∃ system : UploadSystem ℕ,
      Run (UploadSystem.step fun _ => true) UploadSystem.Truthful (UploadSystem.initial 16 16)
        reusedChunkEvents system ∧
      system.allocations.map (fun allocation => (allocation.buffer.id, allocation.offset))
        = [(0, 0), (0, 4), (2, 0), (0, 0)] ∧
      UploadMemorySafe system := by
  have hrun : ∃ system : UploadSystem ℕ,
      Run (UploadSystem.step fun _ => true) UploadSystem.Truthful (UploadSystem.initial 16 16)
        reusedChunkEvents system ∧
      system.allocations.map (fun allocation => (allocation.buffer.id, allocation.offset))
        = [(0, 0), (0, 4), (2, 0), (0, 0)] := by
    refine ⟨_, Run.cons ?_ rfl (Run.cons ?_ rfl (Run.cons ?_ rfl (Run.cons ?_ rfl
      (Run.cons ?_ rfl (Run.cons ?_ rfl .refl))))), ?_⟩
    · exact Nat.le_refl 0
    · exact Nat.le_refl 0
    · exact fun _ _ => Nat.zero_le _
    · exact Nat.le_refl 0
    · exact Nat.zero_le 1
    · exact Nat.le_refl 1
    · decide +kernel
  obtain ⟨system, hrun, hplaces⟩ := hrun
  exact ⟨system, hrun, hplaces, (uploadMemory_contract hrun).1⟩

end NwbLot.Vulkan
