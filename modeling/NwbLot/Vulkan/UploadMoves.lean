import Mathlib.Tactic.SplitIfs
import NwbLot.Vulkan.UploadTable

/-!
# What the upload manager does to its chunks

For each function of the upload manager, the chunks that it moves between the pool and the active
lists, whose order does not matter for the table.
-/

namespace NwbLot.Vulkan

open TaskGraph

variable {Owner : Type}

/-! ## Suballocation -/

lemma alignUpU64Checked_spec {value alignment aligned : ℕ}
    (h : alignUpU64Checked value alignment = some aligned) :
    value ≤ aligned ∧ (alignment = 0 ∨ alignment ∣ aligned) := by
  unfold alignUpU64Checked at h
  split_ifs at h with hzero hmod
  · obtain rfl := Option.some.inj h
    exact ⟨le_rfl, Or.inl hzero⟩
  · obtain rfl := Option.some.inj h
    exact ⟨le_rfl, Or.inr (Nat.dvd_of_mod_eq_zero hmod)⟩
  · obtain rfl := Option.some.inj h
    refine ⟨Nat.le_add_right _ _, Or.inr ?_⟩
    have hlt : value % alignment < alignment := Nat.mod_lt _ (Nat.pos_of_ne_zero hzero)
    have hsplit : value + (alignment - value % alignment)
        = alignment * (value / alignment + 1) := by
      have hdiv := Nat.div_add_mod value alignment
      rw [Nat.mul_add, Nat.mul_one]
      omega
    exact hsplit ▸ Nat.dvd_mul_right _ _

namespace BufferChunk

/-- The chunk gives an aligned piece behind everything that it has given. -/
lemma trySuballocate_spec {chunk chunk' : BufferChunk Owner} {size alignment : ℕ}
    {suballocation : Suballocation}
    (h : chunk.trySuballocate size alignment = some (suballocation, chunk')) :
    suballocation.buffer = chunk.buffer ∧ chunk.allocated ≤ suballocation.offset ∧
      suballocation.offset + size ≤ chunk.size ∧
      (alignment = 0 ∨ alignment ∣ suballocation.offset) ∧
      chunk' = { chunk with allocated := suballocation.offset + size } := by
  unfold trySuballocate at h
  split at h
  · cases h
  · next aligned haligned =>
    split_ifs at h with hroom
    cases h
    obtain ⟨hle, hdvd⟩ := alignUpU64Checked_spec haligned
    refine ⟨rfl, hle, ?_, hdvd, rfl⟩
    show aligned + size ≤ chunk.size
    omega

end BufferChunk

/-- One of the owner's chunks gives the piece, and the others stay. -/
lemma suballocateOwned_spec [DecidableEq Owner] {owner : Owner} {size alignment : ℕ} :
    ∀ {chunks chunks' : List (BufferChunk Owner)} {suballocation : Suballocation},
      suballocateOwned owner size alignment chunks = some (suballocation, chunks') →
      ∃ chunk chunk' rest, chunk.owner = some owner ∧
        chunk.trySuballocate size alignment = some (suballocation, chunk') ∧
        chunks.Perm (chunk :: rest) ∧ chunks'.Perm (chunk' :: rest)
  | [], _, _, h => by cases h
  | head :: tail, chunks', suballocation, h => by
    unfold suballocateOwned at h
    split at h
    · next found tail' htail =>
      cases h
      obtain ⟨chunk, chunk', rest, howner, hgive, hperm, hperm'⟩ := suballocateOwned_spec htail
      exact ⟨chunk, chunk', head :: rest, howner, hgive,
        (hperm.cons head).trans (List.Perm.swap _ _ _),
        (hperm'.cons head).trans (List.Perm.swap _ _ _)⟩
    · split_ifs at h with howner
      obtain ⟨⟨found, head'⟩, hgive, heq⟩ := Option.map_eq_some_iff.1 h
      cases heq
      exact ⟨head, head', tail, howner, hgive, List.Perm.refl _, List.Perm.refl _⟩

variable {queue : GpuPhysicalQueueId}

lemma takePooled_spec {size completedVersion : ℕ} :
    ∀ {pool pool' : List (BufferChunk Owner)} {chunk : BufferChunk Owner},
      takePooled queue size completedVersion pool = some (chunk, pool') →
      chunk.physicalQueue = queue ∧ chunk.version ≤ completedVersion ∧
        pool.Perm (chunk :: pool')
  | [], _, _, h => by cases h
  | head :: tail, pool', chunk, h => by
    unfold takePooled at h
    split_ifs at h with hfits
    · cases h
      exact ⟨hfits.1, hfits.2.2, List.Perm.refl _⟩
    · obtain ⟨⟨found, tail'⟩, htail, heq⟩ := Option.map_eq_some_iff.1 h
      cases heq
      obtain ⟨hqueue, hversion, hperm⟩ := takePooled_spec htail
      exact ⟨hqueue, hversion, (hperm.cons head).trans (List.Perm.swap _ _ _)⟩

/-! ## The byte count of the pool -/

/-- The bytes of the chunks together. -/
def totalSize (chunks : List (BufferChunk Owner)) : ℕ :=
  (chunks.map fun chunk => chunk.size).sum

@[simp] lemma totalSize_nil : totalSize ([] : List (BufferChunk Owner)) = 0 := rfl

@[simp] lemma totalSize_cons (chunk : BufferChunk Owner) (chunks : List (BufferChunk Owner)) :
    totalSize (chunk :: chunks) = chunk.size + totalSize chunks := by
  simp [totalSize]

@[simp] lemma totalSize_append (chunks chunks' : List (BufferChunk Owner)) :
    totalSize (chunks ++ chunks') = totalSize chunks + totalSize chunks' := by
  simp [totalSize]

variable {chunks : List (BufferChunk Owner)}

lemma totalSize_perm {chunks' : List (BufferChunk Owner)} (h : chunks.Perm chunks') :
    totalSize chunks = totalSize chunks' :=
  (h.map _).sum_eq

@[simp] lemma totalSize_map_recycled (version : ℕ) (resetAllocated : Bool)
    (chunks : List (BufferChunk Owner)) :
    totalSize (chunks.map (BufferChunk.recycled version resetAllocated)) = totalSize chunks := by
  simp [totalSize, BufferChunk.recycled, Function.comp_def]

/-! ## Trimming -/

/-- Trimming drops chunks whose version a read has found complete, and counts them off. -/
lemma trimChunks_spec (memoryLimit : ℕ) (reads : ℕ → GpuPhysicalQueueId → ℕ) :
    ∀ (chunks : List (BufferChunk Owner)) (bytes : ℕ),
      (trimChunks memoryLimit reads bytes chunks).2.Sublist chunks ∧
      (∀ chunk ∈ chunks, chunk ∈ (trimChunks memoryLimit reads bytes chunks).2 ∨
        ∃ read, chunk.version ≤ reads read chunk.physicalQueue) ∧
      ∀ others, bytes = others + totalSize chunks →
        (trimChunks memoryLimit reads bytes chunks).1
          = others + totalSize (trimChunks memoryLimit reads bytes chunks).2
  | [], bytes => by simp [trimChunks]
  | chunk :: rest, bytes => by
    rw [trimChunks]
    split_ifs with hlimit hkept hsize
    · obtain ⟨hsub, hdropped, hbytes⟩ :=
        trimChunks_spec memoryLimit reads rest bytes
      refine ⟨hsub.cons_cons chunk, ?_, ?_⟩
      · intro other hother
        rcases List.mem_cons.1 hother with rfl | hrest
        · exact Or.inl List.mem_cons_self
        · exact (hdropped other hrest).imp_left (List.mem_cons_of_mem _)
      · intro others htotal
        rw [totalSize_cons] at htotal ⊢
        rw [hbytes (others + chunk.size) (by omega)]
        omega
    · obtain ⟨hsub, hdropped, hbytes⟩ :=
        trimChunks_spec memoryLimit reads rest (bytes - chunk.size)
      refine ⟨hsub.cons chunk, ?_, ?_⟩
      · intro other hother
        rcases List.mem_cons.1 hother with rfl | hrest
        · rw [not_or, not_lt] at hkept
          exact Or.inr ⟨rest.length, hkept.2⟩
        · exact hdropped other hrest
      · intro others htotal
        rw [totalSize_cons] at htotal
        exact hbytes others (by omega)
    · obtain ⟨hsub, hdropped, hbytes⟩ :=
        trimChunks_spec memoryLimit reads rest 0
      refine ⟨hsub.cons chunk, ?_, ?_⟩
      · intro other hother
        rcases List.mem_cons.1 hother with rfl | hrest
        · rw [not_or, not_lt] at hkept
          exact Or.inr ⟨rest.length, hkept.2⟩
        · exact hdropped other hrest
      · intro others htotal
        rw [totalSize_cons] at htotal
        omega
    · exact ⟨List.Sublist.refl _, fun other hother => Or.inl hother, fun others htotal => htotal⟩

/-! ## The active lists -/

/-- The active chunks of all queues. -/
def allActive (entries : List (ActiveQueueChunks Owner)) : List (BufferChunk Owner) :=
  entries.flatMap fun entry => entry.chunks

/-- Every queue has at most one entry, and its chunks are on that queue. -/
structure ActiveEntries (entries : List (ActiveQueueChunks Owner)) : Prop where
  queues_nodup : (entries.map fun entry => entry.queue).Nodup
  valid : ∀ entry ∈ entries, entry.queue.valid = true
  physicalQueue_eq : ∀ entry ∈ entries, ∀ chunk ∈ entry.chunks, chunk.physicalQueue = entry.queue

lemma updateActive_queues (queue : GpuPhysicalQueueId) (chunks : List (BufferChunk Owner)) :
    ∀ entries : List (ActiveQueueChunks Owner),
      (updateActive queue chunks entries).map (fun entry => entry.queue)
        = entries.map fun entry => entry.queue
  | [] => rfl
  | entry :: rest => by
    rw [updateActive]
    split_ifs with hqueue
    · rfl
    · rw [List.map_cons, List.map_cons, updateActive_queues queue chunks rest]

lemma mem_updateActive :
    ∀ {entries : List (ActiveQueueChunks Owner)} {entry : ActiveQueueChunks Owner},
      entry ∈ updateActive queue chunks entries →
      entry ∈ entries ∨ entry.queue = queue ∧ entry.chunks = chunks ∧
        ∃ before ∈ entries, before.queue = queue
  | [], _, h => by cases h
  | head :: rest, entry, h => by
    rw [updateActive] at h
    split_ifs at h with hqueue
    · rcases List.mem_cons.1 h with rfl | hrest
      · exact Or.inr ⟨hqueue, rfl, head, List.mem_cons_self, hqueue⟩
      · exact Or.inl (List.mem_cons_of_mem _ hrest)
    · rcases List.mem_cons.1 h with rfl | hrest
      · exact Or.inl List.mem_cons_self
      · rcases mem_updateActive hrest with hold | ⟨hon, hchunks, before, hbefore, heq⟩
        · exact Or.inl (List.mem_cons_of_mem _ hold)
        · exact Or.inr ⟨hon, hchunks, before, List.mem_cons_of_mem _ hbefore, heq⟩

variable {entries : List (ActiveQueueChunks Owner)}

lemma ActiveEntries.updateActive (h : ActiveEntries entries)
    (hchunks : ∀ chunk ∈ chunks, chunk.physicalQueue = queue) :
    ActiveEntries (updateActive queue chunks entries) where
  queues_nodup := updateActive_queues queue chunks entries ▸ h.queues_nodup
  valid := by
    intro entry hentry
    rcases mem_updateActive hentry with hold | ⟨hqueue, -, before, hbefore, heq⟩
    · exact h.valid entry hold
    · rw [hqueue, ← heq]
      exact h.valid before hbefore
  physicalQueue_eq := by
    intro entry hentry chunk hchunk
    rcases mem_updateActive hentry with hold | ⟨hqueue, heq, -⟩
    · exact h.physicalQueue_eq entry hold chunk hchunk
    · rw [hqueue]
      exact hchunks chunk (heq ▸ hchunk)

/-- The chunks of a queue among all active chunks, and what replaces them. -/
lemma ActiveEntries.split (h : ActiveEntries entries) {entry : ActiveQueueChunks Owner}
    (hfind : entries.find? (fun entry => entry.queue = queue) = some entry) :
    ∃ others : List (BufferChunk Owner), (allActive entries).Perm (entry.chunks ++ others) ∧
      (∀ chunk ∈ others, chunk.physicalQueue ≠ queue) ∧
      ∀ chunks, (allActive (Vulkan.updateActive queue chunks entries)).Perm (chunks ++ others) := by
  induction entries with
  | nil => cases hfind
  | cons head rest ih =>
    have hnodup := h.queues_nodup
    rw [List.map_cons, List.nodup_cons] at hnodup
    by_cases hqueue : head.queue = queue
    · rw [List.find?_cons_of_pos (by simpa using hqueue)] at hfind
      obtain rfl := Option.some.inj hfind
      refine ⟨allActive rest, List.Perm.refl _, ?_, ?_⟩
      · intro chunk hchunk heq
        obtain ⟨other, hother, hmem⟩ := List.mem_flatMap.1 hchunk
        have hon := h.physicalQueue_eq other (List.mem_cons_of_mem _ hother) chunk hmem
        refine hnodup.1 (List.mem_map.2 ⟨other, hother, ?_⟩)
        rw [← hon, heq, hqueue]
      · intro chunks
        rw [Vulkan.updateActive, if_pos hqueue]
        exact List.Perm.refl _
    · rw [List.find?_cons_of_neg (by simpa using hqueue)] at hfind
      have hrest : ActiveEntries rest :=
        { queues_nodup := hnodup.2
          valid := fun other hother => h.valid other (List.mem_cons_of_mem _ hother)
          physicalQueue_eq := fun other hother =>
            h.physicalQueue_eq other (List.mem_cons_of_mem _ hother) }
      obtain ⟨others, hperm, hothers, hupdate⟩ := ih hrest hfind
      have hmove : ∀ chunks : List (BufferChunk Owner),
          (head.chunks ++ (chunks ++ others)).Perm (chunks ++ (head.chunks ++ others)) := by
        intro chunks
        rw [← List.append_assoc, ← List.append_assoc]
        exact List.perm_append_comm.append_right others
      refine ⟨head.chunks ++ others, ?_, ?_, ?_⟩
      · exact ((hperm.append_left head.chunks)).trans (hmove _)
      · intro chunk hchunk
        rcases List.mem_append.1 hchunk with hhead | hother
        · rw [h.physicalQueue_eq head List.mem_cons_self chunk hhead]
          exact hqueue
        · exact hothers chunk hother
      · intro chunks
        rw [Vulkan.updateActive, if_neg hqueue]
        exact ((hupdate chunks).append_left head.chunks).trans (hmove chunks)

lemma ActiveEntries.append_new (h : ActiveEntries entries) (hvalid : queue.valid = true)
    (hnew : entries.find? (fun entry => entry.queue = queue) = none) :
    ActiveEntries (entries ++ [{ queue := queue }]) where
  queues_nodup := by
    rw [List.map_append, List.map_singleton, List.nodup_append]
    refine ⟨h.queues_nodup, List.nodup_singleton _, ?_⟩
    intro on hon other hother heq
    obtain ⟨entry, hentry, rfl⟩ := List.mem_map.1 hon
    rw [List.mem_singleton.1 hother] at heq
    exact absurd heq (by simpa using List.find?_eq_none.1 hnew entry hentry)
  valid := by
    intro entry hentry
    rcases List.mem_append.1 hentry with hold | hlast
    · exact h.valid entry hold
    · rw [List.mem_singleton.1 hlast]
      exact hvalid
  physicalQueue_eq := by
    intro entry hentry chunk hchunk
    rcases List.mem_append.1 hentry with hold | hlast
    · exact h.physicalQueue_eq entry hold chunk hchunk
    · rw [List.mem_singleton.1 hlast] at hchunk
      cases hchunk

namespace UploadManager

/-- Finding the chunks of a queue changes no chunk, and shows all of the queue's chunks. -/
lemma findActiveChunks_spec {manager manager' : UploadManager Owner}
    {queue : GpuPhysicalQueueId} {create : Bool} {chunks : List (BufferChunk Owner)}
    (hentries : ActiveEntries manager.activeChunks)
    (h : manager.findActiveChunks queue create = some (manager', chunks)) :
    queue.valid = true ∧
      manager' = { manager with activeChunks := manager'.activeChunks } ∧
      ActiveEntries manager'.activeChunks ∧ (∀ chunk ∈ chunks, chunk.physicalQueue = queue) ∧
      allActive manager'.activeChunks = allActive manager.activeChunks ∧
      ∃ others, (allActive manager.activeChunks).Perm (chunks ++ others) ∧
        (∀ chunk ∈ others, chunk.physicalQueue ≠ queue) ∧
        ∀ replaced, (allActive (updateActive queue replaced manager'.activeChunks)).Perm
          (replaced ++ others) := by
  unfold findActiveChunks at h
  by_cases hvalid : queue.valid = true
  swap
  · rw [if_neg hvalid] at h
    cases h
  rw [if_pos hvalid] at h
  refine ⟨hvalid, ?_⟩
  split at h
  · next found hfound =>
    cases h
    obtain ⟨entry, hfind, rfl⟩ := Option.map_eq_some_iff.1 hfound
    have hmem := List.mem_of_find?_eq_some hfind
    have hqueue : entry.queue = queue := by simpa using List.find?_some hfind
    refine ⟨rfl, hentries, fun chunk hchunk => ?_, rfl, hentries.split hfind⟩
    exact (hentries.physicalQueue_eq entry hmem chunk hchunk).trans hqueue
  · next hmissing =>
    split_ifs at h with hcreate
    cases h
    have hnew := Option.map_eq_none_iff.1 hmissing
    have hentries' := hentries.append_new hvalid hnew
    have hsame : allActive (manager.activeChunks ++ [{ queue := queue }])
        = allActive manager.activeChunks := by
      simp [allActive]
    have hfind : (manager.activeChunks ++ [({ queue := queue } : ActiveQueueChunks Owner)]).find?
        (fun entry => entry.queue = queue) = some { queue := queue } := by
      rw [List.find?_append, hnew]
      simp
    obtain ⟨others, hperm, hothers, hupdate⟩ := hentries'.split hfind
    exact ⟨rfl, hentries', by simp, hsame, others, hsame ▸ hperm, hothers, hupdate⟩

/-- Without an entry, no active chunk is on the queue. -/
lemma physicalQueue_ne_of_findActiveChunks {manager : UploadManager Owner}
    {queue : GpuPhysicalQueueId} (hentries : ActiveEntries manager.activeChunks)
    (h : manager.findActiveChunks queue false = none) :
    ∀ chunk ∈ allActive manager.activeChunks, chunk.physicalQueue ≠ queue := by
  intro chunk hchunk heq
  obtain ⟨entry, hentry, hmem⟩ := List.mem_flatMap.1 hchunk
  have hqueue : entry.queue = queue := (hentries.physicalQueue_eq entry hentry chunk hmem) ▸ heq
  have hvalid : queue.valid = true := hqueue ▸ hentries.valid entry hentry
  unfold findActiveChunks at h
  rw [if_pos hvalid] at h
  split at h
  · cases h
  · next hmissing =>
    have hnone := List.find?_eq_none.1 (Option.map_eq_none_iff.1 hmissing) entry hentry
    exact hnone (by simpa using hqueue)

/-- The loop moves the matching chunks to the back of the pool and counts their bytes. -/
lemma foldl_recycleActiveChunk (version : ℕ) (resetAllocated : Bool)
    (chunks : List (BufferChunk Owner)) :
    ∀ manager : UploadManager Owner,
      chunks.foldl (recycleActiveChunk version resetAllocated) manager =
        { manager with
          chunkPool :=
            manager.chunkPool ++ chunks.map (BufferChunk.recycled version resetAllocated)
          chunkPoolBytes :=
            (chunks.foldl (recycleActiveChunk version resetAllocated) manager).chunkPoolBytes } ∧
      (totalSize manager.chunkPool + totalSize chunks ≤ u64Max →
        manager.chunkPoolBytes = totalSize manager.chunkPool →
        (chunks.foldl (recycleActiveChunk version resetAllocated) manager).chunkPoolBytes
          = totalSize manager.chunkPool + totalSize chunks) := by
  induction chunks with
  | nil =>
    intro manager
    exact ⟨by simp, fun _ hbytes => by simpa using hbytes⟩
  | cons chunk rest ih =>
    intro manager
    obtain ⟨hfields, hbytes⟩ := ih (manager.recycleActiveChunk version resetAllocated chunk)
    rw [List.foldl_cons]
    refine ⟨?_, fun hfits htotal => ?_⟩
    · rw [hfields]
      simp [recycleActiveChunk]
    · have hnext : (manager.recycleActiveChunk version resetAllocated chunk).chunkPoolBytes
          = totalSize manager.chunkPool + chunk.size := by
        rw [totalSize_cons] at hfits
        rw [recycleActiveChunk]
        split_ifs with hover
        · omega
        · show manager.chunkPoolBytes + chunk.size = _
          rw [htotal]
      have hpool : totalSize (manager.recycleActiveChunk version resetAllocated chunk).chunkPool
          = totalSize manager.chunkPool + chunk.size := by
        simp [recycleActiveChunk, BufferChunk.recycled]
      rw [totalSize_cons] at hfits ⊢
      rw [hbytes (by omega) (by rw [hnext, hpool]), hpool]
      omega

end UploadManager
end NwbLot.Vulkan
