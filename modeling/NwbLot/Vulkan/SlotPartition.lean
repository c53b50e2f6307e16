import NwbLot.Vulkan.GpuDescriptorHeap

/-!
# Where the slots are

Every slot of a namespace is live, on the free list, retired or never used, and only one of these.

`Balanced` counts the places of a slot; allocating, freeing and completing move it from one place
to another.
-/

namespace NwbLot.Vulkan

/-- The slot of a handle, in the namespace of its class. -/
def GpuDescriptorHandle.place (handle : GpuDescriptorHandle) : Option (SlotNamespace × ℕ) :=
  handle.descriptorClass.map fun descriptorClass =>
    (descriptorClass.slotNamespace, handle.slot.toNat)

lemma GpuDescriptorHandle.place_make (descriptorClass : GpuDescriptorClass) {slot : ℕ}
    (h : slot < 2 ^ 28) : (make descriptorClass (UInt32.ofNat slot)).place =
      some (descriptorClass.slotNamespace, slot) := by
  have hnat : (UInt32.ofNat slot).toNat = slot :=
    UInt32.toNat_ofNat_of_lt' (by simp [UInt32.size]; omega)
  rw [place, descriptorClass_make, slot_make descriptorClass (by omega), hnat, Option.map_some]

namespace SlotAllocator

/-- How often a slot occurs: as a live slot, on the free list and among the slots never used. -/
def occurrences (allocator : SlotAllocator) (slot : ℕ) : ℕ :=
  (if allocator.liveSlots[slot]? = some true then 1 else 0) + allocator.freeList.count slot +
    (if allocator.nextFresh ≤ slot ∧ slot < allocator.capacity then 1 else 0)

end SlotAllocator

lemma capacity_update {slots : SlotNamespace → SlotAllocator} {space : SlotNamespace}
    {allocator : SlotAllocator} (h : allocator.capacity = (slots space).capacity)
    (other : SlotNamespace) :
    (Function.update slots space allocator other).capacity = (slots other).capacity := by
  by_cases heq : other = space
  · subst heq
    rw [Function.update_self, h]
  · rw [Function.update_of_ne heq]

/-- With the retired slots, every slot below the capacity occurs once and no other slot does. -/
structure Balanced (slots : SlotNamespace → SlotAllocator) (retired : List RetiredSlot) : Prop where
  live_length : ∀ space, (slots space).liveSlots.length = (slots space).capacity
  once : ∀ space slot, (slots space).occurrences slot +
      (retired.map fun entry => entry.handle.place).count (some (space, slot)) =
    if slot < (slots space).capacity then 1 else 0

namespace Balanced

variable {slots : SlotNamespace → SlotAllocator} {retired : List RetiredSlot}
  {space : SlotNamespace} {slot : ℕ}

/-- The order of the retired slots does not matter. -/
lemma perm {retired' : List RetiredSlot} (h : Balanced slots retired)
    (hperm : retired.Perm retired') : Balanced slots retired' where
  live_length := h.live_length
  once space slot := by
    rw [← (hperm.map fun entry => entry.handle.place).count_eq]
    exact h.once space slot

lemma lt_of_occurs (h : Balanced slots retired) (hoccurs : 0 < (slots space).occurrences slot +
    (retired.map fun entry => entry.handle.place).count (some (space, slot))) :
    slot < (slots space).capacity := by
  by_contra hle
  rw [h.once space slot, if_neg hle] at hoccurs
  exact absurd hoccurs (lt_irrefl 0)

lemma liveSlots_eq (h : Balanced slots retired) (hlt : slot < (slots space).capacity)
    (hdead : (slots space).liveSlots[slot]? ≠ some true) :
    (slots space).liveSlots[slot]? = some false := by
  cases hlive : (slots space).liveSlots[slot]? with
  | none =>
    rw [List.getElem?_eq_none_iff, h.live_length] at hlive
    exact absurd hlt (Nat.not_lt.2 hlive)
  | some live =>
    cases live with
    | false => rfl
    | true => exact absurd hlive hdead

/-- Replacing one allocator and the retired slots without changing what occurs where. -/
lemma update {retired' : List RetiredSlot} {allocator : SlotAllocator} (h : Balanced slots retired)
    (hlength : allocator.liveSlots.length = allocator.capacity)
    (hcapacity : allocator.capacity = (slots space).capacity)
    (hsame : ∀ slot, allocator.occurrences slot +
        (retired'.map fun entry => entry.handle.place).count (some (space, slot)) =
      (slots space).occurrences slot +
        (retired.map fun entry => entry.handle.place).count (some (space, slot)))
    (hother : ∀ space' slot, space' ≠ space →
      (retired'.map fun entry => entry.handle.place).count (some (space', slot)) =
        (retired.map fun entry => entry.handle.place).count (some (space', slot))) :
    Balanced (Function.update slots space allocator) retired' where
  live_length space' := by
    by_cases heq : space' = space
    · subst heq
      rwa [Function.update_self]
    · rw [Function.update_of_ne heq]
      exact h.live_length space'
  once space' slot := by
    by_cases heq : space' = space
    · subst heq
      rw [Function.update_self, hsame, hcapacity]
      exact h.once space' slot
    · rw [Function.update_of_ne heq, hother space' slot heq]
      exact h.once space' slot

end Balanced

namespace SlotAllocator

/-- Bringing a free or unused slot to life. -/
lemma occurrences_revive {allocator allocator' : SlotAllocator} {slot : ℕ}
    (hslot : slot < allocator.liveSlots.length) (hdead : allocator.liveSlots[slot]? = some false)
    (hlive : allocator'.liveSlots = allocator.liveSlots.set slot true)
    (hrest : ∀ other, allocator'.freeList.count other +
        (if allocator'.nextFresh ≤ other ∧ other < allocator'.capacity then 1 else 0) +
          (if slot = other then 1 else 0) =
      allocator.freeList.count other +
        (if allocator.nextFresh ≤ other ∧ other < allocator.capacity then 1 else 0)) (other : ℕ) :
    allocator'.occurrences other = allocator.occurrences other := by
  have hcount := hrest other
  unfold occurrences
  rw [hlive, List.getElem?_set]
  by_cases heq : slot = other
  · subst heq
    have hfalse : ¬(some false = some true) := by decide
    rw [if_pos rfl] at hcount
    rw [if_pos rfl, if_pos hslot, if_pos rfl, hdead, if_neg hfalse]
    omega
  · rw [if_neg heq]
    rw [if_neg heq] at hcount
    omega

end SlotAllocator

namespace GpuDescriptorHeap

variable {CommandBuffer : Type} {heap : GpuDescriptorHeap CommandBuffer}

/-- What an allocation does: nothing and an invalid handle, or a slot that was free or unused
becomes live. -/
lemma allocate_cases (h : Balanced heap.slots heap.retired)
    (hsmall : ∀ space, (heap.slots space).capacity ≤ 2 ^ 28) (descriptorClass : GpuDescriptorClass) :
    (heap.allocate descriptorClass = (.invalid, heap)) ∨
    ∃ slot allocator, heap.allocate descriptorClass =
        (.make descriptorClass (UInt32.ofNat slot),
          heap.withSlots descriptorClass.slotNamespace allocator) ∧
      slot < (heap.slots descriptorClass.slotNamespace).capacity ∧
      (GpuDescriptorHandle.make descriptorClass (UInt32.ofNat slot)).place
        = some (descriptorClass.slotNamespace, slot) ∧
      some (descriptorClass.slotNamespace, slot) ∉
        heap.retired.map (fun entry => entry.handle.place) ∧
      allocator.capacity = (heap.slots descriptorClass.slotNamespace).capacity ∧
      allocator.liveSlots.length = allocator.capacity ∧
      ∀ other, allocator.occurrences other
        = (heap.slots descriptorClass.slotNamespace).occurrences other := by
  unfold allocate
  split
  · exact Or.inl rfl
  · generalize hspace : descriptorClass.slotNamespace = space
    have honce := h.once space
    have hcapacity := hsmall space
    have hlength := h.live_length space
    -- a slot that is free or unused is neither live nor retired
    have hunused : ∀ slot, 0 < (heap.slots space).freeList.count slot +
          (if (heap.slots space).nextFresh ≤ slot ∧ slot < (heap.slots space).capacity then 1
            else 0) →
        slot < (heap.slots space).capacity ∧ (heap.slots space).liveSlots[slot]? = some false ∧
          some (space, slot) ∉ heap.retired.map (fun entry => entry.handle.place) := by
      intro slot hpositive
      have hlt : slot < (heap.slots space).capacity :=
        h.lt_of_occurs (by unfold SlotAllocator.occurrences; omega)
      have hslot := honce slot
      rw [if_pos hlt] at hslot
      unfold SlotAllocator.occurrences at hslot
      refine ⟨hlt, h.liveSlots_eq hlt fun hlive => ?_, ?_⟩
      · rw [if_pos hlive] at hslot
        omega
      · rw [← List.count_eq_zero]
        omega
    have hplace : ∀ slot < 2 ^ 28, (GpuDescriptorHandle.make descriptorClass
        (UInt32.ofNat slot)).place = some (space, slot) := by
      intro slot hlt
      rw [← hspace]
      exact GpuDescriptorHandle.place_make descriptorClass hlt
    cases hlast : (heap.slots space).freeList.getLast? with
    | some slot =>
      have hfree : (heap.slots space).freeList = (heap.slots space).freeList.dropLast ++ [slot] := by
        rw [List.dropLast_append_getLast?]
        exact hlast
      have hcount : ∀ other, (heap.slots space).freeList.count other =
          (heap.slots space).freeList.dropLast.count other + if slot = other then 1 else 0 := by
        intro other
        conv_lhs => rw [hfree, List.count_append, List.count_singleton]
        simp only [beq_iff_eq]
      obtain ⟨hlt, hdead, hretired⟩ := hunused slot (by rw [hcount, if_pos rfl]; omega)
      refine Or.inr ⟨slot, { heap.slots space with
        freeList := (heap.slots space).freeList.dropLast
        liveSlots := (heap.slots space).liveSlots.set slot true }, ?_, hlt,
        hplace slot (by omega), hretired, rfl, by simpa using hlength, ?_⟩
      · simp [takeSlot, hlast, hdead]
      · refine SlotAllocator.occurrences_revive (by omega) hdead rfl fun other => ?_
        rw [hcount other]
        simp only []
        omega
    | none =>
      by_cases hfresh : (heap.slots space).nextFresh < (heap.slots space).capacity
      · obtain ⟨hlt, hdead, hretired⟩ := hunused (heap.slots space).nextFresh (by
          rw [if_pos ⟨le_rfl, hfresh⟩]
          omega)
        refine Or.inr ⟨(heap.slots space).nextFresh, { heap.slots space with
          nextFresh := (heap.slots space).nextFresh + 1
          liveSlots := (heap.slots space).liveSlots.set (heap.slots space).nextFresh true }, ?_, hlt,
          hplace _ (by omega), hretired, rfl, by simpa using hlength, ?_⟩
        · simp [takeSlot, hlast, hfresh, hdead]
        · refine SlotAllocator.occurrences_revive (by omega) hdead rfl fun other => ?_
          simp only []
          split <;> split <;> split <;> omega
      · exact Or.inl (by simp [takeSlot, hlast, hfresh])

/-- What an accepted free does: a live slot is retired, for all the uses so far. -/
lemma free_eq_some (h : Balanced heap.slots heap.retired) {handle : GpuDescriptorHandle}
    {heap' : GpuDescriptorHeap CommandBuffer} (hfree : heap.free handle = some heap') :
    ∃ space slot allocator, handle.place = some (space, slot) ∧
      heap' = { heap.withSlots space allocator with
        retired := heap.retired ++ [⟨handle, heap.lastHeapUseID⟩] } ∧
      allocator.capacity = (heap.slots space).capacity ∧
      allocator.liveSlots.length = allocator.capacity ∧
      ∀ other, allocator.occurrences other + (if other = slot then 1 else 0)
        = (heap.slots space).occurrences other := by
  unfold free at hfree
  split at hfree
  · cases hclass : handle.descriptorClass with
    | none => simp [hclass] at hfree
    | some descriptorClass =>
      simp only [hclass] at hfree
      split at hfree
      · cases hfree
      · split at hfree
        · next hlive =>
          have hlength := h.live_length descriptorClass.slotNamespace
          have hlt := (List.getElem?_eq_some_iff.1 hlive).1
          refine ⟨_, _, _, by rw [GpuDescriptorHandle.place, hclass]; rfl,
            (Option.some.inj hfree).symm, rfl, by simpa using hlength, fun other => ?_⟩
          unfold SlotAllocator.occurrences
          simp only [List.getElem?_set]
          by_cases heq : other = handle.slot.toNat
          · subst heq
            rw [if_pos rfl, if_pos rfl, if_pos hlt, if_pos hlive, if_neg (by decide)]
            omega
          · rw [if_neg heq, if_neg (Ne.symm heq)]
            omega
        · cases hfree
  · cases hfree

/-- Releasing retired slots: they go from the retired slots to the free lists. -/
lemma balanced_release {slots : SlotNamespace → SlotAllocator} {released kept : List RetiredSlot}
    (h : Balanced slots (released ++ kept)) : Balanced (released.foldl releaseSlot slots) kept ∧
      ∀ space, (released.foldl releaseSlot slots space).capacity = (slots space).capacity := by
  induction released generalizing slots with
  | nil => exact ⟨h, fun _ => rfl⟩
  | cons entry released ih =>
    rw [List.foldl_cons]
    cases hclass : entry.handle.descriptorClass with
    | none =>
      have hnone : entry.handle.place = none := by rw [GpuDescriptorHandle.place, hclass]; rfl
      have hsame : releaseSlot slots entry = slots := by simp [releaseSlot, hclass]
      rw [hsame]
      refine ih ⟨h.live_length, fun space slot => ?_⟩
      have honce := h.once space slot
      rw [List.cons_append, List.map_cons, hnone, List.count_cons_of_ne (by simp)] at honce
      exact honce
    | some descriptorClass =>
      generalize hspace : descriptorClass.slotNamespace = space
      generalize hslot : entry.handle.slot.toNat = slot
      have hplace : entry.handle.place = some (space, slot) := by
        rw [GpuDescriptorHandle.place, hclass, Option.map_some, hspace, hslot]
      have hcount : ∀ space' slot',
          ((entry :: (released ++ kept)).map fun entry => entry.handle.place).count
              (some (space', slot')) =
            ((released ++ kept).map fun entry => entry.handle.place).count (some (space', slot')) +
              if space = space' ∧ slot = slot' then 1 else 0 := by
        intro space' slot'
        rw [List.map_cons, hplace, List.count_cons]
        simp only [beq_iff_eq, Option.some.injEq, Prod.mk.injEq]
      have honce := h.once space slot
      rw [List.cons_append, hcount, if_pos ⟨rfl, rfl⟩] at honce
      have hlt : slot < (slots space).capacity := by
        by_contra hle
        rw [if_neg hle] at honce
        omega
      have hdead : (slots space).liveSlots[slot]? = some false := by
        refine h.liveSlots_eq hlt fun hlive => ?_
        rw [if_pos hlt] at honce
        unfold SlotAllocator.occurrences at honce
        rw [if_pos hlive] at honce
        omega
      have hrelease : releaseSlot slots entry = Function.update slots space
          { slots space with freeList := (slots space).freeList ++ [slot] } := by
        simp only [releaseSlot, hclass, hspace, hslot, if_pos hdead]
      have hbalanced : Balanced (releaseSlot slots entry) (released ++ kept) := by
        rw [hrelease]
        refine h.update (h.live_length space) rfl (fun slot' => ?_) fun space' slot' hne => ?_
        · rw [List.cons_append, hcount]
          unfold SlotAllocator.occurrences
          simp only [List.count_append, List.count_singleton, beq_iff_eq, true_and]
          omega
        · rw [List.cons_append, hcount, if_neg fun heq => hne heq.1.symm, Nat.add_zero]
      obtain ⟨hrest, hcapacity⟩ := ih hbalanced
      refine ⟨hrest, fun space' => (hcapacity space').trans ?_⟩
      rw [hrelease]
      exact capacity_update (by rfl) space'

/-- The collection keeps every slot in its place or moves it to a free list. -/
lemma balanced_applyCompletions (h : Balanced heap.slots heap.retired)
    (completions : List QueueCompletion) :
    Balanced (heap.applyCompletions completions).slots (heap.applyCompletions completions).retired ∧
      ∀ space, ((heap.applyCompletions completions).slots space).capacity
        = (heap.slots space).capacity := by
  refine balanced_release (h.perm ?_)
  exact (List.filter_append_perm _ _).symm

end GpuDescriptorHeap
end NwbLot.Vulkan
