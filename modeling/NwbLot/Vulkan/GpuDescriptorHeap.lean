import Mathlib.Data.Nat.Bitwise
import Mathlib.Data.UInt
import NwbLot.TaskGraph.Types

/-!
# The global descriptor heap

Slots of `GpuDescriptorHeap`, the command buffers that use the heap, and the collection of retired
slots, whose snapshot, completion reads and update are separate steps.  Slot counts are natural
numbers; so are the ids of heap uses, which have 64 bits and grow by one in a use, so that they do
not wrap before `2 ^ 64` uses (`HeapSystem.heapUseID_le_length`).
-/

namespace NwbLot.Vulkan

open TaskGraph

/-! ## Handles -/

/-- The descriptor classes, by their tags. -/
inductive GpuDescriptorClass
  | sampledImage | storageImage | sampledBuffer | storageBuffer | uniformBuffer | accelStruct
  | sampler | sampledImage2DArray | sampledImage3D | sampledImage2DArrayUint | sampledImageCube
  deriving DecidableEq, Repr

namespace GpuDescriptorClass

/-- The classes in the order of their tags. -/
def all : List GpuDescriptorClass :=
  [sampledImage, storageImage, sampledBuffer, storageBuffer, uniformBuffer, accelStruct, sampler,
   sampledImage2DArray, sampledImage3D, sampledImage2DArrayUint, sampledImageCube]

/-- The number of classes. -/
def kCount : ℕ := 11

/-- The tag of a class in a handle. -/
def tag (descriptorClass : GpuDescriptorClass) : UInt32 :=
  UInt32.ofNat (all.idxOf descriptorClass)

end GpuDescriptorClass

/-- Class tag in the upper 4 bits, slot in the lower 28. -/
structure GpuDescriptorHandle where
  value : UInt32
  deriving DecidableEq, Repr

namespace GpuDescriptorHandle

/-- Where the tag stands in a handle. -/
def classShift : UInt32 := 28
/-- The bits of the slot in a handle. -/
def slotMask : UInt32 := (1 <<< classShift) - 1

/-- The handle of a slot. -/
def make (descriptorClass : GpuDescriptorClass) (slot : UInt32) : GpuDescriptorHandle where
  value := (descriptorClass.tag <<< classShift) ||| (slot &&& slotMask)

/-- The handle of no slot. -/
def invalid : GpuDescriptorHandle := ⟨0xFFFFFFFF⟩

/-- The handle may name a slot. -/
def valid (handle : GpuDescriptorHandle) : Bool := handle != invalid

/-- `none` for a tag outside the enumeration, `descriptorClass() >= kCount`. -/
def descriptorClass (handle : GpuDescriptorHandle) : Option GpuDescriptorClass :=
  GpuDescriptorClass.all[(handle.value >>> classShift).toNat]?

/-- The slot that the handle names. -/
def slot (handle : GpuDescriptorHandle) : UInt32 := handle.value &&& slotMask

end GpuDescriptorHandle

/-! ## Slots -/

/-- The three index namespaces: one allocator each. -/
inductive SlotNamespace
  | resource | sampler | accelStruct
  deriving DecidableEq, Repr

/-- `allocatorForClass` -/
def GpuDescriptorClass.slotNamespace : GpuDescriptorClass → SlotNamespace
  | .sampler => .sampler
  | .accelStruct => .accelStruct
  | _ => .resource

/-- The slots of a namespace. -/
structure SlotAllocator where
  capacity : ℕ := 0
  nextFresh : ℕ := 0
  freeList : List ℕ := []
  liveSlots : List Bool := []
  deriving DecidableEq, Repr

/-- A freed slot, with the last use that may read it. -/
structure RetiredSlot where
  handle : GpuDescriptorHandle
  lastRequiredHeapUseID : ℕ
  deriving DecidableEq, Repr

/-- A command buffer that uses the heap. -/
structure HeapUse (CommandBuffer : Type) where
  commandBuffer : Option CommandBuffer
  submissionToken : QueueSubmissionToken := {}
  id : ℕ
  deriving DecidableEq, Repr

/-- The heap after `initialize`; the retained resources of the slots are left out. -/
structure GpuDescriptorHeap (CommandBuffer : Type) where
  hasAccelStructLayout : Bool := true
  slots : SlotNamespace → SlotAllocator
  retired : List RetiredSlot := []
  heapUses : List (HeapUse CommandBuffer) := []
  lastHeapUseID : ℕ := 0

/-- The queue that a token names. -/
def physicalQueue (token : QueueSubmissionToken) : GpuPhysicalQueueId :=
  ⟨token.physicalQueueIndex, token.deviceGeneration⟩

/-- The value that a queue has completed. -/
structure QueueCompletion where
  queue : GpuPhysicalQueueId
  value : ℕ
  deriving DecidableEq, Repr

namespace GpuDescriptorHeap

variable {CommandBuffer : Type}

/-- The heap with the slots of one namespace replaced. -/
def withSlots (heap : GpuDescriptorHeap CommandBuffer) (space : SlotNamespace)
    (allocator : SlotAllocator) : GpuDescriptorHeap CommandBuffer :=
  { heap with slots := Function.update heap.slots space allocator }

/-- The slot that an allocator hands out, and the allocator without it. -/
def takeSlot (allocator : SlotAllocator) : Option (ℕ × SlotAllocator) :=
  match allocator.freeList.getLast? with
  | some slot => some (slot, { allocator with freeList := allocator.freeList.dropLast })
  | none =>
    if allocator.nextFresh < allocator.capacity then
      some (allocator.nextFresh, { allocator with nextFresh := allocator.nextFresh + 1 })
    else none

/-- A handle of a free slot, or the invalid one. -/
def allocate (heap : GpuDescriptorHeap CommandBuffer) (descriptorClass : GpuDescriptorClass) :
    GpuDescriptorHandle × GpuDescriptorHeap CommandBuffer :=
  if descriptorClass = .accelStruct ∧ heap.hasAccelStructLayout = false then (.invalid, heap)
  else
    match takeSlot (heap.slots descriptorClass.slotNamespace) with
    | none => (.invalid, heap)
    | some (slot, allocator) =>
      if allocator.liveSlots[slot]? = some false then
        (.make descriptorClass (UInt32.ofNat slot),
          heap.withSlots descriptorClass.slotNamespace
            { allocator with liveSlots := allocator.liveSlots.set slot true })
      else (.invalid, heap.withSlots descriptorClass.slotNamespace allocator)

/-- The locked section of `free`; `none` where the call returns without a collection. -/
def free (heap : GpuDescriptorHeap CommandBuffer) (handle : GpuDescriptorHandle) :
    Option (GpuDescriptorHeap CommandBuffer) :=
  if handle.valid then
    match handle.descriptorClass with
    | none => none
    | some descriptorClass =>
      if descriptorClass = .accelStruct ∧ heap.hasAccelStructLayout = false then none
      else
        let allocator := heap.slots descriptorClass.slotNamespace
        if allocator.liveSlots[handle.slot.toNat]? = some true then
          some { heap.withSlots descriptorClass.slotNamespace
              { allocator with liveSlots := allocator.liveSlots.set handle.slot.toNat false } with
            retired := heap.retired ++ [⟨handle, heap.lastHeapUseID⟩] }
        else none
  else none

/-! ## Uses by command buffers -/

/-- The locked section of `trackCommandBufferUse` for a command buffer that does not reference the
heap yet. -/
def trackCommandBufferUse (heap : GpuDescriptorHeap CommandBuffer) (commandBuffer : CommandBuffer) :
    GpuDescriptorHeap CommandBuffer :=
  { heap with
    heapUses := heap.heapUses ++
      [{ commandBuffer := some commandBuffer, id := heap.lastHeapUseID + 1 }]
    lastHeapUseID := heap.lastHeapUseID + 1 }

section Uses

variable [DecidableEq CommandBuffer]

/-- The first unsubmitted use of the command buffer gets the token. -/
def markSubmitted (commandBuffer : CommandBuffer) (submissionToken : QueueSubmissionToken) :
    List (HeapUse CommandBuffer) → List (HeapUse CommandBuffer)
  | [] => []
  | heapUse :: heapUses =>
    if heapUse.commandBuffer ≠ some commandBuffer ∨ heapUse.submissionToken.valid = true then
      heapUse :: markSubmitted commandBuffer submissionToken heapUses
    else { heapUse with submissionToken := submissionToken } :: heapUses

/-- A token of another device is rejected. -/
def submitCommandBufferUse (matchesPhysicalQueueIdentity : GpuPhysicalQueueId → Bool)
    (heap : GpuDescriptorHeap CommandBuffer) (commandBuffer : CommandBuffer)
    (submissionToken : QueueSubmissionToken) : GpuDescriptorHeap CommandBuffer :=
  if submissionToken.valid && submissionToken.hasPhysicalQueueIdentity &&
      matchesPhysicalQueueIdentity (physicalQueue submissionToken) then
    { heap with heapUses := markSubmitted commandBuffer submissionToken heap.heapUses }
  else heap

/-- The uses of a command buffer that is gone. -/
def discardCommandBufferUse (heap : GpuDescriptorHeap CommandBuffer)
    (commandBuffer : CommandBuffer) : GpuDescriptorHeap CommandBuffer :=
  { heap with
    heapUses := heap.heapUses.map fun heapUse =>
      if heapUse.commandBuffer = some commandBuffer then { heapUse with commandBuffer := none }
      else heapUse }

end Uses

/-! ## The collection -/

/-- The first locked section of `collectRetired`: the queues of the submitted uses. -/
def trackedQueues (heap : GpuDescriptorHeap CommandBuffer) : List GpuPhysicalQueueId :=
  heap.heapUses.foldl
    (fun queues heapUse =>
      let token := heapUse.submissionToken
      if token.valid && token.hasPhysicalQueueIdentity && !queues.contains (physicalQueue token) then
        queues ++ [physicalQueue token]
      else queues) []

/-- The use is discarded, or its submission is completed. -/
def heapUseComplete (completions : List QueueCompletion) (heapUse : HeapUse CommandBuffer) : Bool :=
  let token := heapUse.submissionToken
  if token.valid then
    if token.hasPhysicalQueueIdentity then
      match completions.find? fun completion => completion.queue == physicalQueue token with
      | some completion => token.value ≤ completion.value
      | none => false
    else false
  else heapUse.commandBuffer.isNone

/-- Every use that may read the slot is complete. -/
def canRetire (completions : List QueueCompletion) (heapUses : List (HeapUse CommandBuffer))
    (retired : RetiredSlot) : Bool :=
  heapUses.all fun heapUse =>
    retired.lastRequiredHeapUseID < heapUse.id || heapUseComplete completions heapUse

/-- A retired slot goes to the free list of its allocator. -/
def releaseSlot (slots : SlotNamespace → SlotAllocator) (retired : RetiredSlot) :
    SlotNamespace → SlotAllocator :=
  match retired.handle.descriptorClass with
  | none => slots
  | some descriptorClass =>
    let allocator := slots descriptorClass.slotNamespace
    if allocator.liveSlots[retired.handle.slot.toNat]? = some false then
      Function.update slots descriptorClass.slotNamespace
        { allocator with freeList := allocator.freeList ++ [retired.handle.slot.toNat] }
    else slots

/-- The last locked section of `collectRetired`. -/
def applyCompletions (heap : GpuDescriptorHeap CommandBuffer) (completions : List QueueCompletion) :
    GpuDescriptorHeap CommandBuffer :=
  { heap with
    slots := (heap.retired.filter (canRetire completions heap.heapUses)).foldl releaseSlot heap.slots
    retired := heap.retired.filter fun retired => !canRetire completions heap.heapUses retired
    heapUses := heap.heapUses.filter fun heapUse => !heapUseComplete completions heapUse }

end GpuDescriptorHeap

/-! ## Handle lemmas -/

namespace GpuDescriptorClass

lemma tag_lt (descriptorClass : GpuDescriptorClass) : descriptorClass.tag.toNat < kCount := by
  cases descriptorClass <;> decide

lemma all_tag (descriptorClass : GpuDescriptorClass) :
    all[descriptorClass.tag.toNat]? = some descriptorClass := by
  cases descriptorClass <;> rfl

end GpuDescriptorClass

namespace GpuDescriptorHandle

lemma toNat_make (descriptorClass : GpuDescriptorClass) (slot : UInt32) :
    (make descriptorClass slot).value.toNat
      = descriptorClass.tag.toNat * 2 ^ 28 + slot.toNat % 2 ^ 28 := by
  have hmask : slotMask.toNat = 2 ^ 28 - 1 := rfl
  have hshift : classShift.toNat % 32 = 28 := rfl
  have hlow : slot.toNat % 2 ^ 28 < 2 ^ 28 := Nat.mod_lt _ (by decide)
  have htag : descriptorClass.tag.toNat < 11 := descriptorClass.tag_lt
  rw [make, UInt32.toNat_or, UInt32.toNat_shiftLeft, UInt32.toNat_and, hmask, hshift,
    Nat.and_two_pow_sub_one_eq_mod, Nat.mod_eq_of_lt (b := 2 ^ 32) (by rw [Nat.shiftLeft_eq]; omega),
    ← Nat.shiftLeft_add_eq_or_of_lt hlow, Nat.shiftLeft_eq]

lemma slot_make (descriptorClass : GpuDescriptorClass) {slot : UInt32} (h : slot.toNat < 2 ^ 28) :
    (make descriptorClass slot).slot = slot := by
  have hmask : slotMask.toNat = 2 ^ 28 - 1 := rfl
  rw [← UInt32.toNat_inj, GpuDescriptorHandle.slot, UInt32.toNat_and, hmask,
    Nat.and_two_pow_sub_one_eq_mod, toNat_make]
  omega

lemma descriptorClass_make (descriptorClass : GpuDescriptorClass) (slot : UInt32) :
    (make descriptorClass slot).descriptorClass = some descriptorClass := by
  have hshift : classShift.toNat % 32 = 28 := rfl
  have hlow : slot.toNat % 2 ^ 28 < 2 ^ 28 := Nat.mod_lt _ (by decide)
  have htag : ((make descriptorClass slot).value >>> classShift).toNat
      = descriptorClass.tag.toNat := by
    rw [UInt32.toNat_shiftRight, hshift, Nat.shiftRight_eq_div_pow, toNat_make]
    omega
  rw [GpuDescriptorHandle.descriptorClass, htag, GpuDescriptorClass.all_tag]

end GpuDescriptorHandle

end NwbLot.Vulkan
