import Mathlib.Logic.Function.Basic
import NwbLot.Library.Runs
import NwbLot.Vulkan.GpuDescriptorHeap

/-!
# The descriptor heap among its threads

The steps that command buffers, queues and collecting threads take on one heap, each of them one
locked section or one read of a queue's progress.  The state also keeps what happened: every use
of the heap by a command buffer, and every slot freed.
-/

namespace NwbLot.Vulkan

open TaskGraph Runs

/-! ## What happened -/

/-- How far a command buffer's use of the heap has come. -/
inductive UseProgress
  | recording
  | submitted (token : QueueSubmissionToken)
  | discarded
  deriving DecidableEq, Repr

/-- A use and how far it has come. -/
structure UseRecord (CommandBuffer : Type) where
  commandBuffer : CommandBuffer
  progress : UseProgress
  deriving DecidableEq, Repr

/-- A freed slot, with the number of uses that had been started before. -/
structure FreedSlot where
  space : SlotNamespace
  slot : ℕ
  usesStarted : ℕ
  deriving DecidableEq, Repr

/-- The use has been discarded, or the queue has completed its submission. -/
def UseProgress.Finished (completed : GpuPhysicalQueueId → ℕ) : UseProgress → Prop
  | .recording => False
  | .submitted token => token.value ≤ completed (physicalQueue token)
  | .discarded => True

/-- Where a thread stands in `collectRetired`: before its first section, or with the completions
read so far and the queues whose completion it has to read yet. -/
inductive CollectPoint
  | snapshot
  | reading (completions : List QueueCompletion) (pending : List GpuPhysicalQueueId)
  deriving DecidableEq, Repr

/-- The heap, its users and the queues, with what happened so far. -/
structure HeapSystem (CommandBuffer Thread : Type) where
  heap : GpuDescriptorHeap CommandBuffer
  referenced : CommandBuffer → Bool := fun _ => false
  completed : GpuPhysicalQueueId → ℕ := fun _ => 0
  collecting : Thread → Option CollectPoint := fun _ => none
  uses : List (UseRecord CommandBuffer) := []
  frees : List FreedSlot := []

/-- One step of one of the threads, or progress of a queue.  `advance` carries the completed value
that the thread reads, if it reads one. -/
inductive HeapEvent (CommandBuffer Thread : Type)
  | allocate (descriptorClass : GpuDescriptorClass)
  | free (thread : Thread) (handle : GpuDescriptorHandle)
  | collectRetired (thread : Thread)
  | advance (thread : Thread) (value : ℕ)
  | trackCommandBufferUse (commandBuffer : CommandBuffer)
  | submitCommandBufferUse (commandBuffer : CommandBuffer) (token : QueueSubmissionToken)
  | clearTrackedReferences (commandBuffer : CommandBuffer)
  | complete (queue : GpuPhysicalQueueId) (value : ℕ)

/-- The slot capacities that `initialize` accepts: the descriptors of a namespace fit the 32 MiB of
the persistent descriptor buffer segment. -/
structure HeapCapacities where
  capacity : SlotNamespace → ℕ
  bounded : ∀ space, capacity space ≤ 2 ^ 25

namespace HeapSystem

variable {CommandBuffer Thread : Type}

/-- A heap right after `initialize`. -/
def initialized (hasAccelStructLayout : Bool) (capacities : HeapCapacities) :
    HeapSystem CommandBuffer Thread where
  heap :=
    { hasAccelStructLayout := hasAccelStructLayout
      slots := fun space =>
        { capacity := capacities.capacity space
          liveSlots := List.replicate (capacities.capacity space) false } }

/-- What the uses of a command buffer that is still recording become. -/
def setProgress [DecidableEq CommandBuffer] (commandBuffer : CommandBuffer)
    (progress : UseProgress) (uses : List (UseRecord CommandBuffer)) :
    List (UseRecord CommandBuffer) :=
  uses.map fun use =>
    if use.commandBuffer = commandBuffer ∧ use.progress = .recording then
      { use with progress := progress }
    else use

/-- The record of a free that a handle asks for. -/
def freedSlot (handle : GpuDescriptorHandle) (usesStarted : ℕ) : List FreedSlot :=
  match handle.descriptorClass with
  | none => []
  | some descriptorClass => [⟨descriptorClass.slotNamespace, handle.slot.toNat, usesStarted⟩]

variable [DecidableEq CommandBuffer] [DecidableEq Thread]

/-- The next section of a thread in `collectRetired`.  A read never runs ahead of the queue. -/
def advance (system : HeapSystem CommandBuffer Thread) (thread : Thread) (value : ℕ) :
    CollectPoint → Option (HeapSystem CommandBuffer Thread)
  | .snapshot => some { system with
      collecting := Function.update system.collecting thread
        (some (.reading [] system.heap.trackedQueues)) }
  | .reading completions (queue :: pending) =>
    if value ≤ system.completed queue then
      some { system with
        collecting := Function.update system.collecting thread
          (some (.reading (completions ++ [⟨queue, value⟩]) pending)) }
    else none
  | .reading completions [] => some { system with
      heap := system.heap.applyCompletions completions
      collecting := Function.update system.collecting thread none }

/-- The step of an event, if it can happen. -/
def step (matchesPhysicalQueueIdentity : GpuPhysicalQueueId → Bool)
    (system : HeapSystem CommandBuffer Thread) :
    HeapEvent CommandBuffer Thread → Option (HeapSystem CommandBuffer Thread)
  | .allocate descriptorClass =>
    some { system with heap := (system.heap.allocate descriptorClass).2 }
  | .free thread handle =>
    match system.collecting thread, system.heap.free handle with
    | some _, _ => none
    | none, none => some system
    | none, some heap => some { system with
        heap := heap
        collecting := Function.update system.collecting thread (some .snapshot)
        frees := system.frees ++ freedSlot handle system.uses.length }
  | .collectRetired thread =>
    match system.collecting thread with
    | some _ => none
    | none => some { system with
        collecting := Function.update system.collecting thread (some .snapshot) }
  | .advance thread value =>
    match system.collecting thread with
    | none => none
    | some point => system.advance thread value point
  | .trackCommandBufferUse commandBuffer =>
    if system.referenced commandBuffer then some system
    else some { system with
      heap := system.heap.trackCommandBufferUse commandBuffer
      referenced := Function.update system.referenced commandBuffer true
      uses := system.uses ++ [⟨commandBuffer, .recording⟩] }
  | .submitCommandBufferUse commandBuffer token =>
    some { system with
      heap := system.heap.submitCommandBufferUse matchesPhysicalQueueIdentity commandBuffer token
      uses :=
        if token.valid && token.hasPhysicalQueueIdentity &&
            matchesPhysicalQueueIdentity (physicalQueue token) then
          setProgress commandBuffer (.submitted token) system.uses
        else system.uses }
  | .clearTrackedReferences commandBuffer =>
    if system.referenced commandBuffer then
      some { system with
        heap := system.heap.discardCommandBufferUse commandBuffer
        referenced := Function.update system.referenced commandBuffer false
        uses := setProgress commandBuffer .discarded system.uses }
    else some system
  | .complete queue value =>
    if system.completed queue ≤ value then
      some { system with completed := Function.update system.completed queue value }
    else none

end HeapSystem

end NwbLot.Vulkan
