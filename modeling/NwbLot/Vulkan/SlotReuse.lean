import NwbLot.Vulkan.HeapUses
import NwbLot.Vulkan.SlotPartition

/-!
# Reuse of descriptor slots

A slot that was freed comes back from `allocate` only after every use of the heap that had been
started before is discarded or completed.

`Sound` joins the partition of the slots with the table of uses; one lemma for every step, and the
run by induction.
-/

namespace NwbLot.Vulkan

open TaskGraph Runs

variable {CommandBuffer Thread : Type}

/-! ## What a collection knows -/

/-- A collection that is reading holds completed values that its queues have reached. -/
def CollectPoint.Reached (completed : GpuPhysicalQueueId → ℕ) : CollectPoint → Prop
  | .snapshot => True
  | .reading completions _ => ∀ completion ∈ completions, completion.value ≤ completed completion.queue

lemma CollectPoint.Reached.mono {completed completed' : GpuPhysicalQueueId → ℕ}
    (hmono : CompletionsGrow completed completed') :
    {point : CollectPoint} → point.Reached completed → point.Reached completed'
  | .snapshot, _ => trivial
  | .reading _ _, h => fun completion hmem => le_trans (h completion hmem) (hmono completion.queue)

/-- An entry that the collection takes for complete belongs to a use that is over. -/
lemma finished_of_heapUseComplete {completed : GpuPhysicalQueueId → ℕ}
    {completions : List QueueCompletion} {heapUse : HeapUse CommandBuffer}
    {record : UseRecord CommandBuffer}
    (hreached : ∀ completion ∈ completions, completion.value ≤ completed completion.queue)
    (hdescribes : heapUse.Describes record)
    (hcomplete : GpuDescriptorHeap.heapUseComplete completions heapUse = true) :
    record.progress.Finished completed := by
  obtain ⟨owner, progress⟩ := record
  simp only [GpuDescriptorHeap.heapUseComplete] at hcomplete
  cases progress with
  | recording =>
    rw [if_neg (Bool.not_eq_true _ ▸ hdescribes.2), hdescribes.1] at hcomplete
    cases hcomplete
  | submitted token =>
    obtain ⟨htoken, hvalid⟩ := hdescribes
    simp only [htoken, hvalid, if_true] at hcomplete
    split at hcomplete
    · split at hcomplete
      · next completion hfound =>
        have hqueue : completion.queue = physicalQueue token := by
          simpa using List.find?_some hfound
        have hvalue := hreached completion (List.mem_of_find?_eq_some hfound)
        rw [hqueue] at hvalue
        exact le_trans (of_decide_eq_true hcomplete) hvalue
      · cases hcomplete
    · cases hcomplete
  | discarded => trivial

/-! ## The invariant -/

/-- All uses that were started before the slot was freed are over. -/
def FreedSlot.Released (freed : FreedSlot) (completed : GpuPhysicalQueueId → ℕ)
    (uses : List (UseRecord CommandBuffer)) : Prop :=
  ∀ record ∈ uses.take freed.usesStarted, record.progress.Finished completed

/-- The slot is retired still, for at least the uses that were started before it was freed. -/
def FreedSlot.Retired (freed : FreedSlot) (retired : List RetiredSlot) : Prop :=
  ∃ entry ∈ retired, entry.handle.place = some (freed.space, freed.slot) ∧
    freed.usesStarted ≤ entry.lastRequiredHeapUseID

namespace HeapSystem

structure Sound (capacities : HeapCapacities) (system : HeapSystem CommandBuffer Thread) : Prop where
  capacity_eq : ∀ space, (system.heap.slots space).capacity = capacities.capacity space
  balanced : Balanced system.heap.slots system.heap.retired
  lastHeapUseID_eq : system.heap.lastHeapUseID = system.uses.length
  table : UseTable system.heap.heapUses system.referenced system.completed system.uses
  reached : ∀ thread point, system.collecting thread = some point → point.Reached system.completed
  started_le : ∀ freed ∈ system.frees, freed.usesStarted ≤ system.uses.length
  guarded : ∀ freed ∈ system.frees,
    freed.Retired system.heap.retired ∨ freed.Released system.completed system.uses

namespace Sound

variable {capacities : HeapCapacities} {system : HeapSystem CommandBuffer Thread}

lemma initialized (hasAccelStructLayout : Bool) (capacities : HeapCapacities) :
    Sound capacities (initialized hasAccelStructLayout capacities :
      HeapSystem CommandBuffer Thread) where
  capacity_eq _ := rfl
  balanced :=
    { live_length := fun space => List.length_replicate
      once := by
        intro space slot
        have hdead : (List.replicate (capacities.capacity space) false)[slot]? ≠ some true := by
          intro hlive
          have hmem := List.mem_of_getElem? hlive
          exact Bool.false_ne_true (List.eq_of_mem_replicate hmem).symm
        show SlotAllocator.occurrences
          { capacity := capacities.capacity space
            liveSlots := List.replicate (capacities.capacity space) false } slot + 0 = _
        unfold SlotAllocator.occurrences
        simp only [if_neg hdead, List.count_nil, Nat.zero_le, true_and, Nat.zero_add, Nat.add_zero]
        rfl }
  lastHeapUseID_eq := rfl
  table :=
    { ids_nodup := List.nodup_nil
      describes := fun heapUse hmem => absurd hmem List.not_mem_nil
      listed := fun index record hget => absurd (List.mem_of_getElem? hget) List.not_mem_nil
      referenced_of_recording := fun index record hget =>
        absurd (List.mem_of_getElem? hget) List.not_mem_nil
      recording_unique := fun index index' record hget =>
        absurd (List.mem_of_getElem? hget) List.not_mem_nil }
  reached := fun thread point hpoint => nomatch hpoint
  started_le := fun freed hmem => absurd hmem List.not_mem_nil
  guarded := fun freed hmem => absurd hmem List.not_mem_nil

lemma capacity_le (h : Sound capacities system) (space : SlotNamespace) :
    (system.heap.slots space).capacity ≤ 2 ^ 28 := by
  rw [h.capacity_eq]
  exact le_trans (capacities.bounded space) (by decide)

lemma allocate (h : Sound capacities system) (descriptorClass : GpuDescriptorClass) :
    Sound capacities { system with heap := (system.heap.allocate descriptorClass).2 } := by
  rcases GpuDescriptorHeap.allocate_cases h.balanced h.capacity_le descriptorClass with
    hnone | ⟨slot, allocator, hallocate, -, -, -, hcapacity, hlength, hsame⟩
  · rw [hnone]
    exact h
  · rw [hallocate]
    exact { h with
      capacity_eq := fun space => (capacity_update hcapacity space).trans (h.capacity_eq space)
      balanced := h.balanced.update hlength hcapacity
        (fun other => congrArg (· + _) (hsame other)) fun _ _ _ => rfl }

/-- A free that is carried out: its slot is retired for all the uses so far. -/
lemma free (h : Sound capacities system) {handle : GpuDescriptorHandle}
    {heap : GpuDescriptorHeap CommandBuffer} (hfree : system.heap.free handle = some heap) :
    Sound capacities { system with
      heap := heap
      frees := system.frees ++ freedSlot handle system.uses.length } := by
  obtain ⟨space, slot, allocator, hplace, rfl, hcapacity, hlength, hsame⟩ :=
    GpuDescriptorHeap.free_eq_some h.balanced hfree
  have hretired : ∀ place, (List.map (fun entry => entry.handle.place)
      (system.heap.retired ++ [⟨handle, system.heap.lastHeapUseID⟩])).count place =
        (system.heap.retired.map fun entry => entry.handle.place).count place +
          if some (space, slot) = place then 1 else 0 := by
    intro place
    rw [List.map_append, List.count_append, List.map_singleton, hplace, List.count_singleton]
    simp only [beq_iff_eq]
  have hfreed : freedSlot handle system.uses.length = [⟨space, slot, system.uses.length⟩] := by
    obtain ⟨descriptorClass, hclass, hpair⟩ := Option.map_eq_some_iff.1 hplace
    rw [freedSlot, hclass]
    cases hpair
    rfl
  rw [hfreed]
  refine { h with
    capacity_eq := fun other => (capacity_update hcapacity other).trans (h.capacity_eq other)
    balanced := h.balanced.update hlength hcapacity (fun other => ?_) fun other slot' hne => ?_
    started_le := fun freed hmem => ?_
    guarded := fun freed hmem => ?_ }
  · rw [hretired, ← hsame other]
    by_cases hslot : other = slot
    · rw [if_pos hslot, if_pos (by rw [hslot])]
      omega
    · rw [if_neg hslot, if_neg fun heq => hslot (congrArg Prod.snd (Option.some.inj heq)).symm]
      omega
  · rw [hretired, if_neg fun heq => hne (congrArg Prod.fst (Option.some.inj heq)).symm]
    rfl
  · rcases List.mem_append.1 hmem with hold | hnew
    · exact h.started_le freed hold
    · obtain rfl := List.mem_singleton.1 hnew
      exact le_rfl
  · rcases List.mem_append.1 hmem with hold | hnew
    · rcases h.guarded freed hold with ⟨entry, hentry, hthere⟩ | hreleased
      · exact Or.inl ⟨entry, List.mem_append_left _ hentry, hthere⟩
      · exact Or.inr hreleased
    · obtain rfl := List.mem_singleton.1 hnew
      exact Or.inl ⟨⟨handle, system.heap.lastHeapUseID⟩,
        List.mem_append_right _ (List.mem_singleton_self _), hplace, h.lastHeapUseID_eq.ge⟩

/-- What the collection finds out about a slot that it releases. -/
lemma released_of_canRetire (h : Sound capacities system) {completions : List QueueCompletion}
    (hreached : ∀ completion ∈ completions,
      completion.value ≤ system.completed completion.queue)
    {entry : RetiredSlot} {freed : FreedSlot}
    (hrequired : freed.usesStarted ≤ entry.lastRequiredHeapUseID)
    (hretire : GpuDescriptorHeap.canRetire completions system.heap.heapUses entry = true) :
    freed.Released system.completed system.uses := by
  intro record hrecord
  obtain ⟨index, hindex, hget⟩ := List.mem_take_iff_getElem.1 hrecord
  have hsome : system.uses[index]? = some record := List.getElem?_eq_some_iff.2 ⟨_, hget⟩
  rcases h.table.listed index record hsome with hdone | ⟨heapUse, hmem, hid⟩
  · exact hdone
  -- the entry is still listed, so the collection has found it complete
  · obtain ⟨index', record', hid', hget', hdescribes⟩ := h.table.describes heapUse hmem
    obtain rfl : index' = index := Nat.succ.inj (hid'.symm.trans hid)
    obtain rfl : record' = record := Option.some.inj (hget'.symm.trans hsome)
    have hcomplete := List.all_eq_true.1 hretire heapUse hmem
    have hrequired' : ¬entry.lastRequiredHeapUseID < heapUse.id := by omega
    rw [decide_eq_false hrequired', Bool.false_or] at hcomplete
    exact finished_of_heapUseComplete hreached hdescribes hcomplete

/-- The last section of a collection. -/
lemma applyCompletions (h : Sound capacities system) {completions : List QueueCompletion}
    (hreached : ∀ completion ∈ completions,
      completion.value ≤ system.completed completion.queue) :
    Sound capacities { system with heap := system.heap.applyCompletions completions } := by
  obtain ⟨hbalanced, hcapacity⟩ :=
    GpuDescriptorHeap.balanced_applyCompletions h.balanced completions
  refine { h with
    capacity_eq := fun space => (hcapacity space).trans (h.capacity_eq space)
    balanced := hbalanced
    table := h.table.filter fun heapUse _ hkept record hrecord => ?_
    guarded := fun freed hmem => ?_ }
  · exact finished_of_heapUseComplete hreached hrecord (by simpa using hkept)
  · rcases h.guarded freed hmem with ⟨entry, hentry, hplace, hrequired⟩ | hreleased
    · by_cases hretire : GpuDescriptorHeap.canRetire completions system.heap.heapUses entry = true
      · exact Or.inr (h.released_of_canRetire hreached hrequired hretire)
      · refine Or.inl ⟨entry, List.mem_filter.2 ⟨hentry, ?_⟩, hplace, hrequired⟩
        rw [Bool.eq_false_of_not_eq_true hretire]
        rfl
    · exact Or.inr hreleased

/-! ## The steps -/

section Steps

variable [DecidableEq CommandBuffer] [DecidableEq Thread]

omit [DecidableEq CommandBuffer] in
/-- A thread that goes to another point of its collection. -/
lemma moveTo (h : Sound capacities system) (thread : Thread) {point : Option CollectPoint}
    (hpoint : ∀ reading, point = some reading → reading.Reached system.completed) :
    Sound capacities { system with collecting := Function.update system.collecting thread point } :=
  { h with
    reached := by
      intro other point' (hother : Function.update system.collecting thread point other = _)
      by_cases hsame : other = thread
      · subst hsame
        rw [Function.update_self] at hother
        exact hpoint point' hother
      · rw [Function.update_of_ne hsame] at hother
        exact h.reached other point' hother }

omit [DecidableEq CommandBuffer] in
lemma collect (h : Sound capacities system) (thread : Thread) :
    Sound capacities { system with
      collecting := Function.update system.collecting thread (some .snapshot) } :=
  h.moveTo thread fun reading hreading => by
    obtain rfl := Option.some.inj hreading
    trivial

omit [DecidableEq CommandBuffer] in
lemma advance (h : Sound capacities system) {thread : Thread} {value : ℕ} {point : CollectPoint}
    (hpoint : point.Reached system.completed) {system' : HeapSystem CommandBuffer Thread}
    (hstep : system.advance thread value point = some system') : Sound capacities system' := by
  cases point with
  | snapshot =>
    obtain rfl := Option.some.inj hstep
    refine h.moveTo thread fun reading hreading => ?_
    obtain rfl := Option.some.inj hreading
    exact fun completion hmem => absurd hmem List.not_mem_nil
  | reading completions pending =>
    cases pending with
    | nil =>
      obtain rfl := Option.some.inj hstep
      exact (h.applyCompletions hpoint).moveTo thread fun reading hreading => nomatch hreading
    | cons queue pending =>
      rw [HeapSystem.advance] at hstep
      split at hstep
      · next hvalue =>
        obtain rfl := Option.some.inj hstep
        refine h.moveTo thread fun reading hreading => ?_
        obtain rfl := Option.some.inj hreading
        intro completion hmem
        rcases List.mem_append.1 hmem with hold | hnew
        · exact hpoint completion hold
        · obtain rfl := List.mem_singleton.1 hnew
          exact hvalue
      · cases hstep

omit [DecidableEq Thread] in
/-- Progress of a command buffer's recording leaves what is released released. -/
lemma released_setProgress {commandBuffer : CommandBuffer} {progress : UseProgress}
    {freed : FreedSlot} (h : freed.Released system.completed system.uses) :
    freed.Released system.completed (setProgress commandBuffer progress system.uses) := by
  intro record' hmem
  rw [setProgress, ← List.map_take] at hmem
  obtain ⟨record, hrecord, rfl⟩ := List.mem_map.1 hmem
  have hdone := h record hrecord
  rw [if_neg]
  · exact hdone
  · rintro ⟨-, hrecording⟩
    rw [hrecording] at hdone
    exact hdone

omit [DecidableEq Thread] in
lemma track (h : Sound capacities system) {commandBuffer : CommandBuffer}
    (hnew : system.referenced commandBuffer = false) :
    Sound capacities { system with
      heap := system.heap.trackCommandBufferUse commandBuffer
      referenced := Function.update system.referenced commandBuffer true
      uses := system.uses ++ [⟨commandBuffer, .recording⟩] } :=
  { h with
    lastHeapUseID_eq := by
      show system.heap.lastHeapUseID + 1 = (system.uses ++ [_]).length
      rw [h.lastHeapUseID_eq, List.length_append, List.length_singleton]
    table := by
      have htable := h.table.track hnew
      rw [← h.lastHeapUseID_eq] at htable
      exact htable
    started_le := fun freed hmem => by
      show freed.usesStarted ≤ (system.uses ++ [_]).length
      rw [List.length_append]
      exact le_trans (h.started_le freed hmem) (Nat.le_add_right _ _)
    guarded := fun freed hmem => (h.guarded freed hmem).imp_right fun hreleased => by
      show freed.Released system.completed (system.uses ++ [_])
      rw [FreedSlot.Released, List.take_append_of_le_length (h.started_le freed hmem)]
      exact hreleased }

omit [DecidableEq Thread] in
lemma submit (h : Sound capacities system) {commandBuffer : CommandBuffer}
    {token : QueueSubmissionToken} (hvalid : token.valid = true) :
    Sound capacities { system with
      heap := { system.heap with
        heapUses := GpuDescriptorHeap.markSubmitted commandBuffer token system.heap.heapUses }
      uses := setProgress commandBuffer (.submitted token) system.uses } :=
  { h with
    lastHeapUseID_eq := h.lastHeapUseID_eq.trans (List.length_map _).symm
    table := h.table.submit hvalid
    started_le := fun freed hmem => (h.started_le freed hmem).trans_eq (List.length_map _).symm
    guarded := fun freed hmem => (h.guarded freed hmem).imp_right released_setProgress }

omit [DecidableEq Thread] in
lemma discard (h : Sound capacities system) (commandBuffer : CommandBuffer) :
    Sound capacities { system with
      heap := system.heap.discardCommandBufferUse commandBuffer
      referenced := Function.update system.referenced commandBuffer false
      uses := setProgress commandBuffer .discarded system.uses } :=
  { h with
    lastHeapUseID_eq := h.lastHeapUseID_eq.trans (List.length_map _).symm
    table := h.table.discard commandBuffer
    started_le := fun freed hmem => (h.started_le freed hmem).trans_eq (List.length_map _).symm
    guarded := fun freed hmem => (h.guarded freed hmem).imp_right released_setProgress }

omit [DecidableEq CommandBuffer] [DecidableEq Thread] in
lemma complete (h : Sound capacities system) {queue : GpuPhysicalQueueId} {value : ℕ}
    (hvalue : system.completed queue ≤ value) :
    Sound capacities { system with completed := Function.update system.completed queue value } := by
  have hmono : CompletionsGrow system.completed (Function.update system.completed queue value) := by
    intro other
    by_cases hsame : other = queue
    · subst hsame
      rw [Function.update_self]
      exact hvalue
    · rw [Function.update_of_ne hsame]
  exact { h with
    table := h.table.mono hmono
    reached := fun thread point hpoint => (h.reached thread point hpoint).mono hmono
    guarded := fun freed hmem => (h.guarded freed hmem).imp_right fun hreleased record hrecord =>
      (hreleased record hrecord).mono hmono }

/-- Every step of every thread keeps the invariant. -/
lemma step {matchesPhysicalQueueIdentity : GpuPhysicalQueueId → Bool}
    {event : HeapEvent CommandBuffer Thread} {system' : HeapSystem CommandBuffer Thread}
    (hstep : system.step matchesPhysicalQueueIdentity event = some system')
    (h : Sound capacities system) : Sound capacities system' := by
  cases event with
  | allocate descriptorClass =>
    obtain rfl := Option.some.inj hstep
    exact h.allocate descriptorClass
  | free thread handle =>
    simp only [HeapSystem.step] at hstep
    split at hstep
    · cases hstep
    · obtain rfl := Option.some.inj hstep
      exact h
    · next hfree =>
      obtain rfl := Option.some.inj hstep
      exact (h.free hfree).collect thread
  | collectRetired thread =>
    simp only [HeapSystem.step] at hstep
    split at hstep
    · cases hstep
    · obtain rfl := Option.some.inj hstep
      exact h.collect thread
  | advance thread value =>
    simp only [HeapSystem.step] at hstep
    split at hstep
    · cases hstep
    · next point hpoint => exact h.advance (h.reached thread point hpoint) hstep
  | trackCommandBufferUse commandBuffer =>
    simp only [HeapSystem.step] at hstep
    split at hstep
    · obtain rfl := Option.some.inj hstep
      exact h
    · next hnew =>
      obtain rfl := Option.some.inj hstep
      exact h.track (Bool.eq_false_of_not_eq_true hnew)
  | submitCommandBufferUse commandBuffer token =>
    simp only [HeapSystem.step, GpuDescriptorHeap.submitCommandBufferUse] at hstep
    split at hstep
    · next haccepted =>
      obtain rfl := Option.some.inj hstep
      rw [Bool.and_eq_true, Bool.and_eq_true] at haccepted
      exact h.submit haccepted.1.1
    · obtain rfl := Option.some.inj hstep
      exact h
  | clearTrackedReferences commandBuffer =>
    simp only [HeapSystem.step] at hstep
    split at hstep
    · obtain rfl := Option.some.inj hstep
      exact h.discard commandBuffer
    · obtain rfl := Option.some.inj hstep
      exact h
  | complete queue value =>
    simp only [HeapSystem.step] at hstep
    split at hstep
    · next hvalue =>
      obtain rfl := Option.some.inj hstep
      exact h.complete hvalue
    · cases hstep

end Steps
end Sound

/-! ## Every run -/

section Runs

variable [DecidableEq CommandBuffer] [DecidableEq Thread]

omit [DecidableEq Thread] in
lemma length_setProgress (commandBuffer : CommandBuffer) (progress : UseProgress)
    (uses : List (UseRecord CommandBuffer)) :
    (setProgress commandBuffer progress uses).length = uses.length :=
  List.length_map _

/-- A step starts at most one use. -/
lemma length_uses_step {matchesPhysicalQueueIdentity : GpuPhysicalQueueId → Bool}
    {event : HeapEvent CommandBuffer Thread} {system system' : HeapSystem CommandBuffer Thread}
    (hstep : system.step matchesPhysicalQueueIdentity event = some system') :
    system'.uses.length ≤ system.uses.length + 1 := by
  cases event with
  | trackCommandBufferUse commandBuffer =>
    simp only [step] at hstep
    split at hstep <;> obtain rfl := Option.some.inj hstep
    · exact Nat.le_succ _
    · exact (List.length_append ..).le
  | advance thread value =>
    simp only [step] at hstep
    split at hstep
    · cases hstep
    · next point _ =>
      unfold advance at hstep
      repeat' split at hstep
      all_goals cases hstep
      all_goals exact Nat.le_succ _
  | submitCommandBufferUse commandBuffer token =>
    obtain rfl := Option.some.inj hstep
    show (ite _ _ _ : List _).length ≤ _
    split
    · rw [length_setProgress]
      exact Nat.le_succ _
    · exact Nat.le_succ _
  | clearTrackedReferences commandBuffer =>
    simp only [step] at hstep
    split at hstep <;> obtain rfl := Option.some.inj hstep
    · exact (length_setProgress commandBuffer _ _).le.trans (Nat.le_succ _)
    · exact Nat.le_succ _
  | _ =>
    simp only [step] at hstep
    repeat' split at hstep
    all_goals cases hstep
    all_goals exact Nat.le_succ _

/-- Ids of heap uses are at most the number of steps, so that the source's 64-bit counter holds the
same number in every run of fewer than `2 ^ 64` steps. -/
theorem heapUseID_le_length {matchesPhysicalQueueIdentity : GpuPhysicalQueueId → Bool}
    {hasAccelStructLayout : Bool} {capacities : HeapCapacities}
    {events : List (HeapEvent CommandBuffer Thread)} {system : HeapSystem CommandBuffer Thread}
    (hrun : FreeRun (step matchesPhysicalQueueIdentity)
      (initialized hasAccelStructLayout capacities) events system) :
    system.heap.lastHeapUseID ≤ events.length := by
  have hsound : Sound capacities system :=
    hrun.invariant (Sound.initialized hasAccelStructLayout capacities)
      fun _ _ _ _ hstep hsound => hsound.step hstep
  rw [hsound.lastHeapUseID_eq]
  refine hrun.history_invariant (P := fun events system => system.uses.length ≤ events.length)
    (le_refl 0) fun events t event u _ hstep hlength => ?_
  rw [List.length_append]
  exact (length_uses_step hstep).trans (Nat.succ_le_succ hlength)

/-- In every run the live, listed, retired and never used slots partition the capacity of their
namespace, and `allocate` returns no slot that was freed while a use of the heap that had been
started before is neither discarded nor completed. -/
theorem slots_reused_safely (matchesPhysicalQueueIdentity : GpuPhysicalQueueId → Bool)
    (hasAccelStructLayout : Bool) (capacities : HeapCapacities)
    (events : List (HeapEvent CommandBuffer Thread)) (system : HeapSystem CommandBuffer Thread)
    (hrun : FreeRun (step matchesPhysicalQueueIdentity)
      (initialized hasAccelStructLayout capacities) events system) :
    (∀ space slot, (system.heap.slots space).occurrences slot +
        (system.heap.retired.map fun entry => entry.handle.place).count (some (space, slot)) =
      if slot < capacities.capacity space then 1 else 0) ∧
    ∀ descriptorClass, (system.heap.allocate descriptorClass).1.valid = true →
      ∀ freed ∈ system.frees,
        (system.heap.allocate descriptorClass).1.place = some (freed.space, freed.slot) →
        freed.Released system.completed system.uses := by
  have hsound : Sound capacities system :=
    hrun.invariant (Sound.initialized hasAccelStructLayout capacities)
      fun _ _ _ _ hstep hsound => hsound.step hstep
  constructor
  · intro space slot
    rw [hsound.balanced.once space slot, hsound.capacity_eq]
  · intro descriptorClass hvalid freed hmem hplace
    rcases GpuDescriptorHeap.allocate_cases hsound.balanced hsound.capacity_le descriptorClass with
      hnone | ⟨slot, allocator, hallocate, -, hslot, hretired, -⟩
    · rw [hnone] at hvalid
      have hinvalid : GpuDescriptorHandle.invalid.valid = false := by decide
      exact absurd (hinvalid.symm.trans hvalid) Bool.false_ne_true
    · rw [hallocate, hslot] at hplace
      refine (hsound.guarded freed hmem).resolve_left ?_
      rintro ⟨entry, hentry, hthere, -⟩
      refine hretired (List.mem_map.2 ⟨entry, hentry, ?_⟩)
      rw [hthere, hplace]

end Runs

/-- One slot in every namespace. -/
def singleSlots : HeapCapacities where
  capacity _ := 1
  bounded _ := by decide

/-- The only slot is freed while a command buffer records, and reused after its submission has
completed. -/
def recycledSlot : List (HeapEvent ℕ ℕ) :=
  [.allocate .sampledImage, .trackCommandBufferUse 7, .free 0 (.make .sampledImage 0),
   .advance 0 0, .advance 0 0, .submitCommandBufferUse 7 ⟨.graphics, 1, 0, 1⟩,
   .complete ⟨0, 1⟩ 1, .collectRetired 0, .advance 0 0, .advance 0 1, .advance 0 0]

theorem slots_reused_safely_recycled : ∃ system : HeapSystem ℕ ℕ,
    FreeRun (step fun _ => true) (initialized true singleSlots) recycledSlot system ∧
      (system.heap.allocate .sampledImage).1 = .make .sampledImage 0 ∧
      system.frees = [⟨.resource, 0, 1⟩] ∧
      ∀ freed ∈ system.frees, freed.Released system.completed system.uses := by
  obtain ⟨system, hafter, hreused, hfrees⟩ : ∃ system : HeapSystem ℕ ℕ,
      after (step fun _ => true) (fun _ _ => true) (initialized true singleSlots) recycledSlot
          = some system ∧
        (system.heap.allocate .sampledImage).1 = .make .sampledImage 0 ∧
        system.frees = [⟨.resource, 0, 1⟩] := ⟨_, rfl, by decide, by decide⟩
  have hrun : FreeRun (step fun _ => true) (initialized true singleSlots) recycledSlot system :=
    run_of_after (fun _ _ _ => trivial) hafter
  refine ⟨system, hrun, hreused, hfrees, fun freed hmem => ?_⟩
  refine (slots_reused_safely (fun _ => true) true singleSlots recycledSlot system hrun).2
    .sampledImage ?_ freed hmem ?_
  · rw [hreused]
    decide
  · rw [hfrees] at hmem
    obtain rfl := List.mem_singleton.1 hmem
    rw [hreused]
    decide

end HeapSystem
end NwbLot.Vulkan
