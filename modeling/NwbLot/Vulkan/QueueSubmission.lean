import NwbLot.TaskGraph.Types

/-!
# Submission to physical queues

`Device::executeCommandLists` of `device_queue.cpp` and `Queue::submit` of `queue.cpp`: the wait
tokens become waits on the producers' timeline semaphores, one for each semaphore, and an accepted
submission gets the next value of its queue's timeline.

Command buffers, upload chunks and descriptor heaps that follow a submission are left out.
-/

namespace NwbLot.Vulkan

open TaskGraph

/-- `Queue::SubmissionWait`; semaphore zero is `VK_NULL_HANDLE`. -/
structure SubmissionWait where
  semaphore : ℕ := 0
  value : ℕ := 0
  deriving DecidableEq, Repr, Inhabited

/-- `Queue::SubmissionSignal`. -/
structure SubmissionSignal where
  semaphore : ℕ := 0
  value : ℕ := 0
  deriving DecidableEq, Repr, Inhabited

/-- A physical queue with its timeline and the semaphores that wait for its next submission. -/
structure Queue where
  physicalQueue : GpuPhysicalQueueId := {}
  queueID : CommandQueue := .kCount
  trackingSemaphore : ℕ := 0
  lastSubmittedID : ℕ := 0
  waitSemaphores : List SubmissionWait := []
  signalSemaphores : List SubmissionSignal := []
  deriving DecidableEq, Repr, Inhabited

/-- The queue a command list was recorded for, and whether it still has its command buffer. -/
structure CommandList where
  queueType : CommandQueue := .kCount
  physicalQueue : GpuPhysicalQueueId := {}
  hasCommandBuffer : Bool := true
  deriving DecidableEq, Repr, Inhabited

/-- What `vkQueueSubmit2` gets. -/
structure NativeSubmission where
  queue : GpuPhysicalQueueId := {}
  commandBufferCount : ℕ := 0
  waits : List SubmissionWait := []
  signals : List SubmissionSignal := []
  deriving DecidableEq, Repr, Inhabited

/-! ## One queue -/

namespace Queue

variable (queue : Queue)

/-- Nothing is pending. -/
def clearPendingSemaphores : Queue := { queue with waitSemaphores := [], signalSemaphores := [] }

/-- The list was recorded for another queue. -/
def foreign (commandList : CommandList) : Bool :=
  commandList.hasCommandBuffer
    && (commandList.queueType != queue.queueID
      || commandList.physicalQueue != queue.physicalQueue)

/-- Something has to be waited for or signalled. -/
def hasPendingSemaphores (localWaits : List SubmissionWait)
    (localSignals : List SubmissionSignal) : Bool :=
  !localWaits.isEmpty || !localSignals.isEmpty || !queue.waitSemaphores.isEmpty
    || !queue.signalSemaphores.isEmpty

/-- The checks of `submit` before it touches the command lists. -/
def refusesSubmission (commandLists : List (Option CommandList)) (localWaits : List SubmissionWait)
    (localSignals : List SubmissionSignal) : Bool :=
  decide (u32Max < commandLists.length)
    || decide (u32Max < localWaits.length)
    || decide (u32Max - localWaits.length < queue.waitSemaphores.length)
    || decide (u32Max ≤ localSignals.length)
    || decide (u32Max - localSignals.length ≤ queue.signalSemaphores.length)
    || ((!commandLists.isEmpty || queue.hasPendingSemaphores localWaits localSignals)
      && queue.lastSubmittedID == u64Max)
    || commandLists.any (·.any queue.foreign)
    || localSignals.any (·.semaphore == 0)

/-- The command buffers a submission takes from its lists. -/
def commandBufferCount (commandLists : List (Option CommandList)) : ℕ :=
  commandLists.countP (·.any (·.hasCommandBuffer))

/-- The submission `submit` builds. -/
def nativeSubmission (commandLists : List (Option CommandList)) (localWaits : List SubmissionWait)
    (localSignals : List SubmissionSignal) : NativeSubmission where
  queue := queue.physicalQueue
  commandBufferCount := commandBufferCount commandLists
  waits := localWaits ++ queue.waitSemaphores
  signals :=
    { semaphore := queue.trackingSemaphore, value := queue.lastSubmittedID + 1 }
      :: (localSignals ++ queue.signalSemaphores)

/-- `Queue::submit`; `nativeAccepted` is the answer of `vkQueueSubmit2`.  The submission is the
accepted one. -/
def submit (commandLists : List (Option CommandList)) (localWaits : List SubmissionWait)
    (localSignals : List SubmissionSignal) (nativeAccepted : Bool) :
    Queue × Option NativeSubmission :=
  if queue.refusesSubmission commandLists localWaits localSignals then
    (queue.clearPendingSemaphores, none)
  else if commandBufferCount commandLists = 0
      && !queue.hasPendingSemaphores localWaits localSignals then (queue, none)
  else if queue.trackingSemaphore = 0 || localWaits.any (·.semaphore == 0) || !nativeAccepted then
    (queue.clearPendingSemaphores, none)
  else
    ({ queue.clearPendingSemaphores with lastSubmittedID := queue.lastSubmittedID + 1 },
      some (queue.nativeSubmission commandLists localWaits localSignals))

end Queue

/-! ## The device -/

/-- A device and its queues. -/
structure Device where
  deviceGeneration : ℕ := 0
  physicalQueueInfos : List GpuPhysicalQueueInfo := []
  physicalQueues : List (Option Queue) := []
  deviceLost : Bool := false
  deriving DecidableEq, Repr, Inhabited

/-- `Max` into the wait on the semaphore, or a new wait. -/
def mergeWait (semaphore value : ℕ) : List SubmissionWait → List SubmissionWait
  | [] => [{ semaphore, value }]
  | wait :: rest =>
    if wait.semaphore = semaphore then { wait with value := max wait.value value } :: rest
    else wait :: mergeWait semaphore value rest

namespace Device

variable (device : Device)

/-- `Device::getQueue` of a physical queue. -/
def getQueue (queue : GpuPhysicalQueueId) : Option Queue :=
  if !queue.valid || queue.deviceGeneration != device.deviceGeneration then none
  else (device.physicalQueues[queue.index]?).join.filter (·.physicalQueue == queue)

/-- What is known of a queue. -/
def getPhysicalQueueInfo (queue : GpuPhysicalQueueId) : Option GpuPhysicalQueueInfo :=
  if !queue.valid || queue.deviceGeneration != device.deviceGeneration then none
  else (device.physicalQueueInfos[queue.index]?).filter (·.id == queue)

/-- `matchesPhysicalQueueIdentity` of a token's class, index and generation. -/
def matchesTokenIdentity (token : QueueSubmissionToken) : Bool :=
  (device.getPhysicalQueueInfo ⟨token.physicalQueueIndex, token.deviceGeneration⟩).any
    (·.queueClass == token.queue)

/-- `matchesPhysicalQueueIdentity` of a queue. -/
def matchesPhysicalQueueIdentity (queue : GpuPhysicalQueueId) : Bool :=
  (device.getPhysicalQueueInfo queue).isSome

/-- The queue behind a token that may be waited for. -/
def producerQueue (token : QueueSubmissionToken) : Option Queue :=
  if token.valid && token.hasPhysicalQueueIdentity && device.matchesTokenIdentity token then
    (device.getQueue ⟨token.physicalQueueIndex, token.deviceGeneration⟩).filter fun queue =>
      queue.trackingSemaphore != 0 && decide (token.value ≤ queue.lastSubmittedID)
  else none

/-- The body of the wait loop. -/
def addLocalWait (executionQueue : GpuPhysicalQueueId) (localWaits : List SubmissionWait)
    (token : QueueSubmissionToken) : Option (List SubmissionWait) :=
  (device.producerQueue token).map fun producerQueue =>
    -- queue order already covers same-queue dependencies
    if token.matchesPhysicalQueue executionQueue.index executionQueue.deviceGeneration then localWaits
    else mergeWait producerQueue.trackingSemaphore token.value localWaits

/-- The waits with those of the tokens. -/
def collectLocalWaits (executionQueue : GpuPhysicalQueueId) (localWaits : List SubmissionWait)
    (waitTokens : List QueueSubmissionToken) : Option (List SubmissionWait) :=
  waitTokens.foldlM (device.addLocalWait executionQueue) localWaits

/-- The signals of a pre-submit hook: none without a hook, a failure when the hook has no valid
signal. -/
def hookSignals : Option (Option SubmissionSignal) → Option (List SubmissionSignal)
  | none => some []
  | some signal => (signal.filter (·.semaphore != 0)).map ([·])

/-- The device with one queue replaced. -/
def setQueue (index : ℕ) (queue : Queue) : Device :=
  { device with physicalQueues := device.physicalQueues.set index (some queue) }

/-- `Device::executeCommandLists`.  `preSubmitHook` is what the hook, if there is one, answers. -/
def executeCommandLists (commandLists : List (Option CommandList))
    (executionQueue : GpuPhysicalQueueId) (waitTokens : List QueueSubmissionToken)
    (preSubmitHook : Option (Option SubmissionSignal)) (nativeAccepted : Bool) :
    Device × Option (QueueSubmissionToken × NativeSubmission) :=
  if device.deviceLost then (device, none)
  else match device.getQueue executionQueue with
  | none => (device, none)
  | some queue =>
    match device.collectLocalWaits executionQueue [] waitTokens, hookSignals preSubmitHook with
    | some localWaits, some localSignals =>
      match queue.submit commandLists localWaits localSignals nativeAccepted with
      | (queue', none) => (device.setQueue executionQueue.index queue', none)
      | (queue', some submission) =>
        (device.setQueue executionQueue.index queue', some
          ({ queue := queue.queueID
             value := queue'.lastSubmittedID
             physicalQueueIndex := executionQueue.index
             deviceGeneration := executionQueue.deviceGeneration }, submission))
    | _, _ => (device, none)

end Device

/-! ## What the native waits cover -/

/-- A wait for at least a value of a semaphore. -/
def AwaitsValue (waits : List SubmissionWait) (semaphore value : ℕ) : Prop :=
  ∃ wait ∈ waits, wait.semaphore = semaphore ∧ value ≤ wait.value

lemma AwaitsValue.mono {waits waits' : List SubmissionWait} {semaphore value : ℕ}
    (h : AwaitsValue waits semaphore value) (hmem : ∀ wait ∈ waits, ∃ wait' ∈ waits',
      wait'.semaphore = wait.semaphore ∧ wait.value ≤ wait'.value) :
    AwaitsValue waits' semaphore value := by
  obtain ⟨wait, hwait, hsemaphore, hvalue⟩ := h
  obtain ⟨wait', hwait', hsame, hle⟩ := hmem wait hwait
  exact ⟨wait', hwait', hsame.trans hsemaphore, Nat.le_trans hvalue hle⟩

/-- Merging keeps every wait, with its value or a larger one. -/
lemma mem_mergeWait (semaphore value : ℕ) (waits : List SubmissionWait) :
    ∀ wait ∈ waits, ∃ wait' ∈ mergeWait semaphore value waits,
      wait'.semaphore = wait.semaphore ∧ wait.value ≤ wait'.value := by
  induction waits with
  | nil =>
    intro wait hmem
    cases hmem
  | cons first rest ih =>
    intro wait hmem
    rw [mergeWait]
    split
    · rcases List.mem_cons.1 hmem with rfl | hrest
      · exact ⟨_, List.mem_cons_self, rfl, le_max_left _ _⟩
      · exact ⟨wait, List.mem_cons_of_mem _ hrest, rfl, le_rfl⟩
    · rcases List.mem_cons.1 hmem with rfl | hrest
      · exact ⟨wait, List.mem_cons_self, rfl, le_rfl⟩
      · obtain ⟨wait', hwait', hsame⟩ := ih wait hrest
        exact ⟨wait', List.mem_cons_of_mem _ hwait', hsame⟩

lemma awaitsValue_mergeWait (semaphore value : ℕ) (waits : List SubmissionWait) :
    AwaitsValue (mergeWait semaphore value waits) semaphore value := by
  induction waits with
  | nil => exact ⟨_, List.mem_cons_self, rfl, le_rfl⟩
  | cons first rest ih =>
    rw [mergeWait]
    split
    · next hsame => exact ⟨_, List.mem_cons_self, hsame, le_max_right _ _⟩
    · obtain ⟨wait, hmem, hcovers⟩ := ih
      exact ⟨wait, List.mem_cons_of_mem _ hmem, hcovers⟩

namespace Device

variable {device : Device}

/-- A token is covered by queue order, or by a wait on its producer's semaphore. -/
def Covers (device : Device) (executionQueue : GpuPhysicalQueueId) (waits : List SubmissionWait)
    (token : QueueSubmissionToken) : Prop :=
  ∃ queue, device.producerQueue token = some queue ∧
    (token.matchesPhysicalQueue executionQueue.index executionQueue.deviceGeneration = true ∨
      AwaitsValue waits queue.trackingSemaphore token.value)

variable {executionQueue : GpuPhysicalQueueId} {waits waits' : List SubmissionWait}
  {token : QueueSubmissionToken}

lemma Covers.mono (h : device.Covers executionQueue waits token)
    (hmem : ∀ wait ∈ waits, ∃ wait' ∈ waits',
      wait'.semaphore = wait.semaphore ∧ wait.value ≤ wait'.value) :
    device.Covers executionQueue waits' token := by
  obtain ⟨queue, hqueue, hcovers⟩ := h
  exact ⟨queue, hqueue, hcovers.imp_right (·.mono hmem)⟩

lemma addLocalWait_covers (h : device.addLocalWait executionQueue waits token = some waits') :
    device.Covers executionQueue waits' token ∧ ∀ wait ∈ waits, ∃ wait' ∈ waits',
      wait'.semaphore = wait.semaphore ∧ wait.value ≤ wait'.value := by
  simp only [addLocalWait, Option.map_eq_some_iff] at h
  obtain ⟨queue, hqueue, hwaits⟩ := h
  split at hwaits
  · next hsame =>
      subst hwaits
      exact ⟨⟨queue, hqueue, Or.inl hsame⟩, fun wait hmem => ⟨wait, hmem, rfl, le_rfl⟩⟩
  · subst hwaits
    exact ⟨⟨queue, hqueue, Or.inr (awaitsValue_mergeWait _ _ _)⟩, mem_mergeWait _ _ _⟩

/-- The collected waits cover every token. -/
theorem collectLocalWaits_covers {tokens : List QueueSubmissionToken}
    (h : device.collectLocalWaits executionQueue waits tokens = some waits') :
    (∀ token ∈ tokens, device.Covers executionQueue waits' token) ∧
      ∀ wait ∈ waits, ∃ wait' ∈ waits',
        wait'.semaphore = wait.semaphore ∧ wait.value ≤ wait'.value := by
  induction tokens generalizing waits with
  | nil =>
    simp only [collectLocalWaits, List.foldlM_nil, Option.pure_def, Option.some.injEq] at h
    subst h
    exact ⟨by simp, fun wait hmem => ⟨wait, hmem, rfl, le_rfl⟩⟩
  | cons token rest ih =>
    simp only [collectLocalWaits, List.foldlM_cons, Option.bind_eq_bind,
      Option.bind_eq_some_iff] at h
    obtain ⟨middle, hfirst, hrest⟩ := h
    obtain ⟨hcovers, hkeeps⟩ := addLocalWait_covers hfirst
    obtain ⟨hcoversRest, hkeepsRest⟩ := ih hrest
    refine ⟨fun other hmem => ?_, fun wait hmem => ?_⟩
    · rcases List.mem_cons.1 hmem with rfl | hother
      · exact hcovers.mono hkeepsRest
      · exact hcoversRest other hother
    · obtain ⟨wait', hwait', hsame, hle⟩ := hkeeps wait hmem
      obtain ⟨wait'', hwait'', hsame', hle'⟩ := hkeepsRest wait' hwait'
      exact ⟨wait'', hwait'', hsame'.trans hsame, Nat.le_trans hle hle'⟩

/-- The waits of an accepted submission cover every token it was given. -/
theorem executeCommandLists_covers {commandLists : List (Option CommandList)}
    {tokens : List QueueSubmissionToken} {preSubmitHook : Option (Option SubmissionSignal)}
    {nativeAccepted : Bool} {device' : Device} {submission : NativeSubmission}
    (h : device.executeCommandLists commandLists executionQueue tokens preSubmitHook nativeAccepted
      = (device', some (token, submission))) :
    ∀ waitToken ∈ tokens, device.Covers executionQueue submission.waits waitToken := by
  simp only [executeCommandLists] at h
  split at h
  · cases h
  split at h
  · cases h
  next queue hqueue =>
  split at h
  · next localWaits localSignals hwaits hsignals =>
      split at h
      · cases h
      next queue' native hsubmit =>
      simp only [Prod.mk.injEq, Option.some.injEq] at h
      obtain ⟨-, -, rfl⟩ := h
      have hnative : native.waits = localWaits ++ queue.waitSemaphores := by
        simp only [Queue.submit] at hsubmit
        split at hsubmit
        · cases hsubmit
        split at hsubmit
        · cases hsubmit
        split at hsubmit
        · cases hsubmit
        · simp only [Prod.mk.injEq, Option.some.injEq] at hsubmit
          rw [← hsubmit.2]
          rfl
      intro waitToken hmem
      refine ((collectLocalWaits_covers hwaits).1 waitToken hmem).mono fun wait hwait => ?_
      exact ⟨wait, by simp [hnative, hwait], rfl, le_rfl⟩
  · cases h

end Device

end NwbLot.Vulkan
