import NwbLot.Vulkan.QueueTimeline

/-!
# The timeline contract of a queue

The list of command buffers in flight stays sorted by submission, so that what a retirement takes
from its front is everything the timeline has passed.
-/

namespace NwbLot.Vulkan

open TaskGraph Runs

namespace TimelineQueue

/-- All command buffers that wait for their next recording. -/
def pooled (queue : TimelineQueue) : List TrackedCommandBuffer :=
  queue.commandBuffersPool ++ queue.workerCommandArenas.flatMap (·.commandBuffersPool)

/-- The counters and the list of those in flight are the same. -/
structure SameTimeline (queue queue' : TimelineQueue) : Prop where
  submitted : queue'.lastSubmittedID = queue.lastSubmittedID
  finished : queue'.lastFinishedID = queue.lastFinishedID
  inFlight : queue'.commandBuffersInFlight = queue.commandBuffersInFlight

lemma SameTimeline.refl (queue : TimelineQueue) : SameTimeline queue queue := ⟨rfl, rfl, rfl⟩

variable {queue : TimelineQueue}

lemma SameTimeline.trans {queue' queue'' : TimelineQueue} (h : SameTimeline queue queue')
    (h' : SameTimeline queue' queue'') : SameTimeline queue queue'' :=
  ⟨h'.submitted.trans h.submitted, h'.finished.trans h.finished, h'.inFlight.trans h.inFlight⟩

/-! ## Pools -/

lemma pushWorker_perm {cmdBuf : TrackedCommandBuffer} {arenas arenas' : List WorkerCommandArena}
    (h : pushWorker cmdBuf arenas = some arenas') :
    (arenas'.flatMap (·.commandBuffersPool)).Perm
      (arenas.flatMap (·.commandBuffersPool) ++ [cmdBuf]) := by
  induction arenas generalizing arenas' with
  | nil => cases h
  | cons arena rest ih =>
    rw [pushWorker] at h
    split at h
    · obtain rfl := Option.some.inj h
      simp only [List.flatMap_cons, List.append_assoc]
      exact List.perm_append_comm.append_left _
    · obtain ⟨rest', hrest, rfl⟩ := Option.map_eq_some_iff.1 h
      simp only [List.flatMap_cons, List.append_assoc]
      exact (ih hrest).append_left _

lemma popWorker_perm {worker : ℕ} {arenas arenas' : List WorkerCommandArena}
    {cmdBuf : Option TrackedCommandBuffer} (h : popWorker worker arenas = some (cmdBuf, arenas')) :
    (arenas.flatMap (·.commandBuffersPool)).Perm
      (arenas'.flatMap (·.commandBuffersPool) ++ cmdBuf.toList) := by
  induction arenas generalizing arenas' with
  | nil => cases h
  | cons arena rest ih =>
    rw [popWorker] at h
    split at h
    · cases hpool : arena.commandBuffersPool with
      | nil =>
        rw [hpool] at h
        obtain ⟨rfl, rfl⟩ := Prod.mk.inj (Option.some.inj h)
        simp
      | cons first pool =>
        rw [hpool] at h
        obtain ⟨rfl, rfl⟩ := Prod.mk.inj (Option.some.inj h)
        simp only [List.flatMap_cons, hpool, Option.toList_some, List.append_assoc]
        exact (List.perm_append_singleton first _).symm.trans (by simp)
    · obtain ⟨⟨_, rest'⟩, hrest, heq⟩ := Option.map_eq_some_iff.1 h
      obtain ⟨rfl, rfl⟩ := Prod.mk.inj heq
      simp only [List.flatMap_cons, List.append_assoc]
      exact (ih hrest).append_left _

lemma recycleCommandBuffer_perm (queue : TimelineQueue) (cmdBuf : TrackedCommandBuffer) :
    (queue.recycleCommandBuffer cmdBuf).pooled.Perm (queue.pooled ++ [cmdBuf])
      ∧ SameTimeline queue (queue.recycleCommandBuffer cmdBuf) := by
  have hpool : ({ queue with commandBuffersPool := queue.commandBuffersPool ++ [cmdBuf] } :
      TimelineQueue).pooled.Perm (queue.pooled ++ [cmdBuf]) := by
    simp only [pooled, List.append_assoc]
    exact List.perm_append_comm.append_left _
  unfold recycleCommandBuffer
  split
  · exact ⟨hpool, rfl, rfl, rfl⟩
  · split
    · next arenas harenas =>
        refine ⟨?_, rfl, rfl, rfl⟩
        simp only [pooled, List.append_assoc]
        exact (pushWorker_perm harenas).append_left _
    · exact ⟨hpool, rfl, rfl, rfl⟩

lemma recycleAll_perm (queue : TimelineQueue) (cmdBufs : List TrackedCommandBuffer) :
    (queue.recycleAll cmdBufs).pooled.Perm (queue.pooled ++ cmdBufs)
      ∧ SameTimeline queue (queue.recycleAll cmdBufs) := by
  induction cmdBufs generalizing queue with
  | nil => simpa [recycleAll] using SameTimeline.refl queue
  | cons cmdBuf rest ih =>
    obtain ⟨hrest, hsame⟩ := ih (queue.recycleCommandBuffer cmdBuf)
    obtain ⟨hfirst, hsame'⟩ := recycleCommandBuffer_perm queue cmdBuf
    refine ⟨hrest.trans ?_, hsame'.trans hsame⟩
    exact (hfirst.append_right rest).trans (by simp)

/-! ## Retirement -/

/-- Finished at most what is submitted, and those in flight in the order of their submissions. -/
structure Ordered (queue : TimelineQueue) : Prop where
  finished_le : queue.lastFinishedID ≤ queue.lastSubmittedID
  sorted : queue.commandBuffersInFlight.Pairwise fun cmdBuf later =>
    cmdBuf.submissionID ≤ later.submissionID
  submitted : ∀ cmdBuf ∈ queue.commandBuffersInFlight,
    cmdBuf.submissionID ≤ queue.lastSubmittedID

/-- The command buffers that the timeline has passed. -/
def finishedBuffers (finishedID : ℕ) (cmdBufs : List TrackedCommandBuffer) :
    List TrackedCommandBuffer :=
  cmdBufs.filter fun cmdBuf => decide (cmdBuf.submissionID ≤ finishedID)

/-- The buffers of submissions that are not finished. -/
def unfinishedBuffers (finishedID : ℕ) (cmdBufs : List TrackedCommandBuffer) :
    List TrackedCommandBuffer :=
  cmdBufs.filter fun cmdBuf => decide (finishedID < cmdBuf.submissionID)

/-- From a sorted list the loop takes everything that is finished. -/
lemma collectLoop_spec {cmdBufs : List TrackedCommandBuffer}
    (hsorted : cmdBufs.Pairwise fun cmdBuf later => cmdBuf.submissionID ≤ later.submissionID) :
    (collectLoop cmdBufs queue).commandBuffersInFlight
        = unfinishedBuffers queue.lastFinishedID cmdBufs
      ∧ (collectLoop cmdBufs queue).lastSubmittedID = queue.lastSubmittedID
      ∧ (collectLoop cmdBufs queue).lastFinishedID = queue.lastFinishedID
      ∧ (collectLoop cmdBufs queue).pooled.Perm
        (queue.pooled ++ finishedBuffers queue.lastFinishedID cmdBufs) := by
  induction cmdBufs generalizing queue with
  | nil => exact ⟨rfl, rfl, rfl, by simp [collectLoop, finishedBuffers, pooled]⟩
  | cons cmdBuf rest ih =>
    obtain ⟨hfirst, hrest⟩ := List.pairwise_cons.1 hsorted
    rw [collectLoop]
    split
    · next hlt =>
        have hall : ∀ later ∈ cmdBuf :: rest, queue.lastFinishedID < later.submissionID := by
          intro later hmem
          rcases List.mem_cons.1 hmem with rfl | hlater
          · exact hlt
          · exact Nat.lt_of_lt_of_le hlt (hfirst later hlater)
        have hunfinished : unfinishedBuffers queue.lastFinishedID (cmdBuf :: rest)
            = cmdBuf :: rest :=
          List.filter_eq_self.2 fun later hmem => decide_eq_true (hall later hmem)
        have hfinished : finishedBuffers queue.lastFinishedID (cmdBuf :: rest) = [] :=
          List.filter_eq_nil_iff.2 fun later hmem => by
            have := hall later hmem
            simp only [decide_eq_true_eq]
            omega
        rw [hunfinished, hfinished, List.append_nil]
        exact ⟨rfl, rfl, rfl, .refl _⟩
    · next hle =>
        obtain ⟨hpool, hsame⟩ := recycleCommandBuffer_perm queue cmdBuf
        obtain ⟨hinFlight, hsubmitted, hfinished, hpooled⟩ :=
          @ih (queue.recycleCommandBuffer cmdBuf) hrest
        rw [hsame.finished] at hinFlight hfinished hpooled
        have hkeep : unfinishedBuffers queue.lastFinishedID (cmdBuf :: rest)
            = unfinishedBuffers queue.lastFinishedID rest :=
          List.filter_cons_of_neg (by simpa using hle)
        have htake : finishedBuffers queue.lastFinishedID (cmdBuf :: rest)
            = cmdBuf :: finishedBuffers queue.lastFinishedID rest :=
          List.filter_cons_of_pos (by simpa using Nat.le_of_not_lt hle)
        rw [hkeep, htake]
        refine ⟨hinFlight, hsubmitted.trans hsame.submitted, hfinished, hpooled.trans ?_⟩
        exact (hpool.append_right _).trans (by simp)

/-- A retirement takes exactly what is finished. -/
lemma Ordered.collect (h : queue.Ordered) :
    queue.collectCompletedCommandBuffers.commandBuffersInFlight
        = unfinishedBuffers queue.lastFinishedID queue.commandBuffersInFlight
      ∧ queue.collectCompletedCommandBuffers.lastSubmittedID = queue.lastSubmittedID
      ∧ queue.collectCompletedCommandBuffers.lastFinishedID = queue.lastFinishedID
      ∧ queue.collectCompletedCommandBuffers.pooled.Perm
        (queue.pooled ++ finishedBuffers queue.lastFinishedID queue.commandBuffersInFlight) :=
  collectLoop_spec h.sorted

lemma Ordered.updateLastFinishedID {queue : TimelineQueue} (h : queue.Ordered)
    {completedValue : Option ℕ}
    (hvalue : ∀ value, completedValue = some value → value ≤ queue.lastSubmittedID) :
    (queue.updateLastFinishedID completedValue).Ordered
      ∧ queue.lastFinishedID ≤ (queue.updateLastFinishedID completedValue).lastFinishedID
      ∧ (queue.updateLastFinishedID completedValue).lastSubmittedID = queue.lastSubmittedID
      ∧ (queue.updateLastFinishedID completedValue).commandBuffersInFlight
        = queue.commandBuffersInFlight
      ∧ (queue.updateLastFinishedID completedValue).pooled = queue.pooled := by
  unfold TimelineQueue.updateLastFinishedID
  split
  · exact ⟨⟨le_rfl, h.sorted, h.submitted⟩, h.finished_le, rfl, rfl, rfl⟩
  · cases completedValue with
    | none => exact ⟨h, le_rfl, rfl, rfl, rfl⟩
    | some value =>
      exact ⟨⟨max_le h.finished_le (hvalue value rfl), h.sorted, h.submitted⟩, le_max_left _ _,
        rfl, rfl, rfl⟩

/-! ## Acquisition -/

lemma createCommandBuffer_spec (queue : TimelineQueue) (worker : ℕ) (created : Bool) :
    (queue.createCommandBuffer worker created).1.pooled = queue.pooled
      ∧ SameTimeline queue (queue.createCommandBuffer worker created).1 := by
  unfold createCommandBuffer
  split <;> exact ⟨rfl, rfl, rfl, rfl⟩

lemma reuseCommandBuffer_spec (queue : TimelineQueue) (cmdBuf : TrackedCommandBuffer) (worker : ℕ)
    (wasReset created : Bool) :
    (queue.reuseCommandBuffer cmdBuf worker wasReset created).1.pooled = queue.pooled
      ∧ SameTimeline queue (queue.reuseCommandBuffer cmdBuf worker wasReset created).1 := by
  unfold reuseCommandBuffer
  split
  · exact ⟨rfl, rfl, rfl, rfl⟩
  · exact createCommandBuffer_spec queue worker created

/-- A direct recording may take a command buffer from the pool. -/
lemma takeDirect_spec (queue : TimelineQueue) (wasReset created : Bool) :
    (∃ taken, queue.pooled.Perm
        ((queue.takeDirectCommandBuffer wasReset created).1.pooled ++ taken))
      ∧ SameTimeline queue (queue.takeDirectCommandBuffer wasReset created).1 := by
  unfold takeDirectCommandBuffer
  cases hfind : queue.commandBuffersPool.find? (·.recordingWorkerIndex == 0) with
  | none =>
    obtain ⟨hpooled, hsame⟩ := createCommandBuffer_spec queue 0 created
    exact ⟨⟨[], by simp [hpooled]⟩, hsame⟩
  | some cmdBuf =>
    dsimp only
    obtain ⟨hpooled, hsubmitted, hfinished, hinFlight⟩ := reuseCommandBuffer_spec
      { queue with
        commandBuffersPool := queue.commandBuffersPool.eraseP (·.recordingWorkerIndex == 0) }
      cmdBuf 0 wasReset created
    refine ⟨⟨[cmdBuf], ?_⟩, hsubmitted, hfinished, hinFlight⟩
    rw [hpooled]
    have herase : queue.commandBuffersPool.Perm
        (cmdBuf :: queue.commandBuffersPool.eraseP (·.recordingWorkerIndex == 0)) := by
      obtain ⟨hcmdBuf, before, after, hpool, hbefore⟩ := List.find?_eq_some_iff_append.1 hfind
      have herased : (cmdBuf :: after).eraseP (·.recordingWorkerIndex == 0) = after :=
        List.eraseP_cons_of_pos hcmdBuf
      rw [hpool, List.eraseP_append_right _ (by simpa using hbefore), herased]
      exact List.perm_middle
    refine (herase.append_right _).trans ?_
    simp only [pooled, List.cons_append]
    exact (List.perm_append_singleton _ _).symm

/-- A recording on a worker only touches that worker's pool. -/
lemma getOrCreateWorker_spec (queue : TimelineQueue) (worker : ℕ)
    (arenaCreated wasReset created : Bool) :
    (∃ taken, queue.pooled.Perm
        ((queue.getOrCreateWorkerCommandBuffer worker arenaCreated wasReset created).1.pooled
          ++ taken))
      ∧ SameTimeline queue
        (queue.getOrCreateWorkerCommandBuffer worker arenaCreated wasReset created).1 := by
  unfold getOrCreateWorkerCommandBuffer
  split
  · next cmdBuf arenas hpop =>
      obtain ⟨hpooled, hsubmitted, hfinished, hinFlight⟩ := reuseCommandBuffer_spec
        { queue with workerCommandArenas := arenas } cmdBuf worker wasReset created
      refine ⟨⟨[cmdBuf], ?_⟩, hsubmitted, hfinished, hinFlight⟩
      rw [hpooled]
      simp only [pooled, List.append_assoc]
      exact (popWorker_perm hpop).append_left _
  · obtain ⟨hpooled, hsame⟩ := createCommandBuffer_spec queue worker created
    exact ⟨⟨[], by simp [hpooled]⟩, hsame⟩
  · split
    · obtain ⟨hpooled, hsubmitted, hfinished, hinFlight⟩ := createCommandBuffer_spec
        { queue with
          workerCommandArenas := queue.workerCommandArenas ++ [{ recordingWorkerIndex := worker }] }
        worker created
      refine ⟨⟨[], ?_⟩, hsubmitted, hfinished, hinFlight⟩
      dsimp only at hpooled ⊢
      rw [hpooled]
      simp [pooled]
    · exact ⟨⟨[], by simp⟩, .refl queue⟩

end TimelineQueue

/-! ## One call -/

namespace QueueSystem

variable {ListId : Type} [DecidableEq ListId]

/-- The calls that retire: a poll followed by a collection, or a wait until the queue is idle. -/
def retires (system : QueueSystem ListId) : QueueCall ListId → Bool
  | .open list _ _ _ _ => (system.lists list).recordingWorkerIndex == 0
  | .runGarbageCollection _ deviceLost => !deviceLost
  | .waitForIdle succeeded => succeeded
  | _ => false

/-- The command buffers that the call moves out of its lists, with the number of the submission. -/
def moved (system : QueueSystem ListId) : QueueCall ListId → List TrackedCommandBuffer
  | .submit ppCmd localWaits localSignals _ =>
    if system.queue.refusesSubmission (system.commandLists ppCmd) localWaits localSignals then []
    else (system.takeCommandBuffers ppCmd).2
  | _ => []

/-- The call opens a recording. -/
def QueueCall.opens : QueueCall ListId → Bool
  | .open _ _ _ _ _ => true
  | _ => false

/-- What a call does to the counters, the list of those in flight and the pools. -/
structure Outcome (system : QueueSystem ListId) (call : QueueCall ListId)
    (after : QueueSystem ListId) (token : Option ℕ) : Prop where
  /-- The finished value never decreases. -/
  finished_le : system.queue.lastFinishedID ≤ after.queue.lastFinishedID
  finished_le_submitted : after.queue.lastFinishedID ≤ after.queue.lastSubmittedID
  /-- Only an accepted submission changes the submitted value, to its token. -/
  submitted : after.queue.lastSubmittedID = token.getD system.queue.lastSubmittedID
  /-- A token is the next value. -/
  next : ∀ value, token = some value → value = system.queue.lastSubmittedID + 1
  /-- A retirement keeps exactly those that are not finished, an accepted submission adds its own at
  the end. -/
  inFlight : after.queue.commandBuffersInFlight
    = (if system.retires call then
        TimelineQueue.unfinishedBuffers after.queue.lastFinishedID
          system.queue.commandBuffersInFlight
      else system.queue.commandBuffersInFlight) ++ if token.isSome then system.moved call else []
  /-- Recycled are those that a retirement finds finished and those of a rejected submission. -/
  pooled : ∃ taken, (taken = [] ∨ call.opens = true) ∧
    (system.queue.pooled
      ++ (if system.retires call then
          TimelineQueue.finishedBuffers after.queue.lastFinishedID
            system.queue.commandBuffersInFlight
        else [])
      ++ if token.isSome then [] else system.moved call).Perm (after.queue.pooled ++ taken)
  /-- The moved command buffers are numbered, and no list has one of them any more. -/
  numbered : ∀ cmdBuf ∈ system.moved call,
    cmdBuf.submissionID = system.queue.lastSubmittedID + 1
  /-- A submission that moves nothing leaves the lists as they are, another one empties them. -/
  lists : ∀ ppCmd localWaits localSignals nativeAccepted,
    call = .submit ppCmd localWaits localSignals nativeAccepted →
      (system.moved call = [] ∧ after.lists = system.lists)
        ∨ ∀ list, some list ∈ ppCmd → (after.lists list).currentCmdBuf = none

/-! ### Submissions -/

lemma takeCommandBuffers_spec (system : QueueSystem ListId) (ppCmd : List (Option ListId)) :
    (system.takeCommandBuffers ppCmd).1.queue = system.queue
      ∧ (∀ cmdBuf ∈ (system.takeCommandBuffers ppCmd).2,
        cmdBuf.submissionID = system.queue.lastSubmittedID + 1)
      ∧ (∀ list, (system.lists list).currentCmdBuf = none →
        ((system.takeCommandBuffers ppCmd).1.lists list).currentCmdBuf = none)
      ∧ (∀ list, some list ∈ ppCmd →
        ((system.takeCommandBuffers ppCmd).1.lists list).currentCmdBuf = none)
      ∧ ((system.takeCommandBuffers ppCmd).2 = [] →
        (system.takeCommandBuffers ppCmd).1 = system) := by
  induction ppCmd generalizing system with
  | nil => exact ⟨rfl, by simp [takeCommandBuffers], fun _ h => h, by simp, fun _ => rfl⟩
  | cons entry rest ih =>
    cases entry with
    | none =>
      obtain ⟨hqueue, hnumbered, hkept, hempty, hsame⟩ := ih system
      exact ⟨hqueue, hnumbered, hkept, fun list hmem => hempty list (by simpa using hmem), hsame⟩
    | some first =>
      rw [takeCommandBuffers]
      cases hcmdBuf : (system.lists first).currentCmdBuf with
      | none =>
        obtain ⟨hqueue, hnumbered, hkept, hempty, hsame⟩ := ih system
        refine ⟨hqueue, hnumbered, hkept, fun list hmem => ?_, hsame⟩
        rcases List.mem_cons.1 hmem with heq | hrest
        · obtain rfl := Option.some.inj heq
          exact hkept _ hcmdBuf
        · exact hempty list hrest
      | some cmdBuf =>
        obtain ⟨hqueue, hnumbered, hkept, hempty, -⟩ := ih (system.setCommandBuffer first none)
        have hfirst : ((system.setCommandBuffer first none).lists first).currentCmdBuf = none := by
          simp [setCommandBuffer]
        refine ⟨hqueue, ?_, fun list hnone => hkept list ?_, fun list hmem => ?_, by simp⟩
        · intro other hmem
          rcases List.mem_cons.1 hmem with rfl | hrest
          · rfl
          · exact hnumbered other hrest
        · by_cases heq : list = first
          · rw [heq, hfirst]
          · simp [setCommandBuffer, heq, hnone]
        · rcases List.mem_cons.1 hmem with heq | hrest
          · obtain rfl := Option.some.inj heq
            exact hkept _ hfirst
          · exact hempty list hrest

variable {system after : QueueSystem ListId} {call : QueueCall ListId}

/-- A call that changes neither the counters nor those in flight nor the pools. -/
lemma outcome_idle (hordered : system.queue.Ordered)
    (hsame : TimelineQueue.SameTimeline system.queue after.queue)
    (hpooled : after.queue.pooled = system.queue.pooled) (hretires : system.retires call = false)
    (hmoved : system.moved call = []) (hlists : after.lists = system.lists ∨ ∀ ppCmd localWaits
      localSignals nativeAccepted, call ≠ .submit ppCmd localWaits localSignals nativeAccepted) :
    Outcome system call after none where
  finished_le := le_of_eq hsame.finished.symm
  finished_le_submitted := by
    rw [hsame.finished, hsame.submitted]
    exact hordered.finished_le
  submitted := hsame.submitted
  next := by simp
  inFlight := by simp [hretires, hsame.inFlight]
  pooled := ⟨[], Or.inl rfl, by simp [hretires, hmoved, hpooled]⟩
  numbered := by simp [hmoved]
  lists ppCmd localWaits localSignals nativeAccepted hcall := by
    rcases hlists with hlists | hother
    · exact Or.inl ⟨hmoved, hlists⟩
    · exact absurd hcall (hother _ _ _ _)

lemma outcome_submit (hordered : system.queue.Ordered) (ppCmd : List (Option ListId))
    (localWaits : List SubmissionWait) (localSignals : List SubmissionSignal)
    (nativeAccepted : Bool) :
    Outcome system (.submit ppCmd localWaits localSignals nativeAccepted)
      (system.submit ppCmd localWaits localSignals nativeAccepted).1
      (system.submit ppCmd localWaits localSignals nativeAccepted).2 := by
  obtain ⟨hqueue, hnumbered, -, hempty, hsame⟩ := takeCommandBuffers_spec system ppCmd
  unfold submit
  split
  · next hrefused =>
      exact outcome_idle hordered ⟨rfl, rfl, rfl⟩ rfl rfl (if_pos hrefused) (Or.inl rfl)
  · next haccepted =>
      have hmoved : system.moved (.submit ppCmd localWaits localSignals nativeAccepted)
          = (system.takeCommandBuffers ppCmd).2 := if_neg haccepted
      generalize system.takeCommandBuffers ppCmd = taken
        at hqueue hnumbered hempty hsame hmoved ⊢
      obtain ⟨⟨queue, lists⟩, tracked⟩ := taken
      dsimp only at hqueue hnumbered hempty hsame hmoved ⊢
      subst hqueue
      split
      · next hnothing =>
          obtain ⟨hnil, -⟩ := Bool.and_eq_true_iff.1 hnothing
          have hnil := List.isEmpty_iff.1 hnil
          rw [hsame hnil]
          exact outcome_idle hordered (.refl _) rfl rfl (hmoved.trans hnil) (Or.inl rfl)
      · split
        · -- a rejection gives the command buffers back
          obtain ⟨hpooled, hsubmitted, hfinished, hinFlight⟩ := TimelineQueue.recycleAll_perm
            { system.queue with waitSemaphores := [], signalSemaphores := [] } tracked
          refine ⟨le_of_eq hfinished.symm, ?_, hsubmitted, by simp, ?_, ⟨[], Or.inl rfl, ?_⟩,
            ?_, ?_⟩
          · exact le_of_eq_of_le hfinished (le_of_le_of_eq hordered.finished_le hsubmitted.symm)
          · exact hinFlight.trans (List.append_nil _).symm
          · rw [hmoved, List.append_nil]
            refine List.Perm.trans ?_ hpooled.symm
            simp [retires, TimelineQueue.pooled]
          · rwa [hmoved]
          · rintro _ _ _ _ ⟨⟩
            exact Or.inr hempty
        · -- an acceptance sends them off
          refine ⟨le_rfl, Nat.le_succ_of_le hordered.finished_le, rfl, ?_, ?_,
            ⟨[], Or.inl rfl, ?_⟩, ?_, ?_⟩
          · rintro value ⟨⟩
            rfl
          · rw [hmoved]
            rfl
          · simp [retires, clearPendingSemaphores, TimelineQueue.pooled]
          · rwa [hmoved]
          · rintro _ _ _ _ ⟨⟩
            exact Or.inr hempty

/-! ### Retirements -/

lemma outcome_retires (updated : TimelineQueue) (taken : List TrackedCommandBuffer)
    (hordered : updated.Ordered) (hfinished : system.queue.lastFinishedID ≤ updated.lastFinishedID)
    (hsubmitted : updated.lastSubmittedID = system.queue.lastSubmittedID)
    (hinFlight : updated.commandBuffersInFlight = system.queue.commandBuffersInFlight)
    (hpooled : updated.pooled = system.queue.pooled)
    (hsame : TimelineQueue.SameTimeline updated.collectCompletedCommandBuffers after.queue)
    (htaken : updated.collectCompletedCommandBuffers.pooled.Perm (after.queue.pooled ++ taken))
    (hopens : taken = [] ∨ call.opens = true) (hretires : system.retires call = true)
    (hmoved : system.moved call = []) (hother : ∀ ppCmd localWaits localSignals nativeAccepted,
      call ≠ .submit ppCmd localWaits localSignals nativeAccepted) :
    Outcome system call after none := by
  obtain ⟨hcollected, hsubmitted', hfinished', hrecycled⟩ := hordered.collect
  have hafter := hsame.finished.trans hfinished'
  refine ⟨hafter ▸ hfinished, ?_, hsame.submitted.trans (hsubmitted'.trans hsubmitted), by simp, ?_,
    ⟨taken, hopens, ?_⟩, by simp [hmoved], ?_⟩
  · rw [hafter, hsame.submitted, hsubmitted']
    exact hordered.finished_le
  · rw [if_pos hretires, hsame.inFlight, hcollected, hafter, hinFlight]
    exact (List.append_nil _).symm
  · rw [if_pos hretires, hmoved, hafter, ← hpooled, ← hinFlight]
    refine List.Perm.trans ?_ (hrecycled.symm.trans htaken)
    simp
  · exact fun _ _ _ _ hcall => absurd hcall (hother _ _ _ _)

/-- The values of the device that a call may read: none above the last submitted one. -/
def Admissible (system : QueueSystem ListId) (event : QueueCall ListId × Option ℕ) : Prop :=
  ∀ value, event.1.completedValue = some value → value ≤ system.queue.lastSubmittedID

theorem outcome_perform (hordered : system.queue.Ordered) (call : QueueCall ListId)
    (hadmissible : ∀ value, call.completedValue = some value →
      value ≤ system.queue.lastSubmittedID) :
    Outcome system call (system.perform call).1 (system.perform call).2 := by
  cases call with
  | «open» list completedValue arenaCreated wasReset created =>
    by_cases hworker : (system.lists list).recordingWorkerIndex = 0
    · -- a direct recording retires before it takes a command buffer
      obtain ⟨hupdated, hfinished, hsubmitted, hinFlight, hpooled⟩ :=
        hordered.updateLastFinishedID hadmissible
      obtain ⟨⟨taken, htaken⟩, hsame⟩ := TimelineQueue.takeDirect_spec
        (system.queue.updateLastFinishedID completedValue).collectCompletedCommandBuffers
        wasReset created
      have hafter : (system.openList list completedValue arenaCreated wasReset created).queue
          = ((system.queue.updateLastFinishedID
              completedValue).collectCompletedCommandBuffers.takeDirectCommandBuffer
            wasReset created).1 := by
        simp only [openList, hworker, if_true, setCommandBuffer]
        rfl
      exact outcome_retires _ taken hupdated hfinished hsubmitted hinFlight hpooled (hafter ▸ hsame)
        (hafter ▸ htaken) (Or.inr rfl) (by simp [retires, hworker]) rfl (by simp)
    · obtain ⟨⟨taken, htaken⟩, hsubmitted, hfinished, hinFlight⟩ :=
        TimelineQueue.getOrCreateWorker_spec system.queue (system.lists list).recordingWorkerIndex
          arenaCreated wasReset created
      have hafter : (system.openList list completedValue arenaCreated wasReset created).queue
          = (system.queue.getOrCreateWorkerCommandBuffer (system.lists list).recordingWorkerIndex
            arenaCreated wasReset created).1 := by
        simp only [openList, hworker, if_false, setCommandBuffer]
      have hretires : system.retires (.open list completedValue arenaCreated wasReset created)
          = false := by simp [retires, hworker]
      rw [← hafter] at htaken hsubmitted hfinished hinFlight
      refine ⟨le_of_eq hfinished.symm, ?_, hsubmitted, by simp [perform], ?_,
        ⟨taken, Or.inr rfl, ?_⟩, by simp [moved], by simp⟩
      · exact le_of_eq_of_le hfinished (le_of_le_of_eq hordered.finished_le hsubmitted.symm)
      · rw [if_neg (by simp [hretires])]
        exact hinFlight.trans (List.append_nil _).symm
      · simpa [hretires, moved, perform] using htaken
  | drop list => exact outcome_idle hordered (.refl _) rfl rfl rfl (Or.inr (by simp))
  | addWaitSemaphore semaphore value =>
    simp only [perform]
    split
    · exact outcome_idle hordered (.refl _) rfl rfl rfl (Or.inl rfl)
    · exact outcome_idle hordered ⟨rfl, rfl, rfl⟩ rfl rfl rfl (Or.inl rfl)
  | addSignalSemaphore semaphore value =>
    simp only [perform]
    split
    · exact outcome_idle hordered (.refl _) rfl rfl rfl (Or.inl rfl)
    · exact outcome_idle hordered ⟨rfl, rfl, rfl⟩ rfl rfl rfl (Or.inl rfl)
  | submit ppCmd localWaits localSignals nativeAccepted =>
    exact outcome_submit hordered ppCmd localWaits localSignals nativeAccepted
  | poll completedValue =>
    obtain ⟨hupdated, hfinished, hsubmitted, hinFlight, hpooled⟩ :=
      @TimelineQueue.Ordered.updateLastFinishedID _ hordered completedValue hadmissible
    refine ⟨hfinished, hupdated.finished_le, hsubmitted, by simp [perform], ?_,
      ⟨[], Or.inl rfl, ?_⟩, by simp [moved], by simp⟩
    · exact hinFlight.trans (List.append_nil _).symm
    · simp [retires, moved, perform, hpooled]
  | runGarbageCollection completedValue deviceLost =>
    obtain ⟨hupdated, hfinished, hsubmitted, hinFlight, hpooled⟩ :=
      @TimelineQueue.Ordered.updateLastFinishedID _ hordered completedValue hadmissible
    cases deviceLost with
    | true =>
      refine ⟨hfinished, hupdated.finished_le, hsubmitted, by simp [perform], ?_,
        ⟨[], Or.inl rfl, ?_⟩, by simp [moved], by simp⟩
      · exact hinFlight.trans (List.append_nil _).symm
      · simp [retires, moved, perform, hpooled]
    | false =>
      exact outcome_retires _ [] hupdated hfinished hsubmitted hinFlight hpooled (.refl _)
        (by simp [perform]) (Or.inl rfl) rfl rfl (by simp)
  | waitForIdle succeeded =>
    cases succeeded with
    | false => exact outcome_idle hordered (.refl _) rfl rfl rfl (Or.inl rfl)
    | true =>
      exact outcome_retires { system.queue with lastFinishedID := system.queue.lastSubmittedID } []
        ⟨le_rfl, hordered.sorted, hordered.submitted⟩ hordered.finished_le rfl rfl rfl (.refl _)
        (by simp [perform, TimelineQueue.waitForIdle]) (Or.inl rfl) rfl rfl (by simp)

/-! ## Runs -/

/-- Those in flight after a call: some of those before it, and the ones it sends off. -/
lemma Outcome.inFlight_cases {token : Option ℕ} (h : Outcome system call after token) :
    ∃ kept, kept.Sublist system.queue.commandBuffersInFlight
      ∧ after.queue.commandBuffersInFlight
        = kept ++ if token.isSome then system.moved call else [] := by
  refine ⟨_, ?_, h.inFlight⟩
  split
  · exact List.filter_sublist
  · exact .refl _

/-- What a call does keeps the order. -/
lemma Outcome.ordered {token : Option ℕ} (h : Outcome system call after token)
    (hordered : system.queue.Ordered) :
    after.queue.Ordered := by
  obtain ⟨kept, hsub, hinFlight⟩ := h.inFlight_cases
  have hsorted := hordered.sorted.sublist hsub
  have hkept : ∀ cmdBuf ∈ kept, cmdBuf.submissionID ≤ system.queue.lastSubmittedID := fun _ hmem =>
    hordered.submitted _ (hsub.subset hmem)
  have hsubmitted := h.submitted
  cases token with
  | none =>
    rw [Option.isSome_none, if_neg (by simp), List.append_nil] at hinFlight
    rw [Option.getD_none] at hsubmitted
    exact ⟨h.finished_le_submitted, hinFlight ▸ hsorted, by rwa [hinFlight, hsubmitted]⟩
  | some value =>
    rw [Option.isSome_some, if_pos rfl] at hinFlight
    rw [Option.getD_some] at hsubmitted
    have hincreases : system.queue.lastSubmittedID < value := by
      rw [h.next value rfl]
      exact Nat.lt_succ_self _
    refine ⟨h.finished_le_submitted, ?_, ?_⟩
    · rw [hinFlight]
      refine List.pairwise_append.2 ⟨hsorted, ?_, ?_⟩
      · refine List.pairwise_of_forall_mem_list fun cmdBuf hmem later hlater => ?_
        rw [h.numbered cmdBuf hmem, h.numbered later hlater]
      · intro cmdBuf hmem later hlater
        rw [h.numbered later hlater]
        exact Nat.le_succ_of_le (hkept cmdBuf hmem)
    · rw [hinFlight, hsubmitted]
      intro cmdBuf hmem
      rcases List.mem_append.1 hmem with hold | hnew
      · exact Nat.le_trans (hkept cmdBuf hold) (Nat.le_of_lt hincreases)
      · rw [h.numbered cmdBuf hnew]
        exact hincreases

/-- The tokens that a run hands out. -/
def tokens (events : List (QueueCall ListId × Option ℕ)) : List ℕ := events.filterMap (·.2)

/-- The state of a queue after a run. -/
structure Timeline (events : List (QueueCall ListId × Option ℕ)) (system : QueueSystem ListId) :
    Prop where
  ordered : system.queue.Ordered
  increasing : (tokens events).Pairwise (· < ·)
  latest : ∀ value ∈ tokens events, value ≤ system.queue.lastSubmittedID
  inFlight : ∀ cmdBuf ∈ system.queue.commandBuffersInFlight, cmdBuf.submissionID ∈ tokens events

lemma Timeline.step {events : List (QueueCall ListId × Option ℕ)}
    {event : QueueCall ListId × Option ℕ} (h : Timeline events system)
    (houtcome : Outcome system event.1 after event.2) :
    Timeline (events ++ [event]) after := by
  obtain ⟨call, token⟩ := event
  obtain ⟨hordered, hincreasing, hlatest, hinFlight⟩ := h
  obtain ⟨kept, hsub, hafter⟩ := houtcome.inFlight_cases
  have hsubmitted := houtcome.submitted
  have htokens : tokens (events ++ [(call, token)]) = tokens events ++ token.toList := by
    cases token <;> simp [tokens]
  refine ⟨houtcome.ordered hordered, ?_, ?_, ?_⟩
  · rw [htokens]
    cases token with
    | none => simpa using hincreasing
    | some value =>
      refine List.pairwise_append.2 ⟨hincreasing, List.pairwise_singleton _ _, ?_⟩
      intro earlier hmem later hlater
      obtain rfl := List.mem_singleton.1 hlater
      rw [houtcome.next _ rfl]
      exact Nat.lt_succ_of_le (hlatest earlier hmem)
  · rw [htokens, hsubmitted]
    intro value hmem
    cases token with
    | none => exact hlatest value (by simpa using hmem)
    | some new =>
      rcases List.mem_append.1 hmem with hold | hnew
      · rw [Option.getD_some, houtcome.next _ rfl]
        exact Nat.le_succ_of_le (hlatest value hold)
      · exact Nat.le_of_eq (List.mem_singleton.1 hnew)
  · rw [hafter, htokens]
    intro cmdBuf hmem
    rcases List.mem_append.1 hmem with hold | hnew
    · exact List.mem_append_left _ (hinFlight cmdBuf (hsub.subset hold))
    · refine List.mem_append_right _ ?_
      cases token with
      | none => simp at hnew
      | some value => simp [houtcome.numbered cmdBuf hnew, houtcome.next value rfl]

/-- The contract of the timeline: after every run, and for every call that can come next. -/
theorem queueTimeline_contract (physicalQueue : GpuPhysicalQueueId) (queueID : CommandQueue)
    (trackingSemaphore : ℕ) (lists : ListId → RecordingList)
    (events : List (QueueCall ListId × Option ℕ)) (system : QueueSystem ListId)
    (hrun : Run step Admissible (start physicalQueue queueID trackingSemaphore lists) events
      system) :
    Timeline events system ∧ ∀ event, Admissible system event →
      Outcome system event.1 (system.perform event.1).1 (system.perform event.1).2 := by
  have htimeline : Timeline events system := by
    refine hrun.history_invariant ⟨⟨le_rfl, .nil, by simp [start]⟩, .nil, by simp [tokens],
      by simp [start]⟩ ?_
    intro events system event after hadmissible hnext htimeline
    have houtcome := outcome_perform htimeline.ordered event.1 hadmissible
    rw [step] at hnext
    split at hnext
    · next htoken =>
        rw [Option.some.inj hnext, htoken] at houtcome
        exact htimeline.step houtcome
    · cases hnext
  exact ⟨htimeline, fun event hadmissible =>
    outcome_perform htimeline.ordered event.1 hadmissible⟩

instance (system : QueueSystem ListId) (event : QueueCall ListId × Option ℕ) :
    Decidable (Admissible system event) :=
  decidable_of_iff
    (event.1.completedValue.all fun value => decide (value ≤ system.queue.lastSubmittedID)) (by
      simp [Admissible, Option.all_eq_true])

/-- Two lists are recorded and submitted; the driver rejects the second, which is recorded and
submitted again, and the first submission retires. -/
def submittedAgain : List (QueueCall ℕ × Option ℕ) :=
  [(.open 0 none true true true, none), (.open 1 none true true true, none),
   (.submit [some 0] [] [] true, some 1), (.submit [some 1] [] [] false, none),
   (.open 1 none true true true, none), (.submit [some 1] [] [] true, some 2),
   (.poll (some 1), none), (.runGarbageCollection (some 1) false, none)]

/-- The rejected submission takes no number, and only the second one is still in flight. -/
theorem queueTimeline_contract_submittedAgain : ∃ system : QueueSystem ℕ,
    Run step Admissible (start ⟨0, 1⟩ .graphics 5
      fun _ => { queueType := .graphics, physicalQueue := ⟨0, 1⟩ }) submittedAgain system
    ∧ system.queue.lastSubmittedID = 2 ∧ system.queue.lastFinishedID = 1
    ∧ system.queue.commandBuffersInFlight.map (·.submissionID) = [2]
    ∧ Timeline submittedAgain system ∧ ∀ event, Admissible system event →
      Outcome system event.1 (system.perform event.1).1 (system.perform event.1).2 := by
  have hafter : (Runs.after step (fun system event => decide (Admissible system event))
      (start ⟨0, 1⟩ .graphics 5 fun _ => { queueType := .graphics, physicalQueue := ⟨0, 1⟩ })
      submittedAgain).map (fun system => (system.queue.lastSubmittedID,
        system.queue.lastFinishedID, system.queue.commandBuffersInFlight.map (·.submissionID)))
      = some (2, 1, [2]) := by decide
  obtain ⟨system, hsystem, hqueue⟩ := Option.map_eq_some_iff.1 hafter
  simp only [Prod.mk.injEq] at hqueue
  have hrun := run_of_after (fun _ _ => of_decide_eq_true) hsystem
  exact ⟨system, hrun, hqueue.1, hqueue.2.1, hqueue.2.2,
    queueTimeline_contract _ _ _ _ submittedAgain system hrun⟩

/-- A list with a recording for another physical queue. -/
def foreignList : QueueSystem ℕ :=
  start ⟨0, 1⟩ .graphics 5 fun _ =>
    { queueType := .graphics, physicalQueue := ⟨1, 1⟩, currentCmdBuf := some { recordingID := 1 } }

/-- The checks before a submission refuse it without touching its command buffers: they stay with
their lists, and the next retirement does not bring them back. -/
theorem foreignList_not_recycled :
    let refused := foreignList.perform (.submit [some 0] [] [] true)
    refused.2 = none ∧ (refused.1.perform (.waitForIdle true)).1.queue.pooled = []
      ∧ ((refused.1.perform (.waitForIdle true)).1.lists 0).currentCmdBuf
        = some { recordingID := 1 } := by
  decide

end QueueSystem

end NwbLot.Vulkan
