import NwbLot.Library.Runs
import NwbLot.PacketRuntime.GraphCallLaws

/-!
# Calls on attempts that are over

A call that carries another recording attempt than the active one changes nothing, and while the
process-wide counter has not wrapped no later attempt has the number of an earlier one.
-/

namespace NwbLot.PacketRuntime

open TaskGraph

/-! ## The generation counter -/

/-- Drawing at most `n` generations moves the counter up by at most `n`, short of its wrap. -/
def Advances (n : ℕ) (next next' : ℕ) : Prop :=
  next + n < 2 ^ 64 → next ≤ next' ∧ next' ≤ next + n

namespace Advances

variable {n m next next' next'' : ℕ}

lemma refl (n next : ℕ) : Advances n next next := fun _ => ⟨le_rfl, Nat.le_add_right _ _⟩

lemma mono (h : Advances n next next') (hnm : n ≤ m) : Advances m next next' := by
  intro hspace
  obtain ⟨hlow, hhigh⟩ := h (by omega)
  exact ⟨hlow, by omega⟩

lemma trans (h : Advances n next next') (h' : Advances m next' next'') :
    Advances (n + m) next next'' := by
  intro hspace
  obtain ⟨hlow, hhigh⟩ := h (by omega)
  obtain ⟨hlow', hhigh'⟩ := h' (by omega)
  exact ⟨by omega, by omega⟩

end Advances

/-- A generation drawn before the wrap is the counter's value or, at the very start, one more. -/
lemma allocateGeneration_spec (next : ℕ) (hspace : next + 2 < 2 ^ 64) :
    next ≤ (allocateGeneration next).1 ∧
      (allocateGeneration next).1 < (allocateGeneration next).2 ∧
      (allocateGeneration next).2 ≤ next + 2 ∧
      (next ≠ 0 → (allocateGeneration next).2 ≤ next + 1) := by
  unfold allocateGeneration fetchAddGeneration
  by_cases hzero : next = 0
  · simp [hzero]
  · have hmod : (next + 1) % 2 ^ 64 = next + 1 := Nat.mod_eq_of_lt (by omega)
    simp only [hzero, if_false, hmod]
    exact ⟨le_rfl, by omega, by omega, fun _ => le_rfl⟩

lemma allocateGeneration_advances (next : ℕ) :
    Advances 2 next (allocateGeneration next).2 := by
  intro hspace
  obtain ⟨hlow, hlt, hhigh, -⟩ := allocateGeneration_spec next hspace
  exact ⟨by omega, hhigh⟩

/-! ## Stale calls -/

namespace LifecycleSystem

/-- The attempt that a locked call carries; `beginRecordingAttempt` carries none. -/
def lockedAttempt : LockedCall → Option ℕ
  | .beginRecordingAttempt _ _ => none
  | .beginPacketRecording _ _ recordingAttemptGeneration _
  | .beginPacketSubmission _ _ recordingAttemptGeneration _ => some recordingAttemptGeneration
  | .completePacketRecording _ _ lease => some lease.recordingAttemptGeneration

/-- The attempt that a pending call is bound to. -/
def boundAttempt : PendingCall → Option ℕ
  | .locked call => lockedAttempt call
  | .opening call | .calling call _ _ => some call.operation.attempt
  | .recordOpening call | .recordRunning call => some call.recordingAttemptGeneration
  | .readingAcceptAttempt _ _ | .readingDiscardAttempt _ | .reset _ => none

variable {s s' : LifecycleSystem} {thread attempt : ℕ}

variable {graph : GpuTaskGraphLifecycle}

lemma inAttempt_of_ne {planGeneration : ℕ} (h : graph.activeRecordingAttemptGeneration ≠ attempt) :
    graph.inAttempt planGeneration attempt = false := by
  simp [GpuTaskGraphLifecycle.inAttempt, h]

variable {tasks : List GpuTaskId} {admits : GpuTaskLifecycleNode → Bool}
  {update : GpuTaskLifecycleNode → GpuTaskLifecycleNode}

lemma packetSection_of_not_allowed :
    graph.packetSection false tasks admits update = none := rfl

/-- A locked call of another attempt is refused. -/
lemma runLocked_of_other_attempt {call : LockedCall} (hcall : lockedAttempt call = some attempt)
    (h : s.graph.activeRecordingAttemptGeneration ≠ attempt) :
    (s.runLocked call).graph = s.graph := by
  cases call with
  | beginRecordingAttempt plan tasks => cases hcall
  | beginPacketRecording plan tasks carried outLease =>
    obtain rfl : carried = attempt := Option.some.inj hcall
    simp [runLocked, withGraph, GpuTaskGraphLifecycle.beginPacketRecording,
      GpuTaskGraphLifecycle.claimSection, inAttempt_of_ne h]
  | completePacketRecording plan tasks lease =>
    obtain rfl : lease.recordingAttemptGeneration = attempt := Option.some.inj hcall
    simp [runLocked, withGraph, GpuTaskGraphLifecycle.completePacketRecording,
      inAttempt_of_ne h, packetSection_of_not_allowed]
  | beginPacketSubmission plan tasks carried outLease =>
    obtain rfl : carried = attempt := Option.some.inj hcall
    simp [runLocked, withGraph, GpuTaskGraphLifecycle.beginPacketSubmission,
      GpuTaskGraphLifecycle.claimSection, inAttempt_of_ne h]

/-- The first section of an operation of another attempt is refused. -/
lemma openSection_of_other_attempt (call : CallbackCall)
    (h : graph.activeRecordingAttemptGeneration ≠ call.operation.attempt) :
    call.operation.openSection graph = none := by
  cases hopen : call.operation.openSection graph with
  | none => rfl
  | some opened =>
    obtain ⟨hallowed, -, -⟩ := GpuTaskGraphLifecycle.packetSection_eq_some.1 hopen
    exact absurd (call.lawful.open_attempt graph hallowed).2.symm h

/-- So is the last one. -/
lemma closeSection_of_other_attempt (call : CallbackCall)
    (h : graph.activeRecordingAttemptGeneration ≠ call.operation.attempt) :
    call.operation.closeSection graph = none := by
  cases hclose : call.operation.closeSection graph with
  | none => rfl
  | some closed =>
    obtain ⟨hallowed, -, -⟩ := GpuTaskGraphLifecycle.packetSection_eq_some.1 hclose
    exact absurd (call.lawful.close_attempt graph hallowed).symm h

lemma recordSections_of_other_attempt {call : RecordTaskCall}
    (h : graph.activeRecordingAttemptGeneration ≠ call.recordingAttemptGeneration) :
    call.openSection graph = none ∧ call.closeSection graph = none := by
  constructor
  · cases hopen : call.openSection graph with
    | none => rfl
    | some opened =>
      obtain ⟨-, hadmitted, -⟩ := GpuTaskGraphLifecycle.packetSection_eq_some.1 hopen
      obtain ⟨-, task, -, hadmits⟩ :=
        GpuTaskGraphLifecycle.admitted_iff.1 hadmitted call.task (by simp)
      simp only [Bool.and_eq_true, beq_iff_eq] at hadmits
      exact absurd hadmits.1.1.2 h
  · unfold RecordTaskCall.closeSection
    rw [inAttempt_of_ne h, packetSection_of_not_allowed]

/-- A callback changes no graph. -/
@[simp] lemma runCallback_graph (s : LifecycleSystem) (index : ℕ) (kind : CallbackKind) :
    (s.runCallback index kind).graph = s.graph := by
  unfold runCallback
  split
  · rfl
  · rfl

@[simp] lemma runLoopCallback_graph (s : LifecycleSystem) (op : CallbackOperation)
    (id : GpuTaskId) : (s.runLoopCallback op id).graph = s.graph := by
  unfold runLoopCallback
  split
  · rfl
  · exact runCallback_graph _ _ _

/-- No step of a call of another attempt changes the graph. -/
theorem advance_of_other_attempt {pending : PendingCall}
    (hpending : boundAttempt pending = some attempt)
    (h : s.graph.activeRecordingAttemptGeneration ≠ attempt) :
    (s.advance thread pending).graph = s.graph := by
  cases pending with
  | locked call => exact runLocked_of_other_attempt hpending h
  | readingAcceptAttempt task token => cases hpending
  | readingDiscardAttempt task => cases hpending
  | opening call =>
    obtain rfl : call.operation.attempt = attempt := Option.some.inj hpending
    simp [advance, openSection_of_other_attempt call h, finish, resume]
  | calling call next moved =>
    obtain rfl : call.operation.attempt = attempt := Option.some.inj hpending
    cases htask : call.operation.tasks[next]? with
    | none => simp [advance, htask, closeSection_of_other_attempt call h, finish, resume, withGraph]
    | some id => simp [advance, htask, resume]
  | recordOpening call =>
    obtain rfl : call.recordingAttemptGeneration = attempt := Option.some.inj hpending
    simp [advance, (recordSections_of_other_attempt h).1, finish, resume]
  | recordRunning call =>
    obtain rfl : call.recordingAttemptGeneration = attempt := Option.some.inj hpending
    simp [advance, (recordSections_of_other_attempt h).2, finish, resume, withGraph]
  | reset point => cases hpending

/-! ## No attempt comes back -/

/-- How an event can move the active attempt and the counter. -/
structure Renews (graph graph' : GpuTaskGraphLifecycle) : Prop where
  advances : Advances 6 graph.nextGeneration graph'.nextGeneration
  attempt : graph.nextGeneration + 6 < 2 ^ 64 →
    graph'.activeRecordingAttemptGeneration = graph.activeRecordingAttemptGeneration ∨
      graph.nextGeneration ≤ graph'.activeRecordingAttemptGeneration

variable {graph' : GpuTaskGraphLifecycle}

lemma Renews.of_same
    (hattempt : graph'.activeRecordingAttemptGeneration = graph.activeRecordingAttemptGeneration)
    (hadvances : Advances 2 graph.nextGeneration graph'.nextGeneration) : Renews graph graph' where
  advances := hadvances.mono (by decide)
  attempt := fun _ => Or.inl hattempt

lemma Renews.refl (graph : GpuTaskGraphLifecycle) : Renews graph graph :=
  .of_same rfl (.refl _ _)

lemma Renews.of_packetSection {allowed : Bool}
    (h : graph.packetSection allowed tasks admits update = some graph') : Renews graph graph' := by
  obtain ⟨-, -, rfl⟩ := GpuTaskGraphLifecycle.packetSection_eq_some.1 h
  exact .of_same rfl (.refl _ _)

lemma Renews.of_getD {result : Option GpuTaskGraphLifecycle}
    (h : ∀ graph', result = some graph' → Renews graph graph') :
    Renews graph (result.getD graph) := by
  cases result with
  | none => exact .refl _
  | some graph' => exact h graph' rfl

lemma Renews.of_claimSection (graph : GpuTaskGraphLifecycle) (planGeneration attempt : ℕ)
    (tasks : List GpuTaskId) (admits : GpuTaskLifecycleNode → Bool)
    (update : ℕ → GpuTaskLifecycleNode → GpuTaskLifecycleNode) :
    Renews graph (graph.claimSection planGeneration attempt tasks admits update).1 := by
  unfold GpuTaskGraphLifecycle.claimSection
  split
  · simp only
    split
    · exact .of_same rfl (allocateGeneration_advances _)
    · exact .of_same rfl (allocateGeneration_advances _)
  · exact .refl _

lemma Renews.of_rearm (graph : GpuTaskGraphLifecycle) (planGeneration : ℕ) :
    Renews graph (graph.rearm planGeneration) where
  advances := (allocateGeneration_advances _).mono (by decide)
  attempt := by
    intro hspace
    exact Or.inr (allocateGeneration_spec graph.nextGeneration (by omega)).1

/-- `reset` draws three generations, the last for the attempt. -/
lemma Renews.of_clear (graph : GpuTaskGraphLifecycle) : Renews graph graph.clear where
  advances := by
    have hfirst := allocateGeneration_advances graph.nextGeneration
    have hsecond := allocateGeneration_advances (allocateGeneration graph.nextGeneration).2
    have hthird := allocateGeneration_advances
      (allocateGeneration (allocateGeneration graph.nextGeneration).2).2
    exact (hfirst.trans hsecond).trans hthird
  attempt := by
    intro hspace
    have hfirst := (allocateGeneration_advances graph.nextGeneration) (by omega)
    have hsecond := (allocateGeneration_advances
      (allocateGeneration graph.nextGeneration).2) (by omega)
    have hthird := allocateGeneration_spec
      (allocateGeneration (allocateGeneration graph.nextGeneration).2).2 (by omega)
    refine Or.inr ?_
    show graph.nextGeneration
      ≤ (allocateGeneration (allocateGeneration (allocateGeneration graph.nextGeneration).2).2).1
    omega

lemma renews_runLocked (s : LifecycleSystem) (call : LockedCall) :
    Renews s.graph (s.runLocked call).graph := by
  cases call with
  | beginRecordingAttempt plan tasks =>
    simp only [runLocked]
    cases houtcome : s.graph.beginRecordingAttempt plan tasks with
    | refused => exact .refl _
    | kept => exact .refl _
    | rearmed graph =>
      unfold GpuTaskGraphLifecycle.beginRecordingAttempt at houtcome
      split at houtcome
      · cases houtcome
      split at houtcome
      · cases houtcome
      simp only at houtcome
      split at houtcome
      · cases houtcome
      split at houtcome
      · cases houtcome
        exact .of_rearm _ _
      · cases houtcome
  | beginPacketRecording plan tasks attempt outLease => exact .of_claimSection _ _ _ _ _ _
  | completePacketRecording plan tasks lease =>
    exact .of_getD fun _ => .of_packetSection
  | beginPacketSubmission plan tasks attempt outLease => exact .of_claimSection _ _ _ _ _ _

lemma renews_advanceReset (s : LifecycleSystem) (thread : ℕ) (point : ResetPoint) :
    Renews s.graph (s.advanceReset thread point).graph := by
  cases point with
  | entering =>
    simp only [advanceReset]
    split
    · exact .refl _
    · exact .of_same rfl (.refl _ _)
  | tearingDown =>
    simp only [advanceReset]
    split
    · exact .refl _
    · exact .of_same rfl (.refl _ _)
  | discarding next =>
    simp only [advanceReset]
    split
    · split
      · show Renews s.graph (s.runCallback next .discard).graph
        rw [runCallback_graph]
        exact .refl _
      · exact .refl _
    · exact .of_same rfl (.refl _ _)
  | destroying => exact .of_same rfl (.refl _ _)
  | clearing => exact .of_clear _
  | refusing => exact .of_same rfl (.refl _ _)

lemma renews_advance (s : LifecycleSystem) (thread : ℕ) (pending : PendingCall) :
    Renews s.graph (s.advance thread pending).graph := by
  cases pending with
  | locked call => exact renews_runLocked s call
  | readingAcceptAttempt task token =>
    simp only [advance]
    split
    · exact .refl _
    · exact .refl _
  | readingDiscardAttempt task =>
    simp only [advance]
    split
    · exact .refl _
    · exact .refl _
  | opening call =>
    simp only [advance]
    cases hopen : call.operation.openSection s.graph with
    | none => exact .refl _
    | some graph => exact .of_packetSection hopen
  | calling call next moved =>
    simp only [advance]
    cases htask : call.operation.tasks[next]? with
    | none => exact .of_getD fun _ => .of_packetSection
    | some id =>
      show Renews s.graph (s.runLoopCallback call.operation id).graph
      rw [runLoopCallback_graph]
      exact .refl _
  | recordOpening call =>
    simp only [advance]
    cases hopen : call.openSection s.graph with
    | none => exact .refl _
    | some graph => exact .of_packetSection hopen
  | recordRunning call => exact .of_getD fun _ => .of_packetSection
  | reset point => exact renews_advanceReset s thread point

/-- Every event renews the graph. -/
lemma renews_step {event : LifecycleEvent} (h : s.step event = some s') :
    Renews s.graph s'.graph := by
  cases event with
  | call thread call =>
    simp only [step] at h
    split at h
    · cases h
    · cases h
      exact .refl _
  | advance thread =>
    obtain ⟨pending, -, rfl⟩ := Option.map_eq_some_iff.1 h
    exact renews_advance s thread pending
  | declareTask hasPayload hasRecordPayload hasAcceptPayload hasDiscardPayload =>
    simp only [step] at h
    split at h
    · cases h
    · cases h
      exact .of_same rfl (.refl _ _)
  | declarePresentEndpoint endpoint =>
    obtain rfl := Option.some.inj h
    exact .of_same rfl (allocateGeneration_advances _)
  | allocateElsewhere =>
    obtain rfl := Option.some.inj h
    exact .of_same rfl (allocateGeneration_advances _)

/-- While the counter has not wrapped, an attempt that lies behind the active one stays behind. -/
theorem attempt_stays_over {events : List LifecycleEvent}
    (hrun : Runs.FreeRun step s events s') {old : ℕ}
    (hactive : old < s.graph.activeRecordingAttemptGeneration)
    (hnext : old < s.graph.nextGeneration)
    (hspace : s.graph.nextGeneration + 6 * events.length < 2 ^ 64) :
    old < s'.graph.activeRecordingAttemptGeneration ∧ old < s'.graph.nextGeneration ∧
      s'.graph.nextGeneration ≤ s.graph.nextGeneration + 6 * events.length := by
  induction hrun with
  | refl => exact ⟨hactive, hnext, by omega⟩
  | @snoc events t u event _ _ next ih =>
    rw [List.length_append, List.length_singleton] at hspace ⊢
    obtain ⟨hactive', hnext', hbound⟩ := ih (by omega)
    have hrenews := renews_step next
    obtain ⟨hlow, hhigh⟩ := hrenews.advances (by omega)
    refine ⟨?_, by omega, by omega⟩
    rcases hrenews.attempt (by omega) with hsame | hfresh
    · rw [hsame]
      exact hactive'
    · omega

end LifecycleSystem

end NwbLot.PacketRuntime
