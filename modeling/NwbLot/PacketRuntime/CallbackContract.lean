import NwbLot.Library.Runs
import NwbLot.PacketRuntime.LifecycleTeardown

/-!
# One callback per attempt

Along every schedule whose callback loops meet only tasks of their own, each payload receives at most
one callback per recording attempt, stale calls change nothing, and a reset discards what is left.
The callback loop of `discardUnacceptedPacket` asks for the task's state outside the lock; behind a
section that moved nothing the graph can be re-armed meanwhile, and the loop then discards a task of
the next attempt a second time.
-/

namespace NwbLot.PacketRuntime

open TaskGraph Runs

/-! ## Admissible steps -/

/-- The task ids of a call with callbacks. -/
def LifecycleCall.callbackTasks : LifecycleCall → List GpuTaskId
  | .callback call => call.operation.tasks
  | _ => []

/-- No call between its sections carries the attempt. -/
def AttemptUnused (s : LifecycleSystem) (attempt : ℕ) : Prop :=
  ∀ thread call next moved, s.calls thread = some (.calling call next moved) →
    call.operation.attempt ≠ attempt

/-- A packet names no task twice, a callback loop finds no foreign task in transit, and the
generation counter has not come round to an attempt that a pending call still carries. -/
def LifecycleEvent.Admissible (s : LifecycleSystem) : LifecycleEvent → Prop
  | .call _ entered => entered.callbackTasks.Nodup
  | .advance thread =>
    match s.calls thread with
    | some (.calling pending next moved) => ∀ id, pending.operation.tasks[next]? = some id →
        FindsNoForeignTask s.graph pending.operation moved id
    | some (.locked (.beginRecordingAttempt _ _)) =>
      AttemptUnused s (allocateGeneration s.graph.nextGeneration).1
    | some (.reset .clearing) => AttemptUnused s s.graph.clear.activeRecordingAttemptGeneration
    | _ => True
  | _ => True

/-! ## Stale calls -/

/-- The plan, the attempt or the claim that a lease call carries is not current. -/
def StaleLease (graph : GpuTaskGraphLifecycle) (plan : PublishedPlan) (tasks : List GpuTaskId)
    (lease : PacketLease) (claim : GpuTaskLifecycleNode → ℕ) : Prop :=
  plan.planGeneration ≠ graph.activeRecordingPlanGeneration ∨
    lease.recordingAttemptGeneration ≠ graph.activeRecordingAttemptGeneration ∨
    ∃ id ∈ tasks, ∃ task, graph.tasks[id.index]? = some task ∧ claim task ≠ lease.claimGeneration

/-- The plan or the attempt that a call carries is not current. -/
def StaleAttempt (graph : GpuTaskGraphLifecycle) (plan : PublishedPlan) (attempt : ℕ) : Prop :=
  plan.planGeneration ≠ graph.activeRecordingPlanGeneration ∨
    attempt ≠ graph.activeRecordingAttemptGeneration

/-- What the call carries is not current. -/
def CallbackCall.Stale (graph : GpuTaskGraphLifecycle) : CallbackCall → Prop
  | .abortPacketRecording plan tasks lease =>
    StaleLease graph plan tasks lease (·.recordingClaimGeneration)
  | .completePacketSubmission plan tasks _ lease | .abortPacketSubmission plan tasks lease =>
    StaleLease graph plan tasks lease (·.submissionClaimGeneration)
  | .discardUnacceptedPacket plan _ attempt => StaleAttempt graph plan attempt
  | .acceptTask _ _ attempt | .discardTask _ attempt =>
    attempt ≠ graph.activeRecordingAttemptGeneration

/-- `beginRecordingAttempt` carries no attempt; it is stale when its tasks are of another graph
generation. -/
def LockedCall.Stale (graph : GpuTaskGraphLifecycle) : LockedCall → Prop
  | .beginRecordingAttempt _ tasks => ∃ id ∈ tasks, graph.validTask id = false
  | .beginPacketRecording plan _ attempt _ | .beginPacketSubmission plan _ attempt _ =>
    StaleAttempt graph plan attempt
  | .completePacketRecording plan tasks lease =>
    StaleLease graph plan tasks lease (·.recordingClaimGeneration)

/-- What the pending call carries is not current. -/
def PendingCall.Stale (graph : GpuTaskGraphLifecycle) : PendingCall → Prop
  | .locked call => call.Stale graph
  | .opening call | .calling call _ _ => call.Stale graph
  | _ => False

/-! ## The contract -/

/-- The callbacks that a log shows for one task. -/
def callbacksOf (log : List TaskCallback) (i : ℕ) : List TaskCallback :=
  log.filter (fun entry => entry.1 = i)

/-- Graph and callbacks are as before. -/
def SameLifecycle (s s' : LifecycleSystem) : Prop :=
  s'.graph = s.graph ∧ s'.attemptCallbacks = s.attemptCallbacks ∧
    s'.earlierCallbacks = s.earlierCallbacks

/-- What the callbacks promise in one state; `ok` says which steps are taken. -/
structure CallbackContract (ok : LifecycleSystem → LifecycleEvent → Prop) (s : LifecycleSystem) :
    Prop where
  /-- In every attempt a task receives at most one callback. -/
  once : ∀ log ∈ s.attemptCallbacks :: s.earlierCallbacks, ∀ i, (callbacksOf log i).length ≤ 1
  /-- Entering a call changes nothing, whether or not its arguments are accepted. -/
  entering : ∀ thread call s', s.step (.call thread call) = some s' → SameLifecycle s s'
  /-- A stale call changes nothing. -/
  stale : ∀ thread pending s', s.calls thread = some pending → pending.Stale s.graph →
    ok s (.advance thread) → s.step (.advance thread) = some s' → SameLifecycle s s'
  /-- A reset that completes leaves every task accepted, or discarded with one callback. -/
  reset : ∀ thread s', s.calls thread = some (.reset .clearing) →
    s.step (.advance thread) = some s' →
      s'.earlierCallbacks = s.attemptCallbacks :: s.earlierCallbacks ∧ s'.graph.tasks = [] ∧
      ∀ (i : ℕ) task, s.graph.tasks[i]? = some task →
        (task.lifecycleState = .accepted ∧ callbacksOf s.attemptCallbacks i
          = if task.owesCallback .accept then [(i, .accept)] else []) ∨
        (task.lifecycleState = .discarded ∧ callbacksOf s.attemptCallbacks i
          = if task.owesCallback .discard then [(i, .discard)] else [])

/-! ## Every step keeps a ledger -/

section Step

variable {s : LifecycleSystem} {ledger : LifecycleLedger} {thread : ℕ}

/-- A change of the graph's other fields between plain positions. -/
lemma Tracks.quiet_finish (h : Tracks s ledger) {graph' : GpuTaskGraphLifecycle}
    (hquiet : Quiet s.graph graph') (hplain : Tracks.Plain (s.calls thread))
    {pending : Option PendingCall} (hafter : Tracks.Plain pending) :
    ∃ ledger', Tracks ((s.withGraph graph').resume thread pending) ledger' :=
  ⟨ledger, (h.withGraph hquiet).resume_plain hplain hafter⟩

lemma plain_none : Tracks.Plain none := trivial

lemma plain_recording (call : RecordTaskCall) : Tracks.Plain (some (.recordRunning call)) :=
  trivial

lemma idle_of_eq {state source : GpuTaskLifecycleState} (hsource : source.idle = true)
    (h : state = source) : state.idle = true := by
  rw [h, hsource]

/-- The calls with one locked section. -/
lemma Tracks.runLocked (h : Tracks s ledger) {call : LockedCall}
    (hcall : s.calls thread = some (.locked call))
    (hok : LifecycleEvent.Admissible s (.advance thread)) :
    ∃ ledger', Tracks ((s.runLocked call).finish thread) ledger' := by
  have hplain : Tracks.Plain (s.calls thread) := by
    rw [hcall]
    trivial
  simp only [LifecycleEvent.Admissible, hcall] at hok
  cases call with
  | beginRecordingAttempt plan tasks =>
    cases hattempt : s.graph.beginRecordingAttempt plan tasks with
    | refused =>
      simp only [LifecycleSystem.runLocked, hattempt]
      exact ⟨ledger, h.resume_plain hplain plain_none⟩
    | kept =>
      simp only [LifecycleSystem.runLocked, hattempt]
      exact ⟨ledger, h.resume_plain hplain plain_none⟩
    | rearmed graph' =>
      simp only [LifecycleSystem.runLocked, hattempt]
      exact ⟨_, h.rearm hattempt hok⟩
  | beginPacketRecording plan tasks attempt outLease =>
    refine h.quiet_finish (Quiet.claimSection ?_ ?_ ?_) hplain plain_none
    · intro task htask
      simp only [Bool.and_eq_true, beq_iff_eq] at htask
      exact idle_of_eq rfl htask.1
    · exact fun _ _ _ => rfl
    · exact fun _ _ => ⟨rfl, rfl, rfl⟩
  | completePacketRecording plan tasks lease =>
    refine h.quiet_finish (Quiet.packetSection_getD ?_ ?_ ?_) hplain plain_none
    · intro task htask
      simp only [Bool.and_eq_true, beq_iff_eq] at htask
      exact idle_of_eq rfl htask.1.1.1.1
    · exact fun _ _ => rfl
    · exact fun _ => ⟨rfl, rfl, rfl⟩
  | beginPacketSubmission plan tasks attempt outLease =>
    refine h.quiet_finish (Quiet.claimSection ?_ ?_ ?_) hplain plain_none
    · intro task htask
      simp only [Bool.and_eq_true, beq_iff_eq] at htask
      exact idle_of_eq rfl htask.1.1.1.1
    · exact fun _ _ _ => rfl
    · exact fun _ _ => ⟨rfl, rfl, rfl⟩

/-- The steps of a reset. -/
lemma Tracks.advanceReset (h : Tracks s ledger) {point : ResetPoint}
    (hpoint : s.calls thread = some (.reset point))
    (hok : LifecycleEvent.Admissible s (.advance thread)) :
    ∃ ledger', Tracks (s.advanceReset thread point) ledger' := by
  unfold LifecycleSystem.advanceReset
  cases point with
  | entering =>
    have hplain : Tracks.Plain (s.calls thread) := by
      rw [hpoint]
      rfl
    simp only
    split
    · exact ⟨ledger, h.resume_plain hplain plain_none⟩
    · next hfree =>
        simp only [Bool.or_eq_true, not_or, Bool.not_eq_true] at hfree
        exact ⟨ledger, h.enterTeardown hpoint hfree.1 hfree.2⟩
  | tearingDown =>
    simp only
    split
    · refine ⟨ledger, h.resume ?_ (by simp) (by simp) ?_ (by simp [hpoint])⟩
      · intro i kind called
        rw [hpoint]
        exact Iff.rfl
      · intro point heq _
        injection heq with heq
        injection heq with heq
        subst heq
        exact ⟨_, hpoint, rfl, fun _ _ => rfl⟩
    · next hwork => exact h.discardUnresolved hpoint (by simpa using hwork)
  | discarding next =>
    simp only
    split
    · exact h.discardTurn hpoint
    · next hend => exact h.settleDiscarded hpoint (by omega)
  | destroying => exact ⟨ledger, h.destroyPayloads hpoint⟩
  | clearing =>
    simp only [LifecycleEvent.Admissible, hpoint] at hok
    exact ⟨_, h.clear hpoint hok⟩
  | refusing => exact ⟨ledger, h.leaveTeardown hpoint⟩

/-- The steps of one pending call. -/
lemma Tracks.advance (h : Tracks s ledger) {pending : PendingCall}
    (hpending : s.calls thread = some pending)
    (hok : LifecycleEvent.Admissible s (.advance thread)) :
    ∃ ledger', Tracks (s.advance thread pending) ledger' := by
  unfold LifecycleSystem.advance
  cases pending with
  | locked call => exact h.runLocked hpending hok
  | readingAcceptAttempt task token =>
    have hplain : Tracks.Plain (s.calls thread) := by rw [hpending]; trivial
    simp only
    split
    · exact ⟨ledger, h.resume_plain hplain plain_none⟩
    · exact ⟨ledger, h.resume_plain hplain (List.nodup_singleton _)⟩
  | readingDiscardAttempt task =>
    have hplain : Tracks.Plain (s.calls thread) := by rw [hpending]; trivial
    simp only
    split
    · exact ⟨ledger, h.resume_plain hplain plain_none⟩
    · exact ⟨ledger, h.resume_plain hplain (List.nodup_singleton _)⟩
  | opening call =>
    have hplain : Tracks.Plain (s.calls thread) := by
      rw [hpending]
      exact h.distinct thread call hpending
    simp only
    cases hopen : call.operation.openSection s.graph with
    | none => exact ⟨ledger, h.resume_plain hplain plain_none⟩
    | some graph' => exact h.openSection hpending hopen
  | calling call next moved =>
    simp only [LifecycleEvent.Admissible, hpending] at hok
    simp only
    cases hid : call.operation.tasks[next]? with
    | none => exact h.closeSection hpending hid
    | some id => exact h.runLoopCallback hpending hid (hok id hid)
  | recordOpening call =>
    have hplain : Tracks.Plain (s.calls thread) := by rw [hpending]; trivial
    simp only
    cases hopen : call.openSection s.graph with
    | none => exact ⟨ledger, h.resume_plain hplain plain_none⟩
    | some graph' =>
      obtain ⟨-, hadmitted, rfl⟩ := GpuTaskGraphLifecycle.packetSection_eq_some.1 hopen
      refine h.quiet_finish (Quiet.updateTasks hadmitted ?_ ?_ ?_) hplain (plain_recording call)
      · intro task htask
        simp only [Bool.and_eq_true, beq_iff_eq] at htask
        exact idle_of_eq rfl htask.1.1.1.1.1.1.1.1.1.1
      · intro task htask
        simp only [Bool.and_eq_true, beq_iff_eq] at htask
        exact idle_of_eq rfl htask.1.1.1.1.1.1.1.1.1.1
      · exact fun _ => ⟨rfl, rfl, rfl⟩
  | recordRunning call =>
    have hplain : Tracks.Plain (s.calls thread) := by rw [hpending]; trivial
    refine h.quiet_finish (Quiet.packetSection_getD ?_ ?_ ?_) hplain plain_none
    · intro task htask
      simp only [Bool.and_eq_true, beq_iff_eq] at htask
      exact idle_of_eq rfl htask.1.1.1
    · intro task htask
      simp only [Bool.and_eq_true, beq_iff_eq] at htask
      exact idle_of_eq rfl htask.1.1.1
    · exact fun _ => ⟨rfl, rfl, rfl⟩
  | reset point => exact h.advanceReset hpending hok

/-- Where an accepted call starts. -/
lemma plain_enter {graph : GpuTaskGraphLifecycle} {call : LifecycleCall}
    (hdistinct : call.callbackTasks.Nodup) : Tracks.Plain (call.enter graph) := by
  cases call with
  | locked call =>
    simp only [LifecycleCall.enter]
    split <;> trivial
  | callback call =>
    simp only [LifecycleCall.enter]
    split
    · exact hdistinct
    · trivial
  | acceptActiveTask task token => trivial
  | discardActiveTask task => trivial
  | recordTask call =>
    simp only [LifecycleCall.enter]
    split <;> trivial
  | reset => rfl

/-- A declaration is quiet. -/
lemma quiet_declareTask {node : GpuTaskLifecycleNode} (hteardown : s.graph.teardownInProgress = false)
    (hidle : node.lifecycleState.idle = true) (hpayload : node.payload ≠ .destroyed) :
    Quiet s.graph { s.graph with tasks := s.graph.tasks ++ [node] } where
  generation := rfl
  plan := rfl
  attempt := rfl
  teardown := rfl
  kept := by
    intro i task htask
    refine ⟨task, ?_, ⟨rfl, rfl, rfl⟩, Or.inl rfl⟩
    rw [List.getElem?_append_left (List.getElem?_eq_some_iff.1 htask).1, htask]
  added := by
    intro i task' hnone hsome
    have hle := List.getElem?_eq_none_iff.1 hnone
    rw [List.getElem?_append_right hle] at hsome
    rw [List.getElem?_singleton] at hsome
    split at hsome
    · injection hsome with hsome
      subst hsome
      exact ⟨hidle, hpayload, hteardown⟩
    · cases hsome

/-- Every admissible step keeps a ledger. -/
theorem exists_tracks_step {event : LifecycleEvent} {s' : LifecycleSystem}
    (hok : event.Admissible s) (hstep : s.step event = some s')
    (h : ∃ ledger, Tracks s ledger) : ∃ ledger, Tracks s' ledger := by
  obtain ⟨ledger, h⟩ := h
  cases event with
  | call thread call =>
    simp only [LifecycleSystem.step] at hstep
    split at hstep
    · cases hstep
    · next hidle =>
        injection hstep with hstep
        subst hstep
        have hnone : s.calls thread = none := by simpa using hidle
        exact ⟨ledger, h.resume_plain (by rw [hnone]; trivial) (plain_enter hok)⟩
  | advance thread =>
    simp only [LifecycleSystem.step, Option.map_eq_some_iff] at hstep
    obtain ⟨pending, hpending, rfl⟩ := hstep
    exact h.advance hpending hok
  | declareTask hasPayload hasRecordPayload hasAcceptPayload hasDiscardPayload =>
    simp only [LifecycleSystem.step] at hstep
    split at hstep
    · cases hstep
    · next hteardown =>
        injection hstep with hstep
        subst hstep
        refine ⟨ledger, h.withGraph (quiet_declareTask (by simpa using hteardown) rfl ?_)⟩
        unfold LifecycleSystem.declaredNode
        split <;> simp
  | declarePresentEndpoint endpoint =>
    simp only [LifecycleSystem.step] at hstep
    injection hstep with hstep
    subst hstep
    exact ⟨ledger, h.withGraph (Quiet.of_tasks_eq rfl rfl rfl rfl rfl)⟩
  | allocateElsewhere =>
    simp only [LifecycleSystem.step] at hstep
    injection hstep with hstep
    subst hstep
    exact ⟨ledger, h.withGraph (Quiet.of_tasks_eq rfl rfl rfl rfl rfl)⟩

/-- A constructed graph has no task and no call. -/
lemma tracks_constructed (next : ℕ) :
    Tracks (LifecycleSystem.constructed next) CallbackLedger.rearmed where
  records := CallbackLedger.Records.rearm
  absent := fun _ _ => rfl
  explains := fun i task htask => by simp [LifecycleSystem.constructed] at htask
  holders := fun thread i kind called => by
    simp [LifecycleSystem.constructed, CallbackLedger.rearmed, Holds]
  windows := fun thread call next moved hcall => by simp [LifecycleSystem.constructed] at hcall
  distinct := fun thread call hcall => by simp [LifecycleSystem.constructed] at hcall
  tearing := fun thread point hpoint => by simp [LifecycleSystem.constructed] at hpoint
  oneTeardown := fun t t' p p' hpoint => by simp [LifecycleSystem.constructed] at hpoint
  destroyed := fun i task htask => by simp [LifecycleSystem.constructed] at htask
  earlier := fun log hlog => by simp [LifecycleSystem.constructed] at hlog

end Step

/-! ## What the ledger gives -/

section Contract

variable {s : LifecycleSystem} {ledger : LifecycleLedger} {thread : ℕ}

lemma GpuTaskGraphLifecycle.inAttempt_of_staleAttempt {graph : GpuTaskGraphLifecycle}
    {plan : PublishedPlan} {attempt : ℕ} (hstale : StaleAttempt graph plan attempt) :
    graph.inAttempt plan.planGeneration attempt = false := by
  rw [Bool.eq_false_iff]
  intro hin
  rw [GpuTaskGraphLifecycle.inAttempt_iff] at hin
  rcases hstale with hplan | hattempt
  · exact hplan hin.2.1.symm
  · exact hattempt hin.2.2.symm

/-- A lease is not stale while its attempt is current and its tasks are under its claim. -/
lemma not_staleLease {graph : GpuTaskGraphLifecycle} {plan : PublishedPlan}
    {tasks : List GpuTaskId} {lease : PacketLease} {claim : GpuTaskLifecycleNode → ℕ}
    {admits : GpuTaskLifecycleNode → Bool}
    (hin : graph.inAttempt plan.planGeneration lease.recordingAttemptGeneration = true)
    (hadmitted : graph.admitted tasks admits = true)
    (hclaims : ∀ task, admits task = true → claim task = lease.claimGeneration) :
    ¬ StaleLease graph plan tasks lease claim := by
  rw [GpuTaskGraphLifecycle.inAttempt_iff] at hin
  rw [GpuTaskGraphLifecycle.admitted_iff] at hadmitted
  rintro (hplan | hattempt | ⟨id, hid, task, htask, hclaim⟩)
  · exact hplan hin.2.1.symm
  · exact hattempt hin.2.2.symm
  · obtain ⟨-, task', htask', hadmits⟩ := hadmitted id hid
    obtain rfl : task = task' := Option.some.inj (htask.symm.trans htask')
    exact hclaim (hclaims task hadmits)

section LeaseOperation

variable {graph : GpuTaskGraphLifecycle} {kind : CallbackKind} {plan : PublishedPlan}
  {tasks : List GpuTaskId} {lease : PacketLease} {source : GpuTaskLifecycleState}
  {claim : GpuTaskLifecycleNode → ℕ} {ready : GpuTaskLifecycleNode → Bool}
  {release : GpuTaskLifecycleNode → GpuTaskLifecycleNode} {task : GpuTaskLifecycleNode}

lemma claim_of_opens
    (h : (leaseOperation kind plan tasks lease source claim ready release).opens graph task = true) :
    claim task = lease.claimGeneration := by
  simp only [leaseOperation, Bool.and_eq_true, beq_iff_eq] at h
  exact h.1.2

lemma claim_of_closes
    (h : (leaseOperation kind plan tasks lease source claim ready release).closes task = true) :
    claim task = lease.claimGeneration := by
  simp only [leaseOperation, Bool.and_eq_true, beq_iff_eq] at h
  exact h.2

end LeaseOperation

/-- A stale call is not allowed to open. -/
lemma CallbackCall.openSection_of_stale {graph : GpuTaskGraphLifecycle} {call : CallbackCall}
    (hstale : call.Stale graph) : call.operation.openSection graph = none := by
  rw [Option.eq_none_iff_forall_ne_some]
  intro graph' hopen
  obtain ⟨hallowed, hadmitted, -⟩ := GpuTaskGraphLifecycle.packetSection_eq_some.1 hopen
  cases call with
  | abortPacketRecording | completePacketSubmission | abortPacketSubmission =>
    exact not_staleLease hallowed hadmitted (fun _ => claim_of_opens) hstale
  | discardUnacceptedPacket plan tasks attempt =>
    exact Bool.false_ne_true
      ((GpuTaskGraphLifecycle.inAttempt_of_staleAttempt hstale).symm.trans hallowed)
  | acceptTask | discardTask => exact hstale ((CallbackCall.lawful _).open_attempt _ hallowed).2

/-- A call that holds a task is not stale. -/
lemma CallbackCall.not_stale_of_live {graph : GpuTaskGraphLifecycle} {call : CallbackCall}
    (hallowed : call.operation.closeAllowed graph = true)
    (hadmitted : graph.admitted call.operation.tasks call.operation.closes = true) :
    ¬ call.Stale graph := by
  intro hstale
  cases call with
  | abortPacketRecording | completePacketSubmission | abortPacketSubmission =>
    exact not_staleLease hallowed hadmitted (fun _ => claim_of_closes) hstale
  | discardUnacceptedPacket plan tasks attempt =>
    exact Bool.false_ne_true
      ((GpuTaskGraphLifecycle.inAttempt_of_staleAttempt hstale).symm.trans hallowed)
  | acceptTask | discardTask => exact hstale ((CallbackCall.lawful _).close_attempt _ hallowed)

lemma LifecycleSystem.runLocked_of_stale {call : LockedCall} (hstale : call.Stale s.graph) :
    s.runLocked call = s := by
  cases call with
  | beginRecordingAttempt plan tasks =>
    obtain ⟨id, hid, hinvalid⟩ := hstale
    have hnot : s.graph.admitted tasks (fun task =>
        task.lifecycleAttemptGeneration == s.graph.activeRecordingAttemptGeneration
          && !GpuTaskGraphLifecycle.attemptInUse task.lifecycleState) = false := by
      rw [Bool.eq_false_iff]
      intro hadmitted
      rw [(GpuTaskGraphLifecycle.admitted_iff.1 hadmitted id hid).1] at hinvalid
      cases hinvalid
    have hrefused : s.graph.beginRecordingAttempt plan tasks = .refused := by
      unfold GpuTaskGraphLifecycle.beginRecordingAttempt
      rw [hnot]
      simp
    simp [LifecycleSystem.runLocked, hrefused]
  | beginPacketRecording plan tasks attempt outLease =>
    simp [LifecycleSystem.runLocked, GpuTaskGraphLifecycle.beginPacketRecording,
      GpuTaskGraphLifecycle.claimSection,
      GpuTaskGraphLifecycle.inAttempt_of_staleAttempt hstale, LifecycleSystem.withGraph]
  | completePacketRecording plan tasks lease =>
    have hnone : s.graph.completePacketRecording plan tasks lease = none := by
      rw [Option.eq_none_iff_forall_ne_some]
      intro graph' hsome
      obtain ⟨hallowed, hadmitted, -⟩ := GpuTaskGraphLifecycle.packetSection_eq_some.1 hsome
      rw [GpuTaskGraphLifecycle.inAttempt_iff] at hallowed
      rcases hstale with hplan | hattempt | ⟨id, hid, task, htask, hclaim⟩
      · exact hplan hallowed.2.1.symm
      · exact hattempt hallowed.2.2.symm
      · obtain ⟨-, task', htask', hok⟩ :=
          GpuTaskGraphLifecycle.admitted_iff.1 hadmitted id hid
        obtain rfl : task = task' := Option.some.inj (htask.symm.trans htask')
        simp only [Bool.and_eq_true, beq_iff_eq] at hok
        exact hclaim hok.1.1.2
    simp [LifecycleSystem.runLocked, hnone, LifecycleSystem.withGraph]
  | beginPacketSubmission plan tasks attempt outLease =>
    simp [LifecycleSystem.runLocked, GpuTaskGraphLifecycle.beginPacketSubmission,
      GpuTaskGraphLifecycle.claimSection,
      GpuTaskGraphLifecycle.inAttempt_of_staleAttempt hstale, LifecycleSystem.withGraph]

/-- A stale call changes nothing, in whatever position it is. -/
lemma Tracks.sameLifecycle_of_stale (h : Tracks s ledger) {pending : PendingCall}
    (hpending : s.calls thread = some pending) (hstale : pending.Stale s.graph)
    (hok : LifecycleEvent.Admissible s (.advance thread)) :
    SameLifecycle s (s.advance thread pending) := by
  cases pending with
  | locked call =>
    simp only [LifecycleSystem.advance, s.runLocked_of_stale hstale]
    exact ⟨rfl, rfl, rfl⟩
  | opening call =>
    simp only [LifecycleSystem.advance, call.openSection_of_stale hstale]
    exact ⟨rfl, rfl, rfl⟩
  | calling call next moved =>
    have hwindow := h.windows thread call next moved hpending
    have hmoved : moved = [] := by
      by_contra hne
      exact call.not_stale_of_live (hwindow.live hne).1 (hwindow.live hne).2 hstale
    subst hmoved
    simp only [LifecycleEvent.Admissible, hpending] at hok
    cases hid : call.operation.tasks[next]? with
    | none =>
      simp only [LifecycleSystem.advance, hid, hwindow.closeSection_of_moved_nil]
      exact ⟨rfl, rfl, rfl⟩
    | some id =>
      simp only [LifecycleSystem.advance, hid,
        h.runLoopCallback_eq_self hpending hid List.not_mem_nil (hok id hid)]
      exact ⟨rfl, rfl, rfl⟩
  | readingAcceptAttempt _ _ | readingDiscardAttempt _ | recordOpening _ | recordRunning _
  | reset _ => exact hstale.elim

/-- The log of a finished task. -/
lemma Tracks.callbacksOf_done (h : Tracks s ledger) {i : ℕ} {task : GpuTaskLifecycleNode}
    {kind : CallbackKind} (htask : s.graph.tasks[i]? = some task)
    (hdone : task.lifecycleState = kind.done) :
    callbacksOf s.attemptCallbacks i = if task.owesCallback kind then [(i, kind)] else [] := by
  have hexplains := h.explains i task htask
  rw [hdone] at hexplains
  rw [callbacksOf, h.records i, hexplains.settled_of_done]
  simp [CallbackLedger.CellStatus.received, CallbackLedger.shown, GpuTaskGraphLifecycle.emits, htask]

end Contract

/-- Along every admissible schedule of a constructed graph the callback contract holds. -/
theorem lifecycle_callbackContract (next : ℕ) (events : List LifecycleEvent) (s : LifecycleSystem)
    (hrun : Run LifecycleSystem.step (fun s event => event.Admissible s)
      (LifecycleSystem.constructed next) events s) :
    CallbackContract (fun s event => event.Admissible s) s := by
  obtain ⟨ledger, h⟩ : ∃ ledger, Tracks s ledger :=
    hrun.invariant ⟨_, tracks_constructed next⟩ fun t event u hok hstep htracks =>
      exists_tracks_step hok hstep htracks
  refine ⟨?_, ?_, ?_, ?_⟩
  · intro log hlog i
    rcases List.mem_cons.1 hlog with rfl | hearlier
    · exact h.records.length_le_one i
    · exact h.earlier log hearlier i
  · intro thread call s' hstep
    simp only [LifecycleSystem.step] at hstep
    split at hstep
    · cases hstep
    · injection hstep with hstep
      subst hstep
      exact ⟨rfl, rfl, rfl⟩
  · intro thread pending s' hpending hstale hok hstep
    simp only [LifecycleSystem.step, hpending, Option.map_some, Option.some.injEq] at hstep
    subst hstep
    exact h.sameLifecycle_of_stale hpending hstale hok
  · intro thread s' hpoint hstep
    simp only [LifecycleSystem.step, hpoint, Option.map_some, Option.some.injEq] at hstep
    subst hstep
    refine ⟨rfl, rfl, fun i task htask => ?_⟩
    have hfinished := (h.tearing thread .clearing hpoint rfl).2 i task htask
    have hcases : task.lifecycleState = CallbackKind.accept.done ∨
        task.lifecycleState = CallbackKind.discard.done := by
      cases hstate : task.lifecycleState <;>
        simp [hstate, ResetPoint.allows, GpuTaskLifecycleState.finished, CallbackKind.done]
          at hfinished ⊢
    rcases hcases with haccepted | hdiscarded
    · exact Or.inl ⟨haccepted, h.callbacksOf_done htask haccepted⟩
    · exact Or.inr ⟨hdiscarded, h.callbacksOf_done htask hdiscarded⟩

/-! ## Two schedules -/

/-- A plan of one packet with one task, for the first graph of a process. -/
def oneTaskPlan : PublishedPlan where
  compiled :=
    { tasks := [{}], packets := [{}], packetTasks := [⟨0, 1⟩], graphGeneration := 1,
      planGeneration := 1 }
  published := true
  declarationRevision := 2
  graphTaskCount := 1

/-- The task is declared, an attempt begins, and the packet is discarded in it. -/
def discardedOnce : List LifecycleEvent :=
  [.declareTask true true true true,
   .call 0 (.locked (.beginRecordingAttempt oneTaskPlan [⟨0, 1⟩])), .advance 0,
   .call 0 (.callback (.discardUnacceptedPacket oneTaskPlan [⟨0, 1⟩] 4)), .advance 0, .advance 0,
   .advance 0]

theorem lifecycle_callbackContract_discardedOnce : ∃ s,
    Run LifecycleSystem.step (fun s event => event.Admissible s) (LifecycleSystem.constructed 1)
      discardedOnce s ∧ CallbackContract (fun s event => event.Admissible s) s := by
  have hrun : ∃ s, Run LifecycleSystem.step (fun s event => event.Admissible s)
      (LifecycleSystem.constructed 1) discardedOnce s := by
    refine ⟨_, .snoc (.snoc (.snoc (.snoc (.snoc (.snoc (.snoc .refl trivial rfl) ?_ rfl) ?_ rfl)
      ?_ rfl) trivial rfl) ?_ rfl) ?_ rfl⟩
    · exact List.nodup_nil
    · intro thread call next moved hcall
      by_cases hthread : thread = 0
      · subst hthread
        cases hcall
      · simp [LifecycleSystem.resume, LifecycleSystem.withGraph, LifecycleSystem.constructed,
          Function.update_of_ne hthread] at hcall
    · exact List.nodup_singleton _
    · intro id hid _ hnot
      cases hid
      exact absurd (List.mem_singleton.2 rfl) hnot
    · intro id hid
      cases hid
  obtain ⟨s, hrun⟩ := hrun
  exact ⟨s, hrun, lifecycle_callbackContract 1 discardedOnce s hrun⟩

/-- A second discard passes its first section when the packet is discarded already; the graph is
re-armed, the packet is discarded in the new attempt, and the waiting loop discards it too. -/
def discardedTwice : List LifecycleEvent :=
  discardedOnce ++
  [.call 1 (.callback (.discardUnacceptedPacket oneTaskPlan [⟨0, 1⟩] 4)), .advance 1,
   .call 0 (.locked (.beginRecordingAttempt oneTaskPlan [⟨0, 1⟩])), .advance 0,
   .call 0 (.callback (.discardUnacceptedPacket oneTaskPlan [⟨0, 1⟩] 5)), .advance 0,
   .advance 1, .advance 0]

theorem staleDiscard_calls_again : ¬ ∀ next events s,
    FreeRun LifecycleSystem.step (LifecycleSystem.constructed next) events s →
      CallbackContract (fun _ _ => True) s := by
  intro h
  obtain ⟨s, hs⟩ : ∃ s, after LifecycleSystem.step (fun _ _ => true)
      (LifecycleSystem.constructed 1) discardedTwice = some s := ⟨_, rfl⟩
  have htwice : (after LifecycleSystem.step (fun _ _ => true) (LifecycleSystem.constructed 1)
      discardedTwice).map (fun s => (callbacksOf s.attemptCallbacks 0).length) = some 2 := by
    decide
  rw [hs, Option.map_some, Option.some.injEq] at htwice
  have honce := (h 1 discardedTwice s (run_of_after (fun _ _ _ => trivial) hs)).once
    s.attemptCallbacks List.mem_cons_self 0
  omega

end NwbLot.PacketRuntime
