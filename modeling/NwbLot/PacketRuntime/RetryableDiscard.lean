import NwbLot.PacketRuntime.StaleAttempts
import NwbLot.PacketRuntime.TransactionContract

/-!
# Retrying after a discard

A transaction whose unaccepted packets are discarded, and that accepted none, leaves a graph on
which a fresh recording attempt can begin.

Only claims draw from the counter of generations, and a call draws a bounded number of them, which
rules a wrap out.
-/

namespace NwbLot.PacketRuntime

open TaskGraph

/-! ## The frame of a call -/

/-- The graph keeps all but its lifecycles and its counter. -/
structure SameFrame (graph graph' : GpuTaskGraphLifecycle) : Prop where
  frame : graph' = { graph with tasks := graph'.tasks, nextGeneration := graph'.nextGeneration }
  length : graph'.tasks.length = graph.tasks.length

namespace SameFrame

variable {graph graph' graph'' : GpuTaskGraphLifecycle}

lemma refl (graph : GpuTaskGraphLifecycle) : SameFrame graph graph := ⟨rfl, rfl⟩

lemma trans (h : SameFrame graph graph') (h' : SameFrame graph' graph'') :
    SameFrame graph graph'' := ⟨by rw [h'.frame, h.frame], h'.length.trans h.length⟩

lemma attempt (h : SameFrame graph graph') :
    graph'.activeRecordingAttemptGeneration = graph.activeRecordingAttemptGeneration := by
  rw [h.frame]

lemma inAttempt (h : SameFrame graph graph') (planGeneration attempt : ℕ) :
    graph'.inAttempt planGeneration attempt = graph.inAttempt planGeneration attempt := by
  rw [h.frame]
  rfl

lemma validFor (h : SameFrame graph graph') (plan : PublishedPlan) :
    plan.validFor graph' = plan.validFor graph := by
  have hgeneration : graph'.generation = graph.generation := by rw [h.frame]
  have hrevision : graph'.declarationRevision = graph.declarationRevision := by rw [h.frame]
  have hpresent : graph'.presentEndpoint = graph.presentEndpoint := by rw [h.frame]
  simp only [PublishedPlan.validFor, hgeneration, hrevision, hpresent, h.length]

end SameFrame

namespace TransactionSystem

variable {plan : PublishedPlan} {s s' : TransactionSystem}

lemma PacketStep.sameFrame (hstep : PacketStep plan s s') : SameFrame s.graph s'.graph := by
  cases hstep with
  | bind hbind =>
    obtain ⟨-, -, -, rfl⟩ := bindRecordingAttempt_eq_some.1 hbind
    exact .refl _
  | mark _ _ _ => exact .refl _
  | submit _ _ _ _ hmoves => exact ⟨hmoves.frame, hmoves.length⟩
  | accept _ _ _ hmoves => exact ⟨hmoves.frame, hmoves.length⟩
  | reject _ _ _ _ hmoves => exact ⟨hmoves.frame, hmoves.length⟩
  | rejectSubmission _ _ _ _ hmoves => exact ⟨hmoves.frame, hmoves.length⟩

lemma PacketSteps.sameFrame (hsteps : PacketSteps plan s s') : SameFrame s.graph s'.graph := by
  induction hsteps with
  | refl => exact .refl _
  | tail _ hstep ih => exact ih.trans hstep.sameFrame

variable {aborted : Bool}

/-- A primitive step keeps the attempt that the transaction is bound to. -/
lemma PacketStep.bound (hplan : PlanPackets plan) (h : Agrees aborted plan s)
    (hstep : PacketStep plan s s') (hbound : s.transaction.recordingAttemptGeneration ≠ 0) :
    s'.transaction.recordingAttemptGeneration = s.transaction.recordingAttemptGeneration := by
  rcases hstep.resolves hplan h with ⟨attempt, hbind⟩ | ⟨packetID, target, -, -, hresolves, -, -⟩
  · obtain ⟨-, -, hattempt, rfl⟩ := bindRecordingAttempt_eq_some.1 hbind
    rcases hattempt with hzero | hsame
    · exact absurd hzero hbound
    · exact hsame.symm
  · exact hresolves.attempt

lemma PacketSteps.bound (hplan : PlanPackets plan) (h : Agrees aborted plan s)
    (hsteps : PacketSteps plan s s') (hbound : s.transaction.recordingAttemptGeneration ≠ 0) :
    s'.transaction.recordingAttemptGeneration = s.transaction.recordingAttemptGeneration := by
  induction hsteps with
  | refl => rfl
  | @tail t u hsteps hstep ih =>
    have hagrees := (PacketSteps.agrees hplan hsteps h).1
    exact (hstep.bound hplan hagrees (ih ▸ hbound)).trans ih

/-! ## What a successful discard leaves -/

variable {settled : TransactionSystem}

/-- A discard loop that succeeds has settled every packet it came to. -/
lemma discardPackets_settled (hplan : PlanPackets plan) {attempt : ℕ} {indices : List ℕ}
    (h : Agrees aborted plan s)
    (hdiscard : discardPackets plan attempt s indices = (settled, true)) :
    ∀ i ∈ indices, settled.transaction.stateAt i = some .accepted ∨
      settled.transaction.stateAt i = some .rejected := by
  induction indices generalizing s with
  | nil => simp
  | cons index rest ih =>
    -- Whatever is settled before the rest of the loop is settled behind it.
    have hkept : ∀ t, PacketSteps plan s t → discardPackets plan attempt t rest = (settled, true) →
        (t.transaction.stateAt index = some .accepted ∨
          t.transaction.stateAt index = some .rejected) →
        ∀ i ∈ index :: rest, settled.transaction.stateAt i = some .accepted ∨
          settled.transaction.stateAt i = some .rejected := by
      intro t hsteps hloop hindex i hi
      have hagrees := (PacketSteps.agrees hplan hsteps h).1
      rcases List.mem_cons.1 hi with rfl | hrest
      · have hloopSteps := discardPackets_steps plan attempt rest t
        rw [hloop] at hloopSteps
        have hsettled := (PacketSteps.agrees hplan hloopSteps hagrees).2
        exact hindex.imp (hsettled _ _ (Or.inl rfl)) (hsettled _ _ (Or.inr rfl))
      · exact ih hagrees hloop i hrest
    have hreject := rejectPacket_steps s plan (plan.packetIdAt index) attempt
    unfold discardPackets at hdiscard
    split at hdiscard
    · cases hdiscard
    split at hdiscard
    · cases hdiscard
    · cases hdiscard
    · cases hdiscard
    · next hstate => exact hkept s .refl hdiscard (Or.inl hstate)
    · next hstate => exact hkept s .refl hdiscard (Or.inr hstate)
    all_goals
      split at hdiscard
      · cases hdiscard
      simp only at hdiscard
      split at hdiscard
      · next hrejected =>
        simp only [Bool.and_eq_true, beq_iff_eq] at hrejected
        exact hkept _ hreject hdiscard (Or.inr hrejected.2)
      · cases hdiscard

/-- A discard that succeeds: the transaction is bound to the active attempt, and every packet is
settled. -/
lemma discardUnaccepted_settled (hplan : PlanPackets plan) {attempt : ℕ} (h : Agrees aborted plan s)
    (hdiscard : s.discardUnaccepted plan attempt = (settled, true)) :
    Agrees aborted plan settled ∧
      (∀ i < plan.compiled.packets.length, settled.transaction.stateAt i = some .accepted ∨
        settled.transaction.stateAt i = some .rejected) ∧
      settled.transaction.recordingAttemptGeneration = attempt ∧
      plan.validFor settled.graph = true ∧
      settled.graph.inAttempt plan.planGeneration attempt = true ∧
      SameFrame s.graph settled.graph := by
  have hsteps := discardUnaccepted_steps s plan attempt
  rw [hdiscard] at hsteps
  unfold discardUnaccepted at hdiscard
  split at hdiscard
  · cases hdiscard
  cases hbind : s.bindRecordingAttempt plan attempt with
  | none =>
    simp only [hbind] at hdiscard
    cases hdiscard
  | some bound =>
    simp only [hbind] at hdiscard
    have hagrees := agrees_of_bind h hbind
    have hloop := discardPackets_steps plan attempt (List.range plan.compiled.packets.length) bound
    rw [hdiscard] at hloop
    obtain ⟨hattempt, hne⟩ := bound_ne_zero hbind
    obtain ⟨hmatches, -, -, -⟩ := bindRecordingAttempt_eq_some.1 hbind
    obtain ⟨-, hvalid, hin⟩ := GpuTaskGraphLifecycle.matchesRecordingAttempt_iff.1 hmatches
    have hframe := PacketSteps.sameFrame hsteps
    refine ⟨(PacketSteps.agrees hplan hsteps h).1, ?_, ?_, ?_, ?_, hframe⟩
    · intro i hi
      exact discardPackets_settled hplan hagrees hdiscard i (List.mem_range.2 hi)
    · rw [PacketSteps.bound hplan hagrees hloop (hattempt ▸ hne), hattempt]
    · rw [hframe.validFor, hvalid]
    · rw [hframe.inAttempt, hin]

/-- When no packet was accepted, every task of the graph is discarded. -/
lemma discarded_of_rejected (hplan : PlanPackets plan) (h : Agrees aborted plan s)
    (hvalid : plan.validFor s.graph = true) (hrejected : ∀ i < plan.compiled.packets.length,
      s.transaction.stateAt i = some .rejected) :
    ∀ task ∈ s.graph.tasks, task.lifecycleState = .discarded ∧
      task.lifecycleAttemptGeneration = s.transaction.recordingAttemptGeneration := by
  intro task htask
  obtain ⟨i, hi, rfl⟩ := List.getElem_of_mem htask
  simp only [PublishedPlan.validFor, Bool.and_eq_true, beq_iff_eq] at hvalid
  have hlength : s.graph.tasks.length = plan.compiled.tasks.length := by
    rw [← hvalid.1.1.1.1.1.2, ← hvalid.1.1.1.1.2]
  obtain ⟨packet, hpacket, id, hid, rfl⟩ := hplan.covers i (hlength ▸ hi)
  obtain ⟨j, hj, rfl⟩ := List.getElem_of_mem hpacket
  obtain ⟨runtime, hruntime, hstate⟩ :=
    GpuGraphSubmissionTransaction.stateAt_eq_some.1 (hrejected j hj)
  have hagrees := h.packets j _ runtime (List.getElem?_eq_getElem hj) hruntime
  rw [hstate] at hagrees
  obtain ⟨task, htask', hdiscarded, hattempt⟩ := hagrees id hid
  rw [List.getElem?_eq_getElem hi] at htask'
  cases htask'
  exact ⟨hdiscarded, hattempt⟩

variable {graph : GpuTaskGraphLifecycle}

/-- On a graph whose tasks are all discarded in the active attempt of a plan, the next attempt for
the plan begins. -/
lemma beginRecordingAttempt_of_discarded {tasks : List GpuTaskId} {attempt : ℕ}
    (hvalid : plan.validFor graph = true) (hin : graph.inAttempt plan.planGeneration attempt = true)
    (hne : tasks ≠ []) (hids : ∀ id ∈ tasks, graph.validTask id = true)
    (hdiscarded : ∀ task ∈ graph.tasks, task.lifecycleState = .discarded ∧
      task.lifecycleAttemptGeneration = attempt) :
    graph.packetArguments plan tasks = true ∧
      graph.beginRecordingAttempt plan tasks = .rearmed (graph.rearm plan.planGeneration) := by
  obtain ⟨hteardown, hactivePlan, hactive⟩ := GpuTaskGraphLifecycle.inAttempt_iff.1 hin
  have hgeneration : graph.activeRecordingPlanGeneration ≠ 0 := by
    have hplanValid := PublishedPlan.valid_of_validFor hvalid
    simp only [PublishedPlan.valid, Bool.and_eq_true, bne_iff_ne] at hplanValid
    rw [hactivePlan]
    exact hplanValid.2
  have htask : ∀ id ∈ tasks, ∃ task, graph.tasks[id.index]? = some task ∧
      task.lifecycleState = .discarded ∧ task.lifecycleAttemptGeneration = attempt := by
    intro id hid
    have hlt : id.index < graph.tasks.length := by
      have hvalidTask := hids id hid
      simp only [GpuTaskGraphLifecycle.validTask, Bool.and_eq_true, decide_eq_true_eq]
        at hvalidTask
      exact hvalidTask.2
    exact ⟨_, List.getElem?_eq_getElem hlt, hdiscarded _ (List.getElem_mem hlt)⟩
  have hadmitted : graph.admitted tasks (fun task =>
      task.lifecycleAttemptGeneration == graph.activeRecordingAttemptGeneration
        && !GpuTaskGraphLifecycle.attemptInUse task.lifecycleState) = true := by
    apply GpuTaskGraphLifecycle.admitted_iff.2
    intro id hid
    obtain ⟨task, hat, hstate, hattempt⟩ := htask id hid
    refine ⟨hids id hid, task, hat, ?_⟩
    simp [hstate, hattempt, hactive, GpuTaskGraphLifecycle.attemptInUse]
  have hselected : (tasks.any fun id =>
      (graph.tasks[id.index]?).any (·.lifecycleState == .discarded)) = true := by
    obtain ⟨id, hid⟩ := List.exists_mem_of_ne_nil tasks hne
    obtain ⟨task, hat, hstate, -⟩ := htask id hid
    exact List.any_eq_true.2 ⟨id, hid, by simp [hat, hstate]⟩
  have hrearmable : graph.rearmable
      (graph.activeRecordingPlanGeneration != plan.planGeneration) = true := by
    apply List.all_eq_true.2
    intro task hmem
    obtain ⟨hstate, hattempt⟩ := hdiscarded task hmem
    simp [hstate, hattempt, hactive, GpuTaskGraphLifecycle.attemptInUse, hgeneration]
  constructor
  · simp [GpuTaskGraphLifecycle.packetArguments, hvalid, hne]
  · simp [GpuTaskGraphLifecycle.beginRecordingAttempt, hteardown, hadmitted, hselected, hrearmable]

/-! ## The counter along a run of calls -/

/-- Only claims draw from the counter. -/
lemma runCallbackCall_next (graph : GpuTaskGraphLifecycle) (call : CallbackCall) :
    (graph.runCallbackCall call).1.nextGeneration = graph.nextGeneration := by
  rcases GpuTaskGraphLifecycle.runCallbackCall_cases graph call with hrefused | ⟨-, -, hran⟩
  · rw [hrefused]
  · rw [hran]
    rfl

lemma claimSection_advances (graph : GpuTaskGraphLifecycle) (planGeneration attempt : ℕ)
    (tasks : List GpuTaskId) (admits : GpuTaskLifecycleNode → Bool)
    (update : ℕ → GpuTaskLifecycleNode → GpuTaskLifecycleNode) :
    Advances 6 graph.nextGeneration
      (graph.claimSection planGeneration attempt tasks admits update).1.nextGeneration :=
  (LifecycleSystem.Renews.of_claimSection graph planGeneration attempt tasks admits
    update).advances

lemma reservePacketSubmission_advances (graph : GpuTaskGraphLifecycle) (plan : PublishedPlan)
    (tasks : List GpuTaskId) (attempt : ℕ) (outLease : GpuTaskPacketSubmissionLease) :
    Advances 6 graph.nextGeneration
      (graph.reservePacketSubmission plan tasks attempt outLease).1.nextGeneration := by
  unfold GpuTaskGraphLifecycle.reservePacketSubmission
  split
  · exact claimSection_advances _ _ _ _ _ _
  · exact .refl _ _

lemma bindReadyPacket_graph {packetID : GpuSubmissionPacketId} {attempt : ℕ}
    (h : s.bindReadyPacket plan packetID attempt = some s') : s'.graph = s.graph := by
  obtain ⟨-, hbind⟩ := bindReadyPacket_eq_some h
  exact (Rebinds.packets (Or.inr ⟨attempt, hbind⟩)).2

lemma beginPacketSubmission_advances (s : TransactionSystem) (plan : PublishedPlan)
    (packetID : GpuSubmissionPacketId) (attempt : ℕ) (outLease : GpuTaskPacketSubmissionLease) :
    Advances 6 s.graph.nextGeneration
      (s.beginPacketSubmission plan packetID attempt outLease).1.graph.nextGeneration := by
  unfold beginPacketSubmission
  split
  · exact .refl _ _
  cases hready : s.bindReadyPacket plan packetID attempt with
  | none => exact .refl _ _
  | some bound =>
    rw [← bindReadyPacket_graph hready]
    have hadvances := reservePacketSubmission_advances bound.graph plan
      (plan.packetTasks packetID) attempt outLease
    simp only
    split
    · exact .refl _ _
    · split
      · next hreserved =>
        rw [hreserved] at hadvances
        exact hadvances
      · next hrefused =>
        rw [hrefused] at hadvances
        exact hadvances

/-- A call that binds the attempt and then at most runs a callback call draws nothing. -/
lemma next_of_bound {bound : TransactionSystem} {attempt : ℕ}
    (hbind : s.bindRecordingAttempt plan attempt = some bound)
    (hgraph : s'.graph = bound.graph ∨ ∃ call, s'.graph = (bound.graph.runCallbackCall call).1) :
    s'.graph.nextGeneration = s.graph.nextGeneration := by
  rw [← (Rebinds.packets (Or.inr ⟨attempt, hbind⟩)).2]
  rcases hgraph with hsame | ⟨call, hran⟩
  · rw [hsame]
  · rw [hran, runCallbackCall_next]

lemma rejectPacket_next (s : TransactionSystem) (plan : PublishedPlan)
    (packetID : GpuSubmissionPacketId) (attempt : ℕ) :
    (s.rejectPacket plan packetID attempt).graph.nextGeneration = s.graph.nextGeneration := by
  unfold rejectPacket
  split
  · rfl
  cases hbind : s.bindRecordingAttempt plan attempt with
  | none => rfl
  | some bound =>
    refine next_of_bound hbind ?_
    simp only
    split
    · exact Or.inl rfl
    · refine Or.inr ⟨.discardUnacceptedPacket plan (plan.packetTasks packetID) attempt, ?_⟩
      split <;> simp [*]

lemma acceptSubmittingPacket_next (s : TransactionSystem) (plan : PublishedPlan)
    (packetID : GpuSubmissionPacketId) (token : QueueSubmissionToken)
    (lease : GpuTaskPacketSubmissionLease) (nativeSubmissionInfo : Option NativeSubmissionInfo) :
    (s.acceptSubmittingPacket plan packetID token lease
      nativeSubmissionInfo).1.graph.nextGeneration = s.graph.nextGeneration := by
  unfold acceptSubmittingPacket
  split
  · rfl
  cases hbind : s.bindRecordingAttempt plan lease.recordingAttemptGeneration with
  | none => rfl
  | some bound =>
    refine next_of_bound hbind ?_
    simp only
    split
    · exact Or.inl rfl
    · refine Or.inr ⟨.completePacketSubmission plan (plan.packetTasks packetID) token lease, ?_⟩
      split <;> simp [*]

lemma rejectSubmittingPacket_next (s : TransactionSystem) (plan : PublishedPlan)
    (packetID : GpuSubmissionPacketId) (lease : GpuTaskPacketSubmissionLease) :
    (s.rejectSubmittingPacket plan packetID lease).graph.nextGeneration
      = s.graph.nextGeneration := by
  unfold rejectSubmittingPacket
  split
  · rfl
  cases hbind : s.bindRecordingAttempt plan lease.recordingAttemptGeneration with
  | none => rfl
  | some bound =>
    refine next_of_bound hbind ?_
    simp only
    split
    · exact Or.inl rfl
    · refine Or.inr ⟨.abortPacketSubmission plan (plan.packetTasks packetID) lease, ?_⟩
      split <;> simp [*]

lemma discardPackets_next (plan : PublishedPlan) (attempt : ℕ) (indices : List ℕ)
    (s : TransactionSystem) :
    (discardPackets plan attempt s indices).1.graph.nextGeneration = s.graph.nextGeneration := by
  induction indices generalizing s with
  | nil => rfl
  | cons index rest ih =>
    have hreject := rejectPacket_next s plan (plan.packetIdAt index) attempt
    unfold discardPackets
    split
    · rfl
    split
    · rfl
    · rfl
    · rfl
    · exact ih s
    · exact ih s
    all_goals
      split
      · rfl
      simp only
      split
      · exact (ih _).trans hreject
      · exact hreject

lemma discardUnaccepted_next (s : TransactionSystem) (plan : PublishedPlan) (attempt : ℕ) :
    (s.discardUnaccepted plan attempt).1.graph.nextGeneration = s.graph.nextGeneration := by
  unfold discardUnaccepted
  split
  · rfl
  cases hbind : s.bindRecordingAttempt plan attempt with
  | none => rfl
  | some bound =>
    rw [← (Rebinds.packets (Or.inr ⟨attempt, hbind⟩)).2]
    exact discardPackets_next plan attempt _ bound

lemma acceptPacket_advances (s : TransactionSystem) (plan : PublishedPlan)
    (packetID : GpuSubmissionPacketId) (token : QueueSubmissionToken) :
    Advances 6 s.graph.nextGeneration
      (s.acceptPacket plan packetID token).1.graph.nextGeneration := by
  have hbegin := beginPacketSubmission_advances s plan packetID
    s.transaction.recordingAttemptGeneration {}
  unfold acceptPacket
  simp only
  split
  · exact .refl _ _
  split
  · next hrefused =>
    rw [hrefused] at hbegin
    exact hbegin
  · next hreserved =>
    rw [hreserved] at hbegin
    rw [acceptSubmittingPacket_next]
    exact hbegin

/-- A call draws at most a few generations. -/
lemma call_advances (s : TransactionSystem) (call : PacketCall) :
    Advances 6 s.graph.nextGeneration (s.call call).graph.nextGeneration := by
  cases call with
  | transaction plan call =>
    cases call with
    | markPacketRecorded packetID attempt =>
      show Advances 6 _ (s.markPacketRecorded plan packetID attempt).1.graph.nextGeneration
      unfold markPacketRecorded
      cases hready : s.bindReadyPacket plan packetID attempt with
      | none => exact .refl _ _
      | some bound =>
        rw [← bindReadyPacket_graph hready]
        simp only
        split
        · exact .refl _ _
        · exact .refl _ _
    | acceptPacket packetID token => exact acceptPacket_advances s plan packetID token
    | rejectPacket packetID attempt =>
      show Advances 6 _ (s.rejectPacket plan packetID _).graph.nextGeneration
      rw [rejectPacket_next]
      exact .refl _ _
    | rejectTask task attempt =>
      show Advances 6 _ (s.rejectTask plan task _).graph.nextGeneration
      unfold rejectTask
      split
      · exact .refl _ _
      · rw [rejectPacket_next]
        exact .refl _ _
    | discardUnaccepted attempt =>
      show Advances 6 _ (s.discardUnaccepted plan _).1.graph.nextGeneration
      rw [discardUnaccepted_next]
      exact .refl _ _
    | beginPacketSubmission packetID attempt outLease =>
      exact beginPacketSubmission_advances s plan packetID attempt outLease
    | acceptSubmittingPacket packetID token lease info =>
      show Advances 6 _
        (s.acceptSubmittingPacket plan packetID token lease info).1.graph.nextGeneration
      rw [acceptSubmittingPacket_next]
      exact .refl _ _
    | rejectSubmittingPacket packetID lease =>
      show Advances 6 _ (s.rejectSubmittingPacket plan packetID lease).graph.nextGeneration
      rw [rejectSubmittingPacket_next]
      exact .refl _ _
  | recorder call =>
    show Advances 6 s.graph.nextGeneration (s.graph.record call).nextGeneration
    cases call with
    | beginPacketRecording plan tasks attempt outLease =>
      simp only [GpuTaskGraphLifecycle.record]
      split
      · exact claimSection_advances _ _ _ _ _ _
      · exact .refl _ _
    | recordTask call =>
      simp only [GpuTaskGraphLifecycle.record]
      split
      · cases hopen : call.openSection s.graph with
        | none => exact .refl _ _
        | some opened =>
          have hopened := LifecycleSystem.Renews.of_packetSection hopen
          obtain ⟨-, -, rfl⟩ := GpuTaskGraphLifecycle.packetSection_eq_some.1 hopen
          simp only
          cases hclose : call.closeSection _ with
          | none => exact hopened.advances
          | some closed => exact (LifecycleSystem.Renews.of_packetSection hclose).advances
      · exact .refl _ _
    | completePacketRecording plan tasks lease =>
      simp only [GpuTaskGraphLifecycle.record]
      split
      · exact (LifecycleSystem.Renews.of_getD fun _ =>
          LifecycleSystem.Renews.of_packetSection).advances
      · exact .refl _ _
    | abortPacketRecording plan tasks lease =>
      simp only [GpuTaskGraphLifecycle.record]
      rw [runCallbackCall_next]
      exact .refl _ _

lemma call_sameFrame (s : TransactionSystem) (call : PacketCall) :
    SameFrame s.graph (s.call call).graph := by
  cases call with
  | transaction plan call => exact PacketSteps.sameFrame (callTransaction_steps s plan call)
  | recorder call =>
    have hrecords := records_record s.graph call
    exact ⟨hrecords.frame, hrecords.length⟩

/-- A run of calls keeps the active attempt and moves the counter up. -/
lemma run_advances (calls : List PacketCall) (s : TransactionSystem) :
    SameFrame s.graph (s.run calls).graph ∧
      Advances (6 * calls.length) s.graph.nextGeneration (s.run calls).graph.nextGeneration := by
  induction calls generalizing s with
  | nil => exact ⟨.refl _, .refl _ _⟩
  | cons call rest ih =>
    obtain ⟨hframe, hadvances⟩ := ih (s.call call)
    refine ⟨(call_sameFrame s call).trans hframe, ?_⟩
    have hall := (call_advances s call).trans hadvances
    exact hall.mono (by rw [List.length_cons]; omega)

/-! ## The contract -/

variable {old : ℕ}

/-- A transaction bound to another attempt than the graph's active one does nothing. -/
lemma callTransaction_of_stale (hne : old ≠ 0)
    (hbound : s.transaction.recordingAttemptGeneration = old)
    (hstale : s.graph.activeRecordingAttemptGeneration ≠ old) (call : TransactionCall) :
    s.callTransaction plan call = s := by
  have hbind : ∀ attempt, s.bindRecordingAttempt plan attempt = none := by
    intro attempt
    cases hbind : s.bindRecordingAttempt plan attempt with
    | none => rfl
    | some bound =>
      obtain ⟨hmatches, -, hattempt, -⟩ := bindRecordingAttempt_eq_some.1 hbind
      obtain ⟨-, -, hin⟩ := GpuTaskGraphLifecycle.matchesRecordingAttempt_iff.1 hmatches
      obtain ⟨-, -, hactive⟩ := GpuTaskGraphLifecycle.inAttempt_iff.1 hin
      rcases hattempt with hzero | hsame
      · exact absurd (hbound.symm.trans hzero) hne
      · exact absurd (hactive.trans (hsame.symm.trans hbound)) hstale
  have hready : ∀ packetID attempt, s.bindReadyPacket plan packetID attempt = none := by
    intro packetID attempt
    simp [bindReadyPacket, hbind]
  cases call with
  | markPacketRecorded packetID attempt =>
    simp [callTransaction, markPacketRecorded, hready]
  | acceptPacket packetID token =>
    simp [callTransaction, acceptPacket, beginPacketSubmission, hready]
  | rejectPacket packetID attempt => simp [callTransaction, rejectPacket, hbind]
  | rejectTask task attempt => simp [callTransaction, rejectTask, rejectPacket, hbind]
  | discardUnaccepted attempt => simp [callTransaction, discardUnaccepted, hbind]
  | beginPacketSubmission packetID attempt outLease =>
    simp [callTransaction, beginPacketSubmission, hready]
  | acceptSubmittingPacket packetID token lease info =>
    simp [callTransaction, acceptSubmittingPacket, hbind]
  | rejectSubmittingPacket packetID lease =>
    simp [callTransaction, rejectSubmittingPacket, hbind]

/-- What a rearmed graph offers after a discard: a fresh attempt in which every task is declared,
and in whose future no call bound to the old attempt changes the graph. -/
structure Rearmed (old : ℕ) (graph : GpuTaskGraphLifecycle) : Prop where
  fresh : old < graph.activeRecordingAttemptGeneration
  declared : ∀ task ∈ graph.tasks, task.lifecycleState = .declared ∧
    task.lifecycleAttemptGeneration = graph.activeRecordingAttemptGeneration
  graph_calls : ∀ (s later : LifecycleSystem) (events : List LifecycleEvent), s.graph = graph →
    Runs.FreeRun LifecycleSystem.step s events later →
    graph.nextGeneration + 6 * events.length < 2 ^ 64 →
    ∀ thread pending, LifecycleSystem.boundAttempt pending = some old →
      (later.advance thread pending).graph = later.graph
  transaction_calls : ∀ (s later : LifecycleSystem) (events : List LifecycleEvent),
    s.graph = graph → Runs.FreeRun LifecycleSystem.step s events later →
    graph.nextGeneration + 6 * events.length < 2 ^ 64 →
    ∀ transaction : GpuGraphSubmissionTransaction, transaction.recordingAttemptGeneration = old →
      ∀ plan call, TransactionSystem.callTransaction ⟨later.graph, transaction⟩ plan call
        = ⟨later.graph, transaction⟩

/-- Rearming ends the active attempt for good, as long as the counter does not wrap. -/
lemma rearmed_of_rearm (planGeneration : ℕ) (hne : old ≠ 0) (hold : old < graph.nextGeneration)
    (hspace : graph.nextGeneration + 2 < 2 ^ 64) :
    Rearmed old (graph.rearm planGeneration) := by
  obtain ⟨hlow, hlt, -, -⟩ := allocateGeneration_spec graph.nextGeneration hspace
  have hfresh : old < (graph.rearm planGeneration).activeRecordingAttemptGeneration :=
    lt_of_lt_of_le hold hlow
  have hnext : old < (graph.rearm planGeneration).nextGeneration := hfresh.trans hlt
  have hover : ∀ (s later : LifecycleSystem) (events : List LifecycleEvent),
      s.graph = graph.rearm planGeneration →
      Runs.FreeRun LifecycleSystem.step s events later →
      (graph.rearm planGeneration).nextGeneration + 6 * events.length < 2 ^ 64 →
      later.graph.activeRecordingAttemptGeneration ≠ old := by
    intro s later events hs hrun hevents
    rw [← hs] at hfresh hnext hevents
    exact (LifecycleSystem.attempt_stays_over hrun hfresh hnext hevents).1.ne'
  refine ⟨hfresh, ?_, ?_, ?_⟩
  · intro task htask
    obtain ⟨earlier, -, rfl⟩ := List.mem_map.1 htask
    exact ⟨rfl, rfl⟩
  · intro s later events hs hrun hevents thread pending hpending
    exact LifecycleSystem.advance_of_other_attempt hpending (hover s later events hs hrun hevents)
  · intro s later events hs hrun hevents transaction htransaction plan call
    exact callTransaction_of_stale hne htransaction (hover s later events hs hrun hevents) call

/-- A discard that succeeds has settled every packet; when none of them was accepted, the next
recording attempt over any packet begins, and the old attempt is over for good. -/
theorem discardUnaccepted_retryable {assignQueues : QueueAssigner}
    {options : GpuTaskGraphCompileOptions} {planGeneration : CompiledPlanGeneration}
    {graph : GpuTaskGraph} {topology : GpuTaskGraphQueueTopology} {out : GpuTaskGraphCompilation}
    (hcompiled : compile assignQueues options planGeneration graph topology = some out)
    (plan : PublishedPlan) (hplan : plan.compiled = out.compiledGraph)
    (start : TransactionSystem) (hfresh : Fresh plan start) (calls : List PacketCall)
    (hown : ∀ call ∈ calls, OwnPlan plan call) (attempt : Option ℕ) (settled : TransactionSystem)
    (hdiscard : (start.run calls).discardUnaccepted plan
        (attempt.getD (start.run calls).transaction.recordingAttemptGeneration)
      = (settled, true)) :
    (∀ i < plan.compiled.packets.length, settled.transaction.stateAt i = some .accepted ∨
      settled.transaction.stateAt i = some .rejected) ∧
    ((∀ i, settled.transaction.stateAt i ≠ some .accepted) →
      start.graph.activeRecordingAttemptGeneration < start.graph.nextGeneration →
      start.graph.nextGeneration + 6 * (calls.length + 1) < 2 ^ 64 →
      ∀ packet ∈ plan.compiled.packets, ∃ rearmed,
        settled.graph.packetArguments plan (plan.compiled.packetTasksOf packet) = true ∧
        settled.graph.beginRecordingAttempt plan (plan.compiled.packetTasksOf packet)
          = .rearmed rearmed ∧
        Rearmed settled.transaction.recordingAttemptGeneration rearmed) := by
  have hpackets := planPackets_of_compile hcompiled hplan
  have hagrees : Agrees true plan (start.run calls) :=
    run_agrees hpackets (agrees_of_fresh hfresh true) hown fun _ _ _ => rfl
  have hnextDiscard := discardUnaccepted_next (start.run calls) plan
    (attempt.getD (start.run calls).transaction.recordingAttemptGeneration)
  rw [hdiscard] at hnextDiscard
  obtain ⟨hsettledAgrees, hsettled, hbound, hvalid, hin, hframe⟩ :=
    discardUnaccepted_settled hpackets hagrees hdiscard
  refine ⟨hsettled, ?_⟩
  intro hnone hcounter hspace packet hpacket
  have hdiscarded := discarded_of_rejected hpackets hsettledAgrees hvalid fun i hi =>
    (hsettled i hi).resolve_left (hnone i)
  rw [hbound] at hdiscarded ⊢
  obtain ⟨hteardown, hactivePlan, hactive⟩ := GpuTaskGraphLifecycle.inAttempt_iff.1 hin
  have hids : ∀ id ∈ plan.compiled.packetTasksOf packet, settled.graph.validTask id = true := by
    intro id hid
    obtain ⟨hidValid, hgeneration⟩ := hpackets.ids packet hpacket id hid
    obtain ⟨j, hj, rfl⟩ := List.getElem_of_mem hpacket
    obtain ⟨runtime, hruntime, hstate⟩ := GpuGraphSubmissionTransaction.stateAt_eq_some.1
      ((hsettled j hj).resolve_left (hnone j))
    have hpacketAgrees := hsettledAgrees.packets j _ runtime (List.getElem?_eq_getElem hj) hruntime
    rw [hstate] at hpacketAgrees
    obtain ⟨task, htask, -⟩ := hpacketAgrees id hid
    have hlt := (List.getElem?_eq_some_iff.1 htask).1
    simp only [PublishedPlan.validFor, Bool.and_eq_true, beq_iff_eq] at hvalid
    simp only [GpuTaskGraphLifecycle.validTask, Bool.and_eq_true, beq_iff_eq, decide_eq_true_eq]
    exact ⟨⟨hidValid, hgeneration.trans hvalid.1.1.1.1.1.1.1.2⟩, hlt⟩
  obtain ⟨harguments, hrearm⟩ := beginRecordingAttempt_of_discarded hvalid hin
    (hpackets.nonempty packet hpacket) hids hdiscarded
  refine ⟨_, harguments, hrearm, ?_⟩
  obtain ⟨hrunFrame, hadvances⟩ := run_advances calls start
  obtain ⟨hlow, hhigh⟩ := hadvances (by omega)
  have hactiveStart := (hrunFrame.trans hframe).attempt
  have hne : settled.transaction.recordingAttemptGeneration ≠ 0 := by
    intro hzero
    obtain ⟨j, hj, rfl⟩ := List.getElem_of_mem hpacket
    obtain ⟨runtime, hruntime, hstate⟩ := GpuGraphSubmissionTransaction.stateAt_eq_some.1
      ((hsettled j hj).resolve_left (hnone j))
    have hunresolved := hsettledAgrees.unbound hzero runtime (List.mem_of_getElem? hruntime)
    rw [hstate] at hunresolved
    cases hunresolved
  apply rearmed_of_rearm plan.planGeneration (hbound ▸ hne)
  · rw [← hactive, hactiveStart, hnextDiscard]
    omega
  · rw [hnextDiscard]
    omega

/-- The consumer's packet is rejected, the producer's recording aborted, and the rest discarded. -/
def abandonedCalls : List PacketCall :=
  [.recorder (.beginPacketRecording producerConsumerPlan [⟨0, 1⟩] 3 {}),
   .recorder (.abortPacketRecording producerConsumerPlan [⟨0, 1⟩] ⟨1, 3, 4⟩),
   .transaction producerConsumerPlan (.rejectPacket ⟨1, 1⟩ (some 3))]

theorem discardUnaccepted_retryable_twoPackets :
    ∃ settled rearmed, (producerConsumerSystem.run abandonedCalls).discardUnaccepted
        producerConsumerPlan 3 = (settled, true) ∧
      settled.graph.beginRecordingAttempt producerConsumerPlan [⟨0, 1⟩] = .rearmed rearmed ∧
      Rearmed 3 rearmed := by
  obtain ⟨out, hout⟩ : ∃ out, producerConsumerCompilation = some out := ⟨_, rfl⟩
  have hplan : producerConsumerPlan.compiled = out.compiledGraph := by
    show (producerConsumerCompilation.map (·.compiledGraph)).getD {} = out.compiledGraph
    rw [hout]
    rfl
  have hown : ∀ call ∈ abandonedCalls, OwnPlan producerConsumerPlan call := by
    intro call hcall plan' transactionCall heq _
    subst heq
    simp only [abandonedCalls, List.mem_cons, PacketCall.transaction.injEq, reduceCtorEq,
      false_or, List.not_mem_nil, or_false] at hcall
    exact hcall.1
  have hdiscard : ((producerConsumerSystem.run abandonedCalls).discardUnaccepted
      producerConsumerPlan 3).2 = true := by decide +kernel
  have hsettled : (producerConsumerSystem.run abandonedCalls).discardUnaccepted
      producerConsumerPlan 3 = (((producerConsumerSystem.run abandonedCalls).discardUnaccepted
        producerConsumerPlan 3).1, true) := Prod.ext rfl hdiscard
  have hcontract := (discardUnaccepted_retryable hout producerConsumerPlan hplan
    producerConsumerSystem producerConsumer_fresh abandonedCalls hown (some 3) _ hsettled).2
  have hnone : ∀ i, ((producerConsumerSystem.run abandonedCalls).discardUnaccepted
      producerConsumerPlan 3).1.transaction.stateAt i ≠ some .accepted := by
    have hall : ((producerConsumerSystem.run abandonedCalls).discardUnaccepted
        producerConsumerPlan 3).1.transaction.packets.all (·.state != .accepted) = true := by
      decide +kernel
    intro i hi
    obtain ⟨runtime, hruntime, hstate⟩ := GpuGraphSubmissionTransaction.stateAt_eq_some.1 hi
    have hat := List.all_eq_true.1 hall runtime (List.mem_of_getElem? hruntime)
    rw [hstate] at hat
    cases hat
  have hpacket : producerConsumerPlan.packet ⟨0, 1⟩ ∈ producerConsumerPlan.compiled.packets :=
    List.mem_of_getElem? (PublishedPlan.packet_at (by decide +kernel))
  obtain ⟨rearmed, -, hrearm, hrearmed⟩ :=
    hcontract hnone (by decide) (by decide) _ hpacket
  have htasks : producerConsumerPlan.compiled.packetTasksOf (producerConsumerPlan.packet ⟨0, 1⟩)
      = [⟨0, 1⟩] := by decide +kernel
  have hbound : ((producerConsumerSystem.run abandonedCalls).discardUnaccepted
      producerConsumerPlan 3).1.transaction.recordingAttemptGeneration = 3 := by decide +kernel
  rw [htasks] at hrearm
  rw [hbound] at hrearmed
  exact ⟨_, rearmed, hsettled, hrearm, hrearmed⟩

end TransactionSystem

end NwbLot.PacketRuntime
