import NwbLot.PacketRuntime.GraphCallLaws

/-!
# The steps of a transaction

Every call on a transaction is a sequence of a few primitive steps, in each of which the transaction
and the graph move together.

`PacketStep` has a constructor for every change that a packet and its tasks can make, with the
graph call behind it.
-/

namespace NwbLot.PacketRuntime

open TaskGraph

/-! ## Packet states -/

namespace GpuGraphSubmissionTransaction

variable {transaction : GpuGraphSubmissionTransaction} {plan : PublishedPlan}

variable {index : ℕ} {state : GpuPacketRuntimeState}

lemma stateAt_eq_some :
    transaction.stateAt index = some state ↔
      ∃ runtime, transaction.packets[index]? = some runtime ∧ runtime.state = state := by
  simp [stateAt]

@[simp] lemma validFor_setState (index : ℕ) (state : GpuPacketRuntimeState) :
    (transaction.setState index state).validFor plan = transaction.validFor plan := by
  simp [validFor, setState]

variable {previousState : GpuPacketRuntimeState}

lemma stateAt_setState_self (h : transaction.stateAt index = some previousState) :
    (transaction.setState index state).stateAt index = some state := by
  obtain ⟨runtime, hruntime, -⟩ := stateAt_eq_some.1 h
  simp [stateAt, setState, hruntime]

/-- Setting a state and setting the old one again changes nothing. -/
lemma setState_setState (h : transaction.stateAt index = some previousState) :
    (transaction.setState index state).setState index previousState = transaction := by
  obtain ⟨runtime, hruntime, hstate⟩ := stateAt_eq_some.1 h
  have hpackets : ((transaction.setState index state).setState index previousState).packets
      = transaction.packets := by
    apply List.ext_getElem?
    intro i
    by_cases hi : index = i
    · subst hi hstate
      simp [setState, hruntime]
    · simp [setState, hi]
  calc (transaction.setState index state).setState index previousState
      = { transaction with packets :=
          ((transaction.setState index state).setState index previousState).packets } := rfl
    _ = transaction := by rw [hpackets]

variable {packetID : GpuSubmissionPacketId}

/-- The way back restores the transaction as it was. -/
lemma restore_setState {reserved : GpuPacketRuntimeState}
    (hvalid : transaction.validFor plan = true)
    (h : transaction.stateAt packetID.index = some previousState) :
    (transaction.setState packetID.index reserved).restore plan packetID reserved previousState
      = transaction := by
  rw [restore, validFor_setState, hvalid, stateAt_setState_self h]
  simpa using setState_setState h

lemma bindRecordingAttempt_eq_some {graph : GpuTaskGraphLifecycle} {attempt : ℕ}
    {bound : GpuGraphSubmissionTransaction} :
    transaction.bindRecordingAttempt plan graph attempt = some bound ↔
      graph.matchesRecordingAttempt plan attempt = true ∧ transaction.validFor plan = true ∧
        (transaction.recordingAttemptGeneration = 0 ∨
          transaction.recordingAttemptGeneration = attempt) ∧
        bound = { transaction with
          recordingAttemptGeneration := attempt
          submissionStatistics :=
            { transaction.submissionStatistics with recordingAttemptGeneration := attempt } } := by
  unfold bindRecordingAttempt
  constructor
  · intro h
    split at h
    · next hguard =>
      simp only [Bool.and_eq_true, Bool.or_eq_true, beq_iff_eq] at hguard
      exact ⟨hguard.1.1, hguard.1.2, hguard.2, (Option.some.inj h).symm⟩
    · cases h
  · rintro ⟨hmatches, hvalid, hattempt, rfl⟩
    rw [if_pos]
    simp [hmatches, hvalid, hattempt]

lemma ownedState_eq_some {attempt : ℕ} :
    transaction.ownedState plan packetID attempt = some state ↔
      transaction.validFor plan = true ∧ transaction.recordingAttemptGeneration = attempt ∧
        transaction.stateAt packetID.index = some state := by
  unfold ownedState
  by_cases h : transaction.validFor plan = true ∧
      transaction.recordingAttemptGeneration = attempt
  · simp [h.1, h.2]
  · rw [if_neg (by simpa using h)]
    constructor
    · intro hnone
      cases hnone
    · rintro ⟨hvalid, hattempt, -⟩
      exact absurd ⟨hvalid, hattempt⟩ h

lemma publishSubmissionRejected_eq {packet : GpuSubmissionPacket}
    (hvalid : transaction.validFor plan = true)
    (hstate : transaction.stateAt packetID.index = some .submitting) :
    transaction.publishSubmissionRejected plan packetID packet = { transaction with
      packets := transaction.packets.modify packetID.index fun runtime =>
        { runtime with state := .rejected, nativeSubmissionRejected := true }
      submissionStatistics := { transaction.submissionStatistics.countRejected packet with
        rejectedSubmissionCount :=
          transaction.submissionStatistics.rejectedSubmissionCount + 1 } } :=
  if_pos (by simp [hvalid, hstate])

end GpuGraphSubmissionTransaction

lemma GpuTaskGraphLifecycle.matchesRecordingAttempt_iff {graph : GpuTaskGraphLifecycle}
    {plan : PublishedPlan} {attempt : ℕ} :
    graph.matchesRecordingAttempt plan attempt = true ↔ attempt ≠ 0 ∧ plan.validFor graph = true ∧
      graph.inAttempt plan.planGeneration attempt = true := by
  simp [matchesRecordingAttempt, and_assoc]

/-! ## Primitive steps -/

namespace TransactionSystem

/-- One primitive step for a packet of the plan.  The packet's tasks move with it. -/
inductive PacketStep (plan : PublishedPlan) (s : TransactionSystem) : TransactionSystem → Prop
  | bind {attempt : ℕ} {bound : TransactionSystem}
      (hbind : s.bindRecordingAttempt plan attempt = some bound) : PacketStep plan s bound
  | mark {packetID : GpuSubmissionPacketId} (hvalid : plan.validPacket packetID = true)
      (hbound : s.transaction.recordingAttemptGeneration ≠ 0)
      (hstate : s.transaction.stateAt packetID.index = some .declared) :
      PacketStep plan s (s.withTransaction (s.transaction.setState packetID.index .recorded))
  | submit {packetID : GpuSubmissionPacketId} {state : GpuPacketRuntimeState}
      {graph : GpuTaskGraphLifecycle} (hvalid : plan.validPacket packetID = true)
      (hbound : s.transaction.recordingAttemptGeneration ≠ 0)
      (hstate : s.transaction.stateAt packetID.index = some state)
      (hunresolved : unresolved state = true)
      (hmoves : MovesTo s.graph graph (plan.packetTasks packetID)
        s.transaction.recordingAttemptGeneration (· == .recorded) .submitting) :
      PacketStep plan s
        { graph, transaction := s.transaction.setState packetID.index .submitting }
  | accept {packetID : GpuSubmissionPacketId} {graph : GpuTaskGraphLifecycle}
      {queueInfo : GpuPhysicalQueueInfo} {token : QueueSubmissionToken}
      {nativeSubmissionInfo : Option NativeSubmissionInfo}
      (hvalid : plan.validPacket packetID = true)
      (hbound : s.transaction.recordingAttemptGeneration ≠ 0)
      (hqueue : GpuGraphSubmissionTransaction.submissionQueue plan (plan.packet packetID) token
        = some queueInfo)
      (hmoves : MovesTo s.graph graph (plan.packetTasks packetID)
        s.transaction.recordingAttemptGeneration (· == .submitting) .accepted) :
      PacketStep plan s
        { graph, transaction := s.transaction.publishAccepted packetID.index
            (plan.packet packetID) queueInfo.queueClass token nativeSubmissionInfo }
  | reject {packetID : GpuSubmissionPacketId} {state : GpuPacketRuntimeState}
      {graph : GpuTaskGraphLifecycle} (hvalid : plan.validPacket packetID = true)
      (hbound : s.transaction.recordingAttemptGeneration ≠ 0)
      (hstate : s.transaction.stateAt packetID.index = some state)
      (hunresolved : unresolved state = true)
      (hmoves : MovesTo s.graph graph (plan.packetTasks packetID)
        s.transaction.recordingAttemptGeneration (·.discardable) .discarded) :
      PacketStep plan s
        { graph, transaction := { s.transaction.setState packetID.index .rejected with
            submissionStatistics :=
              s.transaction.submissionStatistics.countRejected (plan.packet packetID) } }
  | rejectSubmission {packetID : GpuSubmissionPacketId} {graph : GpuTaskGraphLifecycle}
      (hvalid : plan.validPacket packetID = true)
      (hbound : s.transaction.recordingAttemptGeneration ≠ 0)
      (hplan : s.transaction.validFor plan = true)
      (hstate : s.transaction.stateAt packetID.index = some .submitting)
      (hmoves : MovesTo s.graph graph (plan.packetTasks packetID)
        s.transaction.recordingAttemptGeneration (· == .submitting) .discarded) :
      PacketStep plan s
        { graph, transaction :=
            s.transaction.publishSubmissionRejected plan packetID (plan.packet packetID) }

/-- Any number of primitive steps. -/
abbrev PacketSteps (plan : PublishedPlan) : TransactionSystem → TransactionSystem → Prop :=
  Relation.ReflTransGen (PacketStep plan)

/-- The call only bound the transaction to an attempt, or did nothing. -/
def Rebinds (plan : PublishedPlan) (s s' : TransactionSystem) : Prop :=
  s' = s ∨ ∃ attempt, s.bindRecordingAttempt plan attempt = some s'

section Calls

variable {plan : PublishedPlan} {s s' : TransactionSystem} {packetID : GpuSubmissionPacketId}
  {attempt : ℕ}

lemma bindRecordingAttempt_eq_some :
    s.bindRecordingAttempt plan attempt = some s' ↔
      s.graph.matchesRecordingAttempt plan attempt = true ∧ s.transaction.validFor plan = true ∧
        (s.transaction.recordingAttemptGeneration = 0 ∨
          s.transaction.recordingAttemptGeneration = attempt) ∧
        s' = s.withTransaction { s.transaction with
          recordingAttemptGeneration := attempt
          submissionStatistics :=
            { s.transaction.submissionStatistics with recordingAttemptGeneration := attempt } } := by
  unfold bindRecordingAttempt
  constructor
  · intro h
    obtain ⟨bound, hbound, rfl⟩ := Option.map_eq_some_iff.1 h
    obtain ⟨hmatches, hvalid, hattempt, rfl⟩ :=
      GpuGraphSubmissionTransaction.bindRecordingAttempt_eq_some.1 hbound
    exact ⟨hmatches, hvalid, hattempt, rfl⟩
  · rintro ⟨hmatches, hvalid, hattempt, rfl⟩
    exact Option.map_eq_some_iff.2 ⟨_,
      GpuGraphSubmissionTransaction.bindRecordingAttempt_eq_some.2
        ⟨hmatches, hvalid, hattempt, rfl⟩, rfl⟩

lemma bound_ne_zero (h : s.bindRecordingAttempt plan attempt = some s') :
    s'.transaction.recordingAttemptGeneration = attempt ∧ attempt ≠ 0 := by
  obtain ⟨hmatches, -, -, rfl⟩ := bindRecordingAttempt_eq_some.1 h
  exact ⟨rfl, (GpuTaskGraphLifecycle.matchesRecordingAttempt_iff.1 hmatches).1⟩

lemma Rebinds.packets (h : Rebinds plan s s') :
    s'.transaction.packets = s.transaction.packets ∧ s'.graph = s.graph := by
  rcases h with rfl | ⟨attempt, hbind⟩
  · exact ⟨rfl, rfl⟩
  · obtain ⟨-, -, -, rfl⟩ := bindRecordingAttempt_eq_some.1 hbind
    exact ⟨rfl, rfl⟩

lemma Rebinds.steps (h : Rebinds plan s s') : PacketSteps plan s s' := by
  rcases h with rfl | ⟨attempt, hbind⟩
  · exact .refl
  · exact .single (.bind hbind)

lemma bindReadyPacket_eq_some (h : s.bindReadyPacket plan packetID attempt = some s') :
    plan.validPacket packetID = true ∧ s.bindRecordingAttempt plan attempt = some s' := by
  unfold bindReadyPacket at h
  split at h
  · next hguard =>
    rw [Bool.and_eq_true] at hguard
    exact ⟨hguard.1, h⟩
  · cases h

/-- `beginPacketSubmission` submits the packet or leaves every packet as it was. -/
lemma beginPacketSubmission_cases (s : TransactionSystem) (plan : PublishedPlan)
    (packetID : GpuSubmissionPacketId) (attempt : ℕ) (outLease : GpuTaskPacketSubmissionLease) :
    (∃ s', s.beginPacketSubmission plan packetID attempt outLease = (s', none) ∧
      Rebinds plan s s') ∨
    ∃ bound s' lease,
      s.beginPacketSubmission plan packetID attempt outLease = (s', some lease) ∧
        Rebinds plan s bound ∧ PacketStep plan bound s' := by
  unfold beginPacketSubmission
  split
  · exact Or.inl ⟨s, rfl, Or.inl rfl⟩
  · cases hready : s.bindReadyPacket plan packetID attempt with
    | none => exact Or.inl ⟨s, rfl, Or.inl rfl⟩
    | some bound =>
      obtain ⟨hvalid, hbind⟩ := bindReadyPacket_eq_some hready
      have hrebinds : Rebinds plan s bound := Or.inr ⟨attempt, hbind⟩
      obtain ⟨hattempt, hne⟩ := bound_ne_zero hbind
      cases howned : (bound.transaction.ownedState plan packetID attempt).filter unresolved with
      | none => exact Or.inl ⟨bound, by simp only [howned], hrebinds⟩
      | some previousState =>
        obtain ⟨hfound, hunresolved⟩ := Option.filter_eq_some_iff.1 howned
        obtain ⟨hplan, -, hstate⟩ :=
          GpuGraphSubmissionTransaction.ownedState_eq_some.1 hfound
        rcases GpuTaskGraphLifecycle.reservePacketSubmission_cases bound.graph plan
          (plan.packetTasks packetID) attempt outLease with hrefused | ⟨graph, lease, hran, hmoves⟩
        · refine Or.inl ⟨bound, ?_, hrebinds⟩
          simp only [howned, hrefused,
            GpuGraphSubmissionTransaction.restore_setState hplan hstate]
        · refine Or.inr ⟨bound,
            { graph, transaction := bound.transaction.setState packetID.index .submitting }, lease,
            by simp only [howned, hran], hrebinds, ?_⟩
          apply PacketStep.submit hvalid (hattempt ▸ hne) hstate hunresolved
          rw [hattempt]
          exact hmoves

/-- `rejectPacket` rejects the packet or leaves every packet as it was. -/
lemma rejectPacket_cases (s : TransactionSystem) (plan : PublishedPlan)
    (packetID : GpuSubmissionPacketId) (attempt : ℕ) :
    Rebinds plan s (s.rejectPacket plan packetID attempt) ∨
    ∃ bound, Rebinds plan s bound ∧
      PacketStep plan bound (s.rejectPacket plan packetID attempt) ∧
      (s.rejectPacket plan packetID attempt).transaction.stateAt packetID.index
        = some .rejected := by
  unfold rejectPacket
  split
  · exact Or.inl (Or.inl rfl)
  · next hguard =>
    simp only [Bool.or_eq_true, Bool.not_eq_true', not_or, Bool.not_eq_false] at hguard
    cases hbind : s.bindRecordingAttempt plan attempt with
    | none => exact Or.inl (Or.inl rfl)
    | some bound =>
      have hrebinds : Rebinds plan s bound := Or.inr ⟨attempt, hbind⟩
      obtain ⟨hattempt, hne⟩ := bound_ne_zero hbind
      cases howned : (bound.transaction.ownedState plan packetID attempt).filter unresolved with
      | none => simpa only [howned] using Or.inl hrebinds
      | some previousState =>
        obtain ⟨hfound, hunresolved⟩ := Option.filter_eq_some_iff.1 howned
        obtain ⟨hplan, -, hstate⟩ :=
          GpuGraphSubmissionTransaction.ownedState_eq_some.1 hfound
        rcases GpuTaskGraphLifecycle.discardUnacceptedPacket_cases bound.graph plan
          (plan.packetTasks packetID) attempt with hrefused | ⟨graph, hran, hmoves⟩
        · simpa only [howned, hrefused,
            GpuGraphSubmissionTransaction.restore_setState hplan hstate] using Or.inl hrebinds
        · have hpublish : (bound.transaction.setState packetID.index .rejecting).publishRejected
              plan packetID (plan.packet packetID)
              = { bound.transaction.setState packetID.index .rejected with
                  submissionStatistics := bound.transaction.submissionStatistics.countRejected
                    (plan.packet packetID) } := by
            rw [GpuGraphSubmissionTransaction.publishRejected,
              GpuGraphSubmissionTransaction.validFor_setState, hplan,
              GpuGraphSubmissionTransaction.stateAt_setState_self hstate]
            simp [GpuGraphSubmissionTransaction.setState, List.modify_modify_eq,
              Function.comp_def]
          simp only [howned, hran, hpublish]
          refine Or.inr ⟨bound, hrebinds, ?_, ?_⟩
          · apply PacketStep.reject hguard.2 (hattempt ▸ hne) hstate hunresolved
            rw [hattempt]
            exact hmoves
          · exact GpuGraphSubmissionTransaction.stateAt_setState_self hstate

/-- `acceptSubmittingPacket` accepts the packet or leaves every packet as it was. -/
lemma acceptSubmittingPacket_cases (s : TransactionSystem) (plan : PublishedPlan)
    (packetID : GpuSubmissionPacketId) (token : QueueSubmissionToken)
    (lease : GpuTaskPacketSubmissionLease) (nativeSubmissionInfo : Option NativeSubmissionInfo) :
    (∃ s', s.acceptSubmittingPacket plan packetID token lease nativeSubmissionInfo = (s', false) ∧
      Rebinds plan s s') ∨
    ∃ bound s',
      s.acceptSubmittingPacket plan packetID token lease nativeSubmissionInfo = (s', true) ∧
        Rebinds plan s bound ∧ PacketStep plan bound s' := by
  unfold acceptSubmittingPacket
  split
  · exact Or.inl ⟨s, rfl, Or.inl rfl⟩
  · next hguard =>
    simp only [Bool.or_eq_true, Bool.not_eq_true', not_or, Bool.not_eq_false] at hguard
    cases hbind : s.bindRecordingAttempt plan lease.recordingAttemptGeneration with
    | none => exact Or.inl ⟨s, rfl, Or.inl rfl⟩
    | some bound =>
      have hrebinds : Rebinds plan s bound := Or.inr ⟨_, hbind⟩
      obtain ⟨hattempt, hne⟩ := bound_ne_zero hbind
      cases hqueue : GpuGraphSubmissionTransaction.submissionQueue plan (plan.packet packetID)
          token with
      | none => exact Or.inl ⟨bound, by simp only [hqueue], hrebinds⟩
      | some queueInfo =>
        rcases GpuTaskGraphLifecycle.leaseCall_cases bound.graph
          (.completePacketSubmission plan (plan.packetTasks packetID) token lease) rfl
          (fun _ => rfl) with hrefused | ⟨graph, hran, hmoves⟩
        · exact Or.inl ⟨bound, by simp only [hqueue, hrefused], hrebinds⟩
        · refine Or.inr ⟨bound,
            { graph, transaction := bound.transaction.publishAccepted packetID.index
                (plan.packet packetID) queueInfo.queueClass token nativeSubmissionInfo },
            by simp only [hqueue, hran], hrebinds, ?_⟩
          apply PacketStep.accept hguard.1.1.1.2 (hattempt ▸ hne) hqueue
          rw [hattempt]
          exact hmoves

/-- `rejectSubmittingPacket` rejects the packet or leaves every packet as it was. -/
lemma rejectSubmittingPacket_cases (s : TransactionSystem) (plan : PublishedPlan)
    (packetID : GpuSubmissionPacketId) (lease : GpuTaskPacketSubmissionLease) :
    Rebinds plan s (s.rejectSubmittingPacket plan packetID lease) ∨
    ∃ bound, Rebinds plan s bound ∧
      PacketStep plan bound (s.rejectSubmittingPacket plan packetID lease) ∧
      (s.rejectSubmittingPacket plan packetID lease).transaction.stateAt packetID.index
        = some .rejected := by
  unfold rejectSubmittingPacket
  split
  · exact Or.inl (Or.inl rfl)
  · next hguard =>
    simp only [Bool.or_eq_true, Bool.not_eq_true', not_or, Bool.not_eq_false] at hguard
    cases hbind : s.bindRecordingAttempt plan lease.recordingAttemptGeneration with
    | none => exact Or.inl (Or.inl rfl)
    | some bound =>
      have hrebinds : Rebinds plan s bound := Or.inr ⟨_, hbind⟩
      obtain ⟨hattempt, hne⟩ := bound_ne_zero hbind
      by_cases howned : bound.transaction.ownedState plan packetID
          lease.recordingAttemptGeneration = some .submitting
      · simp only [howned, ne_eq, not_true_eq_false, if_false]
        obtain ⟨hplan, -, hstate⟩ :=
          GpuGraphSubmissionTransaction.ownedState_eq_some.1 howned
        rcases GpuTaskGraphLifecycle.leaseCall_cases bound.graph
          (.abortPacketSubmission plan (plan.packetTasks packetID) lease) rfl
          (fun _ => rfl) with hrefused | ⟨graph, hran, hmoves⟩
        · simpa only [hrefused] using Or.inl hrebinds
        · simp only [hran]
          refine Or.inr ⟨bound, hrebinds, ?_, ?_⟩
          · apply PacketStep.rejectSubmission hguard.1.1.2 (hattempt ▸ hne) hplan hstate
            rw [hattempt]
            exact hmoves
          · obtain ⟨runtime, hruntime, -⟩ :=
              GpuGraphSubmissionTransaction.stateAt_eq_some.1 hstate
            rw [GpuGraphSubmissionTransaction.publishSubmissionRejected_eq hplan hstate]
            simp [GpuGraphSubmissionTransaction.stateAt, hruntime]
      · simp only [howned, ne_eq, not_false_eq_true, if_true]
        exact Or.inl hrebinds

/-! ## Calls as steps -/

lemma rejectPacket_steps (s : TransactionSystem) (plan : PublishedPlan)
    (packetID : GpuSubmissionPacketId) (attempt : ℕ) :
    PacketSteps plan s (s.rejectPacket plan packetID attempt) := by
  rcases rejectPacket_cases s plan packetID attempt with hrebinds | ⟨bound, hrebinds, hstep, -⟩
  · exact hrebinds.steps
  · exact hrebinds.steps.tail hstep

lemma beginPacketSubmission_steps (s : TransactionSystem) (plan : PublishedPlan)
    (packetID : GpuSubmissionPacketId) (attempt : ℕ) (outLease : GpuTaskPacketSubmissionLease) :
    PacketSteps plan s (s.beginPacketSubmission plan packetID attempt outLease).1 := by
  rcases beginPacketSubmission_cases s plan packetID attempt outLease with
    ⟨s', hresult, hrebinds⟩ | ⟨bound, s', lease, hresult, hrebinds, hstep⟩
  · rw [hresult]
    exact hrebinds.steps
  · rw [hresult]
    exact hrebinds.steps.tail hstep

lemma acceptSubmittingPacket_steps (s : TransactionSystem) (plan : PublishedPlan)
    (packetID : GpuSubmissionPacketId) (token : QueueSubmissionToken)
    (lease : GpuTaskPacketSubmissionLease) (nativeSubmissionInfo : Option NativeSubmissionInfo) :
    PacketSteps plan s
      (s.acceptSubmittingPacket plan packetID token lease nativeSubmissionInfo).1 := by
  rcases acceptSubmittingPacket_cases s plan packetID token lease nativeSubmissionInfo with
    ⟨s', hresult, hrebinds⟩ | ⟨bound, s', hresult, hrebinds, hstep⟩
  · rw [hresult]
    exact hrebinds.steps
  · rw [hresult]
    exact hrebinds.steps.tail hstep

lemma acceptPacket_steps (s : TransactionSystem) (plan : PublishedPlan)
    (packetID : GpuSubmissionPacketId) (token : QueueSubmissionToken) :
    PacketSteps plan s (s.acceptPacket plan packetID token).1 := by
  unfold acceptPacket
  simp only
  split
  · exact .refl
  · have hbegin := beginPacketSubmission_steps s plan packetID
      s.transaction.recordingAttemptGeneration {}
    cases hresult : s.beginPacketSubmission plan packetID
        s.transaction.recordingAttemptGeneration {} with
    | mk s' lease =>
      rw [hresult] at hbegin
      cases lease with
      | none => exact hbegin
      | some lease =>
        exact hbegin.trans (acceptSubmittingPacket_steps s' plan packetID token lease none)

lemma markPacketRecorded_steps (s : TransactionSystem) (plan : PublishedPlan)
    (packetID : GpuSubmissionPacketId) (attempt : ℕ) :
    PacketSteps plan s (s.markPacketRecorded plan packetID attempt).1 := by
  unfold markPacketRecorded
  cases hready : s.bindReadyPacket plan packetID attempt with
  | none => exact .refl
  | some bound =>
    obtain ⟨hvalid, hbind⟩ := bindReadyPacket_eq_some hready
    have hbound : PacketSteps plan s bound := .single (.bind hbind)
    obtain ⟨hattempt, hne⟩ := bound_ne_zero hbind
    simp only
    split
    · next howned =>
      obtain ⟨-, -, hstate⟩ := GpuGraphSubmissionTransaction.ownedState_eq_some.1 howned
      exact hbound.tail (.mark hvalid (hattempt ▸ hne) hstate)
    · exact hbound

/-- The loop of `discardUnaccepted`. -/
lemma discardPackets_steps (plan : PublishedPlan) (attempt : ℕ) (indices : List ℕ)
    (s : TransactionSystem) : PacketSteps plan s (discardPackets plan attempt s indices).1 := by
  induction indices generalizing s with
  | nil => exact .refl
  | cons index rest ih =>
    have hreject := rejectPacket_steps s plan (plan.packetIdAt index) attempt
    unfold discardPackets
    split
    · exact .refl
    · split
      · exact .refl
      · exact .refl
      · exact .refl
      · exact ih s
      · exact ih s
      all_goals
        split
        · exact .refl
        · simp only
          split
          · exact hreject.trans (ih _)
          · exact hreject

lemma discardUnaccepted_steps (s : TransactionSystem) (plan : PublishedPlan) (attempt : ℕ) :
    PacketSteps plan s (s.discardUnaccepted plan attempt).1 := by
  unfold discardUnaccepted
  split
  · exact .refl
  · cases hbind : s.bindRecordingAttempt plan attempt with
    | none => exact .refl
    | some bound =>
      have hbound : PacketSteps plan s bound := .single (.bind hbind)
      exact hbound.trans (discardPackets_steps plan attempt _ bound)

/-- Every transaction call is a sequence of primitive steps. -/
theorem callTransaction_steps (s : TransactionSystem) (plan : PublishedPlan)
    (call : TransactionCall) : PacketSteps plan s (s.callTransaction plan call) := by
  cases call with
  | markPacketRecorded packetID attempt => exact markPacketRecorded_steps s plan packetID attempt
  | acceptPacket packetID token => exact acceptPacket_steps s plan packetID token
  | rejectPacket packetID attempt => exact rejectPacket_steps s plan packetID _
  | rejectTask task attempt =>
    show PacketSteps plan s (s.rejectTask plan task _)
    unfold rejectTask
    split
    · exact .refl
    · exact rejectPacket_steps s plan _ _
  | discardUnaccepted attempt => exact discardUnaccepted_steps s plan _
  | beginPacketSubmission packetID attempt outLease =>
    exact beginPacketSubmission_steps s plan packetID attempt outLease
  | acceptSubmittingPacket packetID token lease info =>
    exact acceptSubmittingPacket_steps s plan packetID token lease info
  | rejectSubmittingPacket packetID lease =>
    rcases rejectSubmittingPacket_cases s plan packetID lease with
      hrebinds | ⟨bound, hrebinds, hstep, -⟩
    · exact hrebinds.steps
    · exact hrebinds.steps.tail hstep

/-- A call for another plan than the transaction's does nothing. -/
theorem callTransaction_of_not_validFor (h : s.transaction.validFor plan = false)
    (call : TransactionCall) : s.callTransaction plan call = s := by
  have hbind : ∀ attempt, s.bindRecordingAttempt plan attempt = none := by
    intro attempt
    cases hbind : s.bindRecordingAttempt plan attempt with
    | none => rfl
    | some bound =>
      rw [(bindRecordingAttempt_eq_some.1 hbind).2.1] at h
      cases h
  cases call with
  | markPacketRecorded packetID attempt =>
    simp [callTransaction, markPacketRecorded, bindReadyPacket, hbind]
  | acceptPacket packetID token => simp [callTransaction, acceptPacket, h]
  | rejectPacket packetID attempt => simp [callTransaction, rejectPacket, h]
  | rejectTask task attempt => simp [callTransaction, rejectTask, h]
  | discardUnaccepted attempt => simp [callTransaction, discardUnaccepted, h]
  | beginPacketSubmission packetID attempt outLease =>
    simp [callTransaction, beginPacketSubmission, h]
  | acceptSubmittingPacket packetID token lease info =>
    simp [callTransaction, acceptSubmittingPacket, h]
  | rejectSubmittingPacket packetID lease => simp [callTransaction, rejectSubmittingPacket, h]

end Calls

end TransactionSystem

end NwbLot.PacketRuntime
