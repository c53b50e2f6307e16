import NwbLot.PacketRuntime.PacketAgreement

/-!
# Runs of a transaction

Every sequence of transaction and recorder calls keeps transaction and graph in agreement.

A primitive step keeps `Agrees` and moves the counters by its own packet; a call is a list of such
steps, and a run a list of calls.
-/

namespace NwbLot.PacketRuntime

open TaskGraph

/-! ## Counters of the primitive steps -/

namespace GpuTaskGraphSubmissionStatistics

variable (statistics : GpuTaskGraphSubmissionStatistics)

/-- The counters of accepted and rejected packets and tasks. -/
def packetCounters : ℕ × ℕ × ℕ × ℕ :=
  (statistics.acceptedPacketCount, statistics.acceptedTaskCount, statistics.rejectedPacketCount,
    statistics.rejectedTaskCount)

@[simp] lemma packetCounters_countQueueClass (queueClass : CommandQueue)
    (info : NativeSubmissionInfo) :
    (statistics.countQueueClass queueClass info).packetCounters = statistics.packetCounters := by
  cases queueClass <;> rfl

@[simp] lemma packetCounters_countNative (packet : GpuSubmissionPacket)
    (queueClass : CommandQueue) (info : NativeSubmissionInfo) :
    (statistics.countNative packet queueClass info).packetCounters
      = statistics.packetCounters := by
  rw [countNative, packetCounters_countQueueClass]
  rfl

end GpuTaskGraphSubmissionStatistics

namespace TransactionSystem

variable {aborted : Bool} {plan : PublishedPlan} {s s' : TransactionSystem}

/-- A packet of the plan that is not settled, in its old and its new state. -/
lemma resolves_setState (plan : PublishedPlan) {packetID : GpuSubmissionPacketId}
    {state : GpuPacketRuntimeState} (target : GpuPacketRuntimeState)
    (hstate : s.transaction.stateAt packetID.index = some state)
    (hunresolved : unresolved state = true) (haccepted : target ≠ .accepted)
    (hrejected : target ≠ .rejected) :
    Resolves plan s.transaction (s.transaction.setState packetID.index target) packetID.index
      target where
  planGeneration := rfl
  attempt := rfl
  packets := ⟨_, rfl, fun _ => rfl⟩
  unsettled := by
    intro runtime hruntime
    obtain ⟨runtime', hruntime', rfl⟩ :=
      GpuGraphSubmissionTransaction.stateAt_eq_some.1 hstate
    rw [hruntime] at hruntime'
    cases hruntime'
    constructor
    · intro heq
      rw [heq] at hunresolved
      cases hunresolved
    · intro heq
      rw [heq] at hunresolved
      cases hunresolved
  counters := by
    intro packet _
    simp only [haccepted, hrejected, if_false, Nat.add_zero]
    exact ⟨rfl, rfl, rfl, rfl⟩

/-- What a primitive step does: it binds the transaction, or one unsettled packet of the plan moves
together with its tasks. -/
lemma PacketStep.resolves (hplan : PlanPackets plan) (hstep : PacketStep plan s s')
    (h : Agrees aborted plan s) :
    (∃ attempt, s.bindRecordingAttempt plan attempt = some s') ∨
    ∃ packetID target, plan.validPacket packetID = true ∧
      s.transaction.recordingAttemptGeneration ≠ 0 ∧
      Resolves plan s.transaction s'.transaction packetID.index target ∧
      (∀ j, (∀ id ∈ plan.packetTasks packetID, id.index ≠ j) →
        s'.graph.tasks[j]? = s.graph.tasks[j]?) ∧
      PacketAgrees aborted s'.graph (plan.packetTasks packetID)
        s.transaction.recordingAttemptGeneration target := by
  cases hstep with
  | bind hbind => exact Or.inl ⟨_, hbind⟩
  | @mark packetID hvalid hbound hstate =>
    refine Or.inr ⟨packetID, .recorded, hvalid, hbound,
      resolves_setState plan _ hstate rfl (by decide) (by decide), fun _ _ => rfl, ?_⟩
    obtain ⟨runtime, hruntime, hdeclared⟩ :=
      GpuGraphSubmissionTransaction.stateAt_eq_some.1 hstate
    have hagrees := h.packets _ _ runtime (PublishedPlan.packet_at hvalid) hruntime
    rw [hdeclared] at hagrees
    exact hagrees
  | @submit packetID state graph hvalid hbound hstate hunresolved hmoves =>
    exact Or.inr ⟨packetID, .submitting, hvalid, hbound,
      resolves_setState plan _ hstate hunresolved (by decide) (by decide), hmoves.other,
      hmoves.to_target⟩
  | @accept packetID graph queueInfo token info hvalid hbound hqueue hmoves =>
    have hpacket := PublishedPlan.packet_at hvalid
    refine Or.inr ⟨packetID, .accepted, hvalid, hbound, ?_, hmoves.other, hmoves.to_target⟩
    refine ⟨rfl, rfl, ⟨_, rfl, fun _ => rfl⟩, ?_, ?_⟩
    · -- The tasks were submitting, so the packet was.
      intro runtime hruntime
      have hagrees := h.packets _ _ runtime hpacket hruntime
      have hne := hplan.nonempty _ (List.mem_of_getElem? hpacket)
      have hsubmitting : TasksIn s.graph (plan.packetTasks packetID)
          s.transaction.recordingAttemptGeneration .submitting := by
        intro id hid
        obtain ⟨task, htask, hsource, hattempt⟩ := hmoves.from_source id hid
        exact ⟨task, htask, beq_iff_eq.1 hsource, hattempt⟩
      have hstate : runtime.state = .submitting :=
        (hagrees.state_iff hne rfl (by simp)).2 hsubmitting
      rw [hstate]
      exact ⟨by decide, by decide⟩
    · intro packet hpacket'
      rw [hpacket] at hpacket'
      cases hpacket'
      have hcounters : (s.transaction.publishAccepted packetID.index (plan.packet packetID)
          queueInfo.queueClass token info).submissionStatistics.packetCounters
          = (s.transaction.submissionStatistics.countAccepted
            (plan.packet packetID)).packetCounters := by
        cases info with
        | none => rfl
        | some info => exact GpuTaskGraphSubmissionStatistics.packetCounters_countNative _ _ _ _
      simp only [GpuTaskGraphSubmissionStatistics.packetCounters, Prod.mk.injEq] at hcounters
      exact ⟨hcounters.1, hcounters.2.1, hcounters.2.2.1, hcounters.2.2.2⟩
  | @reject packetID state graph hvalid hbound hstate hunresolved hmoves =>
    have hpacket := PublishedPlan.packet_at hvalid
    refine Or.inr ⟨packetID, .rejected, hvalid, hbound, ?_, hmoves.other, hmoves.to_target⟩
    refine ⟨rfl, rfl, ⟨_, rfl, fun _ => rfl⟩, ?_, ?_⟩
    · exact (resolves_setState plan .submitting hstate hunresolved
        (by decide) (by decide)).unsettled
    · intro packet hpacket'
      rw [hpacket] at hpacket'
      cases hpacket'
      exact ⟨rfl, rfl, rfl, rfl⟩
  | @rejectSubmission packetID graph hvalid hbound hvalidFor hstate hmoves =>
    have hpacket := PublishedPlan.packet_at hvalid
    refine Or.inr ⟨packetID, .rejected, hvalid, hbound, ?_, hmoves.other, hmoves.to_target⟩
    rw [GpuGraphSubmissionTransaction.publishSubmissionRejected_eq hvalidFor hstate]
    refine ⟨rfl, rfl, ⟨_, rfl, fun _ => rfl⟩, ?_, ?_⟩
    · intro runtime hruntime
      obtain ⟨runtime', hruntime', hsubmitting⟩ :=
        GpuGraphSubmissionTransaction.stateAt_eq_some.1 hstate
      rw [hruntime] at hruntime'
      cases hruntime'
      rw [hsubmitting]
      exact ⟨by decide, by decide⟩
    · intro packet hpacket'
      rw [hpacket] at hpacket'
      cases hpacket'
      exact ⟨rfl, rfl, rfl, rfl⟩

/-- Binding a transaction keeps it in agreement with the graph. -/
lemma agrees_of_bind {attempt : ℕ} (h : Agrees aborted plan s)
    (hbind : s.bindRecordingAttempt plan attempt = some s') : Agrees aborted plan s' := by
  obtain ⟨hmatches, -, hattempt, rfl⟩ := bindRecordingAttempt_eq_some.1 hbind
  refine ⟨h.planGeneration, h.length, ?_, ?_, h.counted.acceptedPackets, h.counted.acceptedTasks,
    h.counted.rejectedPackets, h.counted.rejectedTasks⟩
  · intro i packet runtime hpacket hruntime
    have hagrees := h.packets i packet runtime hpacket hruntime
    rcases hattempt with hzero | hsame
    · -- An unbound transaction has not submitted or settled any packet.
      have hunresolved := h.unbound hzero runtime (List.mem_of_getElem? hruntime)
      cases hstate : runtime.state with
      | declared => rw [hstate] at hagrees; exact hagrees
      | recorded => rw [hstate] at hagrees; exact hagrees
      | submitting => rw [hstate] at hunresolved; cases hunresolved
      | rejecting => rw [hstate] at hunresolved; cases hunresolved
      | accepted => rw [hstate] at hunresolved; cases hunresolved
      | rejected => rw [hstate] at hunresolved; cases hunresolved
    · rw [hsame] at hagrees
      exact hagrees
  · intro hzero
    exact absurd hzero (GpuTaskGraphLifecycle.matchesRecordingAttempt_iff.1 hmatches).1

/-- Every primitive step keeps transaction and graph in agreement. -/
theorem PacketStep.agrees (hplan : PlanPackets plan) (hstep : PacketStep plan s s')
    (h : Agrees aborted plan s) : Agrees aborted plan s' := by
  rcases hstep.resolves hplan h with
    ⟨attempt, hbind⟩ | ⟨packetID, target, hvalid, hbound, hresolves, hother, htarget⟩
  · exact agrees_of_bind h hbind
  · exact h.resolves hplan target (PublishedPlan.packet_at hvalid) hbound hresolves hother htarget

/-- No primitive step moves a settled packet. -/
theorem PacketStep.settled (hplan : PlanPackets plan) (hstep : PacketStep plan s s')
    (h : Agrees aborted plan s) {i : ℕ} {state : GpuPacketRuntimeState}
    (hsettled : state = .accepted ∨ state = .rejected)
    (hstate : s.transaction.stateAt i = some state) : s'.transaction.stateAt i = some state := by
  rcases hstep.resolves hplan h with
    ⟨attempt, hbind⟩ | ⟨packetID, target, -, -, hresolves, -, -⟩
  · obtain ⟨-, -, -, rfl⟩ := bindRecordingAttempt_eq_some.1 hbind
    exact hstate
  · obtain ⟨f, hpackets, -⟩ := hresolves.packets
    obtain ⟨runtime, hruntime, hruntimeState⟩ :=
      GpuGraphSubmissionTransaction.stateAt_eq_some.1 hstate
    have hne : packetID.index ≠ i := by
      rintro rfl
      obtain ⟨haccepted, hrejected⟩ := hresolves.unsettled runtime hruntime
      rcases hsettled with rfl | rfl
      · exact haccepted hruntimeState
      · exact hrejected hruntimeState
    apply GpuGraphSubmissionTransaction.stateAt_eq_some.2
    exact ⟨runtime, by rw [hpackets, List.getElem?_modify_ne f _ hne, hruntime], hruntimeState⟩

/-- Any number of steps keep the agreement and the settled packets. -/
lemma PacketSteps.agrees (hplan : PlanPackets plan) (hsteps : PacketSteps plan s s')
    (h : Agrees aborted plan s) :
    Agrees aborted plan s' ∧ ∀ (i : ℕ) (state : GpuPacketRuntimeState),
      (state = .accepted ∨ state = .rejected) →
      s.transaction.stateAt i = some state → s'.transaction.stateAt i = some state := by
  induction hsteps with
  | refl => exact ⟨h, fun _ _ _ hstate => hstate⟩
  | tail _ hstep ih =>
    obtain ⟨hagrees, hsettled⟩ := ih
    refine ⟨hstep.agrees hplan hagrees, ?_⟩
    intro i state hstate hat
    exact hstep.settled hplan hagrees hstate (hsettled i state hstate hat)

/-! ## Recorder calls keep the agreement -/

/-- The recorder leaves submitted and settled tasks alone. -/
lemma tasksIn_of_records {aborts : Bool} {graph graph' : GpuTaskGraphLifecycle}
    {tasks : List GpuTaskId} {attempt : ℕ} {state : GpuTaskLifecycleState}
    (hrecords : Records aborts graph graph') (hstate : state.untouched = false)
    (h : TasksIn graph tasks attempt state) : TasksIn graph' tasks attempt state := by
  intro id hid
  obtain ⟨task, htask, rfl, hattempt⟩ := h id hid
  obtain ⟨task', htask', rfl | ⟨huntouched, -⟩⟩ := hrecords.task_after htask
  · exact ⟨task', htask', rfl, hattempt⟩
  · rw [hstate] at huntouched
    cases huntouched

lemma untouched_of_records {aborts : Bool} {graph graph' : GpuTaskGraphLifecycle}
    {tasks : List GpuTaskId} (hrecords : Records aborts graph graph')
    (haborts : aborts = true → aborted = true) (h : Untouched aborted graph tasks) :
    Untouched aborted graph' tasks := by
  intro id hid task' htask'
  obtain ⟨task, htask, rfl | ⟨-, -, huntouched | ⟨habort, hdiscarded⟩⟩⟩ :=
    hrecords.task id.index task' htask'
  · exact h id hid _ htask
  · exact Or.inl huntouched
  · exact Or.inr ⟨haborts habort, hdiscarded⟩

/-- A recorder call keeps the agreement. -/
theorem agrees_of_records {aborts : Bool} {graph : GpuTaskGraphLifecycle}
    (hrecords : Records aborts s.graph graph) (haborts : aborts = true → aborted = true)
    (h : Agrees aborted plan s) :
    Agrees aborted plan { s with graph := graph } := by
  refine ⟨h.planGeneration, h.length, ?_, h.unbound, h.counted⟩
  intro i packet runtime hpacket hruntime
  have hagrees := h.packets i packet runtime hpacket hruntime
  cases hstate : runtime.state with
  | declared => rw [hstate] at hagrees; exact untouched_of_records hrecords haborts hagrees
  | recorded => rw [hstate] at hagrees; exact untouched_of_records hrecords haborts hagrees
  | submitting => rw [hstate] at hagrees; exact tasksIn_of_records hrecords rfl hagrees
  | rejecting => rw [hstate] at hagrees; exact hagrees
  | accepted => rw [hstate] at hagrees; exact tasksIn_of_records hrecords rfl hagrees
  | rejected => rw [hstate] at hagrees; exact tasksIn_of_records hrecords rfl hagrees

/-! ## Runs -/

/-- The call is not for another plan under the generation of this one. -/
def OwnPlan (plan : PublishedPlan) (call : PacketCall) : Prop :=
  ∀ plan' transactionCall, call = .transaction plan' transactionCall →
    plan'.planGeneration = plan.planGeneration → plan' = plan

/-- Every call keeps the agreement and the settled packets. -/
theorem call_agrees (hplan : PlanPackets plan) (h : Agrees aborted plan s) {call : PacketCall}
    (hown : OwnPlan plan call) (haborts : call.abortsRecording = true → aborted = true) :
    Agrees aborted plan (s.call call) ∧ ∀ (i : ℕ) (state : GpuPacketRuntimeState),
      (state = .accepted ∨ state = .rejected) →
      s.transaction.stateAt i = some state →
        (s.call call).transaction.stateAt i = some state := by
  cases call with
  | recorder call =>
    exact ⟨agrees_of_records (records_record s.graph call) haborts h, fun _ _ _ hstate => hstate⟩
  | transaction plan' call =>
    show Agrees aborted plan (s.callTransaction plan' call) ∧ _
    cases hvalid : s.transaction.validFor plan' with
    | false =>
      rw [TransactionSystem.call, callTransaction_of_not_validFor hvalid]
      exact ⟨h, fun _ _ _ hstate => hstate⟩
    | true =>
      have hgeneration : plan'.planGeneration = plan.planGeneration := by
        rw [← h.planGeneration]
        simp only [GpuGraphSubmissionTransaction.validFor, Bool.and_eq_true, beq_iff_eq] at hvalid
        exact hvalid.1.1.1.2.symm
      obtain rfl := hown plan' call rfl hgeneration
      exact PacketSteps.agrees hplan (callTransaction_steps s plan' call) h

/-- Every sequence of calls keeps the agreement. -/
theorem run_agrees (hplan : PlanPackets plan) (h : Agrees aborted plan s)
    {calls : List PacketCall} (hown : ∀ call ∈ calls, OwnPlan plan call)
    (haborts : ∀ call ∈ calls, call.abortsRecording = true → aborted = true) :
    Agrees aborted plan (s.run calls) := by
  induction calls generalizing s with
  | nil => exact h
  | cons call rest ih =>
    have hcall := call_agrees hplan h (hown call List.mem_cons_self)
      (haborts call List.mem_cons_self)
    exact ih hcall.1 (fun call hcall => hown call (List.mem_cons_of_mem _ hcall))
      fun call hcall => haborts call (List.mem_cons_of_mem _ hcall)

/-- A transaction that was reset for a plan, on a graph whose tasks no submission and no callback
has touched. -/
structure Fresh (plan : PublishedPlan) (s : TransactionSystem) : Prop where
  reset : ∃ earlier : GpuGraphSubmissionTransaction,
    (∀ runtime ∈ earlier.packets, runtime.state ≠ .submitting ∧ runtime.state ≠ .rejecting) ∧
      s.transaction = earlier.reset plan
  valid : s.transaction.validFor plan = true
  untouched : ∀ task ∈ s.graph.tasks, task.lifecycleState.untouched = true

/-- The fields of a successful reset. -/
lemma Fresh.transaction_eq (h : Fresh plan s) :
    s.transaction.packets = List.replicate plan.compiled.packets.length {} ∧
      s.transaction.planGeneration = plan.planGeneration ∧
      s.transaction.recordingAttemptGeneration = 0 ∧
      s.transaction.submissionStatistics.packetCounters = (0, 0, 0, 0) := by
  have hvalid := h.valid
  obtain ⟨earlier, hidle, hreset⟩ := h.reset
  have hresolved : ¬ (earlier.packets.any fun runtime =>
      runtime.state == .submitting || runtime.state == .rejecting) = true := by
    simp only [List.any_eq_true, Bool.or_eq_true, beq_iff_eq, not_exists, not_and, not_or]
    exact hidle
  rw [hreset] at hvalid ⊢
  unfold GpuGraphSubmissionTransaction.reset at hvalid ⊢
  simp only [if_neg hresolved] at hvalid ⊢
  split at hvalid
  · cases hvalid
  · next hexports =>
    rw [if_neg hexports]
    exact ⟨rfl, rfl, rfl, rfl⟩

lemma agrees_of_fresh (h : Fresh plan s) (aborted : Bool) : Agrees aborted plan s := by
  obtain ⟨hpackets, hgeneration, hunbound, hcounters⟩ := h.transaction_eq
  have hdeclared : ∀ runtime ∈ s.transaction.packets, runtime.state = .declared := by
    intro runtime hruntime
    rw [hpackets] at hruntime
    rw [(List.mem_replicate.1 hruntime).2]
  have hpacketCount : ∀ state, state ≠ .declared → countPackets s.transaction state = 0 := by
    intro state hne
    apply List.countP_eq_zero.2
    intro runtime hruntime
    simpa [hdeclared runtime hruntime] using hne.symm
  have htaskCount : ∀ state, state ≠ .declared → countTasks plan s.transaction state = 0 := by
    intro state hne
    apply List.sum_eq_zero
    intro count hcount
    obtain ⟨i, hi, rfl⟩ := List.getElem_of_mem hcount
    rw [List.getElem_zipWith, hdeclared _ (List.getElem_mem _), if_neg hne.symm]
  simp only [GpuTaskGraphSubmissionStatistics.packetCounters, Prod.mk.injEq] at hcounters
  refine ⟨hgeneration, by rw [hpackets, List.length_replicate], ?_, ?_, ?_⟩
  · intro i packet runtime _ hruntime
    rw [hdeclared runtime (List.mem_of_getElem? hruntime)]
    intro id _ task htask
    exact Or.inl (h.untouched task (List.mem_of_getElem? htask))
  · intro _ runtime hruntime
    rw [hdeclared runtime hruntime]
    rfl
  · constructor
    · rw [hcounters.1, hpacketCount _ (by decide)]
    · rw [hcounters.2.1, htaskCount _ (by decide)]
    · rw [hcounters.2.2.1, hpacketCount _ (by decide)]
    · rw [hcounters.2.2.2, htaskCount _ (by decide)]

/-- A state that agrees with the graph, packet by packet. -/
lemma stateAt_iff (hplan : PlanPackets plan) (h : Agrees aborted plan s) {i : ℕ}
    {packet : GpuSubmissionPacket} (hpacket : plan.compiled.packets[i]? = some packet) :
    (s.transaction.stateAt i = some .accepted ↔
      TasksIn s.graph (plan.compiled.packetTasksOf packet)
        s.transaction.recordingAttemptGeneration .accepted) ∧
    (s.transaction.stateAt i = some .rejected →
      TasksIn s.graph (plan.compiled.packetTasksOf packet)
        s.transaction.recordingAttemptGeneration .discarded) ∧
    (aborted = false → TasksIn s.graph (plan.compiled.packetTasksOf packet)
        s.transaction.recordingAttemptGeneration .discarded →
      s.transaction.stateAt i = some .rejected) := by
  obtain ⟨runtime, hruntime⟩ := h.runtime_at hpacket
  have hagrees := h.packets i packet runtime hpacket hruntime
  have hne := hplan.nonempty packet (List.mem_of_getElem? hpacket)
  have hstate : s.transaction.stateAt i = some runtime.state := by
    simp [GpuGraphSubmissionTransaction.stateAt, hruntime]
  rw [hstate, Option.some_inj, Option.some_inj]
  refine ⟨hagrees.state_iff hne rfl (by simp), ?_, ?_⟩
  · intro hrejected
    rw [hrejected] at hagrees
    exact hagrees
  · rintro rfl hdiscarded
    exact (hagrees.state_iff hne rfl (by simp)).2 hdiscarded

/-- After any calls on a fresh transaction and its recorder, a packet is accepted exactly when its
tasks are, and rejected exactly when they are discarded by the transaction; the counters are exact,
settled packets stay, and a begin or reject that fails leaves the packets as they were. -/
theorem transaction_agrees_with_graph {assignQueues : QueueAssigner}
    {options : GpuTaskGraphCompileOptions} {planGeneration : CompiledPlanGeneration}
    {graph : GpuTaskGraph} {topology : GpuTaskGraphQueueTopology} {out : GpuTaskGraphCompilation}
    (hcompiled : compile assignQueues options planGeneration graph topology = some out)
    (plan : PublishedPlan) (hplan : plan.compiled = out.compiledGraph)
    (start : TransactionSystem) (hfresh : Fresh plan start) (calls : List PacketCall)
    (hown : ∀ call ∈ calls, OwnPlan plan call) (reached : TransactionSystem)
    (hreached : start.run calls = reached) :
    (∀ i packet, plan.compiled.packets[i]? = some packet →
      (reached.transaction.stateAt i = some .accepted ↔
        TasksIn reached.graph (plan.compiled.packetTasksOf packet)
          reached.transaction.recordingAttemptGeneration .accepted) ∧
      (reached.transaction.stateAt i = some .rejected →
        TasksIn reached.graph (plan.compiled.packetTasksOf packet)
          reached.transaction.recordingAttemptGeneration .discarded) ∧
      ((∀ call ∈ calls, call.abortsRecording = false) →
        TasksIn reached.graph (plan.compiled.packetTasksOf packet)
          reached.transaction.recordingAttemptGeneration .discarded →
        reached.transaction.stateAt i = some .rejected)) ∧
    Counted plan reached.transaction ∧
    (∀ call, OwnPlan plan call → ∀ i state, (state = .accepted ∨ state = .rejected) →
      reached.transaction.stateAt i = some state →
        (reached.call call).transaction.stateAt i = some state) ∧
    (∀ plan' packetID attempt outLease,
      (reached.beginPacketSubmission plan' packetID attempt outLease).2 = none →
        (reached.beginPacketSubmission plan' packetID attempt outLease).1.transaction.packets
          = reached.transaction.packets) ∧
    (∀ plan' packetID attempt,
      (reached.rejectPacket plan' packetID attempt).transaction.stateAt packetID.index
          ≠ some .rejected →
        (reached.rejectPacket plan' packetID attempt).transaction.packets
          = reached.transaction.packets) ∧
    (∀ plan' packetID lease,
      (reached.rejectSubmittingPacket plan' packetID lease).transaction.stateAt packetID.index
          ≠ some .rejected →
        (reached.rejectSubmittingPacket plan' packetID lease).transaction.packets
          = reached.transaction.packets) := by
  subst hreached
  have hpackets := planPackets_of_compile hcompiled hplan
  have hagrees : Agrees true plan (start.run calls) :=
    run_agrees hpackets (agrees_of_fresh hfresh true) hown fun _ _ _ => rfl
  refine ⟨?_, hagrees.counted, ?_, ?_, ?_, ?_⟩
  · intro i packet hpacket
    obtain ⟨haccepted, hrejected, -⟩ := stateAt_iff hpackets hagrees hpacket
    refine ⟨haccepted, hrejected, ?_⟩
    intro hnone
    have hexact : Agrees false plan (start.run calls) := by
      apply run_agrees hpackets (agrees_of_fresh hfresh false) hown
      intro call hcall habort
      rw [hnone call hcall] at habort
      cases habort
    exact (stateAt_iff hpackets hexact hpacket).2.2 rfl
  · intro call howncall
    exact (call_agrees hpackets hagrees howncall fun _ => rfl).2
  · intro plan' packetID attempt outLease hnone
    rcases beginPacketSubmission_cases (start.run calls) plan' packetID attempt outLease with
      ⟨s', hresult, hrebinds⟩ | ⟨bound, s', lease, hresult, -, -⟩
    · rw [hresult]
      exact hrebinds.packets.1
    · rw [hresult] at hnone
      cases hnone
  · intro plan' packetID attempt hnot
    rcases rejectPacket_cases (start.run calls) plan' packetID attempt with
      hrebinds | ⟨bound, -, -, hrejected⟩
    · exact hrebinds.packets.1
    · exact absurd hrejected hnot
  · intro plan' packetID lease hnot
    rcases rejectSubmittingPacket_cases (start.run calls) plan' packetID lease with
      hrebinds | ⟨bound, -, -, hrejected⟩
    · exact hrebinds.packets.1
    · exact absurd hrejected hnot

/-- The published plan of a Graphics packet and a Compute packet that waits for it. -/
def producerConsumerPlan : PublishedPlan where
  compiled := (producerConsumerCompilation.map (·.compiledGraph)).getD {}
  published := true
  graphTaskCount := 2

/-- A fresh transaction on two declared tasks. -/
def producerConsumerSystem : TransactionSystem where
  graph :=
    { tasks :=
        [{ payload := .live, hasAcceptPayload := true, lifecycleAttemptGeneration := 3 },
         { payload := .live, hasDiscardPayload := true, lifecycleAttemptGeneration := 3 }]
      generation := 1
      activeRecordingAttemptGeneration := 3
      activeRecordingPlanGeneration := 1
      nextGeneration := 4 }
  transaction := GpuGraphSubmissionTransaction.reset {} producerConsumerPlan

/-- The producer is recorded and accepted, the consumer is rejected. -/
def producerConsumerCalls : List PacketCall :=
  [.recorder (.beginPacketRecording producerConsumerPlan [⟨0, 1⟩] 3 {}),
   .recorder (.completePacketRecording producerConsumerPlan [⟨0, 1⟩] ⟨1, 3, 4⟩),
   .transaction producerConsumerPlan (.markPacketRecorded ⟨0, 1⟩ 3),
   .transaction producerConsumerPlan (.acceptPacket ⟨0, 1⟩ ⟨.graphics, 7, 0, 1⟩),
   .transaction producerConsumerPlan (.rejectPacket ⟨1, 1⟩ none)]

lemma producerConsumer_fresh : Fresh producerConsumerPlan producerConsumerSystem where
  reset := ⟨{}, by simp, rfl⟩
  valid := by decide +kernel
  untouched := by decide

lemma producerConsumer_own : ∀ call ∈ producerConsumerCalls, OwnPlan producerConsumerPlan call := by
  intro call hcall plan' transactionCall heq _
  subst heq
  simp only [producerConsumerCalls, List.mem_cons, PacketCall.transaction.injEq, reduceCtorEq,
    false_or, List.not_mem_nil, or_false] at hcall
  rcases hcall with ⟨rfl, -⟩ | ⟨rfl, -⟩ | ⟨rfl, -⟩
  · rfl
  · rfl
  · rfl

theorem transaction_agrees_with_graph_twoPackets :
    (producerConsumerSystem.run producerConsumerCalls).transaction.stateAt 0 = some .accepted ∧
      (producerConsumerSystem.run producerConsumerCalls).transaction.stateAt 1
        = some .rejected ∧
      Counted producerConsumerPlan
        (producerConsumerSystem.run producerConsumerCalls).transaction := by
  obtain ⟨out, hout⟩ : ∃ out, producerConsumerCompilation = some out := ⟨_, rfl⟩
  have hplan : producerConsumerPlan.compiled = out.compiledGraph := by
    show (producerConsumerCompilation.map (·.compiledGraph)).getD {} = out.compiledGraph
    rw [hout]
    rfl
  have hcontract := transaction_agrees_with_graph hout producerConsumerPlan hplan
    producerConsumerSystem producerConsumer_fresh producerConsumerCalls producerConsumer_own _ rfl
  exact ⟨by decide +kernel, by decide +kernel, hcontract.2.1⟩

end TransactionSystem

end NwbLot.PacketRuntime
