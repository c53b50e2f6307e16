import NwbLot.PacketRuntime.QueueStatistics

/-!
# The statistics of the queues add up

In every state that a transaction can reach on its graph, through any published plans, the counters
of the transaction are the sums of the counters of the queues.
-/

namespace NwbLot.PacketRuntime

open TaskGraph
open GpuTaskGraphPhysicalQueueSubmissionStatistics (contribution contribution_of_unsettled)

/-! ## Counters of the steps -/

namespace GpuTaskGraphSubmissionStatistics

variable (statistics : GpuTaskGraphSubmissionStatistics)

variable {runtime : GpuPacketRuntime}

/-- An accepted packet without a native submission. -/
lemma read_countAccepted (queueClass : CommandQueue) (packet : GpuSubmissionPacket)
    (hstate : runtime.state = .accepted) (hnative : runtime.hasNativeSubmission = false)
    (counter : SubmissionCounter) :
    (statistics.countAccepted packet).read counter
      = statistics.read counter + contribution queueClass packet runtime counter := by
  unfold contribution GpuTaskGraphPhysicalQueueSubmissionStatistics.countPacket
  rw [hstate, hnative]
  cases counter <;>
    simp [read, countAccepted, classCounts, GpuTaskGraphPhysicalQueueSubmissionStatistics.read]

/-- The entries of one class after a native submission. -/
lemma classCounts_countNative {queueClass : CommandQueue} (hknown : queueClass.known = true)
    (packet : GpuSubmissionPacket) (info : NativeSubmissionInfo) (other : CommandQueue) :
    (statistics.countNative packet queueClass info).classCounts other
      = if queueClass = other then (statistics.classCounts other).add info
        else statistics.classCounts other := by
  cases queueClass with
  | kCount => cases hknown
  | graphics => cases other <;> rfl
  | compute => cases other <;> rfl
  | transfer => cases other <;> rfl

/-- The counters of all classes after a native submission. -/
lemma totals_countNative (packet : GpuSubmissionPacket) (queueClass : CommandQueue)
    (info : NativeSubmissionInfo) :
    (statistics.countNative packet queueClass info).packetCounters = statistics.packetCounters ∧
    (statistics.countNative packet queueClass info).nativeSubmissionCount
      = statistics.nativeSubmissionCount + 1 ∧
    (statistics.countNative packet queueClass info).rejectedSubmissionCount
      = statistics.rejectedSubmissionCount ∧
    (statistics.countNative packet queueClass info).native = statistics.native.add info ∧
    (statistics.countNative packet queueClass info).acceptedFrontierSubmissionCount
      = statistics.acceptedFrontierSubmissionCount
        + (if packet.joinsAcceptedQueueFrontier then 1 else 0) := by
  cases queueClass <;> exact ⟨rfl, rfl, rfl, rfl, rfl⟩

/-- An accepted packet with one. -/
lemma read_countNative {queueClass : CommandQueue} (hknown : queueClass.known = true)
    (packet : GpuSubmissionPacket) (hstate : runtime.state = .accepted)
    (hnative : runtime.hasNativeSubmission = true) (counter : SubmissionCounter) :
    ((statistics.countAccepted packet).countNative packet queueClass runtime.native).read counter
      = statistics.read counter + contribution queueClass packet runtime counter := by
  obtain ⟨hpackets, hsubmissions, hrejected, hcounts, hfrontier⟩ :=
    (statistics.countAccepted packet).totals_countNative packet queueClass runtime.native
  simp only [packetCounters, Prod.mk.injEq] at hpackets
  have hclass :=
    (statistics.countAccepted packet).classCounts_countNative hknown packet runtime.native
  unfold contribution GpuTaskGraphPhysicalQueueSubmissionStatistics.countPacket
  rw [hstate, hnative]
  cases counter with
  | nativeSubmissionsOf other | nativeCommandListsOf other | timelineWaitsOf other =>
    simp only [read, hclass]
    split <;>
      simp_all [countAccepted, classCounts, QueueClassSubmissionCounts.add,
        NativeSubmissionInfo.add, GpuTaskGraphPhysicalQueueSubmissionStatistics.read]
  | _ =>
    simp only [read, hpackets, hsubmissions, hrejected, hcounts, hfrontier]
    simp [countAccepted, NativeSubmissionInfo.add,
      GpuTaskGraphPhysicalQueueSubmissionStatistics.read]

/-- A rejected packet. -/
lemma read_countRejected (queueClass : CommandQueue) (packet : GpuSubmissionPacket)
    (hstate : runtime.state = .rejected) (hsubmission : runtime.nativeSubmissionRejected = false)
    (counter : SubmissionCounter) :
    (statistics.countRejected packet).read counter
      = statistics.read counter + contribution queueClass packet runtime counter := by
  unfold contribution GpuTaskGraphPhysicalQueueSubmissionStatistics.countPacket
  rw [hstate, hsubmission]
  cases counter <;>
    simp [read, countRejected, classCounts, GpuTaskGraphPhysicalQueueSubmissionStatistics.read]

/-- A packet whose native submission was rejected. -/
lemma read_countSubmissionRejected (queueClass : CommandQueue) (packet : GpuSubmissionPacket)
    (hstate : runtime.state = .rejected) (hsubmission : runtime.nativeSubmissionRejected = true)
    (counter : SubmissionCounter) :
    ({ statistics.countRejected packet with
        rejectedSubmissionCount := statistics.rejectedSubmissionCount + 1 } :
        GpuTaskGraphSubmissionStatistics).read counter
      = statistics.read counter + contribution queueClass packet runtime counter := by
  unfold contribution GpuTaskGraphPhysicalQueueSubmissionStatistics.countPacket
  rw [hstate, hsubmission]
  cases counter <;>
    simp [read, countRejected, classCounts, GpuTaskGraphPhysicalQueueSubmissionStatistics.read]

end GpuTaskGraphSubmissionStatistics

/-! ## The tally of a transaction -/

/-- The native flags fit the packet states, and every counter is the sum of what the packets add. -/
structure Tallied (plan : PublishedPlan) (transaction : GpuGraphSubmissionTransaction) : Prop where
  flags : ∀ runtime ∈ transaction.packets, FlagsFit runtime
  exact : ∀ counter, transaction.submissionStatistics.read counter
    = (List.zipWith (plan.packetContribution counter) plan.compiled.packets
      transaction.packets).sum

/-- An unsettled packet changes, and the counters follow. -/
structure Counts (plan : PublishedPlan) (transaction transaction' : GpuGraphSubmissionTransaction)
    (i : ℕ) (change : GpuPacketRuntime → GpuPacketRuntime) : Prop where
  packets : transaction'.packets = transaction.packets.modify i change
  unsettled : ∀ runtime, transaction.packets[i]? = some runtime →
    runtime.state ≠ .accepted ∧ runtime.state ≠ .rejected
  fits : ∀ runtime, transaction.packets[i]? = some runtime → FlagsFit runtime →
    FlagsFit (change runtime)
  counters : ∀ packet runtime, plan.compiled.packets[i]? = some packet →
    transaction.packets[i]? = some runtime → FlagsFit runtime → ∀ counter,
    transaction'.submissionStatistics.read counter
      = transaction.submissionStatistics.read counter
        + plan.packetContribution counter packet (change runtime)

/-- A packet that is neither accepted nor rejected has no native flag. -/
lemma FlagsFit.unsettled {runtime : GpuPacketRuntime} (h : FlagsFit runtime)
    (haccepted : runtime.state ≠ .accepted) (hrejected : runtime.state ≠ .rejected) :
    runtime.hasNativeSubmission = false ∧ runtime.nativeSubmissionRejected = false :=
  ⟨Bool.eq_false_iff.2 fun hnative => haccepted (h.accepted hnative),
    Bool.eq_false_iff.2 fun hsubmission => hrejected (h.rejected hsubmission)⟩

namespace Tallied

variable {plan : PublishedPlan} {transaction transaction' : GpuGraphSubmissionTransaction}

/-- Counters that follow a packet stay exact. -/
lemma counts (h : Tallied plan transaction) {i : ℕ} {packet : GpuSubmissionPacket}
    {runtime : GpuPacketRuntime} {change : GpuPacketRuntime → GpuPacketRuntime}
    (hpacket : plan.compiled.packets[i]? = some packet)
    (hruntime : transaction.packets[i]? = some runtime)
    (hcounts : Counts plan transaction transaction' i change) : Tallied plan transaction' := by
  constructor
  · intro after hafter
    rw [hcounts.packets] at hafter
    obtain ⟨j, hj⟩ := List.mem_iff_getElem?.1 hafter
    by_cases hij : i = j
    · subst hij
      rw [List.getElem?_modify_eq] at hj
      obtain ⟨before, hbefore, rfl⟩ := Option.map_eq_some_iff.1 hj
      exact hcounts.fits before hbefore (h.flags before (List.mem_of_getElem? hbefore))
    · rw [List.getElem?_modify_ne change _ hij] at hj
      exact h.flags after (List.mem_of_getElem? hj)
  · intro counter
    obtain ⟨haccepted, hrejected⟩ := hcounts.unsettled runtime hruntime
    have hbefore : plan.packetContribution counter packet runtime = 0 :=
      contribution_of_unsettled haccepted hrejected counter
    have hsum := @Tallies.sum_zipWith_modify _ _ (plan.packetContribution counter) change i packet
      runtime _ _ hpacket hruntime
    rw [hbefore, Nat.add_zero] at hsum
    rw [hcounts.counters packet runtime hpacket hruntime
      (h.flags runtime (List.mem_of_getElem? hruntime)), h.exact, hcounts.packets, hsum]

end Tallied

/-! ## The steps -/

namespace TransactionSystem

variable {plan : PublishedPlan} {s s' : TransactionSystem}

/-- Every submitting task lies in a packet that is submitting. -/
def SubmitsPackets (plan : PublishedPlan) (s : TransactionSystem) : Prop :=
  ∀ (i : ℕ) (task : GpuTaskLifecycleNode), s.graph.tasks[i]? = some task →
    task.lifecycleState = .submitting →
    ∃ k packet, plan.compiled.packets[k]? = some packet ∧
      s.transaction.stateAt k = some .submitting ∧
      ∃ id ∈ plan.compiled.packetTasksOf packet, id.index = i

/-- No task is submitting. -/
def Idle (graph : GpuTaskGraphLifecycle) : Prop :=
  ∀ task ∈ graph.tasks, task.lifecycleState ≠ .submitting

/-- A packet and its tasks move to a state, and the others stay where they are. -/
lemma SubmitsPackets.moves (h : SubmitsPackets plan s)
    {packetID : GpuSubmissionPacketId} (hvalid : plan.validPacket packetID = true)
    {change : GpuPacketRuntime → GpuPacketRuntime}
    (hpackets : s'.transaction.packets = s.transaction.packets.modify packetID.index change)
    (hother : ∀ j, (∀ id ∈ plan.packetTasks packetID, id.index ≠ j) →
      s'.graph.tasks[j]? = s.graph.tasks[j]?)
    (hmoved : ∀ id ∈ plan.packetTasks packetID, ∀ task, s'.graph.tasks[id.index]? = some task →
      task.lifecycleState = .submitting →
      s'.transaction.stateAt packetID.index = some .submitting) : SubmitsPackets plan s' := by
  have hpacket := PublishedPlan.packet_at hvalid
  intro i task htask hsubmitting
  by_cases hin : ∃ id ∈ plan.packetTasks packetID, id.index = i
  · obtain ⟨id, hid, rfl⟩ := hin
    exact ⟨packetID.index, plan.packet packetID, hpacket, hmoved id hid task htask hsubmitting, id,
      hid, rfl⟩
  · rw [hother i fun id hid heq => hin ⟨id, hid, heq⟩] at htask
    obtain ⟨k, packet, hk, hstate, id, hid, rfl⟩ := h i task htask hsubmitting
    have hne : packetID.index ≠ k := by
      rintro rfl
      rw [hpacket] at hk
      cases hk
      exact hin ⟨id, hid, rfl⟩
    refine ⟨k, packet, hk, ?_, id, hid, rfl⟩
    rw [GpuGraphSubmissionTransaction.stateAt, hpackets, List.getElem?_modify_ne change _ hne]
    exact hstate

/-- The packet of a submitting task. -/
lemma SubmitsPackets.packet_submitting (hplan : PlanPackets plan) (h : SubmitsPackets plan s)
    {packetID : GpuSubmissionPacketId} (hvalid : plan.validPacket packetID = true) {id : GpuTaskId}
    (hid : id ∈ plan.packetTasks packetID) {task : GpuTaskLifecycleNode}
    (htask : s.graph.tasks[id.index]? = some task)
    (hsubmitting : task.lifecycleState = .submitting) :
    s.transaction.stateAt packetID.index = some .submitting := by
  obtain ⟨k, packet, hk, hstate, id', hid', heq⟩ := h id.index task htask hsubmitting
  by_cases hne : k = packetID.index
  · rw [← hne]
    exact hstate
  · exact absurd heq
      (hplan.disjoint k packetID.index packet _ hk (PublishedPlan.packet_at hvalid) hne id' hid' id
        hid)

lemma unsettled_of_stateAt {i : ℕ} {state : GpuPacketRuntimeState}
    (hstate : s.transaction.stateAt i = some state) (haccepted : state ≠ .accepted)
    (hrejected : state ≠ .rejected) (runtime : GpuPacketRuntime)
    (hruntime : s.transaction.packets[i]? = some runtime) :
    runtime.state ≠ .accepted ∧ runtime.state ≠ .rejected := by
  obtain ⟨found, hfound, rfl⟩ := GpuGraphSubmissionTransaction.stateAt_eq_some.1 hstate
  rw [hruntime] at hfound
  cases hfound
  exact ⟨haccepted, hrejected⟩

lemma unsettled_of_unresolved {i : ℕ} {state : GpuPacketRuntimeState}
    (hstate : s.transaction.stateAt i = some state) (hunresolved : unresolved state = true) :
    ∀ runtime, s.transaction.packets[i]? = some runtime →
      runtime.state ≠ .accepted ∧ runtime.state ≠ .rejected := by
  apply unsettled_of_stateAt hstate
  · rintro rfl
    cases hunresolved
  · rintro rfl
    cases hunresolved

/-- Tasks that reached another state are not submitting. -/
lemma not_submitting {graph : GpuTaskGraphLifecycle} {tasks : List GpuTaskId} {attempt : ℕ}
    {target : GpuTaskLifecycleState} {claim : Prop} (htasks : TasksIn graph tasks attempt target)
    (hne : target ≠ .submitting) : ∀ id ∈ tasks, ∀ task, graph.tasks[id.index]? = some task →
      task.lifecycleState = .submitting → claim := by
  intro id hid task htask hsubmitting
  obtain ⟨task', htask', hstate, -⟩ := htasks id hid
  rw [htask] at htask'
  cases htask'
  exact absurd (hstate.symm.trans hsubmitting) hne

/-- What a primitive step does to the statistics: it binds the transaction, or one packet that is
not settled moves together with its tasks and is counted. -/
lemma PacketStep.counts (hplan : PlanPackets plan) (h : SubmitsPackets plan s)
    (hstep : PacketStep plan s s') :
    (∃ attempt, s.bindRecordingAttempt plan attempt = some s') ∨
    ∃ packetID runtime change, plan.validPacket packetID = true ∧
      s.transaction.packets[packetID.index]? = some runtime ∧
      Counts plan s.transaction s'.transaction packetID.index change ∧
      (∀ j, (∀ id ∈ plan.packetTasks packetID, id.index ≠ j) →
        s'.graph.tasks[j]? = s.graph.tasks[j]?) ∧
      (∀ id ∈ plan.packetTasks packetID, ∀ task, s'.graph.tasks[id.index]? = some task →
        task.lifecycleState = .submitting →
        s'.transaction.stateAt packetID.index = some .submitting) := by
  have hchanged : ∀ {packetID : GpuSubmissionPacketId} {state target : GpuPacketRuntimeState},
      s.transaction.stateAt packetID.index = some state → unresolved state = true →
      target ≠ .accepted → target ≠ .rejected →
      Counts plan s.transaction (s.transaction.setState packetID.index target) packetID.index
        fun runtime => { runtime with state := target } := by
    intro packetID state target hstate hunresolved haccepted hrejected
    have hunsettled := unsettled_of_unresolved hstate hunresolved
    refine ⟨rfl, hunsettled, ?_, ?_⟩
    · intro runtime hruntime hfit
      obtain ⟨hnative, hsubmission⟩ := hfit.unsettled (hunsettled runtime hruntime).1
        (hunsettled runtime hruntime).2
      exact ⟨fun h => absurd (hnative.symm.trans h) Bool.false_ne_true,
        fun h => absurd (hsubmission.symm.trans h) Bool.false_ne_true⟩
    · intro packet runtime _ _ _ counter
      exact (Nat.add_eq_left.2 (contribution_of_unsettled haccepted hrejected counter)).symm
  cases hstep with
  | bind hbind => exact Or.inl ⟨_, hbind⟩
  | @mark packetID hvalid hbound hstate =>
    obtain ⟨runtime, hruntime, -⟩ := GpuGraphSubmissionTransaction.stateAt_eq_some.1 hstate
    refine Or.inr ⟨packetID, runtime, _, hvalid, hruntime,
      hchanged hstate rfl (by decide) (by decide), fun _ _ => rfl, ?_⟩
    intro id hid task htask hsubmitting
    rw [h.packet_submitting hplan hvalid hid htask hsubmitting] at hstate
    cases hstate
  | @submit packetID state graph hvalid hbound hstate hunresolved hmoves =>
    obtain ⟨runtime, hruntime, -⟩ := GpuGraphSubmissionTransaction.stateAt_eq_some.1 hstate
    exact Or.inr ⟨packetID, runtime, _, hvalid, hruntime,
      hchanged hstate hunresolved (by decide) (by decide), hmoves.other,
      fun _ _ _ _ _ => GpuGraphSubmissionTransaction.stateAt_setState_self hstate⟩
  | @accept packetID graph queueInfo token info hvalid hbound hqueue hmoves =>
    have hpacket := PublishedPlan.packet_at hvalid
    -- The tasks were submitting, so the packet was.
    have hstate : s.transaction.stateAt packetID.index = some .submitting := by
      obtain ⟨id, hid⟩ :=
        List.exists_mem_of_ne_nil _ (hplan.nonempty _ (List.mem_of_getElem? hpacket))
      obtain ⟨task, htask, hsource, -⟩ := hmoves.from_source id hid
      exact h.packet_submitting hplan hvalid hid htask (beq_iff_eq.1 hsource)
    obtain ⟨runtime, hruntime, hsubmitting⟩ :=
      GpuGraphSubmissionTransaction.stateAt_eq_some.1 hstate
    have hunsettled := unsettled_of_stateAt hstate (by decide) (by decide)
    obtain ⟨hclass, hknown⟩ : plan.packetClass (plan.packet packetID) = queueInfo.queueClass ∧
        queueInfo.queueClass.known = true := by
      obtain ⟨hfound, hchecked⟩ := Option.filter_eq_some_iff.1 hqueue
      simp only [Bool.and_eq_true] at hchecked
      rw [PublishedPlan.packetClass, hfound]
      exact ⟨rfl, hchecked.1.1⟩
    refine Or.inr ⟨packetID, runtime, _, hvalid, hruntime, ⟨rfl, ?_, ?_, ?_⟩, hmoves.other,
      not_submitting hmoves.to_target (by decide)⟩
    · intro runtime' hruntime'
      exact hunsettled runtime' hruntime'
    · intro runtime' hruntime' hfit
      obtain ⟨-, hsubmission⟩ := hfit.unsettled (hunsettled runtime' hruntime').1
        (hunsettled runtime' hruntime').2
      exact ⟨fun _ => rfl, fun h => absurd (hsubmission.symm.trans h) Bool.false_ne_true⟩
    · intro packet runtime' hpacket' hruntime' hfit counter
      rw [hpacket] at hpacket'
      cases hpacket'
      obtain ⟨hnative, -⟩ := hfit.unsettled (hunsettled runtime' hruntime').1
        (hunsettled runtime' hruntime').2
      rw [PublishedPlan.packetContribution, hclass]
      cases info with
      | none =>
        exact GpuTaskGraphSubmissionStatistics.read_countAccepted _ _ _ rfl
          (by simp [hnative]) counter
      | some info =>
        have hflag : ({ runtime' with
            state := .accepted
            token
            native := info
            hasNativeSubmission := runtime'.hasNativeSubmission || true } :
            GpuPacketRuntime).hasNativeSubmission = true := Bool.or_true _
        exact GpuTaskGraphSubmissionStatistics.read_countNative _ hknown _ rfl hflag counter
  | @reject packetID state graph hvalid hbound hstate hunresolved hmoves =>
    have hpacket := PublishedPlan.packet_at hvalid
    obtain ⟨runtime, hruntime, -⟩ := GpuGraphSubmissionTransaction.stateAt_eq_some.1 hstate
    have hunsettled := unsettled_of_unresolved hstate hunresolved
    refine Or.inr ⟨packetID, runtime, _, hvalid, hruntime, ⟨rfl, hunsettled, ?_, ?_⟩, hmoves.other,
      not_submitting hmoves.to_target (by decide)⟩
    · intro runtime' hruntime' hfit
      obtain ⟨hnative, -⟩ := hfit.unsettled (hunsettled runtime' hruntime').1
        (hunsettled runtime' hruntime').2
      exact ⟨fun h => absurd (hnative.symm.trans h) Bool.false_ne_true, fun _ => rfl⟩
    · intro packet runtime' hpacket' hruntime' hfit counter
      rw [hpacket] at hpacket'
      cases hpacket'
      obtain ⟨-, hsubmission⟩ := hfit.unsettled (hunsettled runtime' hruntime').1
        (hunsettled runtime' hruntime').2
      have hrejected : ({ runtime' with state := .rejected } : GpuPacketRuntime).state
          = .rejected := rfl
      exact GpuTaskGraphSubmissionStatistics.read_countRejected _ _ _ hrejected hsubmission counter
  | @rejectSubmission packetID graph hvalid hbound hvalidFor hstate hmoves =>
    have hpacket := PublishedPlan.packet_at hvalid
    obtain ⟨runtime, hruntime, -⟩ := GpuGraphSubmissionTransaction.stateAt_eq_some.1 hstate
    have hunsettled := unsettled_of_stateAt hstate (by decide) (by decide)
    rw [GpuGraphSubmissionTransaction.publishSubmissionRejected_eq hvalidFor hstate]
    refine Or.inr ⟨packetID, runtime, _, hvalid, hruntime, ⟨rfl, hunsettled, ?_, ?_⟩, hmoves.other,
      not_submitting hmoves.to_target (by decide)⟩
    · intro runtime' hruntime' hfit
      obtain ⟨hnative, -⟩ := hfit.unsettled (hunsettled runtime' hruntime').1
        (hunsettled runtime' hruntime').2
      exact ⟨fun h => absurd (hnative.symm.trans h) Bool.false_ne_true, fun _ => rfl⟩
    · intro packet runtime' hpacket' hruntime' _ counter
      rw [hpacket] at hpacket'
      cases hpacket'
      exact GpuTaskGraphSubmissionStatistics.read_countSubmissionRejected _ _ _ rfl rfl counter

/-- The submitting packets and the counters, of the plan that the transaction was reset for. -/
structure Settles (plan : PublishedPlan) (s : TransactionSystem) : Prop where
  submits : SubmitsPackets plan s
  tallied : Tallied plan s.transaction

lemma settles_of_bind {attempt : ℕ} (h : Settles plan s)
    (hbind : s.bindRecordingAttempt plan attempt = some s') : Settles plan s' := by
  obtain ⟨-, -, -, rfl⟩ := bindRecordingAttempt_eq_some.1 hbind
  refine ⟨h.submits, h.tallied.flags, fun counter => ?_⟩
  have hexact := h.tallied.exact counter
  cases counter <;> exact hexact

/-- Every primitive step keeps the counters exact. -/
lemma PacketStep.settles (hplan : PlanPackets plan) (hstep : PacketStep plan s s')
    (h : Settles plan s) : Settles plan s' := by
  rcases hstep.counts hplan h.submits with
    ⟨attempt, hbind⟩ | ⟨packetID, runtime, change, hvalid, hruntime, hcounts, hother, hmoved⟩
  · exact settles_of_bind h hbind
  · exact ⟨h.submits.moves hvalid hcounts.packets hother hmoved,
      h.tallied.counts (PublishedPlan.packet_at hvalid) hruntime hcounts⟩

lemma PacketSteps.settles (hplan : PlanPackets plan) (hsteps : PacketSteps plan s s')
    (h : Settles plan s) : Settles plan s' := by
  induction hsteps with
  | refl => exact h
  | tail _ hstep ih => exact hstep.settles hplan ih

/-- No primitive step changes for which plans the transaction is valid. -/
lemma PacketStep.validFor (hstep : PacketStep plan s s') (plan' : PublishedPlan) :
    s'.transaction.validFor plan' = s.transaction.validFor plan' := by
  cases hstep with
  | bind hbind =>
    obtain ⟨-, -, -, rfl⟩ := bindRecordingAttempt_eq_some.1 hbind
    rfl
  | mark _ _ _ => exact GpuGraphSubmissionTransaction.validFor_setState _ _
  | submit _ _ _ _ _ => exact GpuGraphSubmissionTransaction.validFor_setState _ _
  | accept _ _ _ _ =>
    simp [GpuGraphSubmissionTransaction.validFor, GpuGraphSubmissionTransaction.publishAccepted]
  | reject _ _ _ _ _ =>
    simp [GpuGraphSubmissionTransaction.validFor, GpuGraphSubmissionTransaction.setState]
  | rejectSubmission _ _ hplan hstate _ =>
    rw [GpuGraphSubmissionTransaction.publishSubmissionRejected_eq hplan hstate]
    simp [GpuGraphSubmissionTransaction.validFor]

lemma PacketSteps.validFor (hsteps : PacketSteps plan s s') (plan' : PublishedPlan) :
    s'.transaction.validFor plan' = s.transaction.validFor plan' := by
  induction hsteps with
  | refl => rfl
  | tail _ hstep ih => rw [hstep.validFor, ih]

/-! ## Reachable states -/

/-- The call names one of the published plans, if any. -/
def NamesPlanOf (plans : Set PublishedPlan) : PacketCall → Prop
  | .transaction plan _ => plan ∈ plans
  | .recorder _ => True

/-- The states of a transaction and the graph it drives.  Everything else that happens to the graph,
such as further declarations, a new recording attempt or its own reset, submits no task. -/
inductive Reachable (plans : Set PublishedPlan) : TransactionSystem → Prop
  | constructed {graph : GpuTaskGraphLifecycle} (hidle : Idle graph) :
      Reachable plans { graph }
  | call {s : TransactionSystem} (hs : Reachable plans s) {call : PacketCall}
      (hnames : NamesPlanOf plans call) : Reachable plans (s.call call)
  | reset {s : TransactionSystem} (hs : Reachable plans s) {plan : PublishedPlan}
      (hplan : plan ∈ plans) : Reachable plans (s.withTransaction (s.transaction.reset plan))
  | graph {s : TransactionSystem} (hs : Reachable plans s) {graph : GpuTaskGraphLifecycle}
      (hgraph : ∀ (i : ℕ) (task : GpuTaskLifecycleNode), graph.tasks[i]? = some task →
        task.lifecycleState = .submitting →
        ∃ before, s.graph.tasks[i]? = some before ∧ before.lifecycleState = .submitting) :
      Reachable plans { s with graph }

/-- A transaction that is valid for no plan: nothing is counted, and nothing submits. -/
structure Blank (s : TransactionSystem) : Prop where
  isValid : s.transaction.isValid = false
  counters : ∀ counter, s.transaction.submissionStatistics.read counter = 0
  idle : Idle s.graph

/-- What holds in every reachable state. -/
def Holds (plans : Set PublishedPlan) (s : TransactionSystem) : Prop :=
  Blank s ∨ ∃ plan ∈ plans, s.transaction.validFor plan = true ∧ Settles plan s

/-- A reset while a packet is submitting or rejecting does nothing. -/
lemma reset_cases (transaction : GpuGraphSubmissionTransaction) (plan : PublishedPlan) :
    transaction.reset plan = transaction ∨
    ((∀ i, transaction.stateAt i ≠ some .submitting) ∧
      ((transaction.reset plan).isValid = false ∧
          (∀ counter, (transaction.reset plan).submissionStatistics.read counter = 0) ∨
        (transaction.reset plan).validFor plan = true ∧
          (transaction.reset plan).packets
            = List.replicate plan.compiled.packets.length {} ∧
          ∀ counter, (transaction.reset plan).submissionStatistics.read counter = 0)) := by
  unfold GpuGraphSubmissionTransaction.reset
  split
  · exact Or.inl rfl
  · next hresolved =>
    refine Or.inr ⟨?_, ?_⟩
    · intro i hstate
      obtain ⟨runtime, hruntime, hsubmitting⟩ :=
        GpuGraphSubmissionTransaction.stateAt_eq_some.1 hstate
      apply hresolved
      rw [List.any_eq_true]
      exact ⟨runtime, List.mem_of_getElem? hruntime, by simp [hsubmitting]⟩
    · simp only
      split
      · refine Or.inl ⟨rfl, fun counter => ?_⟩
        cases counter with
        | nativeSubmissionsOf other | nativeCommandListsOf other | timelineWaitsOf other =>
          cases other <;> rfl
        | _ => rfl
      · next hexports =>
        simp only [Bool.or_eq_true, Bool.not_eq_true', not_or, Bool.not_eq_false] at hexports
        refine Or.inr ⟨?_, rfl, fun counter => ?_⟩
        · simp [GpuGraphSubmissionTransaction.validFor, hexports.1]
        · cases counter with
          | nativeSubmissionsOf other | nativeCommandListsOf other | timelineWaitsOf other =>
            cases other <;> rfl
          | _ => rfl

/-- A transaction whose packets are all fresh. -/
lemma tallied_of_replicate {transaction : GpuGraphSubmissionTransaction}
    (hpackets : transaction.packets = List.replicate plan.compiled.packets.length {})
    (hcounters : ∀ counter, transaction.submissionStatistics.read counter = 0) :
    Tallied plan transaction := by
  have hfresh : ∀ runtime ∈ transaction.packets, runtime = {} := by
    intro runtime hruntime
    rw [hpackets] at hruntime
    exact (List.mem_replicate.1 hruntime).2
  constructor
  · intro runtime hruntime
    rw [hfresh runtime hruntime]
    exact ⟨fun h => absurd h Bool.false_ne_true, fun h => absurd h Bool.false_ne_true⟩
  · intro counter
    rw [hcounters, eq_comm]
    apply List.sum_eq_zero
    intro count hcount
    obtain ⟨i, hi, rfl⟩ := List.getElem_of_mem hcount
    rw [List.getElem_zipWith, hfresh _ (List.getElem_mem _)]
    exact contribution_of_unsettled (by decide) (by decide) counter

variable {plans : Set PublishedPlan}

/-- Resetting keeps the property. -/
lemma Holds.reset (h : Holds plans s) (hmem : plan ∈ plans) :
    Holds plans (s.withTransaction (s.transaction.reset plan)) := by
  rcases reset_cases s.transaction plan with hsame | ⟨hnone, hreset⟩
  · rw [hsame]
    exact h
  · -- No packet is submitting, so no task is.
    have hidle : Idle s.graph := by
      rcases h with hblank | ⟨other, -, -, hsettles⟩
      · exact hblank.idle
      · intro task htask hsubmitting
        obtain ⟨i, hi⟩ := List.mem_iff_getElem?.1 htask
        obtain ⟨k, -, -, hstate, -⟩ := hsettles.submits i task hi hsubmitting
        exact hnone k hstate
    rcases hreset with ⟨hinvalid, hcounters⟩ | ⟨hvalid, hpackets, hcounters⟩
    · exact Or.inl ⟨hinvalid, hcounters, hidle⟩
    · refine Or.inr ⟨plan, hmem, hvalid, ?_, tallied_of_replicate hpackets hcounters⟩
      intro i task htask hsubmitting
      exact absurd hsubmitting (hidle task (List.mem_of_getElem? htask))

/-- A change of the graph that submits nothing. -/
lemma Holds.graph {graph : GpuTaskGraphLifecycle} (h : Holds plans s)
    (hgraph : ∀ (i : ℕ) (task : GpuTaskLifecycleNode), graph.tasks[i]? = some task →
      task.lifecycleState = .submitting →
      ∃ before, s.graph.tasks[i]? = some before ∧ before.lifecycleState = .submitting) :
    Holds plans { s with graph } := by
  rcases h with hblank | ⟨plan, hmem, hvalid, hsettles⟩
  · refine Or.inl ⟨hblank.isValid, hblank.counters, ?_⟩
    intro task htask hsubmitting
    obtain ⟨i, hi⟩ := List.mem_iff_getElem?.1 htask
    obtain ⟨before, hbefore, hstate⟩ := hgraph i task hi hsubmitting
    exact hblank.idle before (List.mem_of_getElem? hbefore) hstate
  · refine Or.inr ⟨plan, hmem, hvalid, ?_, hsettles.tallied⟩
    intro i task htask hsubmitting
    obtain ⟨before, hbefore, hstate⟩ := hgraph i task htask hsubmitting
    exact hsettles.submits i before hbefore hstate

/-- Plan generations are unique among the published plans. -/
def DistinctPlans (plans : Set PublishedPlan) : Prop :=
  ∀ plan ∈ plans, ∀ plan' ∈ plans, plan.planGeneration = plan'.planGeneration → plan = plan'

/-- A transaction is valid for one published plan at most. -/
lemma plan_unique (hdistinct : DistinctPlans plans) {transaction : GpuGraphSubmissionTransaction}
    {plan' : PublishedPlan} (hplan : plan ∈ plans) (hplan' : plan' ∈ plans)
    (hvalid : transaction.validFor plan = true) (hvalid' : transaction.validFor plan' = true) :
    plan = plan' := by
  apply hdistinct plan hplan plan' hplan'
  simp only [GpuGraphSubmissionTransaction.validFor, Bool.and_eq_true, beq_iff_eq]
    at hvalid hvalid'
  exact hvalid.1.1.1.2.symm.trans hvalid'.1.1.1.2

/-- Every call keeps the property. -/
lemma Holds.call (hcompiled : ∀ plan ∈ plans, IsCompiled plan) (hdistinct : DistinctPlans plans)
    (h : Holds plans s) {call : PacketCall} (hnames : NamesPlanOf plans call) :
    Holds plans (s.call call) := by
  cases call with
  | recorder call =>
    apply h.graph
    intro i task htask hsubmitting
    obtain ⟨before, hbefore, rfl | ⟨-, -, huntouched | ⟨-, hdiscarded⟩⟩⟩ :=
      (records_record s.graph call).task i task htask
    · exact ⟨_, hbefore, hsubmitting⟩
    · rw [hsubmitting] at huntouched
      cases huntouched
    · rw [hsubmitting] at hdiscarded
      cases hdiscarded
  | transaction plan call =>
    rw [TransactionSystem.call]
    cases hvalid : s.transaction.validFor plan with
    | false =>
      rw [callTransaction_of_not_validFor hvalid]
      exact h
    | true =>
      have hsteps := callTransaction_steps s plan call
      rcases h with hblank | ⟨other, hother, hotherValid, hsettles⟩
      · rw [GpuGraphSubmissionTransaction.validFor, hblank.isValid] at hvalid
        cases hvalid
      · obtain rfl := plan_unique hdistinct hnames hother hvalid hotherValid
        exact Or.inr ⟨plan, hnames, by rw [hsteps.validFor, hvalid],
          hsteps.settles (hcompiled plan hnames).packets hsettles⟩

theorem holds_of_reachable (hcompiled : ∀ plan ∈ plans, IsCompiled plan)
    (hdistinct : DistinctPlans plans) (h : Reachable plans s) : Holds plans s := by
  induction h with
  | constructed hidle =>
    refine Or.inl ⟨rfl, fun counter => ?_, hidle⟩
    cases counter with
    | nativeSubmissionsOf other | nativeCommandListsOf other | timelineWaitsOf other =>
      cases other <;> rfl
    | _ => rfl
  | call _ hnames ih => exact ih.call hcompiled hdistinct hnames
  | reset _ hplan ih => exact ih.reset hplan
  | graph _ hgraph ih => exact ih.graph hgraph

/-- In every reachable state, over all queues of the topology of the transaction's plan, the
counters of the queues sum up to the counters of the transaction. -/
theorem queueStatistics_sum (plans : Set PublishedPlan)
    (hcompiled : ∀ plan ∈ plans, IsCompiled plan) (hdistinct : DistinctPlans plans)
    (s : TransactionSystem) (hreachable : Reachable plans s) (plan : PublishedPlan)
    (hmem : plan ∈ plans)
    (hplan : s.transaction.isValid = true → s.transaction.validFor plan = true)
    (counter : SubmissionCounter) :
    (plan.compiled.queueTopology.map fun queueInfo =>
        (s.transaction.physicalQueueSubmissionStatistics plan queueInfo.id).read counter).sum
      = s.transaction.submissionStatistics.read counter := by
  rcases holds_of_reachable hcompiled hdistinct hreachable with
    hblank | ⟨other, hother, hvalid, hsettles⟩
  · have hinvalid : s.transaction.validFor plan = false := by
      simp [GpuGraphSubmissionTransaction.validFor, hblank.isValid]
    rw [hblank.counters]
    apply List.sum_eq_zero
    intro count hcount
    obtain ⟨queueInfo, -, rfl⟩ := List.mem_map.1 hcount
    rw [GpuGraphSubmissionTransaction.physicalQueueSubmissionStatistics, hinvalid, Bool.not_false,
      if_pos rfl]
    cases counter <;> simp [GpuTaskGraphPhysicalQueueSubmissionStatistics.read]
  · have hisValid : s.transaction.isValid = true := by
      simp only [GpuGraphSubmissionTransaction.validFor, Bool.and_eq_true] at hvalid
      exact hvalid.1.1.1.1.1.1
    obtain rfl := plan_unique hdistinct hmem hother (hplan hisValid) hvalid
    rw [(hcompiled plan hmem).queues.sum_physicalQueueSubmissionStatistics hvalid
      hsettles.tallied.flags, hsettles.tallied.exact]

/-- The producer and the consumer, with the queues that the compiler's own assignment gives them. -/
def assignedPlan : PublishedPlan where
  compiled := ((compile (@queueAssigner ℚ _ {}) {} ⟨1, Nat.one_ne_zero⟩ producerConsumerGraph
    twoFamilyTopology).map (·.compiledGraph)).getD {}
  published := true
  graphTaskCount := 2

/-- The producer is submitted with three command lists, and the consumer is rejected. -/
def assignedCalls : List PacketCall :=
  [.recorder (.beginPacketRecording assignedPlan [⟨0, 1⟩] 3 {}),
   .recorder (.completePacketRecording assignedPlan [⟨0, 1⟩] ⟨1, 3, 4⟩),
   .transaction assignedPlan (.markPacketRecorded ⟨0, 1⟩ 3),
   .transaction assignedPlan (.beginPacketSubmission ⟨0, 1⟩ 3 {}),
   .transaction assignedPlan (.acceptSubmittingPacket ⟨0, 1⟩ ⟨.graphics, 7, 0, 1⟩ ⟨1, 3, 5⟩
     (some { commandListCount := 3, timelineWaitCount := 2 })),
   .transaction assignedPlan (.rejectPacket ⟨1, 1⟩ none)]

/-- A run of calls that name published plans. -/
lemma Reachable.run (h : Reachable plans s) {calls : List PacketCall}
    (hnames : ∀ call ∈ calls, NamesPlanOf plans call) : Reachable plans (s.run calls) := by
  induction calls generalizing s with
  | nil => exact h
  | cons call rest ih =>
    exact ih (h.call (hnames call List.mem_cons_self)) fun call hcall =>
      hnames call (List.mem_cons_of_mem _ hcall)

lemma assignedPlan_compiled : IsCompiled assignedPlan := by
  have hsome : (compile (@queueAssigner ℚ _ {}) {} ⟨1, Nat.one_ne_zero⟩ producerConsumerGraph
      twoFamilyTopology).isSome = true := by decide +kernel
  obtain ⟨out, hout⟩ := Option.isSome_iff_exists.1 hsome
  refine ⟨ℚ, inferInstance, {}, {}, ⟨1, Nat.one_ne_zero⟩, producerConsumerGraph,
    twoFamilyTopology, out, hout, ?_⟩
  show ((compile (@queueAssigner ℚ _ {}) {} ⟨1, Nat.one_ne_zero⟩ producerConsumerGraph
    twoFamilyTopology).map (·.compiledGraph)).getD {} = out.compiledGraph
  rw [hout]
  rfl

theorem queueStatistics_sum_twoQueues :
    (assignedPlan.compiled.queueTopology.map fun queueInfo =>
      ((((producerConsumerSystem.withTransaction
          (GpuGraphSubmissionTransaction.reset {} assignedPlan)).run
        assignedCalls).transaction.physicalQueueSubmissionStatistics assignedPlan
          queueInfo.id).read .nativeCommandLists)).sum
      = (((producerConsumerSystem.withTransaction
          (GpuGraphSubmissionTransaction.reset {} assignedPlan)).run
        assignedCalls).transaction.submissionStatistics.read .nativeCommandLists) ∧
    (((producerConsumerSystem.withTransaction
        (GpuGraphSubmissionTransaction.reset {} assignedPlan)).run
      assignedCalls).transaction.submissionStatistics.read .nativeCommandLists) = 3 := by
  have hstart : Reachable {assignedPlan} ((⟨producerConsumerSystem.graph, {}⟩ :
      TransactionSystem).withTransaction (GpuGraphSubmissionTransaction.reset {} assignedPlan)) :=
    Reachable.reset (.constructed (by unfold Idle; decide)) rfl
  refine ⟨queueStatistics_sum {assignedPlan} ?_ ?_ _ (hstart.run ?_) assignedPlan rfl ?_
    .nativeCommandLists, by decide +kernel⟩
  · rintro plan rfl
    exact assignedPlan_compiled
  · rintro plan rfl plan' rfl _
    rfl
  · intro call hcall
    simp only [assignedCalls, List.mem_cons, List.not_mem_nil, or_false] at hcall
    rcases hcall with rfl | rfl | rfl | rfl | rfl | rfl
    · trivial
    · trivial
    · exact rfl
    · exact rfl
    · exact rfl
    · exact rfl
  · intro _
    decide +kernel

end TransactionSystem

end NwbLot.PacketRuntime
