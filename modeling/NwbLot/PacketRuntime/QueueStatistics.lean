import NwbLot.PacketRuntime.TransactionContract
import NwbLot.TaskGraph.AssignQueues
import NwbLot.TaskGraph.EpilogueBarriers

/-!
# Submission statistics of one queue

`physicalQueueSubmissionStatistics` of `packet_runtime_transaction.cpp`, which derives the counters
of one physical queue from the packets of the transaction, and its sum over a topology.
-/

namespace NwbLot.PacketRuntime

open TaskGraph

/-! ## The statistics -/

/-- The counters of one queue. -/
structure GpuTaskGraphPhysicalQueueSubmissionStatistics where
  graphGeneration : ℕ := 0
  planGeneration : ℕ := 0
  recordingAttemptGeneration : ℕ := 0
  deviceGeneration : ℕ := 0
  queue : GpuPhysicalQueueId := {}
  queueClass : CommandQueue := .kCount
  acceptedPacketCount : ℕ := 0
  acceptedTaskCount : ℕ := 0
  rejectedPacketCount : ℕ := 0
  rejectedTaskCount : ℕ := 0
  nativeSubmissionCount : ℕ := 0
  rejectedSubmissionCount : ℕ := 0
  native : NativeSubmissionInfo := {}
  acceptedFrontierSubmissionCount : ℕ := 0
  deriving DecidableEq, Repr, Inhabited

namespace GpuTaskGraphPhysicalQueueSubmissionStatistics

variable (statistics : GpuTaskGraphPhysicalQueueSubmissionStatistics)

/-- The switch over the state of a packet of the queue. -/
def countPacket (packet : GpuSubmissionPacket) (runtime : GpuPacketRuntime) :
    GpuTaskGraphPhysicalQueueSubmissionStatistics :=
  match runtime.state with
  | .accepted =>
    let accepted := { statistics with
      acceptedPacketCount := statistics.acceptedPacketCount + 1
      acceptedTaskCount := statistics.acceptedTaskCount + packet.taskCount }
    if !runtime.hasNativeSubmission then accepted
    else { accepted with
      nativeSubmissionCount := statistics.nativeSubmissionCount + 1
      native := statistics.native.add runtime.native
      acceptedFrontierSubmissionCount := statistics.acceptedFrontierSubmissionCount
        + (if packet.joinsAcceptedQueueFrontier then 1 else 0) }
  | .rejected =>
    { statistics with
      rejectedPacketCount := statistics.rejectedPacketCount + 1
      rejectedTaskCount := statistics.rejectedTaskCount + packet.taskCount
      rejectedSubmissionCount := statistics.rejectedSubmissionCount
        + (if runtime.nativeSubmissionRejected then 1 else 0) }
  | _ => statistics

end GpuTaskGraphPhysicalQueueSubmissionStatistics

namespace GpuGraphSubmissionTransaction

variable (plan : PublishedPlan) (queue : GpuPhysicalQueueId)

/-- The loop over the packets from one index on; a packet whose native flags contradict its state
loses the whole result. -/
def countQueuePackets (packetIndex : ℕ)
    (statistics : GpuTaskGraphPhysicalQueueSubmissionStatistics) :
    List GpuPacketRuntime → GpuTaskGraphPhysicalQueueSubmissionStatistics
  | [] => statistics
  | runtime :: rest =>
    if !(plan.packetIdAt packetIndex).valid then {}
    else
      let packet := plan.packet (plan.packetIdAt packetIndex)
      if packet.queue != queue then countQueuePackets (packetIndex + 1) statistics rest
      else if (runtime.hasNativeSubmission && runtime.state != .accepted)
          || (runtime.nativeSubmissionRejected && runtime.state != .rejected) then {}
      else countQueuePackets (packetIndex + 1) (statistics.countPacket packet runtime) rest

variable (transaction : GpuGraphSubmissionTransaction)

/-- The counters of a queue of the plan. -/
def physicalQueueSubmissionStatistics : GpuTaskGraphPhysicalQueueSubmissionStatistics :=
  if !transaction.validFor plan then {}
  else match (plan.compiled.findCompiledQueueInfo queue).filter (·.queueClass.known) with
  | none => {}
  | some queueInfo =>
    countQueuePackets plan queue 0
      { graphGeneration := transaction.generation
        planGeneration := transaction.planGeneration
        recordingAttemptGeneration := transaction.recordingAttemptGeneration
        deviceGeneration := transaction.deviceGeneration
        queue
        queueClass := queueInfo.queueClass }
      transaction.packets

end GpuGraphSubmissionTransaction

/-! ## Counters -/

/-- The integer counters of a transaction.  Those of a queue class have no field of their own in
the statistics of a queue, which name its class. -/
inductive SubmissionCounter
  | acceptedPackets
  | acceptedTasks
  | rejectedPackets
  | rejectedTasks
  | nativeSubmissions
  | rejectedSubmissions
  | nativeCommandLists
  | plannedWaitTokens
  | sameQueueWaitElisions
  | timelineWaits
  | mergedTimelineWaits
  | acceptedFrontierSubmissions
  | nativeSubmissionsOf (queueClass : CommandQueue)
  | nativeCommandListsOf (queueClass : CommandQueue)
  | timelineWaitsOf (queueClass : CommandQueue)
  deriving DecidableEq, Repr

namespace GpuTaskGraphSubmissionStatistics

variable (statistics : GpuTaskGraphSubmissionStatistics)

/-- The entries of one class in the three arrays. -/
def classCounts : CommandQueue → QueueClassSubmissionCounts
  | .graphics => statistics.graphicsCounts
  | .compute => statistics.computeCounts
  | .transfer => statistics.transferCounts
  | .kCount => {}

/-- A counter of the graph. -/
def read : SubmissionCounter → ℕ
  | .acceptedPackets => statistics.acceptedPacketCount
  | .acceptedTasks => statistics.acceptedTaskCount
  | .rejectedPackets => statistics.rejectedPacketCount
  | .rejectedTasks => statistics.rejectedTaskCount
  | .nativeSubmissions => statistics.nativeSubmissionCount
  | .rejectedSubmissions => statistics.rejectedSubmissionCount
  | .nativeCommandLists => statistics.native.commandListCount
  | .plannedWaitTokens => statistics.native.plannedWaitTokenCount
  | .sameQueueWaitElisions => statistics.native.sameQueueWaitElisionCount
  | .timelineWaits => statistics.native.timelineWaitCount
  | .mergedTimelineWaits => statistics.native.mergedTimelineWaitCount
  | .acceptedFrontierSubmissions => statistics.acceptedFrontierSubmissionCount
  | .nativeSubmissionsOf queueClass => (statistics.classCounts queueClass).nativeSubmissionCount
  | .nativeCommandListsOf queueClass => (statistics.classCounts queueClass).nativeCommandListCount
  | .timelineWaitsOf queueClass => (statistics.classCounts queueClass).timelineWaitCount

end GpuTaskGraphSubmissionStatistics

namespace GpuTaskGraphPhysicalQueueSubmissionStatistics

variable (statistics : GpuTaskGraphPhysicalQueueSubmissionStatistics)

/-- A counter of the queue. -/
def read : SubmissionCounter → ℕ
  | .acceptedPackets => statistics.acceptedPacketCount
  | .acceptedTasks => statistics.acceptedTaskCount
  | .rejectedPackets => statistics.rejectedPacketCount
  | .rejectedTasks => statistics.rejectedTaskCount
  | .nativeSubmissions => statistics.nativeSubmissionCount
  | .rejectedSubmissions => statistics.rejectedSubmissionCount
  | .nativeCommandLists => statistics.native.commandListCount
  | .plannedWaitTokens => statistics.native.plannedWaitTokenCount
  | .sameQueueWaitElisions => statistics.native.sameQueueWaitElisionCount
  | .timelineWaits => statistics.native.timelineWaitCount
  | .mergedTimelineWaits => statistics.native.mergedTimelineWaitCount
  | .acceptedFrontierSubmissions => statistics.acceptedFrontierSubmissionCount
  | .nativeSubmissionsOf queueClass =>
    if statistics.queueClass = queueClass then statistics.nativeSubmissionCount else 0
  | .nativeCommandListsOf queueClass =>
    if statistics.queueClass = queueClass then statistics.native.commandListCount else 0
  | .timelineWaitsOf queueClass =>
    if statistics.queueClass = queueClass then statistics.native.timelineWaitCount else 0

/-- What one packet adds to the counters of a queue of the class. -/
def contribution (queueClass : CommandQueue) (packet : GpuSubmissionPacket)
    (runtime : GpuPacketRuntime) (counter : SubmissionCounter) : ℕ :=
  (countPacket { queueClass } packet runtime).read counter

@[simp] lemma queueClass_countPacket (packet : GpuSubmissionPacket) (runtime : GpuPacketRuntime) :
    (statistics.countPacket packet runtime).queueClass = statistics.queueClass := by
  unfold countPacket
  split
  · split <;> rfl
  · rfl
  · rfl

/-- Counting a packet adds its contribution to every counter. -/
lemma read_countPacket (packet : GpuSubmissionPacket) (runtime : GpuPacketRuntime)
    (counter : SubmissionCounter) :
    (statistics.countPacket packet runtime).read counter
      = statistics.read counter
        + contribution statistics.queueClass packet runtime counter := by
  unfold contribution countPacket
  split
  · split <;> cases counter <;> simp [read, NativeSubmissionInfo.add] <;> split <;> simp
  · cases counter <;> simp [read]
  · cases counter <;> simp [read]

/-- A packet that is neither accepted nor rejected adds nothing. -/
lemma contribution_of_unsettled {queueClass : CommandQueue} {packet : GpuSubmissionPacket}
    {runtime : GpuPacketRuntime} (haccepted : runtime.state ≠ .accepted)
    (hrejected : runtime.state ≠ .rejected) (counter : SubmissionCounter) :
    contribution queueClass packet runtime counter = 0 := by
  unfold contribution countPacket
  split
  · next hstate => exact absurd hstate haccepted
  · next hstate => exact absurd hstate hrejected
  · cases counter <;> simp [read]

end GpuTaskGraphPhysicalQueueSubmissionStatistics

open GpuTaskGraphPhysicalQueueSubmissionStatistics (contribution)

/-! ## Queues of a plan -/

/-- What the statistics rely on of a compiled plan: its queues are distinct and of known classes,
and every packet has one of them. -/
structure PlanQueues (plan : PublishedPlan) : Prop where
  nodup : (plan.compiled.queueTopology.map (·.id)).Nodup
  known : ∀ queueInfo ∈ plan.compiled.queueTopology, queueInfo.queueClass.known = true
  found : ∀ packet ∈ plan.compiled.packets,
    ∃ queueInfo, plan.compiled.findCompiledQueueInfo packet.queue = some queueInfo
  ids : ∀ i < plan.compiled.packets.length, (plan.packetIdAt i).valid = true

/-- The native flags of a packet fit its state. -/
structure FlagsFit (runtime : GpuPacketRuntime) : Prop where
  accepted : runtime.hasNativeSubmission = true → runtime.state = .accepted
  rejected : runtime.nativeSubmissionRejected = true → runtime.state = .rejected

lemma mem_of_findCompiledQueueInfo {plan : GpuCompiledGraph} {queue : GpuPhysicalQueueId}
    {queueInfo : GpuPhysicalQueueInfo} (h : plan.findCompiledQueueInfo queue = some queueInfo) :
    queueInfo ∈ plan.queueTopology ∧ queueInfo.id = queue := by
  unfold GpuCompiledGraph.findCompiledQueueInfo at h
  split at h
  · cases h
  · have hid : (queueInfo.id == queue) = true :=
      @List.find?_some _ (fun info : GpuPhysicalQueueInfo => info.id == queue) queueInfo _ h
    exact ⟨List.mem_of_find?_eq_some h, beq_iff_eq.1 hid⟩

namespace PublishedPlan

variable (plan : PublishedPlan)

/-- The class of a packet's queue. -/
def packetClass (packet : GpuSubmissionPacket) : CommandQueue :=
  (plan.compiled.findCompiledQueueInfo packet.queue).elim .kCount (·.queueClass)

/-- What a packet of the plan adds to a counter. -/
def packetContribution (counter : SubmissionCounter) (packet : GpuSubmissionPacket)
    (runtime : GpuPacketRuntime) : ℕ :=
  contribution (plan.packetClass packet) packet runtime counter

end PublishedPlan

namespace PlanQueues

variable {plan : PublishedPlan} (h : PlanQueues plan)
include h

variable {queueInfo : GpuPhysicalQueueInfo}

/-- The class of a packet whose queue is one of the topology. -/
lemma packetClass_eq {packet : GpuSubmissionPacket} (hpacket : packet ∈ plan.compiled.packets)
    (hqueue : queueInfo ∈ plan.compiled.queueTopology) (hid : packet.queue = queueInfo.id) :
    plan.compiled.findCompiledQueueInfo packet.queue = some queueInfo ∧
      plan.packetClass packet = queueInfo.queueClass := by
  obtain ⟨found, hfound⟩ := h.found packet hpacket
  obtain ⟨hmem, hfoundId⟩ := mem_of_findCompiledQueueInfo hfound
  have hsame : found = queueInfo :=
    List.inj_on_of_nodup_map h.nodup hmem hqueue (hfoundId.trans hid)
  subst hsame
  refine ⟨hfound, ?_⟩
  rw [PublishedPlan.packetClass, hfound]
  rfl

/-- The loop adds the contributions of the queue's packets. -/
lemma read_countQueuePackets (queue : GpuPhysicalQueueId) {runtimes : List GpuPacketRuntime}
    (hflags : ∀ runtime ∈ runtimes, FlagsFit runtime) {packetIndex : ℕ}
    (hlength : packetIndex + runtimes.length = plan.compiled.packets.length)
    (statistics : GpuTaskGraphPhysicalQueueSubmissionStatistics) (counter : SubmissionCounter) :
    (GpuGraphSubmissionTransaction.countQueuePackets plan queue packetIndex statistics
        runtimes).read counter
      = statistics.read counter
        + (List.zipWith (fun packet runtime => if packet.queue = queue
            then contribution statistics.queueClass packet runtime counter else 0)
          (plan.compiled.packets.drop packetIndex) runtimes).sum := by
  induction runtimes generalizing packetIndex statistics with
  | nil => simp [GpuGraphSubmissionTransaction.countQueuePackets]
  | cons runtime rest ih =>
    rw [List.length_cons] at hlength
    have hindex : packetIndex < plan.compiled.packets.length := by omega
    have hpacket : plan.packet (plan.packetIdAt packetIndex)
        = plan.compiled.packets[packetIndex] := by
      rw [PublishedPlan.packet, PublishedPlan.packetIdAt, if_pos hindex]
      show (plan.compiled.packets[packetIndex]?).getD {} = plan.compiled.packets[packetIndex]
      rw [List.getElem?_eq_getElem hindex]
      rfl
    have hrest : ∀ runtime ∈ rest, FlagsFit runtime :=
      fun runtime hruntime => hflags runtime (List.mem_cons_of_mem _ hruntime)
    have hfit := hflags runtime List.mem_cons_self
    have hconsistent : ((runtime.hasNativeSubmission && runtime.state != .accepted)
        || (runtime.nativeSubmissionRejected && runtime.state != .rejected)) = false := by
      rw [Bool.or_eq_false_iff, Bool.and_eq_false_imp, Bool.and_eq_false_imp]
      exact ⟨fun hnative => by simp [hfit.accepted hnative],
        fun hrejected => by simp [hfit.rejected hrejected]⟩
    rw [List.drop_eq_getElem_cons hindex, List.zipWith_cons_cons, List.sum_cons]
    simp only [GpuGraphSubmissionTransaction.countQueuePackets, h.ids packetIndex hindex, hpacket,
      hconsistent, Bool.not_true, Bool.false_eq_true, if_false, bne_iff_ne]
    by_cases hqueue : plan.compiled.packets[packetIndex].queue = queue
    · rw [if_neg (not_not.2 hqueue), if_pos hqueue, ih hrest (by omega),
        GpuTaskGraphPhysicalQueueSubmissionStatistics.read_countPacket,
        GpuTaskGraphPhysicalQueueSubmissionStatistics.queueClass_countPacket, Nat.add_assoc]
    · rw [if_pos hqueue, if_neg hqueue, ih hrest (by omega), Nat.zero_add]

variable {transaction : GpuGraphSubmissionTransaction}

/-- The counters of one queue of the topology. -/
lemma read_physicalQueueSubmissionStatistics (hvalid : transaction.validFor plan = true)
    (hflags : ∀ runtime ∈ transaction.packets, FlagsFit runtime)
    (hqueue : queueInfo ∈ plan.compiled.queueTopology) (counter : SubmissionCounter) :
    (transaction.physicalQueueSubmissionStatistics plan queueInfo.id).read counter
      = (List.zipWith (fun packet runtime => if packet.queue = queueInfo.id
          then plan.packetContribution counter packet runtime else 0)
        plan.compiled.packets transaction.packets).sum := by
  have hlength : transaction.packets.length = plan.compiled.packets.length := by
    simp only [GpuGraphSubmissionTransaction.validFor, Bool.and_eq_true, beq_iff_eq] at hvalid
    exact hvalid.1.2
  unfold GpuGraphSubmissionTransaction.physicalQueueSubmissionStatistics
  rw [hvalid, Bool.not_true, if_neg Bool.false_ne_true]
  cases hfound : plan.compiled.findCompiledQueueInfo queueInfo.id with
  | none =>
    -- No packet has a queue that the plan does not find.
    have hnone : ∀ packet ∈ plan.compiled.packets, packet.queue ≠ queueInfo.id := by
      intro packet hpacket heq
      obtain ⟨found, hsome⟩ := h.found packet hpacket
      rw [heq, hfound] at hsome
      cases hsome
    have hzero : (List.zipWith (fun packet runtime => if packet.queue = queueInfo.id
        then plan.packetContribution counter packet runtime else 0)
        plan.compiled.packets transaction.packets).sum = 0 := by
      apply List.sum_eq_zero
      intro count hcount
      obtain ⟨i, hi, rfl⟩ := List.getElem_of_mem hcount
      rw [List.getElem_zipWith, if_neg (hnone _ (List.getElem_mem _))]
    rw [hzero]
    cases counter <;> simp [GpuTaskGraphPhysicalQueueSubmissionStatistics.read]
  | some found =>
    obtain ⟨hmem, hid⟩ := mem_of_findCompiledQueueInfo hfound
    have hsame : found = queueInfo := List.inj_on_of_nodup_map h.nodup hmem hqueue hid
    subst hsame
    have hstart : ∀ statistics : GpuTaskGraphPhysicalQueueSubmissionStatistics,
        statistics.nativeSubmissionCount = 0 → statistics.native = {} →
        (statistics.acceptedPacketCount, statistics.acceptedTaskCount,
          statistics.rejectedPacketCount, statistics.rejectedTaskCount,
          statistics.rejectedSubmissionCount, statistics.acceptedFrontierSubmissionCount)
          = (0, 0, 0, 0, 0, 0) → statistics.read counter = 0 := by
      intro statistics hsubmissions hnative hcounts
      simp only [Prod.mk.injEq] at hcounts
      cases counter <;>
        simp [GpuTaskGraphPhysicalQueueSubmissionStatistics.read, hsubmissions, hnative, hcounts]
    rw [Option.filter_some, if_pos (h.known found hqueue)]
    simp only
    rw [h.read_countQueuePackets found.id hflags (by rw [hlength, Nat.zero_add]),
      hstart _ rfl rfl rfl, Nat.zero_add, List.drop_zero]
    congr 1
    apply List.ext_getElem
    · simp
    · intro i hi hi'
      rw [List.getElem_zipWith, List.getElem_zipWith]
      split
      · next heq =>
        rw [PublishedPlan.packetContribution,
          (h.packetClass_eq (List.getElem_mem _) hqueue heq).2]
      · rfl

/-- Over all queues of the topology the counters are those of all packets. -/
theorem sum_physicalQueueSubmissionStatistics (hvalid : transaction.validFor plan = true)
    (hflags : ∀ runtime ∈ transaction.packets, FlagsFit runtime) (counter : SubmissionCounter) :
    (plan.compiled.queueTopology.map fun queueInfo =>
        (transaction.physicalQueueSubmissionStatistics plan queueInfo.id).read counter).sum
      = (List.zipWith (plan.packetContribution counter) plan.compiled.packets
        transaction.packets).sum := by
  have hqueues : plan.compiled.queueTopology.map (fun queueInfo =>
        (transaction.physicalQueueSubmissionStatistics plan queueInfo.id).read counter)
      = (plan.compiled.queueTopology.map (·.id)).map fun queue =>
        ((plan.compiled.packets.zip transaction.packets).map fun entry =>
          if entry.1.queue = queue
          then plan.packetContribution counter entry.1 entry.2 else 0).sum := by
    rw [List.map_map]
    apply List.map_congr_left
    intro queueInfo hqueue
    rw [h.read_physicalQueueSubmissionStatistics hvalid hflags hqueue,
      ← List.map_uncurry_zip_eq_zipWith]
    rfl
  have hkeys : ∀ entry ∈ plan.compiled.packets.zip transaction.packets,
      entry.1.queue ∈ plan.compiled.queueTopology.map (·.id) := by
    intro entry hentry
    obtain ⟨found, hfound⟩ := h.found entry.1 (List.of_mem_zip hentry).1
    obtain ⟨hmem, hid⟩ := mem_of_findCompiledQueueInfo hfound
    rw [← hid]
    exact List.mem_map_of_mem hmem
  rw [hqueues, ← List.map_uncurry_zip_eq_zipWith]
  exact Tallies.sum_map_partition h.nodup
    (fun entry : GpuSubmissionPacket × GpuPacketRuntime => entry.1.queue)
    (fun entry => plan.packetContribution counter entry.1 entry.2) hkeys

end PlanQueues

/-! ## Compiled plans -/

/-- `assignQueues` as the compiler calls it. -/
def queueAssigner {F : Type} [F64 F] (options : GpuTaskGraphQueueAssignmentOptions F) :
    QueueAssigner :=
  fun graph analysis topology => (assignQueues options graph analysis topology).toOption

/-- The plan is one that the compiler handed out. -/
def IsCompiled (plan : PublishedPlan) : Prop :=
  ∃ (F : Type) (_ : F64 F) (assignment : GpuTaskGraphQueueAssignmentOptions F)
    (options : GpuTaskGraphCompileOptions) (planGeneration : CompiledPlanGeneration)
    (graph : GpuTaskGraph) (topology : GpuTaskGraphQueueTopology) (out : GpuTaskGraphCompilation),
    compile (queueAssigner assignment) options planGeneration graph topology = some out ∧
      plan.compiled = out.compiledGraph

variable {topology : GpuTaskGraphQueueTopology}

/-- The queue loop of `IsValidQueueTopology` finds distinct queues of known classes. -/
lemma areValidQueues_spec {deviceGeneration : ℕ} {visited : GpuTaskGraphQueueTopology}
    (h : areValidQueues deviceGeneration visited topology = true) :
    (topology.map (·.id)).Nodup ∧
      (∀ queueInfo ∈ topology, queueInfo.queueClass.known = true ∧
        ∀ previous ∈ visited, previous.id ≠ queueInfo.id) := by
  induction topology generalizing visited with
  | nil => simp
  | cons queueInfo rest ih =>
    simp only [areValidQueues, isValidQueueInfo, Bool.and_eq_true, List.all_eq_true,
      bne_iff_ne] at h
    obtain ⟨⟨⟨hinfo, -⟩, hvisited⟩, hrest⟩ := h
    obtain ⟨hnodup, hqueues⟩ := ih hrest
    rw [List.map_cons, List.nodup_cons]
    refine ⟨⟨?_, hnodup⟩, ?_⟩
    · rw [List.mem_map]
      rintro ⟨other, hother, heq⟩
      exact (hqueues other hother).2 queueInfo (by simp) heq.symm
    · intro other hother
      rcases List.mem_cons.1 hother with rfl | hother
      · exact ⟨hinfo.1.1.1.1.2, fun previous hprevious => (hvisited previous hprevious).1⟩
      · exact ⟨(hqueues other hother).1, fun previous hprevious =>
          (hqueues other hother).2 previous (List.mem_append_left _ hprevious)⟩

lemma isValidQueueTopology_spec (h : isValidQueueTopology topology = true) :
    (topology.map (·.id)).Nodup ∧
      ∀ queueInfo ∈ topology, queueInfo.queueClass.known = true := by
  cases topology with
  | nil => simp
  | cons first rest =>
    obtain ⟨hnodup, hqueues⟩ := areValidQueues_spec h
    exact ⟨hnodup, fun queueInfo hqueue => (hqueues queueInfo hqueue).1⟩

variable {F : Type} {graph : GpuTaskGraph}

lemma isValidQueueTopology_of_assign [F64 F] {options : GpuTaskGraphQueueAssignmentOptions F}
    {analysis : GpuTaskGraphAnalysis} {assignments : GpuTaskGraphQueueAssignments}
    (h : queueAssigner options graph analysis topology = some assignments) :
    isValidQueueTopology topology = true := by
  unfold queueAssigner assignQueues at h
  split at h
  · cases h
  · next hdiagnostic =>
    unfold queueAssignmentDiagnostic at hdiagnostic
    split at hdiagnostic
    · cases hdiagnostic
    · split at hdiagnostic
      · cases hdiagnostic
      · next hvalid => simpa using hvalid

variable {plan : PublishedPlan}

lemma IsCompiled.packets (h : IsCompiled plan) : PlanPackets plan := by
  obtain ⟨F, hF, assignment, options, planGeneration, graph, topology, out, hcompiled, hplan⟩ := h
  exact planPackets_of_compile hcompiled hplan

/-- The queue assignment of a compilation accepted the topology. -/
lemma isValidQueueTopology_of_compile [F64 F] {assignment : GpuTaskGraphQueueAssignmentOptions F}
    {options : GpuTaskGraphCompileOptions} {planGeneration : CompiledPlanGeneration}
    {out : GpuTaskGraphCompilation}
    (h : compile (queueAssigner assignment) options planGeneration graph topology = some out) :
    isValidQueueTopology topology = true := by
  obtain ⟨-, plan, owners, ordered, presentEndpoint, hstates, -, -⟩ := compile_stages h
  simp only [compileStates, Option.bind_eq_bind, Option.bind_eq_some_iff] at hstates
  obtain ⟨⟨assignments, base⟩, hbase, -⟩ := hstates
  exact isValidQueueTopology_of_assign (packetizedGraph_of_compilePackets hbase).assigned

lemma IsCompiled.queues (h : IsCompiled plan) : PlanQueues plan := by
  obtain ⟨F, hF, assignment, options, planGeneration, graph, topology, out, hcompiled, hplan⟩ := h
  obtain ⟨entries, exports, hplanned⟩ := plannedGraph_of_compile hcompiled
  obtain ⟨hnodup, hknown⟩ :=
    isValidQueueTopology_spec (isValidQueueTopology_of_compile hcompiled)
  have hlayout := hplanned.layout
  rw [← hplan] at hplanned hlayout
  refine ⟨hplanned.topology_eq ▸ hnodup, hplanned.topology_eq ▸ hknown, ?_, ?_⟩
  · -- The queue of a packet is the queue of its first task.
    intro packet hpacket
    obtain ⟨i, hi⟩ := List.mem_iff_getElem?.1 hpacket
    obtain ⟨id, hid⟩ :=
      List.exists_mem_of_ne_nil _ ((planPackets_of_compile hcompiled hplan).nonempty _ hpacket)
    obtain ⟨k, task, htask, -, hindex⟩ := hlayout.exists_of_mem_packetTasksOf hi hid
    obtain ⟨placed, hplaced⟩ := hlayout.placed k task htask
    have hsame : placed = packet :=
      Option.some.inj (hplaced.packet_at.symm.trans (hindex ▸ hi))
    rw [← hsame, ← hplaced.queue]
    exact hplanned.exists_queueInfo htask
  · intro i hi
    have hcount := hlayout.packets_length_le
    have hlength := hlayout.order_length
    have hgeneration := hlayout.planGeneration_ne_zero
    rw [PublishedPlan.packetIdAt, if_pos hi, GpuCompiledGraph.packetIdAt, GraphHandle.valid,
      Bool.and_eq_true, bne_iff_ne, bne_iff_ne]
    exact ⟨by simp only; omega, hgeneration⟩

end NwbLot.PacketRuntime
