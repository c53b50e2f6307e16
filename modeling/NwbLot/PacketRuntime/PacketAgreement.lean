import NwbLot.Library.Tallies
import NwbLot.PacketRuntime.TransactionSteps
import NwbLot.TaskGraph.PacketOrder

/-!
# The transaction agrees with the graph

The invariant that ties the state of every packet to the lifecycles of its tasks, kept by every
primitive step of a transaction and by every recorder call.
-/

namespace NwbLot.PacketRuntime

open TaskGraph

/-! ## Plans -/

/-- What the runtime relies on of a compiled plan: its packets are nonempty, share no task, and
cover the tasks of the graph. -/
structure PlanPackets (plan : PublishedPlan) : Prop where
  nonempty : ∀ packet ∈ plan.compiled.packets, plan.compiled.packetTasksOf packet ≠ []
  disjoint : ∀ (i j : ℕ) (packet packet' : GpuSubmissionPacket),
    plan.compiled.packets[i]? = some packet → plan.compiled.packets[j]? = some packet' → i ≠ j →
    ∀ id ∈ plan.compiled.packetTasksOf packet, ∀ id' ∈ plan.compiled.packetTasksOf packet',
      id.index ≠ id'.index
  ids : ∀ packet ∈ plan.compiled.packets, ∀ id ∈ plan.compiled.packetTasksOf packet,
    id.valid = true ∧ id.generation = plan.compiled.graphGeneration
  covers : ∀ i < plan.compiled.tasks.length, ∃ packet ∈ plan.compiled.packets,
    ∃ id ∈ plan.compiled.packetTasksOf packet, id.index = i

section Compile

variable {assignQueues : QueueAssigner} {options : GpuTaskGraphCompileOptions}
  {planGeneration : CompiledPlanGeneration} {graph : GpuTaskGraph}
  {topology : GpuTaskGraphQueueTopology} {out : GpuTaskGraphCompilation}

/-- Every compiled plan is one the runtime can rely on. -/
lemma planPackets_of_compile
    (h : compile assignQueues options planGeneration graph topology = some out)
    {plan : PublishedPlan} (hplan : plan.compiled = out.compiledGraph) : PlanPackets plan := by
  obtain ⟨entries, exports, hplanned⟩ := plannedGraph_of_compile h
  have hlayout := hplanned.layout
  have hflat := hlayout.flatMap_packetTasksOf
  have hordered := (analyze_success hplanned.analyzed).ordered
  rw [← hplan] at hlayout hflat
  have hids : ∀ packet ∈ plan.compiled.packets, ∀ id ∈ plan.compiled.packetTasksOf packet,
      id.valid = true ∧ id.generation = plan.compiled.graphGeneration := by
    intro packet hpacket id hid
    apply hlayout.order_valid
    rw [← hflat]
    exact List.mem_flatMap.2 ⟨packet, hpacket, hid⟩
  have hnodup := hlayout.order_nodup
  rw [← hflat, List.nodup_flatMap] at hnodup
  have hseparate : ∀ (i j : ℕ) (packet packet' : GpuSubmissionPacket),
      plan.compiled.packets[i]? = some packet → plan.compiled.packets[j]? = some packet' → i < j →
      ∀ id ∈ plan.compiled.packetTasksOf packet, ∀ id' ∈ plan.compiled.packetTasksOf packet',
        id.index ≠ id'.index := by
    intro i j packet packet' hi hj hlt id hid id' hid' heq
    obtain ⟨hi', rfl⟩ := List.getElem?_eq_some_iff.1 hi
    obtain ⟨hj', rfl⟩ := List.getElem?_eq_some_iff.1 hj
    have hdisjoint := List.pairwise_iff_getElem.1 hnodup.2 i j hi' hj' hlt
    have hgeneration : id.generation = id'.generation :=
      (hids _ (List.getElem_mem hi') id hid).2.trans
        (hids _ (List.getElem_mem hj') id' hid').2.symm
    have hsame : id = id' := by
      cases id
      cases id'
      simp_all
    exact hdisjoint hid (hsame ▸ hid')
  refine ⟨?_, ?_, hids, ?_⟩
  · rw [hplan]
    exact (packetPlanWellFormed_of_compile h).nonempty
  · intro i j packet packet' hi hj hne id hid id' hid'
    rcases Nat.lt_or_gt_of_ne hne with hlt | hgt
    · exact hseparate i j packet packet' hi hj hlt id hid id' hid'
    · exact (hseparate j i packet' packet hj hi hgt id' hid' id hid).symm
  · intro i hi
    rw [hlayout.tasks_length, (buildTopologicalOrder_perm hordered).length_eq, List.length_map,
      List.length_range] at hi
    have hmem := (mem_order_iff hordered).2 (graph.validTask_taskIdAt hi)
    rw [← hflat] at hmem
    obtain ⟨packet, hpacket, hid⟩ := List.mem_flatMap.1 hmem
    exact ⟨packet, hpacket, _, hid, rfl⟩

end Compile

namespace PublishedPlan

variable {plan : PublishedPlan} {packetID : GpuSubmissionPacketId}

lemma packet_at (h : plan.validPacket packetID = true) :
    plan.compiled.packets[packetID.index]? = some (plan.packet packetID) := by
  simp only [validPacket, Bool.and_eq_true, decide_eq_true_eq] at h
  rw [packet, List.getElem?_eq_getElem h.2]
  rfl

end PublishedPlan

/-! ## Agreement -/

/-- No task of the list is submitted or settled, unless an abort of its recording discarded it. -/
def Untouched (aborted : Bool) (graph : GpuTaskGraphLifecycle) (tasks : List GpuTaskId) : Prop :=
  ∀ id ∈ tasks, ∀ task, graph.tasks[id.index]? = some task →
    task.lifecycleState.untouched = true ∨ (aborted = true ∧ task.lifecycleState = .discarded)

/-- The tasks of a packet are where the packet's state says. -/
def PacketAgrees (aborted : Bool) (graph : GpuTaskGraphLifecycle) (tasks : List GpuTaskId)
    (attempt : ℕ) : GpuPacketRuntimeState → Prop
  | .declared | .recorded => Untouched aborted graph tasks
  | .submitting => TasksIn graph tasks attempt .submitting
  | .rejecting => False
  | .accepted => TasksIn graph tasks attempt .accepted
  | .rejected => TasksIn graph tasks attempt .discarded

/-- The state that all tasks of a packet are in, for the states of a packet that settle it. -/
def GpuPacketRuntimeState.taskState : GpuPacketRuntimeState → Option GpuTaskLifecycleState
  | .declared | .recorded | .rejecting => none
  | .submitting => some .submitting
  | .accepted => some .accepted
  | .rejected => some .discarded

variable {aborted : Bool} {graph : GpuTaskGraphLifecycle} {tasks : List GpuTaskId} {attempt : ℕ}

/-- `PacketAgrees` through the common state of the tasks. -/
lemma packetAgrees_iff {state : GpuPacketRuntimeState} :
    PacketAgrees aborted graph tasks attempt state ↔
      state.taskState.elim (Untouched aborted graph tasks ∧ state ≠ .rejecting)
        (TasksIn graph tasks attempt) := by
  cases state <;> simp [PacketAgrees, GpuPacketRuntimeState.taskState]

/-- The number of tasks in the packets of one state. -/
def countTasks (plan : PublishedPlan) (transaction : GpuGraphSubmissionTransaction)
    (state : GpuPacketRuntimeState) : ℕ :=
  (List.zipWith (fun packet runtime => if runtime.state = state then packet.taskCount else 0)
    plan.compiled.packets transaction.packets).sum

/-- The number of packets in one state. -/
def countPackets (transaction : GpuGraphSubmissionTransaction)
    (state : GpuPacketRuntimeState) : ℕ :=
  transaction.packets.countP (·.state = state)

/-- The counters are the counts over the packet states. -/
structure Counted (plan : PublishedPlan) (transaction : GpuGraphSubmissionTransaction) : Prop where
  acceptedPackets : transaction.submissionStatistics.acceptedPacketCount
    = countPackets transaction .accepted
  acceptedTasks : transaction.submissionStatistics.acceptedTaskCount
    = countTasks plan transaction .accepted
  rejectedPackets : transaction.submissionStatistics.rejectedPacketCount
    = countPackets transaction .rejected
  rejectedTasks : transaction.submissionStatistics.rejectedTaskCount
    = countTasks plan transaction .rejected

/-- Transaction and graph agree. -/
structure Agrees (aborted : Bool) (plan : PublishedPlan) (s : TransactionSystem) : Prop where
  planGeneration : s.transaction.planGeneration = plan.planGeneration
  length : s.transaction.packets.length = plan.compiled.packets.length
  packets : ∀ (i : ℕ) (packet : GpuSubmissionPacket) (runtime : GpuPacketRuntime),
    plan.compiled.packets[i]? = some packet → s.transaction.packets[i]? = some runtime →
    PacketAgrees aborted s.graph (plan.compiled.packetTasksOf packet)
      s.transaction.recordingAttemptGeneration runtime.state
  unbound : s.transaction.recordingAttemptGeneration = 0 →
    ∀ runtime ∈ s.transaction.packets, TransactionSystem.unresolved runtime.state = true
  counted : Counted plan s.transaction

variable {plan : PublishedPlan} {i : ℕ} {packet : GpuSubmissionPacket}

/-- The packet of an index has its runtime. -/
lemma Agrees.runtime_at {s : TransactionSystem} (h : Agrees aborted plan s)
    (hpacket : plan.compiled.packets[i]? = some packet) :
    ∃ runtime, s.transaction.packets[i]? = some runtime := by
  have hi : i < s.transaction.packets.length := by
    rw [h.length]
    exact (List.getElem?_eq_some_iff.1 hpacket).1
  exact ⟨_, List.getElem?_eq_getElem hi⟩

/-- A task list that is in one state of an attempt is in no other. -/
lemma TasksIn.state_unique {attempt' : ℕ} {state state' : GpuTaskLifecycleState} (hne : tasks ≠ [])
    (h : TasksIn graph tasks attempt state) (h' : TasksIn graph tasks attempt' state') :
    state = state' := by
  obtain ⟨id, hid⟩ := List.exists_mem_of_ne_nil tasks hne
  obtain ⟨task, htask, hstate, -⟩ := h id hid
  obtain ⟨task', htask', hstate', -⟩ := h' id hid
  rw [htask] at htask'
  cases htask'
  exact hstate.symm.trans hstate'

/-- Untouched tasks are neither submitting nor accepted. -/
lemma Untouched.not_tasksIn {state : GpuTaskLifecycleState} (hne : tasks ≠ [])
    (h : Untouched aborted graph tasks) (hstate : state.untouched = false)
    (hdiscarded : aborted = true → state ≠ .discarded) : ¬ TasksIn graph tasks attempt state := by
  intro hin
  obtain ⟨id, hid⟩ := List.exists_mem_of_ne_nil tasks hne
  obtain ⟨task, htask, rfl, -⟩ := hin id hid
  rcases h id hid task htask with huntouched | ⟨haborted, hdiscard⟩
  · rw [hstate] at huntouched
    cases huntouched
  · exact hdiscarded haborted hdiscard

section States

variable {aborted : Bool} {graph : GpuTaskGraphLifecycle} {tasks : List GpuTaskId} {attempt : ℕ}
  {state : GpuPacketRuntimeState}

/-- A packet is in the state that its tasks' common state belongs to; a discard without an abort
of the recording is the packet's own. -/
lemma PacketAgrees.state_iff (hne : tasks ≠ [])
    (h : PacketAgrees aborted graph tasks attempt state) {target : GpuPacketRuntimeState}
    {taskState : GpuTaskLifecycleState} (htarget : target.taskState = some taskState)
    (hdiscarded : aborted = true → target ≠ .rejected) :
    state = target ↔ TasksIn graph tasks attempt taskState := by
  have hsettled : ∀ other, other.taskState = some taskState → other = target := by
    intro other hother
    cases other <;> cases target <;> cases htarget <;> first | rfl | cases hother
  have huntouched : taskState.untouched = false := by
    cases target <;> cases htarget <;> rfl
  have hkept : aborted = true → taskState ≠ .discarded := by
    intro haborted
    cases target <;> cases htarget <;> first | exact absurd rfl (hdiscarded haborted) | simp
  rw [packetAgrees_iff] at h
  constructor
  · rintro rfl
    rw [htarget, Option.elim_some] at h
    exact h
  · intro hin
    cases hstate : state.taskState with
    | none =>
      rw [hstate, Option.elim_none] at h
      exact absurd hin (Untouched.not_tasksIn hne h.1 huntouched hkept)
    | some inState =>
      rw [hstate, Option.elim_some] at h
      exact hsettled state (hstate.trans (congrArg some (TasksIn.state_unique hne h hin)))

end States

/-! ## Steps keep the agreement -/

/-- A packet whose tasks a change of the graph leaves alone. -/
lemma PacketAgrees.congr_graph {graph' : GpuTaskGraphLifecycle} {state : GpuPacketRuntimeState}
    (h : PacketAgrees aborted graph tasks attempt state)
    (hsame : ∀ id ∈ tasks, graph'.tasks[id.index]? = graph.tasks[id.index]?) :
    PacketAgrees aborted graph' tasks attempt state := by
  have hin : ∀ taskState, TasksIn graph tasks attempt taskState →
      TasksIn graph' tasks attempt taskState := by
    intro taskState hin id hid
    rw [hsame id hid]
    exact hin id hid
  cases state with
  | declared => exact fun id hid task htask => h id hid task (hsame id hid ▸ htask)
  | recorded => exact fun id hid task htask => h id hid task (hsame id hid ▸ htask)
  | submitting => exact hin _ h
  | rejecting => exact h
  | accepted => exact hin _ h
  | rejected => exact hin _ h

variable {transaction transaction' : GpuGraphSubmissionTransaction} {runtime : GpuPacketRuntime}

/-- What the packet counters gain when the packet at an index changes its state. -/
lemma countPackets_modify {f : GpuPacketRuntime → GpuPacketRuntime}
    (hruntime : transaction.packets[i]? = some runtime)
    (hpackets : transaction'.packets = transaction.packets.modify i f)
    (state : GpuPacketRuntimeState) :
    countPackets transaction' state + (if runtime.state = state then 1 else 0)
      = countPackets transaction state + (if (f runtime).state = state then 1 else 0) := by
  have hcount := @Tallies.countP_modify _ (·.state = state) f i runtime _ hruntime
  unfold countPackets
  rw [hpackets]
  simpa using hcount

/-- What the task counters gain when the packet at an index changes its state. -/
lemma countTasks_modify {f : GpuPacketRuntime → GpuPacketRuntime}
    (hpacket : plan.compiled.packets[i]? = some packet)
    (hruntime : transaction.packets[i]? = some runtime)
    (hpackets : transaction'.packets = transaction.packets.modify i f)
    (state : GpuPacketRuntimeState) :
    countTasks plan transaction' state + (if runtime.state = state then packet.taskCount else 0)
      = countTasks plan transaction state
        + (if (f runtime).state = state then packet.taskCount else 0) := by
  unfold countTasks
  rw [hpackets]
  exact Tallies.sum_zipWith_modify hpacket hruntime

/-- An unsettled packet goes to another state, and the counters follow. -/
structure Resolves (plan : PublishedPlan) (transaction transaction' : GpuGraphSubmissionTransaction)
    (i : ℕ) (target : GpuPacketRuntimeState) : Prop where
  planGeneration : transaction'.planGeneration = transaction.planGeneration
  attempt : transaction'.recordingAttemptGeneration = transaction.recordingAttemptGeneration
  packets : ∃ f, transaction'.packets = transaction.packets.modify i f ∧
    ∀ runtime, (f runtime).state = target
  unsettled : ∀ runtime, transaction.packets[i]? = some runtime →
    runtime.state ≠ .accepted ∧ runtime.state ≠ .rejected
  counters : ∀ packet, plan.compiled.packets[i]? = some packet →
    transaction'.submissionStatistics.acceptedPacketCount
        = transaction.submissionStatistics.acceptedPacketCount
          + (if target = .accepted then 1 else 0) ∧
      transaction'.submissionStatistics.acceptedTaskCount
        = transaction.submissionStatistics.acceptedTaskCount
          + (if target = .accepted then packet.taskCount else 0) ∧
      transaction'.submissionStatistics.rejectedPacketCount
        = transaction.submissionStatistics.rejectedPacketCount
          + (if target = .rejected then 1 else 0) ∧
      transaction'.submissionStatistics.rejectedTaskCount
        = transaction.submissionStatistics.rejectedTaskCount
          + (if target = .rejected then packet.taskCount else 0)

/-- Counters that follow a packet stay exact. -/
lemma Counted.resolves {target : GpuPacketRuntimeState} (h : Counted plan transaction)
    (hresolves : Resolves plan transaction transaction' i target)
    (hpacket : plan.compiled.packets[i]? = some packet)
    (hruntime : transaction.packets[i]? = some runtime) : Counted plan transaction' := by
  obtain ⟨f, hpackets, hf⟩ := hresolves.packets
  obtain ⟨hacceptedPackets, hacceptedTasks, hrejectedPackets, hrejectedTasks⟩ :=
    hresolves.counters packet hpacket
  obtain ⟨haccepted, hrejected⟩ := hresolves.unsettled runtime hruntime
  have hpacketCounts := countPackets_modify hruntime hpackets
  have htaskCounts := countTasks_modify hpacket hruntime hpackets
  simp only [hf] at hpacketCounts htaskCounts
  constructor
  · rw [hacceptedPackets, h.acceptedPackets, ← hpacketCounts, if_neg haccepted, add_zero]
  · rw [hacceptedTasks, h.acceptedTasks, ← htaskCounts, if_neg haccepted, add_zero]
  · rw [hrejectedPackets, h.rejectedPackets, ← hpacketCounts, if_neg hrejected, add_zero]
  · rw [hrejectedTasks, h.rejectedTasks, ← htaskCounts, if_neg hrejected, add_zero]

/-- A packet and its tasks move together, and the others stay where they are. -/
lemma Agrees.resolves {s s' : TransactionSystem} (hplan : PlanPackets plan)
    (h : Agrees aborted plan s) (target : GpuPacketRuntimeState)
    (hpacket : plan.compiled.packets[i]? = some packet)
    (hbound : s.transaction.recordingAttemptGeneration ≠ 0)
    (hresolves : Resolves plan s.transaction s'.transaction i target)
    (hother : ∀ j, (∀ id ∈ plan.compiled.packetTasksOf packet, id.index ≠ j) →
      s'.graph.tasks[j]? = s.graph.tasks[j]?)
    (htarget : PacketAgrees aborted s'.graph (plan.compiled.packetTasksOf packet)
      s.transaction.recordingAttemptGeneration target) : Agrees aborted plan s' := by
  obtain ⟨runtime, hruntime⟩ := h.runtime_at hpacket
  obtain ⟨f, hpackets, hf⟩ := hresolves.packets
  refine ⟨hresolves.planGeneration.trans h.planGeneration, ?_, ?_, ?_,
    h.counted.resolves hresolves hpacket hruntime⟩
  · rw [hpackets, List.length_modify, h.length]
  · intro j packet' runtime' hpacket' hruntime'
    rw [hresolves.attempt]
    by_cases hij : i = j
    · subst hij
      rw [hpacket] at hpacket'
      cases hpacket'
      rw [hpackets, List.getElem?_modify_eq, hruntime] at hruntime'
      cases hruntime'
      rw [hf]
      exact htarget
    · rw [hpackets, List.getElem?_modify_ne f _ hij] at hruntime'
      apply (h.packets j packet' runtime' hpacket' hruntime').congr_graph
      intro id hid
      apply hother
      intro id' hid'
      exact hplan.disjoint i j packet packet' hpacket hpacket' hij id' hid' id hid
  · intro hzero
    exact absurd (hresolves.attempt.symm.trans hzero) hbound

end NwbLot.PacketRuntime
