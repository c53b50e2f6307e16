import NwbLot.Library.FallibleLists
import NwbLot.TaskGraph.CompiledPlan

/-!
# Packetization

`BuildSubmissionPackets` of `compiler_packetization.cpp`: tasks in topological order, each in its
own packet unless it asks for a merge that its queue, the preceding tasks and the policy allow.
-/

namespace NwbLot.TaskGraph

/-- The task keeps its own submission boundary. -/
def GpuTaskSchedulingHint.forcesBoundary (hint : GpuTaskSchedulingHint) : Bool :=
  !hint.allowPacketMerge || hint.forceSubmissionBoundary || hint.joinsAcceptedQueueFrontier

section Merge

variable (graph : GpuTaskGraph) (analysis : GpuTaskGraphAnalysis)
  (assignments : GpuTaskGraphQueueAssignments) (policy : GpuTaskGraphPacketizationPolicy)

/-- A scored merge is one the policy asks for and the task does not. -/
def scoredMergeRequested (task : GpuTaskGraphTaskView) : Bool :=
  policy == .frontierScored && !task.scheduling.mergeWithPrevious

def mergeRequested (task : GpuTaskGraphTaskView) : Bool :=
  (task.scheduling.mergeWithPrevious || scoredMergeRequested policy task)
    && !task.scheduling.forcesBoundary

/-- The preceding packet already feeds a task on another queue. -/
def hasCrossQueueConsumer (precedingTasks : List GpuTaskId) (queue : GpuPhysicalQueueId) : Bool :=
  precedingTasks.any fun precedingTask =>
    analysis.edges.any fun edge =>
      edge.producer == precedingTask
        && !((assignments.find edge.consumer).any fun assignment =>
          assignment.queue.valid && assignment.queue == queue)

/-- Why the task may not join the preceding packet, if there is a reason. -/
def mergeRefusal (taskID : GpuTaskId) (queue packetQueue : GpuPhysicalQueueId)
    (precedingTasks : List GpuTaskId) : Option GpuTaskPacketizationDecision :=
  let task := graph.taskAt taskID.index
  let scored := scoredMergeRequested policy task
  let domain := task.scheduling.frontierScoredMergeDomain
  let lastTask := precedingTasks.getLastD {}
  if packetQueue ≠ queue then some .queueChanged
  else if precedingTasks.any fun id => (graph.taskAt id.index).scheduling.forcesBoundary then
    some .precedingTaskForcesBoundary
  else if scored && !(domain != 0 && precedingTasks.all fun id =>
      (graph.taskAt id.index).scheduling.frontierScoredMergeDomain == domain) then
    some .scoredMergeDomainMismatch
  else if scored && !((analysis.edges.any fun edge =>
        edge.producer == lastTask && edge.consumer == taskID)
      && decide (task.scheduling.cost.rank ≤ GpuTaskCostHint.small.rank)
      && !task.scheduling.allowMergeAcrossConsumerFrontier) then
    some .scoredMergeIneligible
  else if task.scheduling.allowMergeAcrossConsumerFrontier
      && !task.dependencies.contains lastTask then
    some .mergeRequiresExplicitImmediateDependency
  else if (policy == .frontierSafe || policy == .frontierScored)
      && !task.scheduling.allowMergeAcrossConsumerFrontier
      && hasCrossQueueConsumer analysis assignments precedingTasks packetQueue then
    some .crossQueueConsumerFrontier
  else none

end Merge

/-- The three vectors packetization fills. -/
structure PacketizationState where
  packets : List GpuSubmissionPacket := []
  packetTasks : List GpuTaskId := []
  tasks : List GpuCompiledTask := []
  deriving Repr, Inhabited

/-- A new packet for the task. -/
def PacketizationState.openPacket (state : PacketizationState) (planGeneration : ℕ)
    (taskID : GpuTaskId) (queue : GpuPhysicalQueueId) (joinsAcceptedQueueFrontier : Bool)
    (decision : GpuTaskPacketizationDecision) : PacketizationState where
  packets := state.packets ++
    [{ queue, taskOffset := state.packetTasks.length, taskCount := 1, joinsAcceptedQueueFrontier }]
  packetTasks := state.packetTasks ++ [taskID]
  tasks := state.tasks ++
    [{ task := taskID, queue, packet := ⟨state.packets.length, planGeneration⟩,
       packetizationDecision := decision }]

/-- The task joins the last packet. -/
def PacketizationState.joinPacket (state : PacketizationState) (planGeneration : ℕ)
    (taskID : GpuTaskId) (queue : GpuPhysicalQueueId) (preceding : GpuSubmissionPacket)
    (decision : GpuTaskPacketizationDecision) : PacketizationState where
  packets := state.packets.dropLast ++ [{ preceding with taskCount := preceding.taskCount + 1 }]
  packetTasks := state.packetTasks ++ [taskID]
  tasks := state.tasks ++
    [{ task := taskID, queue, packet := ⟨state.packets.length - 1, planGeneration⟩,
       packetizationDecision := decision }]

section Build

variable (graph : GpuTaskGraph) (analysis : GpuTaskGraphAnalysis)
  (assignments : GpuTaskGraphQueueAssignments) (policy : GpuTaskGraphPacketizationPolicy)
  (planGeneration : ℕ)

/-- The decision for an assigned task: join the preceding packet, or open one and say why. -/
def placeTask (state : PacketizationState) (taskID : GpuTaskId) (queue : GpuPhysicalQueueId) :
    PacketizationState :=
  let task := graph.taskAt taskID.index
  let openPacket := state.openPacket planGeneration taskID queue
    task.scheduling.joinsAcceptedQueueFrontier
  match state.packets.getLast? with
  | none => openPacket .firstTask
  | some preceding =>
    if !mergeRequested policy task then
      openPacket (if task.scheduling.forcesBoundary then .taskForcesBoundary else .mergeNotRequested)
    else
      match mergeRefusal graph analysis assignments policy taskID queue preceding.queue
          (Spans.part state.packetTasks preceding.taskOffset preceding.taskCount) with
      | some refusal => openPacket refusal
      | none => state.joinPacket planGeneration taskID queue preceding
          (if scoredMergeRequested policy task then .mergedFrontierScored else .mergedExplicit)

/-- The body of the packetization loop. -/
def packetizeTask (state : PacketizationState) (taskID : GpuTaskId) : Option PacketizationState :=
  match assignments.find taskID with
  | none => none
  | some assignment =>
      if !assignment.queue.valid then none
      else some (placeTask graph analysis assignments policy planGeneration state taskID
        assignment.queue)

/-- `BuildSubmissionPackets`. -/
def buildSubmissionPackets : Option PacketizationState :=
  analysis.topologicalOrder.foldlM
    (packetizeTask graph analysis assignments policy planGeneration) {}

end Build

/-! ## What packetization builds

The packets' task spans tile the processed part of the order, and every compiled task lies in the
span of the packet it names, on that packet's queue.  Opening a packet starts a span behind the
last one; joining extends the last span, which `mergeRefusal` allows only on the packet's queue. -/

/-- The compiled task at a position lies in the span of the packet it names. -/
structure PlacedAt (planGeneration : ℕ) (packets : List GpuSubmissionPacket) (position : ℕ)
    (compiledTask : GpuCompiledTask) (packet : GpuSubmissionPacket) : Prop where
  packet_at : packets[compiledTask.packet.index]? = some packet
  generation : compiledTask.packet.generation = planGeneration
  lower : packet.taskOffset ≤ position
  upper : position < packet.taskOffset + packet.taskCount
  queue : compiledTask.queue = packet.queue

/-- The loop invariant over the tasks processed so far. -/
structure PacketsInv (assignments : GpuTaskGraphQueueAssignments) (planGeneration : ℕ)
    (processed : List GpuTaskId) (state : PacketizationState) : Prop where
  packetTasks_eq : state.packetTasks = processed
  tasks_eq : state.tasks.map (·.task) = processed
  tiles : Spans.Tiles GpuSubmissionPacket.taskOffset GpuSubmissionPacket.taskCount 0 state.packets
    processed.length
  nonempty : ∀ packet ∈ state.packets, 0 < packet.taskCount
  placed : ∀ position compiledTask, state.tasks[position]? = some compiledTask →
    ∃ packet, PlacedAt planGeneration state.packets position compiledTask packet
  assigned : ∀ compiledTask ∈ state.tasks, ∃ assignment,
    assignments.find compiledTask.task = some assignment ∧ assignment.queue = compiledTask.queue

variable {graph : GpuTaskGraph} {analysis : GpuTaskGraphAnalysis}
  {assignments : GpuTaskGraphQueueAssignments} {policy : GpuTaskGraphPacketizationPolicy}
  {planGeneration : ℕ}

variable {processed : List GpuTaskId} {state : PacketizationState}

lemma PacketsInv.tasks_length (h : PacketsInv assignments planGeneration processed state) :
    state.tasks.length = processed.length := by
  simpa using congrArg List.length h.tasks_eq

variable {taskID : GpuTaskId}

/-- A merge keeps the queue. -/
lemma queue_eq_of_mergeRefusal_none {queue packetQueue : GpuPhysicalQueueId}
    {precedingTasks : List GpuTaskId}
    (h : mergeRefusal graph analysis assignments policy taskID queue packetQueue precedingTasks
      = none) : packetQueue = queue := by
  simp only [mergeRefusal] at h
  split at h
  · cases h
  · next heq => exact not_not.1 heq

variable {assignment : GpuTaskQueueAssignment}

/-- A task compiled on its assigned queue extends the assigned tasks. -/
lemma assigned_snoc (h : PacketsInv assignments planGeneration processed state)
    (hfind : assignments.find taskID = some assignment) {packet : GpuSubmissionPacketId}
    {decision : GpuTaskPacketizationDecision} :
    ∀ compiledTask ∈ state.tasks ++
        [{ task := taskID, queue := assignment.queue, packet, packetizationDecision := decision }],
      ∃ assignment, assignments.find compiledTask.task = some assignment ∧
        assignment.queue = compiledTask.queue := by
  intro compiledTask hmem
  rcases List.mem_append.1 hmem with hold | hnew
  · exact h.assigned compiledTask hold
  · rw [List.mem_singleton.1 hnew]
    exact ⟨assignment, hfind, rfl⟩

lemma packetsInv_open (h : PacketsInv assignments planGeneration processed state)
    (hfind : assignments.find taskID = some assignment) (joins : Bool)
    (decision : GpuTaskPacketizationDecision) :
    PacketsInv assignments planGeneration (processed ++ [taskID])
      (state.openPacket planGeneration taskID assignment.queue joins decision) where
  packetTasks_eq := by simp [PacketizationState.openPacket, h.packetTasks_eq]
  tasks_eq := by simp [PacketizationState.openPacket, h.tasks_eq]
  tiles := by
    refine Spans.tiles_snoc_iff.2 ⟨?_, ?_⟩
    · simpa [h.packetTasks_eq] using h.tiles
    · simp [h.packetTasks_eq]
  nonempty := by
    intro packet hmem
    rcases List.mem_append.1 hmem with hold | hnew
    · exact h.nonempty packet hold
    · simp [List.mem_singleton.1 hnew]
  placed := by
    intro position compiledTask hat
    rcases Spans.getElem?_snoc_cases hat with ⟨-, hold⟩ | ⟨hposition, rfl⟩
    · obtain ⟨packet, hplaced⟩ := h.placed position compiledTask hold
      refine ⟨packet, ?_, hplaced.generation, hplaced.lower, hplaced.upper, hplaced.queue⟩
      have hindex := (List.getElem?_eq_some_iff.1 hplaced.packet_at).1
      rw [PacketizationState.openPacket, List.getElem?_append_left hindex]
      exact hplaced.packet_at
    · have hlength := h.tasks_length
      refine ⟨_, List.getElem?_concat_length, rfl, ?_, ?_, rfl⟩
      · simp only [h.packetTasks_eq]
        omega
      · simp only [h.packetTasks_eq]
        omega
  assigned := assigned_snoc h hfind

lemma packetsInv_join (h : PacketsInv assignments planGeneration processed state)
    (hfind : assignments.find taskID = some assignment) {preceding : GpuSubmissionPacket}
    (hlast : state.packets.getLast? = some preceding) (hqueue : preceding.queue = assignment.queue)
    (decision : GpuTaskPacketizationDecision) :
    PacketsInv assignments planGeneration (processed ++ [taskID])
      (state.joinPacket planGeneration taskID assignment.queue preceding decision) := by
  obtain ⟨front, hpackets⟩ := List.getLast?_eq_some_iff.1 hlast
  have htiles := h.tiles
  rw [hpackets, Spans.tiles_snoc_iff] at htiles
  have hdrop : state.packets.dropLast = front := by simp [hpackets]
  have hlength : state.packets.length - 1 = front.length := by simp [hpackets]
  refine ⟨?_, ?_, ?_, ?_, ?_, ?_⟩
  · simp [PacketizationState.joinPacket, h.packetTasks_eq]
  · simp [PacketizationState.joinPacket, h.tasks_eq]
  · rw [PacketizationState.joinPacket, hdrop]
    refine Spans.tiles_snoc_iff.2 ⟨htiles.1, ?_⟩
    have hstop := htiles.2
    simp only [List.length_append, List.length_singleton]
    omega
  · intro packet hmem
    rw [PacketizationState.joinPacket, hdrop] at hmem
    rcases List.mem_append.1 hmem with hold | hnew
    · exact h.nonempty packet (hpackets ▸ List.mem_append_left _ hold)
    · simp [List.mem_singleton.1 hnew]
  · intro position compiledTask hat
    rcases Spans.getElem?_snoc_cases hat with ⟨-, hold⟩ | ⟨hposition, rfl⟩
    · obtain ⟨packet, hplaced⟩ := h.placed position compiledTask hold
      have hpacket := hplaced.packet_at
      rw [hpackets] at hpacket
      rcases Spans.getElem?_snoc_cases hpacket with ⟨hearlier, hfront⟩ | ⟨hindex, rfl⟩
      · refine ⟨packet, ?_, hplaced.generation, hplaced.lower, hplaced.upper, hplaced.queue⟩
        rw [PacketizationState.joinPacket, hdrop, List.getElem?_append_left hearlier]
        exact hfront
      · -- the task already lay in the extended packet
        have hupper := hplaced.upper
        refine ⟨{ packet with taskCount := packet.taskCount + 1 }, ?_, hplaced.generation,
          hplaced.lower, ?_, hplaced.queue⟩
        · rw [PacketizationState.joinPacket, hdrop, hindex]
          exact List.getElem?_concat_length
        · simp only
          omega
    · have htasks := h.tasks_length
      have hstop := htiles.2
      refine ⟨{ preceding with taskCount := preceding.taskCount + 1 }, ?_, rfl, ?_, ?_,
        hqueue.symm⟩
      · simp only [PacketizationState.joinPacket, hdrop, hlength]
        exact List.getElem?_concat_length
      · simp only
        omega
      · simp only
        omega
  · exact assigned_snoc h hfind

/-- One task preserves the invariant. -/
lemma packetsInv_step {state' : PacketizationState}
    (hstep : packetizeTask graph analysis assignments policy planGeneration state taskID
      = some state') (h : PacketsInv assignments planGeneration processed state) :
    PacketsInv assignments planGeneration (processed ++ [taskID]) state' := by
  simp only [packetizeTask] at hstep
  split at hstep
  · cases hstep
  next assignment hfind =>
  split at hstep
  · cases hstep
  cases hstep
  simp only [placeTask]
  split
  · exact packetsInv_open h hfind _ _
  · next preceding hlast =>
      split
      · exact packetsInv_open h hfind _ _
      · split
        · exact packetsInv_open h hfind _ _
        · next hrefusal =>
            exact packetsInv_join h hfind hlast (queue_eq_of_mergeRefusal_none hrefusal) _

/-- The invariant of a finished packetization. -/
theorem packetsInv_build
    (h : buildSubmissionPackets graph analysis assignments policy planGeneration = some state) :
    PacketsInv assignments planGeneration analysis.topologicalOrder state := by
  have hinit : PacketsInv assignments planGeneration [] {} :=
    ⟨rfl, rfl, rfl, by simp, by simp, by simp⟩
  exact OptionList.foldlM_processed (PacketsInv assignments planGeneration)
    (fun _ _ _ _ hstep hinv => packetsInv_step hstep hinv) h hinit

end NwbLot.TaskGraph
