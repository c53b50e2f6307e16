import NwbLot.TaskGraph.HazardSoundness
import NwbLot.TaskGraph.Packetization
import NwbLot.TaskGraph.ValidAnalysis
import NwbLot.TaskGraph.Compiler

/-!
# The layout of a plan

Packetization fixes which tasks a plan has, in which order, in which packets and on which queues;
the later passes only fill in spans.  `PlanLayout` is that part of a plan, kept by every later
pass, with the lookups it makes succeed.
-/

namespace NwbLot.TaskGraph

/-- The part of a compiled task that packetization fixes. -/
def GpuCompiledTask.placement (t : GpuCompiledTask) :
    GpuTaskId × GpuPhysicalQueueId × GpuSubmissionPacketId := (t.task, t.queue, t.packet)

/-- The part of a packet that packetization fixes. -/
def GpuSubmissionPacket.taskSpan (p : GpuSubmissionPacket) : GpuPhysicalQueueId × ℕ × ℕ :=
  (p.queue, p.taskOffset, p.taskCount)

/-- A plan over an order of tasks whose packets tile the order. -/
structure PlanLayout (order : List GpuTaskId) (plan : GpuCompiledGraph) : Prop where
  order_nodup : order.Nodup
  order_valid : ∀ id ∈ order, id.valid = true ∧ id.generation = plan.graphGeneration
  order_length : order.length ≤ u32Max
  planGeneration_ne_zero : plan.planGeneration ≠ 0
  packetTasks_eq : plan.packetTasks = order
  tasks_eq : plan.tasks.map (·.task) = order
  tiles : Spans.Tiles GpuSubmissionPacket.taskOffset GpuSubmissionPacket.taskCount 0 plan.packets
    order.length
  nonempty : ∀ packet ∈ plan.packets, 0 < packet.taskCount
  placed : ∀ position compiledTask, plan.tasks[position]? = some compiledTask →
    ∃ packet, PlacedAt plan.planGeneration plan.packets position compiledTask packet

namespace PlanLayout

variable {order : List GpuTaskId} {plan plan' : GpuCompiledGraph}

/-! ## Lookups -/

lemma tasks_length (h : PlanLayout order plan) : plan.tasks.length = order.length := by
  simpa using congrArg List.length h.tasks_eq

variable {position : ℕ} {t : GpuCompiledTask}

lemma order_at (h : PlanLayout order plan) (ht : plan.tasks[position]? = some t) :
    order[position]? = some t.task := by
  rw [← h.tasks_eq, List.getElem?_map, ht]
  rfl

lemma exists_task_at (h : PlanLayout order plan) {id : GpuTaskId}
    (hid : order[position]? = some id) :
    ∃ t, plan.tasks[position]? = some t ∧ t.task = id := by
  rw [← h.tasks_eq, List.getElem?_map, Option.map_eq_some_iff] at hid
  exact hid

/-- A compiled task is found under its handle. -/
lemma find_at (h : PlanLayout order plan) (ht : plan.tasks[position]? = some t) :
    plan.findCompiledTask t.task = some t := by
  obtain ⟨hvalid, hgeneration⟩ := h.order_valid t.task (List.mem_of_getElem? (h.order_at ht))
  have hnodup : (plan.tasks.map (·.task)).Nodup := h.tasks_eq ▸ h.order_nodup
  have hfind := OptionList.find?_of_key_nodup hnodup ht
  simp [GpuCompiledGraph.findCompiledTask, hvalid, hgeneration, hfind]

lemma packet_at (h : PlanLayout order plan) (ht : plan.tasks[position]? = some t) :
    plan.findCompiledPacketForTask t.task = t.packet := by
  simp [GpuCompiledGraph.findCompiledPacketForTask, h.find_at ht]

variable {k l : ℕ} {u : GpuCompiledTask}

/-- A position is determined by its task. -/
lemma position_unique (h : PlanLayout order plan) (ht : plan.tasks[k]? = some t)
    (hu : plan.tasks[l]? = some u) (heq : t.task = u.task) :
    k = l := by
  have hk := h.order_at ht
  have hl := h.order_at hu
  rw [heq, ← hl] at hk
  have hlt : k < order.length := (List.getElem?_eq_some_iff.1 (hk.trans hl)).1
  exact (List.getElem?_inj hlt h.order_nodup).1 hk

/-! ## Packets -/

/-- There are at most as many packets as tasks. -/
lemma packets_length_le (h : PlanLayout order plan) : plan.packets.length ≤ order.length := by
  have hgeneral : ∀ (packets : List GpuSubmissionPacket) (start stop : ℕ),
      Spans.Tiles GpuSubmissionPacket.taskOffset GpuSubmissionPacket.taskCount start packets stop →
      (∀ packet ∈ packets, 0 < packet.taskCount) → start + packets.length ≤ stop := by
    intro packets
    induction packets with
    | nil =>
      intro start stop htiles _
      cases htiles
      simp
    | cons packet rest ih =>
      intro start stop htiles hpositive
      have hrest := ih _ _ htiles.2 fun p hp => hpositive p (List.mem_cons_of_mem _ hp)
      have := hpositive packet List.mem_cons_self
      simp only [List.length_cons]
      omega
  simpa using hgeneral plan.packets 0 order.length h.tiles h.nonempty

/-- A packet named by a compiled task is a valid packet of the plan. -/
lemma packet_valid (h : PlanLayout order plan) (ht : plan.tasks[position]? = some t) :
    t.packet.valid = true ∧ t.packet = plan.packetIdAt t.packet.index ∧
      t.packet.index < plan.packets.length := by
  obtain ⟨packet, hplaced⟩ := h.placed position t ht
  have hindex := (List.getElem?_eq_some_iff.1 hplaced.packet_at).1
  have hgeneration := hplaced.generation
  have hcount := h.packets_length_le
  have hlength := h.order_length
  have hnonzero := h.planGeneration_ne_zero
  refine ⟨?_, ?_, hindex⟩
  · simp only [GraphHandle.valid, hgeneration, Bool.and_eq_true, bne_iff_ne]
    exact ⟨by omega, hnonzero⟩
  · rw [GpuCompiledGraph.packetIdAt, ← hgeneration]

variable {p : GpuSubmissionPacket}

/-- Spans of later packets lie behind those of earlier ones. -/
lemma span_le (h : PlanLayout order plan) {i j : ℕ} {q : GpuSubmissionPacket}
    (hp : plan.packets[i]? = some p) (hq : plan.packets[j]? = some q) (hij : i < j) :
    p.taskOffset + p.taskCount ≤ q.taskOffset := by
  obtain ⟨hi, rfl⟩ := List.getElem?_eq_some_iff.1 hp
  obtain ⟨hj, rfl⟩ := List.getElem?_eq_some_iff.1 hq
  exact List.pairwise_iff_getElem.1 h.tiles.pairwise i j hi hj hij

/-- Packet indices do not decrease along the order. -/
lemma packet_index_mono (h : PlanLayout order plan) (ht : plan.tasks[k]? = some t)
    (hu : plan.tasks[l]? = some u) (hkl : k ≤ l) :
    t.packet.index ≤ u.packet.index := by
  by_contra hlt
  obtain ⟨p, hp⟩ := h.placed k t ht
  obtain ⟨q, hq⟩ := h.placed l u hu
  have hspan := h.span_le hq.packet_at hp.packet_at (by omega)
  have := hp.lower
  have := hq.upper
  omega

/-- The queue of a compiled task is that of its packet. -/
lemma queue_eq (h : PlanLayout order plan) (ht : plan.tasks[k]? = some t)
    (hp : plan.packets[t.packet.index]? = some p) : t.queue = p.queue := by
  obtain ⟨packet, hplaced⟩ := h.placed k t ht
  have : packet = p := Option.some.inj (hplaced.packet_at.symm.trans hp)
  rw [hplaced.queue, this]

/-- The tasks of the packets, packet by packet, are the order. -/
theorem flatMap_packetTasksOf (h : PlanLayout order plan) :
    plan.packets.flatMap plan.packetTasksOf = order := by
  calc plan.packets.flatMap plan.packetTasksOf
      = Spans.part plan.packetTasks 0 (order.length - 0) := h.tiles.flatMap_part plan.packetTasks
    _ = order := by simp [Spans.part, h.packetTasks_eq]

/-- A packet's task list holds the compiled tasks that name the packet, at their positions. -/
lemma packetTasksOf_at (h : PlanLayout order plan) (ht : plan.tasks[k]? = some t)
    (hp : plan.packets[t.packet.index]? = some p) :
    ∃ offset, k = p.taskOffset + offset ∧ (plan.packetTasksOf p)[offset]? = some t.task := by
  obtain ⟨packet, hplaced⟩ := h.placed k t ht
  obtain rfl : packet = p := Option.some.inj (hplaced.packet_at.symm.trans hp)
  have hlower := hplaced.lower
  have hupper := hplaced.upper
  refine ⟨k - packet.taskOffset, by omega, ?_⟩
  rw [GpuCompiledGraph.packetTasksOf, Spans.getElem?_part (by omega), h.packetTasks_eq,
    show packet.taskOffset + (k - packet.taskOffset) = k by omega]
  exact h.order_at ht

/-- Every member of a packet's task list is a compiled task that names the packet. -/
lemma exists_of_mem_packetTasksOf (h : PlanLayout order plan) {i : ℕ}
    (hp : plan.packets[i]? = some p) {id : GpuTaskId} (hid : id ∈ plan.packetTasksOf p) :
    ∃ (k : ℕ) (t : GpuCompiledTask),
      plan.tasks[k]? = some t ∧ t.task = id ∧ t.packet.index = i := by
  obtain ⟨offset, hoffset⟩ := List.mem_iff_getElem?.1 hid
  have hlt : offset < p.taskCount := by
    have := (List.getElem?_eq_some_iff.1 hoffset).1
    simp only [GpuCompiledGraph.packetTasksOf, Spans.part, List.length_take] at this
    omega
  rw [GpuCompiledGraph.packetTasksOf, Spans.getElem?_part hlt, h.packetTasks_eq] at hoffset
  obtain ⟨t, ht, htask⟩ := h.exists_task_at hoffset
  refine ⟨_, t, ht, htask, ?_⟩
  -- the position lies in the span of packet `i` only
  obtain ⟨q, hq⟩ := h.placed _ t ht
  have hlower := hq.lower
  have hupper := hq.upper
  rcases Nat.lt_trichotomy t.packet.index i with hless | heq | hgreater
  · have := h.span_le hq.packet_at hp hless
    omega
  · exact heq
  · have := h.span_le hp hq.packet_at hgreater
    omega

/-- Two tasks of one packet are listed in it in the order of their positions. -/
lemma listedBefore_in_packet (h : PlanLayout order plan) (ht : plan.tasks[k]? = some t)
    (hu : plan.tasks[l]? = some u) (hkl : k < l) (hsame : t.packet = u.packet)
    (hp : plan.packets[u.packet.index]? = some p) :
    ListedBefore (plan.packetTasksOf p) t.task u.task := by
  obtain ⟨a, hka, hta⟩ := h.packetTasksOf_at ht (hsame ▸ hp)
  obtain ⟨b, hlb, hub⟩ := h.packetTasksOf_at hu hp
  exact listedBefore_of_lt (by omega) hta hub

/-! ## Preservation -/

/-- A plan that agrees on placements and task spans has the same layout. -/
lemma congr (h : PlanLayout order plan) (hgraph : plan'.graphGeneration = plan.graphGeneration)
    (hplan : plan'.planGeneration = plan.planGeneration)
    (hpacketTasks : plan'.packetTasks = plan.packetTasks)
    (htasks : plan'.tasks.map GpuCompiledTask.placement
      = plan.tasks.map GpuCompiledTask.placement)
    (hpackets : plan'.packets.map GpuSubmissionPacket.taskSpan
      = plan.packets.map GpuSubmissionPacket.taskSpan) : PlanLayout order plan' where
  order_nodup := h.order_nodup
  order_valid := by rw [hgraph]; exact h.order_valid
  order_length := h.order_length
  planGeneration_ne_zero := by rw [hplan]; exact h.planGeneration_ne_zero
  packetTasks_eq := by rw [hpacketTasks, h.packetTasks_eq]
  tasks_eq := by
    have := congrArg (List.map Prod.fst) htasks
    simpa [List.map_map, Function.comp_def, GpuCompiledTask.placement, h.tasks_eq] using this
  tiles := by
    have hspans : ∀ packets : List GpuSubmissionPacket,
        Spans.Tiles GpuSubmissionPacket.taskOffset GpuSubmissionPacket.taskCount 0 packets
            order.length ↔
          Spans.Tiles (fun span : GpuPhysicalQueueId × ℕ × ℕ => span.2.1) (fun span => span.2.2) 0
            (packets.map GpuSubmissionPacket.taskSpan) order.length :=
      fun packets => (@Spans.tiles_map_iff (GpuPhysicalQueueId × ℕ × ℕ)
        (fun span => span.2.1) (fun span => span.2.2) _ GpuSubmissionPacket.taskSpan 0
        order.length packets).symm
    rw [hspans, hpackets, ← hspans]
    exact h.tiles
  nonempty := by
    intro packet hmem
    have hspan : packet.taskSpan ∈ plan.packets.map GpuSubmissionPacket.taskSpan :=
      hpackets ▸ List.mem_map_of_mem hmem
    obtain ⟨packet', hmem', heq⟩ := List.mem_map.1 hspan
    have := h.nonempty packet' hmem'
    simp only [GpuSubmissionPacket.taskSpan, Prod.mk.injEq] at heq
    omega
  placed := by
    intro position t' ht'
    have hplacement := congrArg (fun placements => placements[position]?) htasks
    simp only [List.getElem?_map, ht', Option.map_some] at hplacement
    obtain ⟨t, ht, heq⟩ := Option.map_eq_some_iff.1 hplacement.symm
    simp only [GpuCompiledTask.placement, Prod.mk.injEq] at heq
    obtain ⟨-, hqueue, hpacket⟩ := heq
    obtain ⟨packet, hplaced⟩ := h.placed position t ht
    have hspan := congrArg (fun spans => spans[t'.packet.index]?) hpackets
    simp only [List.getElem?_map, ← hpacket, hplaced.packet_at, Option.map_some] at hspan
    obtain ⟨packet', hpacket', heq'⟩ := Option.map_eq_some_iff.1 hspan
    simp only [GpuSubmissionPacket.taskSpan, Prod.mk.injEq] at heq'
    refine ⟨packet', ⟨hpacket ▸ hpacket', ?_, ?_, ?_, ?_⟩⟩
    · rw [← hpacket, hplan]
      exact hplaced.generation
    · have := hplaced.lower
      omega
    · have := hplaced.upper
      omega
    · rw [← hqueue, heq'.1]
      exact hplaced.queue

end PlanLayout

/-! ## Compilation up to packets -/

/-- What a compilation that reached a packetized plan has established. -/
structure PacketizedGraph (assignQueues : QueueAssigner) (graph : GpuTaskGraph)
    (topology : GpuTaskGraphQueueTopology) (assignments : GpuTaskGraphQueueAssignments)
    (plan : GpuCompiledGraph) : Prop where
  analyzed : (analyze graph).valid = true
  assigned : assignQueues graph (analyze graph) topology = some assignments
  topology_eq : plan.queueTopology = topology
  ownership : acceptsOwnershipMetadata graph topology plan = true
  layout : PlanLayout (analyze graph).topologicalOrder plan
  queues : ∀ t ∈ plan.tasks, ∃ assignment,
    assignments.find t.task = some assignment ∧ assignment.queue = t.queue
  graphGeneration_eq : plan.graphGeneration = graph.generation

section Compile

variable {assignQueues : QueueAssigner} {options : GpuTaskGraphCompileOptions}
  {planGeneration : CompiledPlanGeneration} {graph : GpuTaskGraph}
  {topology : GpuTaskGraphQueueTopology}

/-- The order of a successful analysis lists the valid tasks of the graph. -/
lemma topologicalOrder_valid (h : (analyze graph).valid = true) :
    (analyze graph).topologicalOrder.Nodup ∧
      (∀ id ∈ (analyze graph).topologicalOrder,
        id.valid = true ∧ id.generation = graph.generation) ∧
      (analyze graph).topologicalOrder.length ≤ u32Max := by
  have hordered := (analyze_success h).ordered
  refine ⟨order_nodup hordered, ?_, ?_⟩
  · intro id hid
    obtain ⟨hvalid, hgeneration, -⟩ := graph.validTask_iff.1 ((mem_order_iff hordered).1 hid)
    exact ⟨hvalid, hgeneration⟩
  · rw [(buildTopologicalOrder_perm hordered).length_eq]
    simpa [GpuTaskGraph.taskCount] using graph.tasks_length_le

theorem packetizedGraph_of_compilePackets {assignments : GpuTaskGraphQueueAssignments}
    {plan : GpuCompiledGraph}
    (h : compilePackets assignQueues options planGeneration graph topology
      = some (assignments, plan)) :
    PacketizedGraph assignQueues graph topology assignments plan := by
  simp only [compilePackets] at h
  split at h
  · cases h
  next hvalid =>
  split at h
  · cases h
  simp only [Option.bind_eq_bind, Option.bind_eq_some_iff] at h
  obtain ⟨assignments', hassigned, firstQueue, hfirst, h⟩ := h
  split at h
  · cases h
  split at h
  · cases h
  next hownership =>
  simp only [Option.bind_eq_some_iff, Option.some.injEq, Prod.mk.injEq] at h
  obtain ⟨state, hstate, rfl, rfl⟩ := h
  have hanalyzed : (analyze graph).valid = true := by simpa using hvalid
  have hinv := packetsInv_build hstate
  obtain ⟨hnodup, hids, hlength⟩ := topologicalOrder_valid hanalyzed
  exact {
    analyzed := hanalyzed
    assigned := hassigned
    topology_eq := rfl
    -- the lookups of the ownership loop read only the topology
    ownership := by
      have haccepted : acceptsOwnershipMetadata graph topology
          (openPlan graph topology firstQueue.id.deviceGeneration planGeneration) = true := by
        simpa using hownership
      exact haccepted
    layout := {
      order_nodup := hnodup
      order_valid := hids
      order_length := hlength
      planGeneration_ne_zero := planGeneration.2
      packetTasks_eq := hinv.packetTasks_eq
      tasks_eq := hinv.tasks_eq
      tiles := hinv.tiles
      nonempty := hinv.nonempty
      placed := hinv.placed }
    queues := hinv.assigned
    graphGeneration_eq := rfl }

end Compile

/-! ## Where edges lead

Explicit edges join a task to its declared dependencies and hazard edges join listed tasks, so
every edge of a successful analysis joins valid tasks and goes forwards in the compiled order. -/

variable {graph : GpuTaskGraph}

/-- Every edge joins valid tasks. -/
def EdgesValid (graph : GpuTaskGraph) (edges : List GpuTaskDependencyEdge) : Prop :=
  ∀ p c, EdgeRel edges p c → graph.validTask p = true ∧ graph.validTask c = true

/-- The hazard state names valid tasks only. -/
structure HazardTasksValid (graph : GpuTaskGraph) (state : HazardState) : Prop where
  consistent : state.table.Consistent
  edges : EdgesValid graph state.table.edges
  writers : ∀ access ∈ state.writers, graph.validTask access.task = true
  readers : ∀ access ∈ state.readers, graph.validTask access.task = true

variable {accesses : List TrackedResourceAccess}

lemma edgesValid_appendHazardEdges (type : GpuGraphResourceType) {task : GpuTaskId}
    (use : GpuTaskResourceUse) (hazard : GpuTaskHazardType) {table : EdgeTable}
    (hconsistent : table.Consistent) (hedges : EdgesValid graph table.edges)
    (htask : graph.validTask task = true)
    (haccesses : ∀ access ∈ accesses, graph.validTask access.task = true) :
    (appendHazardEdges type task use hazard accesses table).Consistent ∧
      EdgesValid graph (appendHazardEdges type task use hazard accesses table).edges := by
  obtain ⟨hconsistent', hspec⟩ := appendHazardEdges_spec type task use hazard accesses hconsistent
  refine ⟨hconsistent', fun p c hedge => ?_⟩
  rcases (hspec p c).1 hedge with hold | ⟨rfl, access, hmem, -, rfl⟩
  · exact hedges p c hold
  · exact ⟨haccesses access hmem, htask⟩

/-- Deactivation changes no task. -/
lemma validTask_deactivateContained {type : GpuGraphResourceType} {use : GpuTaskResourceUse}
    (haccesses : ∀ access ∈ accesses, graph.validTask access.task = true) :
    ∀ access ∈ deactivateContained type use accesses, graph.validTask access.task = true := by
  intro access hmem
  obtain ⟨before, hbefore, rfl⟩ := List.mem_map.1 hmem
  split
  · exact haccesses before hbefore
  · exact haccesses before hbefore

lemma validTask_snoc {access : TrackedResourceAccess}
    (haccesses : ∀ access ∈ accesses, graph.validTask access.task = true)
    (haccess : graph.validTask access.task = true) :
    ∀ other ∈ accesses ++ [access], graph.validTask other.task = true := by
  intro other hmem
  rcases List.mem_append.1 hmem with hold | hnew
  · exact haccesses other hold
  · exact List.mem_singleton.1 hnew ▸ haccess

lemma hazardTasksValid_step {state : HazardState} {type : GpuGraphResourceType}
    {task : GpuTaskId} {use : GpuTaskResourceUse} (h : HazardTasksValid graph state)
    (htask : graph.validTask task = true) :
    HazardTasksValid graph (inferUseHazards type task use state) := by
  have hread : ∀ table, table = (if isReadAccess use.access then
        appendHazardEdges type task use .readAfterWrite state.writers state.table
      else state.table) → table.Consistent ∧ EdgesValid graph table.edges := by
    rintro table rfl
    split
    · exact edgesValid_appendHazardEdges type use _ h.consistent h.edges htask h.writers
    · exact ⟨h.consistent, h.edges⟩
  obtain ⟨hreadConsistent, hreadEdges⟩ := hread _ rfl
  simp only [inferUseHazards]
  split
  · obtain ⟨hwriteConsistent, hwriteEdges⟩ := edgesValid_appendHazardEdges type use
      .writeAfterWrite hreadConsistent hreadEdges htask h.writers
    obtain ⟨hconsistent, hedges⟩ := edgesValid_appendHazardEdges type use .writeAfterRead
      hwriteConsistent hwriteEdges htask h.readers
    exact ⟨hconsistent, hedges, validTask_snoc (validTask_deactivateContained h.writers) htask,
      validTask_deactivateContained h.readers⟩
  · split
    · exact ⟨hreadConsistent, hreadEdges, h.writers, h.readers⟩
    · exact ⟨hreadConsistent, hreadEdges, h.writers, validTask_snoc h.readers htask⟩

lemma hazardTasksValid_run {state : HazardState} {order : List GpuTaskId}
    (h : HazardTasksValid graph state) (horder : ∀ id ∈ order, graph.validTask id = true) :
    HazardTasksValid graph (order.foldl (inferTaskHazards graph) state) := by
  induction order generalizing state with
  | nil => exact h
  | cons id rest ih =>
    refine ih ?_ fun id' hmem => horder id' (List.mem_cons_of_mem _ hmem)
    have hid := horder id List.mem_cons_self
    rw [inferTaskHazards]
    induction (graph.taskAt id.index).resourceUses generalizing state with
    | nil => exact h
    | cons use uses ihUses => exact ihUses (hazardTasksValid_step h hid)

/-- Declared dependencies of accepted tasks are valid. -/
lemma edgesValid_declareDependencies (hdeclared : validateDeclarations graph = none) :
    EdgesValid graph (declareDependencies graph).edges := by
  have htask : ∀ (dependencies : List GpuTaskId) (table : EdgeTable) (consumer : GpuTaskId),
      (∀ dependency ∈ dependencies, graph.validTask dependency = true) →
      graph.validTask consumer = true → EdgesValid graph table.edges →
      EdgesValid graph (dependencies.foldl (fun table dependency => table.appendSchedulingEdge
        { producer := dependency, consumer, hazard := .explicit }) table).edges := by
    intro dependencies
    induction dependencies with
    | nil => exact fun _ _ _ _ h => h
    | cons dependency rest ih =>
      intro table consumer hdependencies hconsumer h
      refine ih _ _ (fun d hd => hdependencies d (List.mem_cons_of_mem _ hd)) hconsumer ?_
      intro p c hedge
      rcases edgeRel_mergeSchedulingEdge.1 hedge with hold | ⟨rfl, rfl⟩
      · exact h p c hold
      · exact ⟨hdependencies _ List.mem_cons_self, hconsumer⟩
  rw [declareDependencies]
  suffices h : ∀ (indices : List ℕ) (table : EdgeTable), (∀ index ∈ indices, index < graph.taskCount) →
      EdgesValid graph table.edges → EdgesValid graph
        (indices.foldl (fun table index => declareTaskDependencies table (graph.taskAt index))
          table).edges from
    h _ _ (fun index hmem => List.mem_range.1 hmem) (by rintro p c ⟨edge, hmem, -⟩; cases hmem)
  intro indices
  induction indices with
  | nil => exact fun _ _ h => h
  | cons index rest ih =>
    intro table hindices h
    have hindex := hindices index List.mem_cons_self
    exact ih _ (fun i hi => hindices i (List.mem_cons_of_mem _ hi))
      (htask _ table _ (acceptedTask_of_declared hdeclared hindex).dependencies
        (graph.validTask_taskIdAt hindex) h)

/-- Every edge of a successful analysis joins valid tasks. -/
theorem edgesValid_analyze (h : (analyze graph).valid = true) :
    EdgesValid graph (analyze graph).edges := by
  have success := analyze_success h
  have hinit : HazardTasksValid graph { table := declareDependencies graph } :=
    ⟨declareDependencies_consistent graph, edgesValid_declareDependencies success.declared,
      by simp, by simp⟩
  rw [success.edges_eq]
  exact (hazardTasksValid_run hinit fun id hmem => (mem_order_iff success.explicit).1 hmem).edges

/-- Over a plan of the compiled order every edge leads from an earlier to a later task. -/
lemma PlanLayout.edge_positions {plan : GpuCompiledGraph} (hvalid : (analyze graph).valid = true)
    (h : PlanLayout (analyze graph).topologicalOrder plan) {edge : GpuTaskDependencyEdge}
    (hedge : edge ∈ (analyze graph).edges) :
    ∃ (k l : ℕ) (p c : GpuCompiledTask), k < l ∧ plan.tasks[k]? = some p ∧
      plan.tasks[l]? = some c ∧ p.task = edge.producer ∧ c.task = edge.consumer := by
  have success := analyze_success hvalid
  obtain ⟨hproducer, hconsumer⟩ := edgesValid_analyze hvalid _ _ ⟨edge, hedge, rfl, rfl⟩
  obtain ⟨before, after, hsplit⟩ :=
    List.append_of_mem ((mem_order_iff success.ordered).2 hconsumer)
  have hbefore := producer_mem_before success.ordered hsplit hedge (by simp [includesEdge]) rfl
    hproducer
  obtain ⟨k, hk⟩ := List.mem_iff_getElem?.1 hbefore
  have hlt : k < before.length := (List.getElem?_eq_some_iff.1 hk).1
  have hproducerAt : (analyze graph).topologicalOrder[k]? = some edge.producer := by
    rw [hsplit, List.getElem?_append_left hlt, hk]
  have hconsumerAt : (analyze graph).topologicalOrder[before.length]? = some edge.consumer := by
    rw [hsplit, List.getElem?_append_right (Nat.le_refl _)]
    simp
  obtain ⟨p, hp, hpTask⟩ := h.exists_task_at hproducerAt
  obtain ⟨c, hc, hcTask⟩ := h.exists_task_at hconsumerAt
  exact ⟨k, before.length, p, c, hlt, hp, hc, hpTask, hcTask⟩

end NwbLot.TaskGraph
