import NwbLot.TaskGraph.PlanLayout
import NwbLot.TaskGraph.EntryRule

/-!
# Packet dependencies

Dependency planning asks of every edge and seed that its producer is this packet or an earlier
packet of the plan, and of every seed that its source's frontier leaves room.  Packetization and
state planning guarantee both, so the pass always succeeds, and what it records covers every edge
and seed.
-/

namespace NwbLot.TaskGraph

/-! ## Seed sources -/

section Seeds

variable {graph : GpuTaskGraph} {topology : GpuTaskGraphQueueTopology}
  {assignments : GpuTaskGraphQueueAssignments} {plan : GpuCompiledGraph}
  {entries : List StatePlanEntries} {exports : ExternalExportPlan}

/-- Tracked states belong to earlier tasks. -/
lemma task_of_mem_trackedBefore {k : ℕ} {state : TrackedCompiledResourceState}
    (h : state ∈ trackedBefore graph plan k) :
    ∃ i u, i < k ∧ plan.tasks[i]? = some u ∧ state.task = u.task ∧ state.queue = u.queue := by
  obtain ⟨u, hu, hstate⟩ := List.mem_flatMap.1 h
  obtain ⟨i, hi⟩ := List.mem_iff_getElem?.1 hu
  have hik : i < k := by
    have := (List.getElem?_eq_some_iff.1 hi).1
    rw [List.length_take] at this
    omega
  rw [List.getElem?_take_of_lt hik] at hi
  obtain ⟨use, -, huse⟩ := List.mem_flatMap.1 hstate
  rw [useStates] at huse
  split at huse
  · obtain ⟨range, -, rfl⟩ := Option.map_eq_some_iff.1 (Option.mem_toList.1 huse)
    exact ⟨i, u, hik, hi, rfl, rfl⟩
  · cases huse

/-- Every seed of a task names the packet of an earlier task in another packet. -/
lemma PlannedGraph.seed_source
    (h : PlannedGraph graph topology assignments plan entries exports) {k : ℕ}
    {t : GpuCompiledTask} (ht : plan.tasks[k]? = some t) {e : StatePlanEntries}
    (he : entries[k]? = some e) :
    ∀ seed ∈ e.prologueStateSeeds, ∃ i u, i < k ∧ plan.tasks[i]? = some u ∧
      seed.sourcePacket = u.packet ∧ u.packet ≠ t.packet := by
  obtain ⟨e', he', trace⟩ := h.trace.at_task k t ht
  obtain rfl := Option.some.inj (he.symm.trans he')
  obtain ⟨taskQueue, new, -, huses⟩ := trace.planned
  have rule : EntryRule graph topology plan t
      (fun entries => ∀ seed ∈ entries.prologueStateSeeds, ∃ i u, i < k ∧
        plan.tasks[i]? = some u ∧ seed.sourcePacket = u.packet ∧ u.packet ≠ t.packet)
      (fun state => state.task = t.task ∨ ∃ i u, i < k ∧ plan.tasks[i]? = some u ∧
        state.task = u.task) := {
    empty := by simp
    append := fun a b ha hb seed hmem => (List.mem_append.1 hmem).elim (ha seed) (hb seed)
    previous := by
      intro use range state planned hstate hplanned seed hmem
      simp only [planFromPreviousState, Option.bind_eq_bind, Option.bind_eq_some_iff,
        Option.some.injEq] at hplanned
      obtain ⟨handoff, hhandoff, rfl⟩ := hplanned
      rw [StatePlanEntries.append_seeds, planTransition_rest.1, List.append_nil] at hmem
      rcases planPacketHandoff_cases hhandoff with ⟨-, rfl⟩ | ⟨hother, source, destination, hcase⟩
      · cases hmem
      · rw [hcase.seeds] at hmem
        split at hmem
        · cases hmem
        · rw [List.mem_singleton.1 hmem]
          rcases hstate with hown | ⟨i, u, hi, hu, htask⟩
          · exact absurd (hown ▸ h.layout.packet_at ht) hother
          · have hpacket := h.layout.packet_at hu
            rw [← htask] at hpacket
            exact ⟨i, u, hi, hu, hpacket, hpacket ▸ hother⟩
    initial := by
      intro use range texture owner hasInitialOwnerStateSeed _ seed hmem
      have hnone : (planFromInitialState (graph.resourceAt use.resource.index) use t range owner
          hasInitialOwnerStateSeed).prologueStateSeeds = [] := by
        cases owner <;> simp only [planFromInitialState, planInitialTransition] <;> split <;> rfl
      rw [hnone] at hmem
      cases hmem
    own := fun use range => Or.inl rfl }
  refine rule.taskUses huses fun state hmem => ?_
  obtain ⟨i, u, hi, hu, htask, -⟩ := task_of_mem_trackedBefore hmem
  exact Or.inr ⟨i, u, hi, hu, htask⟩

end Seeds

/-! ## The dependencies of one packet -/

section Consumer

variable (plan : GpuCompiledGraph)

/-- The seeds of a task of the plan. -/
def seedsOf (id : GpuTaskId) : List GpuPacketStateSeed :=
  ((plan.findCompiledTask id).bind (requireStateSeeds plan)).getD []

/-- The packets a task's incoming edges and seeds come from, in the order they are appended. -/
def taskProducers (edges : List GpuTaskDependencyEdge) (id : GpuTaskId) :
    List GpuSubmissionPacketId :=
  (edges.filter (·.consumer == id)).map (fun edge => plan.findCompiledPacketForTask edge.producer)
    ++ (seedsOf plan id).map (·.sourcePacket)

/-- A producer the consistency checks of packet `i` accept. -/
def AcceptedProducer (i : ℕ) (producer : GpuSubmissionPacketId) : Prop :=
  producer.valid = true ∧ ∃ j ≤ i, producer = plan.packetIdAt j

/-- The dependencies collected for packet `i` from some producers. -/
structure DependenciesInv (i : ℕ) (producers : List GpuSubmissionPacketId)
    (dependencies : List GpuPacketDependency) : Prop where
  sound : ∀ d ∈ dependencies, d.consumer = plan.packetIdAt i ∧
    ∃ j < i, d.producer = plan.packetIdAt j
  complete : ∀ producer ∈ producers, producer ≠ plan.packetIdAt i →
    ∃ d ∈ dependencies, d.producer = producer

variable {plan}

variable {i : ℕ} {producers : List GpuSubmissionPacketId} {dependencies : List GpuPacketDependency}

lemma DependenciesInv.skip {producer : GpuSubmissionPacketId}
    (h : DependenciesInv plan i producers dependencies)
    (hknown : producer ≠ plan.packetIdAt i → ∃ d ∈ dependencies, d.producer = producer) :
    DependenciesInv plan i (producers ++ [producer]) dependencies where
  sound := h.sound
  complete := by
    intro other hmem hother
    rcases List.mem_append.1 hmem with hold | hnew
    · exact h.complete other hold hother
    · obtain rfl := List.mem_singleton.1 hnew
      exact hknown hother

/-- Appending an accepted producer succeeds. -/
lemma appendPacketDependency_total {producer : GpuSubmissionPacketId}
    (h : DependenciesInv plan i producers dependencies)
    (haccepted : AcceptedProducer plan i producer) :
    ∃ dependencies', appendPacketDependency plan i dependencies producer = some dependencies' ∧
      DependenciesInv plan i (producers ++ [producer]) dependencies' := by
  obtain ⟨hvalid, j, hji, hproducer⟩ := haccepted
  rw [appendPacketDependency]
  split
  · next hself => exact ⟨_, rfl, h.skip fun hne => absurd hself hne⟩
  next hother =>
  have hlt : j < i := by
    refine Nat.lt_of_le_of_ne hji fun heq => hother ?_
    rw [hproducer, heq]
  have hindex : producer.index = j := by rw [hproducer]; rfl
  have hgeneration : producer.generation = plan.planGeneration := by rw [hproducer]; rfl
  rw [if_neg (by simp [hvalid, hindex, hgeneration, hlt])]
  split
  · next hknown =>
      obtain ⟨d, hmem, heq⟩ := List.any_eq_true.1 hknown
      exact ⟨_, rfl, h.skip fun _ => ⟨d, hmem, by simpa using heq⟩⟩
  · refine ⟨_, rfl, ⟨fun d hmem => ?_, fun other hmem hne => ?_⟩⟩
    · rcases List.mem_append.1 hmem with hold | hnew
      · exact h.sound d hold
      · rw [List.mem_singleton.1 hnew]
        exact ⟨rfl, j, hlt, hproducer⟩
    · rcases List.mem_append.1 hmem with hold | hnew
      · obtain ⟨d, hd, heq⟩ := h.complete other hold hne
        exact ⟨d, List.mem_append_left _ hd, heq⟩
      · obtain rfl := List.mem_singleton.1 hnew
        exact ⟨_, List.mem_append_right _ List.mem_cons_self, rfl⟩

/-- Appending a list of accepted producers succeeds. -/
lemma appendPacketDependencies_total {more : List GpuSubmissionPacketId}
    (h : DependenciesInv plan i producers dependencies)
    (haccepted : ∀ producer ∈ more, AcceptedProducer plan i producer) :
    ∃ dependencies', more.foldlM (appendPacketDependency plan i) dependencies
        = some dependencies' ∧
      DependenciesInv plan i (producers ++ more) dependencies' := by
  refine OptionList.foldlM_total
    (fun done dependencies => DependenciesInv plan i (producers ++ done) dependencies) ?_
    (by simpa using h)
  intro done producer rest dependencies' hsplit hinv
  have hmem : producer ∈ more := by simp [hsplit]
  obtain ⟨next, hnext, hinv'⟩ := appendPacketDependency_total hinv (haccepted producer hmem)
  exact ⟨next, hnext, by simpa using hinv'⟩

/-- A task whose lookups succeed and whose producers are accepted. -/
structure AcceptedConsumer (plan : GpuCompiledGraph) (edges : List GpuTaskDependencyEdge) (i : ℕ)
    (id : GpuTaskId) : Prop where
  compiled : ∃ t seeds, plan.findCompiledTask id = some t ∧ requireStateSeeds plan t = some seeds
  producers : ∀ producer ∈ taskProducers plan edges id, AcceptedProducer plan i producer

lemma planConsumerTaskDependencies_total {edges : List GpuTaskDependencyEdge} {id : GpuTaskId}
    (h : DependenciesInv plan i producers dependencies)
    (haccepted : AcceptedConsumer plan edges i id) :
    ∃ dependencies', planConsumerTaskDependencies plan edges i dependencies id
        = some dependencies' ∧
      DependenciesInv plan i (producers ++ taskProducers plan edges id) dependencies' := by
  obtain ⟨t, seeds, hfind, hseeds⟩ := haccepted.compiled
  have hseedsOf : seedsOf plan id = seeds := by simp [seedsOf, hfind, hseeds]
  have hproducers := haccepted.producers
  rw [taskProducers, hseedsOf] at hproducers ⊢
  obtain ⟨afterEdges, hedges, hinv⟩ := appendPacketDependencies_total h
    fun producer hmem => hproducers producer (List.mem_append_left _ hmem)
  obtain ⟨afterSeeds, hseedRun, hinv'⟩ := appendPacketDependencies_total hinv
    fun producer hmem => hproducers producer (List.mem_append_right _ hmem)
  rw [List.foldlM_map] at hedges hseedRun
  refine ⟨afterSeeds, ?_, by simpa using hinv'⟩
  simp only [planConsumerTaskDependencies, hfind, hseeds, Option.bind_eq_bind, Option.bind_some,
    hedges]
  exact hseedRun

/-- The dependencies of a packet whose tasks are all accepted. -/
lemma packetDependencies_total {edges : List GpuTaskDependencyEdge} {ids : List GpuTaskId}
    (haccepted : ∀ id ∈ ids, AcceptedConsumer plan edges i id) :
    ∃ dependencies, ids.foldlM (planConsumerTaskDependencies plan edges i) [] = some dependencies ∧
      DependenciesInv plan i (ids.flatMap (taskProducers plan edges)) dependencies := by
  refine OptionList.foldlM_total
    (fun done dependencies =>
      DependenciesInv plan i (done.flatMap (taskProducers plan edges)) dependencies) ?_
    ⟨by simp, by simp⟩
  intro done id rest dependencies hsplit hinv
  have hmem : id ∈ ids := by simp [hsplit]
  obtain ⟨next, hnext, hinv'⟩ := planConsumerTaskDependencies_total hinv (haccepted id hmem)
  exact ⟨next, hnext, by simpa using hinv'⟩

end Consumer

/-! ## All packets -/

section Packets

variable {plan : GpuCompiledGraph} {analysis : GpuTaskGraphAnalysis}

/-- Every task of every packet is an accepted consumer. -/
def AcceptedPlan (plan : GpuCompiledGraph) (edges : List GpuTaskDependencyEdge) : Prop :=
  ∀ i packet, plan.packets[i]? = some packet → ∀ id ∈ plan.packetTasksOf packet,
    AcceptedConsumer plan edges i id

/-- A planned packet shows the dependencies of the packet it was made from. -/
structure PlannedPacket (plan : GpuCompiledGraph) (edges : List GpuTaskDependencyEdge)
    (packetDependencies : List GpuPacketDependency) (i : ℕ) (packet : GpuSubmissionPacket) :
    Prop where
  original : ∃ original, plan.packets[i]? = some original ∧
    packet.taskSpan = original.taskSpan
  dependencies : DependenciesInv plan i
    ((plan.packetTasksOf packet).flatMap (taskProducers plan edges))
    (Spans.part packetDependencies packet.dependencyOffset packet.dependencyCount)

/-- The loop invariant over the packets planned so far. -/
structure ConsumersInv (plan : GpuCompiledGraph) (edges : List GpuTaskDependencyEdge)
    (count : ℕ) (state : PacketDependencyState) : Prop where
  packets_length : state.packets.length = count
  tiles : Spans.Tiles GpuSubmissionPacket.dependencyOffset GpuSubmissionPacket.dependencyCount 0
    state.packets state.packetDependencies.length
  planned : ∀ i packet, state.packets[i]? = some packet →
    PlannedPacket plan edges state.packetDependencies i packet

theorem planConsumerPackets_total (haccepted : AcceptedPlan plan analysis.edges)
    (owners : List GpuTaskExternalDependencyEdge) :
    ∃ state, planConsumerPackets plan analysis owners = some state ∧
      ConsumersInv plan analysis.edges plan.packets.length state := by
  refine OptionList.foldlM_total
    (fun done state => ConsumersInv plan analysis.edges done.length state) ?_
    ⟨rfl, rfl, by simp⟩
  intro done packet rest state hsplit hinv
  have hat : plan.packets[done.length]? = some packet := by simp [hsplit]
  obtain ⟨dependencies, hrun, hdependencies⟩ :=
    packetDependencies_total (haccepted done.length packet hat)
  refine ⟨_, by simp only [planConsumerPacket, hinv.packets_length, hrun, Option.bind_eq_bind,
    Option.bind_some]; rfl, ?_⟩
  refine ⟨by simp [hinv.packets_length], ?_, ?_⟩
  · refine Spans.tiles_snoc_iff.2 ⟨hinv.tiles, ?_⟩
    simp
  · intro i planned hi
    rcases Spans.getElem?_snoc_cases hi with ⟨hlt, hold⟩ | ⟨hlast, rfl⟩
    · have hplanned := hinv.planned i planned hold
      refine ⟨hplanned.original, ?_⟩
      rw [Spans.part_append_right (hinv.tiles.end_le (List.mem_of_getElem? hold))]
      exact hplanned.dependencies
    · rw [hinv.packets_length] at hlast
      refine ⟨⟨packet, hlast ▸ hat, rfl⟩, ?_⟩
      have hpart := Spans.part_append_middle state.packetDependencies dependencies []
      rw [List.append_nil] at hpart
      rw [hpart, hlast]
      exact hdependencies

end Packets

end NwbLot.TaskGraph
