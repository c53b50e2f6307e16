import NwbLot.TaskGraph.PacketDependencies
import NwbLot.TaskGraph.Compiler

/-!
# The packet plan

The packets of a compiled plan partition the order, every edge and seed is covered, dependencies
lead backwards, frontiers rise along seeds, and the consistency checks of dependency planning
cannot fail.
-/

namespace NwbLot.TaskGraph

/-! ## Recording frontiers -/

section Frontiers

variable {plan : GpuCompiledGraph}

/-- A seed the frontier checks of packet `i` accept. -/
def AcceptedSeed (plan : GpuCompiledGraph) (i : ℕ) (seed : GpuPacketStateSeed) : Prop :=
  seed.sourcePacket.valid = true ∧ ∃ j < i, seed.sourcePacket = plan.packetIdAt j

/-- The frontier lies above that of the seed's source. -/
def RaisedAbove (frontiers : List ℕ) (frontier : ℕ) (seed : GpuPacketStateSeed) : Prop :=
  ∃ source, frontiers[seed.sourcePacket.index]? = some source ∧ source < frontier

lemma RaisedAbove.mono {frontiers : List ℕ} {frontier frontier' : ℕ} {seed : GpuPacketStateSeed}
    (h : RaisedAbove frontiers frontier seed) (hle : frontier ≤ frontier') :
    RaisedAbove frontiers frontier' seed := by
  obtain ⟨source, hsource, hlt⟩ := h
  exact ⟨source, hsource, by omega⟩

/-- No frontier exceeds its packet's index. -/
def FrontiersBounded (frontiers : List ℕ) : Prop :=
  ∀ (j f : ℕ), frontiers[j]? = some f → f ≤ j

/-- The frontier of the next packet rises above every accepted seed and stays within its index. -/
lemma raiseFrontier_total {frontiers : List ℕ} (hbounded : FrontiersBounded frontiers)
    (hcount : frontiers.length ≤ u32Max) {frontier : ℕ} (hfrontier : frontier ≤ frontiers.length)
    {seed : GpuPacketStateSeed} (hseed : AcceptedSeed plan frontiers.length seed) :
    ∃ frontier', raiseFrontier plan frontiers.length frontiers frontier seed = some frontier' ∧
      frontier ≤ frontier' ∧ frontier' ≤ frontiers.length ∧
      RaisedAbove frontiers frontier' seed := by
  obtain ⟨hvalid, j, hj, hsource⟩ := hseed
  have hindex : seed.sourcePacket.index = j := by rw [hsource]; rfl
  have hgeneration : seed.sourcePacket.generation = plan.planGeneration := by rw [hsource]; rfl
  have hother : (seed.sourcePacket == plan.packetIdAt frontiers.length) = false := by
    rw [beq_eq_false_iff_ne]
    intro heq
    have := congrArg GraphHandle.index heq
    rw [hindex] at this
    simp only [GpuCompiledGraph.packetIdAt] at this
    omega
  have hat := List.getElem?_eq_getElem hj
  have hle := hbounded j _ hat
  have hroom : frontiers[j] ≠ u32Max := by omega
  refine ⟨max frontier (frontiers[j] + 1), ?_, Nat.le_max_left _ _, by omega,
    frontiers[j], by rw [hindex, hat], by omega⟩
  simp [raiseFrontier, hvalid, hother, hgeneration, hindex, hj, hroom]

lemma raiseFrontiers_total {frontiers : List ℕ} (hbounded : FrontiersBounded frontiers)
    (hcount : frontiers.length ≤ u32Max) {frontier : ℕ} (hfrontier : frontier ≤ frontiers.length)
    {seeds : List GpuPacketStateSeed}
    (hseeds : ∀ seed ∈ seeds, AcceptedSeed plan frontiers.length seed) :
    ∃ frontier', seeds.foldlM (raiseFrontier plan frontiers.length frontiers) frontier
        = some frontier' ∧ frontier ≤ frontier' ∧ frontier' ≤ frontiers.length ∧
      ∀ seed ∈ seeds, RaisedAbove frontiers frontier' seed := by
  refine OptionList.foldlM_total
    (fun done f => frontier ≤ f ∧ f ≤ frontiers.length ∧
      ∀ seed ∈ done, RaisedAbove frontiers f seed) ?_ ⟨Nat.le_refl _, hfrontier, by simp⟩
  rintro done seed rest f hsplit ⟨hlow, hhigh, habove⟩
  have hmem : seed ∈ seeds := by simp [hsplit]
  obtain ⟨f', hrun, hle, hhigh', hraised⟩ :=
    raiseFrontier_total hbounded hcount hhigh (hseeds seed hmem)
  refine ⟨f', hrun, by omega, hhigh', fun other hother => ?_⟩
  rcases List.mem_append.1 hother with hold | hnew
  · exact (habove other hold).mono hle
  · rw [List.mem_singleton.1 hnew]
    exact hraised

/-- What the frontier loop asks of a packet. -/
structure AcceptedPacket (plan : GpuCompiledGraph) (i : ℕ) (packet : GpuSubmissionPacket) :
    Prop where
  dependencies : (plan.packetDependenciesOf packet).all (consistentDependency plan i) = true
  tasks : ∀ id ∈ plan.packetTasksOf packet, ∃ t seeds, plan.findCompiledTask id = some t ∧
    requireStateSeeds plan t = some seeds ∧ ∀ seed ∈ seeds, AcceptedSeed plan i seed

lemma planRecordingFrontier_total {frontiers : List ℕ} (hbounded : FrontiersBounded frontiers)
    (hcount : frontiers.length ≤ u32Max) {packet : GpuSubmissionPacket}
    (haccepted : AcceptedPacket plan frontiers.length packet) :
    ∃ frontier, planRecordingFrontier plan frontiers packet = some frontier ∧
      frontier ≤ frontiers.length ∧
      ∀ id ∈ plan.packetTasksOf packet, ∀ seed ∈ seedsOf plan id,
        RaisedAbove frontiers frontier seed := by
  have hstep : ∀ (done : List GpuTaskId) (id : GpuTaskId) (rest : List GpuTaskId) (f : ℕ),
      plan.packetTasksOf packet = done ++ id :: rest →
      (f ≤ frontiers.length ∧
        ∀ id ∈ done, ∀ seed ∈ seedsOf plan id, RaisedAbove frontiers f seed) →
      ∃ f', (do
          let compiledTask ← plan.findCompiledTask id
          let stateSeeds ← requireStateSeeds plan compiledTask
          stateSeeds.foldlM (raiseFrontier plan frontiers.length frontiers) f) = some f' ∧
        (f' ≤ frontiers.length ∧
          ∀ id' ∈ done ++ [id], ∀ seed ∈ seedsOf plan id', RaisedAbove frontiers f' seed) := by
    rintro done id rest f hsplit ⟨hhigh, habove⟩
    have hmem : id ∈ plan.packetTasksOf packet := by simp [hsplit]
    obtain ⟨t, seeds, hfind, hseeds, hseedsAccepted⟩ := haccepted.tasks id hmem
    obtain ⟨f', hfold, hle, hhigh', hraised⟩ :=
      raiseFrontiers_total hbounded hcount hhigh hseedsAccepted
    refine ⟨f', by simpa [hfind, hseeds] using hfold, hhigh', fun other hother => ?_⟩
    rcases List.mem_append.1 hother with hold | hnew
    · exact fun seed hseed => (habove other hold seed hseed).mono hle
    · rw [List.mem_singleton.1 hnew, seedsOf, hfind]
      simpa [hseeds] using hraised
  obtain ⟨frontier, hfold, hle, habove⟩ := OptionList.foldlM_total
    (fun done f => f ≤ frontiers.length ∧
      ∀ id ∈ done, ∀ seed ∈ seedsOf plan id, RaisedAbove frontiers f seed) hstep
    ⟨Nat.zero_le _, by simp⟩
  refine ⟨frontier, ?_, hle, habove⟩
  rw [planRecordingFrontier, haccepted.dependencies]
  exact hfold

/-- The loop invariant over the frontiers planned so far. -/
structure FrontiersInv (plan : GpuCompiledGraph) (count : ℕ) (frontiers : List ℕ) : Prop where
  length : frontiers.length = count
  bounded : FrontiersBounded frontiers
  above : ∀ (j f : ℕ) (packet : GpuSubmissionPacket), frontiers[j]? = some f →
    plan.packets[j]? = some packet →
    ∀ id ∈ plan.packetTasksOf packet, ∀ seed ∈ seedsOf plan id, RaisedAbove frontiers f seed

lemma RaisedAbove.append {frontiers : List ℕ} {frontier : ℕ} {seed : GpuPacketStateSeed}
    (h : RaisedAbove frontiers frontier seed) (more : List ℕ) :
    RaisedAbove (frontiers ++ more) frontier seed := by
  obtain ⟨source, hsource, hlt⟩ := h
  refine ⟨source, ?_, hlt⟩
  rw [List.getElem?_append_left (List.getElem?_eq_some_iff.1 hsource).1, hsource]

theorem planRecordingFrontiers_total (hcount : plan.packets.length ≤ u32Max)
    (haccepted : ∀ i packet, plan.packets[i]? = some packet → AcceptedPacket plan i packet) :
    ∃ frontiers, planRecordingFrontiers plan = some frontiers ∧
      FrontiersInv plan plan.packets.length frontiers := by
  refine OptionList.foldlM_total
    (fun done frontiers => FrontiersInv plan done.length frontiers) ?_
    ⟨rfl, fun j f h => by simp at h, fun j f packet h => by simp at h⟩
  intro done packet rest frontiers hsplit hinv
  have hat : plan.packets[done.length]? = some packet := by simp [hsplit]
  have hlt : done.length < plan.packets.length := (List.getElem?_eq_some_iff.1 hat).1
  have hpacket := haccepted done.length packet hat
  rw [← hinv.length] at hpacket
  obtain ⟨frontier, hrun, hle, habove⟩ :=
    planRecordingFrontier_total hinv.bounded (by rw [hinv.length]; omega) hpacket
  refine ⟨frontiers ++ [frontier], by simp [hrun], by simp [hinv.length], ?_, ?_⟩
  · intro j f hj
    rcases Spans.getElem?_snoc_cases hj with ⟨-, hold⟩ | ⟨rfl, rfl⟩
    · exact hinv.bounded j f hold
    · exact hle
  · intro j f packet' hj hpacket' id hid seed hseed
    rcases Spans.getElem?_snoc_cases hj with ⟨-, hold⟩ | ⟨rfl, rfl⟩
    · exact (hinv.above j f packet' hold hpacket' id hid seed hseed).append _
    · rw [hinv.length, hat] at hpacket'
      cases hpacket'
      exact (habove id hid seed hseed).append _

end Frontiers

/-! ## Acceptance of planned graphs -/

section Planned

variable {graph : GpuTaskGraph} {topology : GpuTaskGraphQueueTopology}
  {assignments : GpuTaskGraphQueueAssignments} {plan : GpuCompiledGraph}
  {entries : List StatePlanEntries} {exports : ExternalExportPlan}

namespace PlannedGraph

variable (h : PlannedGraph graph topology assignments plan entries exports)
include h

/-- The seeds of a task lie in earlier packets. -/
lemma seeds_at {k : ℕ} {t : GpuCompiledTask} (ht : plan.tasks[k]? = some t) :
    ∃ seeds, requireStateSeeds plan t = some seeds ∧ seedsOf plan t.task = seeds ∧
      ∀ seed ∈ seeds, AcceptedSeed plan t.packet.index seed := by
  obtain ⟨e, he, trace⟩ := h.trace.at_task k t ht
  refine ⟨e.prologueStateSeeds, trace.seeds, by simp [seedsOf, h.layout.find_at ht, trace.seeds],
    fun seed hmem => ?_⟩
  obtain ⟨i, u, hik, hu, hsource, hother⟩ := h.seed_source ht he seed hmem
  obtain ⟨hvalid, hpacket, -⟩ := h.layout.packet_valid hu
  have hle := h.layout.packet_index_mono hu ht (Nat.le_of_lt hik)
  have hne : u.packet.index ≠ t.packet.index := by
    intro heq
    refine hother ?_
    rw [hpacket, heq, ← (h.layout.packet_valid ht).2.1]
  rw [AcceptedSeed, hsource]
  exact ⟨hvalid, u.packet.index, by omega, hpacket⟩

/-- The producers of a task are its own or earlier packets. -/
lemma acceptedConsumer {k : ℕ} {t : GpuCompiledTask} (ht : plan.tasks[k]? = some t) :
    AcceptedConsumer plan (analyze graph).edges t.packet.index t.task := by
  obtain ⟨seeds, hseeds, hseedsOf, haccepted⟩ := h.seeds_at ht
  refine ⟨⟨t, seeds, h.layout.find_at ht, hseeds⟩, fun producer hmem => ?_⟩
  rw [taskProducers, hseedsOf] at hmem
  rcases List.mem_append.1 hmem with hincoming | hseed
  · obtain ⟨edge, hlisted, rfl⟩ := List.mem_map.1 hincoming
    obtain ⟨hedge, hconsumer⟩ := List.mem_filter.1 hlisted
    obtain ⟨i, l, p, c, hil, hp, hc, hproducer, hconsumer'⟩ :=
      h.layout.edge_positions h.analyzed hedge
    have hl : l = k := h.layout.position_unique hc ht (by rw [hconsumer']; simpa using hconsumer)
    obtain ⟨hvalid, hpacket, -⟩ := h.layout.packet_valid hp
    have hle := h.layout.packet_index_mono hp ht (by omega)
    rw [← hproducer, h.layout.packet_at hp]
    exact ⟨hvalid, p.packet.index, hle, hpacket⟩
  · obtain ⟨seed, hlisted, rfl⟩ := List.mem_map.1 hseed
    obtain ⟨hvalid, j, hj, hsource⟩ := haccepted seed hlisted
    exact ⟨hvalid, j, Nat.le_of_lt hj, hsource⟩

lemma acceptedPlan : AcceptedPlan plan (analyze graph).edges := by
  intro i packet hi id hid
  obtain ⟨k, t, ht, rfl, rfl⟩ := h.layout.exists_of_mem_packetTasksOf hi hid
  exact h.acceptedConsumer ht

end PlannedGraph

/-! ## Ordered plans -/

/-- The plan with the dependency vectors of the first loop. -/
def GpuCompiledGraph.connect (plan : GpuCompiledGraph) (state : PacketDependencyState) :
    GpuCompiledGraph :=
  { plan with
    packets := state.packets
    packetDependencies := state.packetDependencies
    packetExternalDependencies := state.packetExternalDependencies }

/-- The dependencies recorded for a packet pass the check of the second loop. -/
lemma consistent_of_dependenciesInv {i : ℕ} {producers : List GpuSubmissionPacketId}
    {dependencies : List GpuPacketDependency} (h : DependenciesInv plan i producers dependencies) :
    dependencies.all (consistentDependency plan i) = true := by
  rw [List.all_eq_true]
  intro d hmem
  obtain ⟨hconsumer, j, hj, hproducer⟩ := h.sound d hmem
  simp [consistentDependency, hconsumer, hproducer, GpuCompiledGraph.packetIdAt, hj]

/-- What a planned packet of an ordered plan shows. -/
structure OrderedPacket (plan : GpuCompiledGraph) (edges : List GpuTaskDependencyEdge) (i : ℕ)
    (packet : GpuSubmissionPacket) : Prop where
  dependencies : DependenciesInv plan i
    ((plan.packetTasksOf packet).flatMap (taskProducers plan edges))
    (plan.packetDependenciesOf packet)
  above : ∀ id ∈ plan.packetTasksOf packet, ∀ seed ∈ seedsOf plan id,
    ∀ source, plan.packets[seed.sourcePacket.index]? = some source →
      source.recordingFrontier < packet.recordingFrontier

/-- The first two loops of dependency planning succeed on a planned graph. -/
theorem PlannedGraph.planPacketOrder_total
    (h : PlannedGraph graph topology assignments plan entries exports)
    (owners : List GpuTaskExternalDependencyEdge) :
    ∃ ordered, planPacketOrder plan (analyze graph) owners = some ordered ∧
      Spans.Tiles GpuSubmissionPacket.dependencyOffset GpuSubmissionPacket.dependencyCount 0
        ordered.packets ordered.packetDependencies.length ∧
      ∀ i packet, ordered.packets[i]? = some packet →
        OrderedPacket ordered (analyze graph).edges i packet := by
  obtain ⟨state, hstate, hinv⟩ := planConsumerPackets_total h.acceptedPlan owners
  have hspans := planConsumerPackets_taskSpans hstate
  have hlayout : PlanLayout (analyze graph).topologicalOrder (plan.connect state) :=
    h.layout.congr rfl rfl rfl rfl hspans
  have hcount : (plan.connect state).packets.length ≤ u32Max :=
    Nat.le_trans hlayout.packets_length_le hlayout.order_length
  have hpackets : ∀ i packet, (plan.connect state).packets[i]? = some packet →
      AcceptedPacket (plan.connect state) i packet := by
    intro i packet hi
    have hdependencies := (hinv.planned i packet hi).dependencies
    have hconnected : DependenciesInv (plan.connect state) i _
        ((plan.connect state).packetDependenciesOf packet) :=
      ⟨hdependencies.sound, hdependencies.complete⟩
    refine ⟨consistent_of_dependenciesInv hconnected, ?_⟩
    intro id hid
    obtain ⟨k, t, ht, rfl, rfl⟩ := hlayout.exists_of_mem_packetTasksOf hi hid
    obtain ⟨seeds, hseeds, -, haccepted⟩ := h.seeds_at ht
    exact ⟨t, seeds, hlayout.find_at ht, hseeds, haccepted⟩
  obtain ⟨frontiers, hfrontiers, hfinv⟩ := planRecordingFrontiers_total hcount hpackets
  refine ⟨{ plan.connect state with packets := withFrontiers state.packets frontiers }, ?_, ?_, ?_⟩
  · simp only [planPacketOrder, hstate, Option.bind_eq_bind, Option.bind_some]
    rw [Option.bind_eq_some_iff]
    exact ⟨frontiers, hfrontiers, rfl⟩
  · exact hinv.tiles.congr (map_withFrontiers (fun _ _ => rfl) hfinv.length)
  · intro i packet hi
    obtain ⟨original, frontier, horiginal, hfrontier, rfl⟩ := getElem?_withFrontiers hi
    have hdependencies := (hinv.planned i original horiginal).dependencies
    refine ⟨⟨hdependencies.sound, hdependencies.complete⟩, ?_⟩
    intro id hid seed hseed source hsource
    obtain ⟨originalSource, sourceFrontier, -, hsourceFrontier, rfl⟩ :=
      getElem?_withFrontiers hsource
    obtain ⟨below, hbelow, hlt⟩ := hfinv.above i frontier original hfrontier horiginal id hid seed
      hseed
    rw [hsourceFrontier] at hbelow
    cases hbelow
    exact hlt

end Planned

/-! ## Well-formedness -/

/-- The packet at `consumer` records a dependency on `producer`. -/
def DependsOn (plan : GpuCompiledGraph) (consumer producer : GpuSubmissionPacketId) : Prop :=
  ∃ packet, plan.packets[consumer.index]? = some packet ∧
    ∃ d ∈ plan.packetDependenciesOf packet, d.producer = producer ∧ d.consumer = consumer

/-- Some packet lists the first task before the second. -/
def InPacketOrder (plan : GpuCompiledGraph) (a b : GpuTaskId) : Prop :=
  ∃ packet ∈ plan.packets, ListedBefore (plan.packetTasksOf packet) a b

/-- What a packet plan promises its consumers. -/
structure PacketPlanWellFormed (analysis : GpuTaskGraphAnalysis)
    (assignments : GpuTaskGraphQueueAssignments) (plan : GpuCompiledGraph) : Prop where
  /-- The packets, in order, list the topological order. -/
  partition : plan.packets.flatMap plan.packetTasksOf = analysis.topologicalOrder
  nonempty : ∀ packet ∈ plan.packets, plan.packetTasksOf packet ≠ []
  /-- The tasks of a packet are assigned to its queue. -/
  one_queue : ∀ packet ∈ plan.packets, ∀ id ∈ plan.packetTasksOf packet,
    ∃ assignment, assignments.find id = some assignment ∧ assignment.queue = packet.queue
  /-- Every scheduling edge lies in a packet, in order, or has a packet dependency. -/
  edges : ∀ edge ∈ analysis.edges, InPacketOrder plan edge.producer edge.consumer ∨
    DependsOn plan (plan.findCompiledPacketForTask edge.consumer)
      (plan.findCompiledPacketForTask edge.producer)
  /-- Every state seed has a packet dependency on its source. -/
  seeds : ∀ t ∈ plan.tasks, ∃ seeds, requireStateSeeds plan t = some seeds ∧
    ∀ seed ∈ seeds, DependsOn plan t.packet seed.sourcePacket
  /-- The recorded dependencies, packet by packet, are all there are. -/
  recorded : plan.packets.flatMap plan.packetDependenciesOf = plan.packetDependencies
  /-- Every dependency of a packet leads to a strictly earlier packet. -/
  earlier : ∀ i packet, plan.packets[i]? = some packet → ∀ d ∈ plan.packetDependenciesOf packet,
    d.consumer = plan.packetIdAt i ∧ ∃ j < i, d.producer = plan.packetIdAt j
  /-- The frontier of a packet lies strictly above those of its seeds' sources. -/
  frontiers : ∀ t ∈ plan.tasks, ∀ seeds, requireStateSeeds plan t = some seeds →
    ∀ seed ∈ seeds, ∃ packet source, plan.packets[t.packet.index]? = some packet ∧
      plan.packets[seed.sourcePacket.index]? = some source ∧
      source.recordingFrontier < packet.recordingFrontier

section WellFormed

variable {graph : GpuTaskGraph} {topology : GpuTaskGraphQueueTopology}
  {assignments : GpuTaskGraphQueueAssignments} {plan : GpuCompiledGraph}
  {entries : List StatePlanEntries} {exports : ExternalExportPlan}

/-- A producer of a task in another packet is a dependency of the task's packet. -/
lemma dependsOn_of_producer {edges : List GpuTaskDependencyEdge} {order : List GpuTaskId}
    (hlayout : PlanLayout order plan)
    (hpackets : ∀ i packet, plan.packets[i]? = some packet → OrderedPacket plan edges i packet)
    {k : ℕ} {t : GpuCompiledTask} (ht : plan.tasks[k]? = some t)
    {producer : GpuSubmissionPacketId} (hproducer : producer ∈ taskProducers plan edges t.task)
    (hother : producer ≠ t.packet) : DependsOn plan t.packet producer := by
  obtain ⟨packet, hplaced⟩ := hlayout.placed k t ht
  have hpacket := hpackets _ packet hplaced.packet_at
  obtain ⟨offset, -, hlisted⟩ := hlayout.packetTasksOf_at ht hplaced.packet_at
  have hself := (hlayout.packet_valid ht).2.1
  have hmem : producer ∈ (plan.packetTasksOf packet).flatMap (taskProducers plan edges) :=
    List.mem_flatMap.2 ⟨t.task, List.mem_of_getElem? hlisted, hproducer⟩
  obtain ⟨d, hd, heq⟩ := hpacket.dependencies.complete producer hmem (hself ▸ hother)
  exact ⟨packet, hplaced.packet_at, d, hd, heq,
    (hpacket.dependencies.sound d hd).1.trans hself.symm⟩

/-- An ordered planned graph is well formed. -/
lemma PlannedGraph.wellFormed
    (h : PlannedGraph graph topology assignments plan entries exports)
    (htiles : Spans.Tiles GpuSubmissionPacket.dependencyOffset GpuSubmissionPacket.dependencyCount 0
      plan.packets plan.packetDependencies.length)
    (hpackets : ∀ i packet, plan.packets[i]? = some packet →
      OrderedPacket plan (analyze graph).edges i packet) :
    PacketPlanWellFormed (analyze graph) assignments plan where
  partition := h.layout.flatMap_packetTasksOf
  nonempty := by
    intro packet hmem hempty
    have hcount := h.layout.nonempty packet hmem
    have hend := h.layout.tiles.end_le hmem
    have hlength := congrArg List.length hempty
    rw [GpuCompiledGraph.packetTasksOf, Spans.part, List.length_take, List.length_drop,
      h.layout.packetTasks_eq] at hlength
    simp only [List.length_nil] at hlength
    omega
  one_queue := by
    intro packet hmem id hid
    obtain ⟨i, hi⟩ := List.mem_iff_getElem?.1 hmem
    obtain ⟨k, t, ht, rfl, rfl⟩ := h.layout.exists_of_mem_packetTasksOf hi hid
    obtain ⟨assignment, hfind, hqueue⟩ := h.queues t (List.mem_of_getElem? ht)
    exact ⟨assignment, hfind, hqueue.trans (h.layout.queue_eq ht hi)⟩
  edges := by
    intro edge hedge
    obtain ⟨k, l, p, c, hkl, hp, hc, hproducer, hconsumer⟩ :=
      h.layout.edge_positions h.analyzed hedge
    rw [← hproducer, ← hconsumer, h.layout.packet_at hp, h.layout.packet_at hc]
    by_cases hsame : p.packet = c.packet
    · obtain ⟨packet, hplaced⟩ := h.layout.placed l c hc
      exact Or.inl ⟨packet, List.mem_of_getElem? hplaced.packet_at,
        h.layout.listedBefore_in_packet hp hc hkl hsame hplaced.packet_at⟩
    · refine Or.inr (dependsOn_of_producer h.layout hpackets hc ?_ hsame)
      refine List.mem_append_left _ (List.mem_map.2 ⟨edge, ?_, ?_⟩)
      · exact List.mem_filter.2 ⟨hedge, by simp [hconsumer]⟩
      · rw [← hproducer, h.layout.packet_at hp]
  seeds := by
    intro t hmem
    obtain ⟨k, ht⟩ := List.mem_iff_getElem?.1 hmem
    obtain ⟨seeds, hseeds, hseedsOf, haccepted⟩ := h.seeds_at ht
    refine ⟨seeds, hseeds, fun seed hseed => ?_⟩
    refine dependsOn_of_producer h.layout hpackets ht ?_ ?_
    · exact List.mem_append_right _ (List.mem_map.2 ⟨seed, hseedsOf.symm ▸ hseed, rfl⟩)
    · obtain ⟨-, j, hj, hsource⟩ := haccepted seed hseed
      intro heq
      rw [hsource] at heq
      have := congrArg GraphHandle.index heq
      simp only [GpuCompiledGraph.packetIdAt] at this
      omega
  recorded := by
    calc plan.packets.flatMap plan.packetDependenciesOf
        = Spans.part plan.packetDependencies 0 (plan.packetDependencies.length - 0) :=
          htiles.flatMap_part plan.packetDependencies
      _ = plan.packetDependencies := by simp [Spans.part]
  earlier := fun i packet hi d hd => (hpackets i packet hi).dependencies.sound d hd
  frontiers := by
    intro t hmem seeds hseeds seed hseed
    obtain ⟨k, ht⟩ := List.mem_iff_getElem?.1 hmem
    obtain ⟨seeds', hseeds', hseedsOf, haccepted⟩ := h.seeds_at ht
    obtain rfl := Option.some.inj (hseeds.symm.trans hseeds')
    obtain ⟨packet, hplaced⟩ := h.layout.placed k t ht
    obtain ⟨-, j, hj, hsource⟩ := haccepted seed hseed
    have hindex : seed.sourcePacket.index = j := by rw [hsource]; rfl
    have hcount := (List.getElem?_eq_some_iff.1 hplaced.packet_at).1
    have hsourceAt :=
      List.getElem?_eq_getElem (show seed.sourcePacket.index < plan.packets.length by omega)
    obtain ⟨offset, -, hlisted⟩ := h.layout.packetTasksOf_at ht hplaced.packet_at
    exact ⟨packet, _, hplaced.packet_at, hsourceAt,
      (hpackets _ packet hplaced.packet_at).above t.task (List.mem_of_getElem? hlisted) seed
        (hseedsOf.symm ▸ hseed) _ hsourceAt⟩

end WellFormed

section Compile

variable {assignQueues : QueueAssigner} {options : GpuTaskGraphCompileOptions}
  {planGeneration : CompiledPlanGeneration} {graph : GpuTaskGraph}
  {topology : GpuTaskGraphQueueTopology}

lemma packetPlanWellFormed_of_compile {out : GpuTaskGraphCompilation}
    (h : compile assignQueues options planGeneration graph topology = some out) :
    PacketPlanWellFormed (analyze graph) out.assignments out.compiledGraph := by
  obtain ⟨-, plan, owners, ordered, presentEndpoint, hstates, hordered, hcompiled⟩ :=
    compile_stages h
  obtain ⟨entries, exports, hplanned⟩ := plannedGraph_of_compileStates hstates
  obtain ⟨ordered', hordered', htiles, hpackets⟩ := hplanned.planPacketOrder_total owners
  obtain rfl := Option.some.inj (hordered.symm.trans hordered')
  have hwell := ((orderedPlan_of_planPacketOrder hordered).plannedGraph hplanned).wellFormed htiles
    hpackets
  rw [hcompiled]
  exact ⟨hwell.partition, hwell.nonempty, hwell.one_queue, hwell.edges, hwell.seeds,
    hwell.recorded, hwell.earlier, hwell.frontiers⟩

end Compile

/-- Every compiled packet plan is well formed, and on every plan that state planning hands over the
consistency checks of dependency planning pass. -/
theorem compile_packetPlanWellFormed (assignQueues : QueueAssigner)
    (options : GpuTaskGraphCompileOptions) (planGeneration : CompiledPlanGeneration)
    (graph : GpuTaskGraph) (topology : GpuTaskGraphQueueTopology) :
    (∀ out, compile assignQueues options planGeneration graph topology = some out →
      PacketPlanWellFormed (analyze graph) out.assignments out.compiledGraph) ∧
    (∀ assignments plan owners,
      compileStates assignQueues options planGeneration graph topology
          = some (assignments, plan, owners) →
        (planPacketOrder plan (analyze graph) owners).isSome = true) := by
  refine ⟨fun out h => packetPlanWellFormed_of_compile h, fun assignments plan owners h => ?_⟩
  obtain ⟨entries, exports, hplanned⟩ := plannedGraph_of_compileStates h
  obtain ⟨ordered, hordered, -⟩ := hplanned.planPacketOrder_total owners
  exact Option.isSome_iff_exists.2 ⟨ordered, hordered⟩

/-- A Graphics task fills a buffer that a Compute task reads. -/
def producerConsumerGraph : GpuTaskGraph where
  generation := 1
  tasks :=
    [recordedTask 1 .graphics
      [{ resource := ⟨0, 1⟩, requiredState := ResourceStates.copyDest, access := .write }],
     recordedTask 2 .compute
      [{ resource := ⟨0, 1⟩, requiredState := ResourceStates.shaderResource }]]
  resources := [bufferNode 3 ResourceStates.common]
  externalCompletions := []
  generation_ne_zero := Nat.one_ne_zero
  tasks_length_le := by decide
  resources_length_le := length_oneBuffer
  resources_declared := oneBuffer_declared

def producerConsumerCompilation : Option GpuTaskGraphCompilation :=
  compile assignPreferredQueues {} ⟨1, Nat.one_ne_zero⟩ producerConsumerGraph twoFamilyTopology

theorem compile_packetPlanWellFormed_twoQueues : ∃ out, producerConsumerCompilation = some out ∧
    PacketPlanWellFormed (analyze producerConsumerGraph) out.assignments out.compiledGraph := by
  obtain ⟨out, hout⟩ : ∃ out, producerConsumerCompilation = some out := ⟨_, rfl⟩
  have hwell := compile_packetPlanWellFormed assignPreferredQueues {} ⟨1, Nat.one_ne_zero⟩
    producerConsumerGraph twoFamilyTopology
  exact ⟨out, hout, hwell.1 out hout⟩

end NwbLot.TaskGraph
