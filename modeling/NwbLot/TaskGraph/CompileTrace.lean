import NwbLot.TaskGraph.StateTrace

/-!
# What a compilation has established

`PlannedGraph` collects, for a plan state planning has filled, the layout packetization fixed, the
trace of state planning and the exports planned on its result.  Dependency planning keeps all of
it, so a successful compilation hands out such a plan.
-/

namespace NwbLot.TaskGraph

/-- A plan after state and export planning. -/
structure PlannedGraph (graph : GpuTaskGraph) (topology : GpuTaskGraphQueueTopology)
    (assignments : GpuTaskGraphQueueAssignments) (plan : GpuCompiledGraph)
    (entries : List StatePlanEntries) (exports : ExternalExportPlan) : Prop where
  analyzed : (analyze graph).valid = true
  topology_eq : plan.queueTopology = topology
  layout : PlanLayout (analyze graph).topologicalOrder plan
  queues : ∀ t ∈ plan.tasks, ∃ assignment,
    assignments.find t.task = some assignment ∧ assignment.queue = t.queue
  trace : StateTrace graph topology plan entries exports.pendingEpilogueBarriers
  exported : planExternalResourceExports graph plan (trackedBefore graph plan plan.tasks.length)
    = some exports

section Export

variable {base plan : GpuCompiledGraph} (h : SamePlacements base plan)
include h

/-- Export planning reads only which packet a task is in. -/
lemma SamePlacements.planExternalResourceExports (graph : GpuTaskGraph)
    (tracked : List TrackedCompiledResourceState) :
    planExternalResourceExports graph plan tracked
      = planExternalResourceExports graph base tracked := by
  have happend : ∀ resource exportType,
      appendTerminalState plan resource exportType
        = appendTerminalState base resource exportType := by
    intro resource exportType
    funext acc terminal
    simp only [appendTerminalState, recordExportSource, appendExportSource,
      h.findCompiledPacketForTask]
  simp only [TaskGraph.planExternalResourceExports, planExternalResourceExport, happend]

/-- A plan with the same placements and packet spans has the same layout. -/
lemma SamePlacements.layout {order : List GpuTaskId} (hlayout : PlanLayout order base)
    (hplan : plan.planGeneration = base.planGeneration)
    (hpacketTasks : plan.packetTasks = base.packetTasks)
    (hpackets : plan.packets.map GpuSubmissionPacket.taskSpan
      = base.packets.map GpuSubmissionPacket.taskSpan) : PlanLayout order plan :=
  hlayout.congr h.graphGeneration hplan hpacketTasks h.tasks hpackets

lemma SamePlacements.queues {assignments : GpuTaskGraphQueueAssignments}
    (hqueues : ∀ t ∈ base.tasks, ∃ assignment,
      assignments.find t.task = some assignment ∧ assignment.queue = t.queue) :
    ∀ t ∈ plan.tasks, ∃ assignment,
      assignments.find t.task = some assignment ∧ assignment.queue = t.queue := by
  intro t hmem
  have hplacement : t.placement ∈ base.tasks.map GpuCompiledTask.placement :=
    h.tasks ▸ List.mem_map_of_mem hmem
  obtain ⟨placed, hplaced, heq⟩ := List.mem_map.1 hplacement
  simp only [GpuCompiledTask.placement, Prod.mk.injEq] at heq
  rw [← heq.1, ← heq.2.1]
  exact hqueues placed hplaced

end Export

variable {graph : GpuTaskGraph} {topology : GpuTaskGraphQueueTopology}
  {assignments : GpuTaskGraphQueueAssignments} {plan : GpuCompiledGraph}
  {entries : List StatePlanEntries} {exports : ExternalExportPlan}

/-- Dependency planning keeps what state planning has established. -/
lemma PlannedGraph.congr {plan' : GpuCompiledGraph}
    (h : PlannedGraph graph topology assignments plan entries exports)
    (hplans : SamePlacements plan plan') (htasks : plan'.tasks = plan.tasks)
    (hseeds : plan'.prologueStateSeeds = plan.prologueStateSeeds)
    (hbarriers : plan'.prologueBarriers = plan.prologueBarriers)
    (hepilogues : plan'.epilogueBarriers = plan.epilogueBarriers)
    (hlayout : PlanLayout (analyze graph).topologicalOrder plan') :
    PlannedGraph graph topology assignments plan' entries exports where
  analyzed := h.analyzed
  topology_eq := by rw [hplans.queueTopology, h.topology_eq]
  layout := hlayout
  queues := hplans.queues h.queues
  trace := h.trace.congr hplans htasks hseeds hbarriers hepilogues
  exported := by
    rw [hplans.planExternalResourceExports, hplans.trackedBefore, htasks]
    exact h.exported

/-! ## State planning -/

section Compile

variable {assignQueues : QueueAssigner} {options : GpuTaskGraphCompileOptions}
  {planGeneration : CompiledPlanGeneration} {graph : GpuTaskGraph}
  {topology : GpuTaskGraphQueueTopology} {assignments : GpuTaskGraphQueueAssignments}
  {plan : GpuCompiledGraph}

/-- The uses of a listed task were accepted by validation. -/
lemma acceptedUses_of_analyzed (h : (analyze graph).valid = true) :
    ∀ id ∈ (analyze graph).topologicalOrder, ∀ use ∈ (graph.taskAt id.index).resourceUses,
      AcceptedUse graph use := by
  intro id hid use huse
  have success := analyze_success h
  have hvalid := (mem_order_iff success.ordered).1 hid
  have haccepted := success.accepted (graph.validTask_iff.1 hvalid).2.2
  exact ⟨haccepted.resources use huse, haccepted.states use huse⟩

variable {owners : List GpuTaskExternalDependencyEdge}

/-- State planning hands over a planned graph and the waits of its entries. -/
theorem plannedGraph_owners_of_compileStates
    (h : compileStates assignQueues options planGeneration graph topology
      = some (assignments, plan, owners)) :
    ∃ entries exports, PlannedGraph graph topology assignments plan entries exports ∧
      owners = (StatePlanEntries.concat entries).initialOwnershipDependencies ∧
      plan.externalResourceExports = exports.exports ∧
      plan.externalResourceExportSources = exports.sources := by
  simp only [compileStates, Option.bind_eq_bind, Option.bind_eq_some_iff, Option.some.injEq,
    Prod.mk.injEq] at h
  obtain ⟨⟨assignments', base⟩, hbase, ⟨plan', owners'⟩, hstates, rfl, rfl, rfl⟩ := h
  have packetized := packetizedGraph_of_compilePackets hbase
  simp only [planResourceStates, Option.bind_eq_bind, Option.bind_eq_some_iff, Option.some.injEq,
    Prod.mk.injEq] at hstates
  obtain ⟨states, hplanned, exports, hexports, rfl, rfl⟩ := hstates
  obtain ⟨entries, hinv⟩ :=
    traceInv_planTaskResourceStates (acceptedUses_of_analyzed packetized.analyzed) hplanned
  rw [← packetized.layout.tasks_length] at hinv
  obtain ⟨hplacements, htrace⟩ := stateTrace_withStates hinv exports
  refine ⟨entries, exports, ?_, by rw [hinv.concat], rfl, rfl⟩
  exact {
    analyzed := packetized.analyzed
    topology_eq := packetized.topology_eq
    layout := hplacements.layout packetized.layout rfl rfl rfl
    queues := hplacements.queues packetized.queues
    trace := htrace
    exported := by
      rw [hplacements.planExternalResourceExports, hplacements.trackedBefore, ← hexports,
        hinv.tracked, htrace.entries_length.symm.trans hinv.entries_length] }

theorem plannedGraph_of_compileStates
    (h : compileStates assignQueues options planGeneration graph topology
      = some (assignments, plan, owners)) :
    ∃ entries exports, PlannedGraph graph topology assignments plan entries exports := by
  obtain ⟨entries, exports, hplanned, -⟩ := plannedGraph_owners_of_compileStates h
  exact ⟨entries, exports, hplanned⟩

end Compile

/-! ## Dependency planning -/

variable {owners : List GpuTaskExternalDependencyEdge}

/-- The packets of a successful dependency loop are the plan's, with dependency spans. -/
lemma planConsumerPackets_taskSpans {analysis : GpuTaskGraphAnalysis}
    {state : PacketDependencyState} (h : planConsumerPackets plan analysis owners = some state) :
    state.packets.map GpuSubmissionPacket.taskSpan
      = plan.packets.map GpuSubmissionPacket.taskSpan := by
  refine OptionList.foldlM_processed
    (fun done (state : PacketDependencyState) => state.packets.map GpuSubmissionPacket.taskSpan
      = done.map GpuSubmissionPacket.taskSpan) ?_ h rfl
  intro done state packet state' hstep hspans
  simp only [planConsumerPacket, Option.bind_eq_bind, Option.bind_eq_some_iff,
    Option.some.injEq] at hstep
  obtain ⟨dependencies, -, rfl⟩ := hstep
  simp [hspans, GpuSubmissionPacket.taskSpan]

variable {frontiers : List ℕ}

lemma planRecordingFrontiers_length (h : planRecordingFrontiers plan = some frontiers) :
    frontiers.length = plan.packets.length := by
  refine OptionList.foldlM_processed
    (fun done (frontiers : List ℕ) => frontiers.length = done.length) ?_ h
    (List.length_nil.trans (@List.length_nil GpuSubmissionPacket).symm)
  intro done frontiers packet frontiers' hstep hlength
  simp only [Option.bind_eq_bind, Option.bind_eq_some_iff, Option.some.injEq] at hstep
  obtain ⟨frontier, -, rfl⟩ := hstep
  simp [hlength]

/-- The two loops change nothing but dependency spans, dependency vectors and frontiers. -/
structure OrderedPlan (plan ordered : GpuCompiledGraph) : Prop where
  placements : SamePlacements plan ordered
  tasks : ordered.tasks = plan.tasks
  planGeneration : ordered.planGeneration = plan.planGeneration
  packetTasks : ordered.packetTasks = plan.packetTasks
  taskSpans : ordered.packets.map GpuSubmissionPacket.taskSpan
    = plan.packets.map GpuSubmissionPacket.taskSpan
  seeds : ordered.prologueStateSeeds = plan.prologueStateSeeds
  barriers : ordered.prologueBarriers = plan.prologueBarriers
  epilogues : ordered.epilogueBarriers = plan.epilogueBarriers
  exports : ordered.externalResourceExports = plan.externalResourceExports
  exportSources : ordered.externalResourceExportSources = plan.externalResourceExportSources

/-- The packets with their frontiers. -/
def withFrontiers (packets : List GpuSubmissionPacket) (frontiers : List ℕ) :
    List GpuSubmissionPacket :=
  packets.zipWith (fun packet frontier => { packet with recordingFrontier := frontier }) frontiers

variable {packets : List GpuSubmissionPacket}

/-- Whatever ignores the frontier sees the packets as they were. -/
lemma map_withFrontiers {β : Type*} {f : GpuSubmissionPacket → β}
    (hf : ∀ packet frontier, f { packet with recordingFrontier := frontier } = f packet)
    (h : frontiers.length = packets.length) :
    (withFrontiers packets frontiers).map f = packets.map f := by
  induction packets generalizing frontiers with
  | nil => rfl
  | cons packet rest ih =>
    cases frontiers with
    | nil => simp at h
    | cons frontier more =>
      simp only [List.length_cons, Nat.add_right_cancel_iff] at h
      have := ih h
      simp only [withFrontiers] at this ⊢
      simp [this, hf]

lemma getElem?_withFrontiers {i : ℕ} {packet : GpuSubmissionPacket}
    (h : (withFrontiers packets frontiers)[i]? = some packet) :
    ∃ original frontier, packets[i]? = some original ∧ frontiers[i]? = some frontier ∧
      packet = { original with recordingFrontier := frontier } := by
  rw [withFrontiers, List.getElem?_zipWith_eq_some] at h
  obtain ⟨original, frontier, horiginal, hfrontier, rfl⟩ := h
  exact ⟨original, frontier, horiginal, hfrontier, rfl⟩

variable {ordered : GpuCompiledGraph}

lemma orderedPlan_of_planPacketOrder {analysis : GpuTaskGraphAnalysis}
    (h : planPacketOrder plan analysis owners = some ordered) : OrderedPlan plan ordered := by
  simp only [planPacketOrder, Option.bind_eq_bind, Option.bind_eq_some_iff,
    Option.some.injEq] at h
  obtain ⟨state, hstate, frontiers, hfrontiers, rfl⟩ := h
  have hlength := planRecordingFrontiers_length hfrontiers
  refine ⟨⟨rfl, rfl, rfl, rfl⟩, rfl, rfl, rfl, ?_, rfl, rfl, rfl, rfl, rfl⟩
  exact (map_withFrontiers (fun _ _ => rfl) hlength).trans (planConsumerPackets_taskSpans hstate)

lemma OrderedPlan.plannedGraph (hordered : OrderedPlan plan ordered)
    (h : PlannedGraph graph topology assignments plan entries exports) :
    PlannedGraph graph topology assignments ordered entries exports :=
  h.congr hordered.placements hordered.tasks hordered.seeds hordered.barriers hordered.epilogues
    (hordered.placements.layout h.layout hordered.planGeneration hordered.packetTasks
      hordered.taskSpans)

section Compile

variable {assignQueues : QueueAssigner} {options : GpuTaskGraphCompileOptions}
  {planGeneration : CompiledPlanGeneration} {graph : GpuTaskGraph}
  {topology : GpuTaskGraphQueueTopology}

variable {out : GpuTaskGraphCompilation}

/-- The stages of a successful compilation. -/
theorem compile_stages (h : compile assignQueues options planGeneration graph topology = some out) :
    out.analysis = analyze graph ∧
      ∃ plan owners ordered presentEndpoint,
        compileStates assignQueues options planGeneration graph topology
          = some (out.assignments, plan, owners) ∧
        planPacketOrder plan (analyze graph) owners = some ordered ∧
        out.compiledGraph = { ordered with presentEndpoint } := by
  simp only [compile, Option.bind_eq_bind, Option.bind_eq_some_iff, Option.some.injEq] at h
  obtain ⟨⟨assignments, plan, owners⟩, hstates, compiledGraph, hcompiled, rfl⟩ := h
  refine ⟨rfl, plan, owners, ?_⟩
  simp only [planPacketDependencies, Option.bind_eq_bind, Option.bind_eq_some_iff] at hcompiled
  obtain ⟨ordered, hordered, hpresent⟩ := hcompiled
  split at hpresent
  · cases hpresent
    exact ⟨_, _, hstates, hordered, rfl⟩
  · simp only [Option.bind_eq_some_iff, Option.some.injEq] at hpresent
    obtain ⟨endpoint, -, rfl⟩ := hpresent
    exact ⟨_, _, hstates, hordered, rfl⟩

/-- A compiled graph is a planned graph, with its export records. -/
theorem plannedExports_of_compile
    (h : compile assignQueues options planGeneration graph topology = some out) :
    ∃ entries exports,
      PlannedGraph graph topology out.assignments out.compiledGraph entries exports ∧
        out.compiledGraph.externalResourceExports = exports.exports ∧
        out.compiledGraph.externalResourceExportSources = exports.sources := by
  obtain ⟨-, plan, owners, ordered, presentEndpoint, hstates, hordered, hcompiled⟩ :=
    compile_stages h
  obtain ⟨entries, exports, hplanned, -, hexports, hsources⟩ :=
    plannedGraph_owners_of_compileStates hstates
  have horder := orderedPlan_of_planPacketOrder hordered
  have hafter := horder.plannedGraph hplanned
  refine ⟨entries, exports, ?_⟩
  rw [hcompiled]
  have hplacements : SamePlacements ordered { ordered with presentEndpoint } := ⟨rfl, rfl, rfl, rfl⟩
  exact ⟨hafter.congr hplacements rfl rfl rfl rfl (hplacements.layout hafter.layout rfl rfl rfl),
    horder.exports.trans hexports, horder.exportSources.trans hsources⟩

/-- A compiled graph is a planned graph. -/
theorem plannedGraph_of_compile
    (h : compile assignQueues options planGeneration graph topology = some out) :
    ∃ entries exports,
      PlannedGraph graph topology out.assignments out.compiledGraph entries exports := by
  obtain ⟨entries, exports, hplanned, -⟩ := plannedExports_of_compile h
  exact ⟨entries, exports, hplanned⟩

end Compile

end NwbLot.TaskGraph
