import NwbLot.TaskGraph.PacketOrder

/-!
# Imported owners

State planning gives every acquire from an external owner the completion of the owner it resolved,
and dependency planning records that completion for the packet.  The owner is the resource's own,
or the one listed source whose range contains the acquired one; submission looks the source up
again among the declared ranges and finds no other.
-/

namespace NwbLot.TaskGraph

/-! ## Planned imports -/

/-- The barrier acquires what its resource's owner, resolved for its range, releases. -/
structure ImportsOwner (graph : GpuTaskGraph) (barrier : GpuCompiledBarrier)
    (owner : InitialOwnerImport) : Prop where
  resolved : resolveInitialOwner (graph.resourceAt barrier.resource.index)
      (graph.textureForResource barrier.resource) barrier.range barrier.destinationQueue
    = some (some owner)
  queue : owner.sourceQueue = barrier.sourceQueue
  cell : (graph.resourceAt barrier.resource.index).type = .texture →
    ∃ c, rangeCovers .texture barrier.range c = true

/-- Every handoff from an external owner has its wait. -/
def AwaitsOwners (graph : GpuTaskGraph) (task : GpuTaskId) (entries : StatePlanEntries) : Prop :=
  ∀ barrier ∈ entries.prologueBarriers, barrier.isInitialOwnerHandoff = true →
    ∃ owner, ImportsOwner graph barrier owner ∧
      { completion := owner.completion, consumer := task } ∈ entries.initialOwnershipDependencies

section Planned

variable {graph : GpuTaskGraph} {topology : GpuTaskGraphQueueTopology}
  {assignments : GpuTaskGraphQueueAssignments} {plan : GpuCompiledGraph}
  {entries : List StatePlanEntries} {exports : ExternalExportPlan}

lemma AwaitsOwners.append {task : GpuTaskId} {a b : StatePlanEntries}
    (ha : AwaitsOwners graph task a) (hb : AwaitsOwners graph task b) :
    AwaitsOwners graph task (a ++ b) := by
  intro barrier hmem hhandoff
  rcases List.mem_append.1 hmem with hfirst | hsecond
  · obtain ⟨owner, howner, hwait⟩ := ha barrier hfirst hhandoff
    exact ⟨owner, howner, List.mem_append_left _ hwait⟩
  · obtain ⟨owner, howner, hwait⟩ := hb barrier hsecond hhandoff
    exact ⟨owner, howner, List.mem_append_right _ hwait⟩

variable {use : GpuTaskResourceUse} {task : GpuCompiledTask} {range : GpuTaskResourceRange}

variable {resource : GpuTaskGraphResourceView}

/-- Handoffs inside the graph are not marked. -/
lemma not_handoff_of_previousState {previousState : TrackedCompiledResourceState}
    {planned : StatePlanEntries}
    (h : planFromPreviousState topology plan resource use task range previousState
      = some planned) :
    ∀ barrier ∈ planned.prologueBarriers, barrier.isInitialOwnerHandoff = false := by
  simp only [planFromPreviousState, Option.bind_eq_bind, Option.bind_eq_some_iff,
    Option.some.injEq] at h
  obtain ⟨handoff, hhandoff, rfl⟩ := h
  intro barrier hmem
  rcases List.mem_append.1 hmem with hacquire | htransition
  · rcases planPacketHandoff_cases hhandoff with ⟨-, rfl⟩ | ⟨-, source, destination, hcase⟩
    · cases hacquire
    · cases hexclusive : requiresExclusiveOwnershipHandoff topology resource source destination with
      | false =>
        rw [(hcase.shared hexclusive).2] at hacquire
        cases hacquire
      | true =>
        obtain ⟨release, acquire, hpair⟩ := hcase.exclusive hexclusive
        rw [hpair.barriers] at hacquire
        rw [List.mem_singleton.1 hacquire]
  · rw [planTransition_barriers] at htransition
    split at htransition
    · rw [List.mem_singleton.1 htransition]
    · cases htransition

variable {owner : Option InitialOwnerImport} {hasInitialOwnerStateSeed : Bool}

/-- The one handoff of a first use is the import of its owner. -/
lemma import_of_handoff {acquire : GpuCompiledBarrier}
    (hmem : acquire ∈ (planFromInitialState resource use task range owner
      hasInitialOwnerStateSeed).prologueBarriers)
    (hhandoff : acquire.isInitialOwnerHandoff = true) :
    ∃ source, owner = some source ∧
      acquire = { resource := use.resource, range, before := resource.initialState
                  after := resource.initialState, sourceQueue := source.sourceQueue
                  destinationQueue := task.queue, type := source.acquireType
                  isInitialOwnerHandoff := true } := by
  rcases List.mem_append.1 hmem with himport | htransition
  · cases owner with
    | none => cases himport
    | some source => exact ⟨source, rfl, List.mem_singleton.1 himport⟩
  · simp only [planInitialTransition] at htransition
    split at htransition
    · rw [List.mem_singleton.1 htransition] at hhandoff
      cases hhandoff
    · cases htransition

lemma awaitsOwners_planFromInitialState
    (hcell : (graph.resourceAt use.resource.index).type = .texture →
      ∃ c, rangeCovers .texture range c = true)
    (howner : resolveInitialOwner (graph.resourceAt use.resource.index)
      (graph.textureForResource use.resource) range task.queue = some owner) :
    AwaitsOwners graph task.task (planFromInitialState (graph.resourceAt use.resource.index) use
      task range owner hasInitialOwnerStateSeed) := by
  intro barrier hmem hhandoff
  obtain ⟨source, rfl, rfl⟩ := import_of_handoff hmem hhandoff
  exact ⟨source, ⟨howner, rfl, hcell⟩, List.mem_cons_self⟩

/-- The entries of a planned task await the owners they import. -/
lemma PlannedGraph.awaitsOwners
    (h : PlannedGraph graph topology assignments plan entries exports) {k : ℕ}
    {t : GpuCompiledTask} (ht : plan.tasks[k]? = some t) :
    ∃ e, entries[k]? = some e ∧ plan.prologueBarriersOf t = e.prologueBarriers ∧
      AwaitsOwners graph t.task e := by
  obtain ⟨e, he, trace⟩ := h.trace.at_task k t ht
  obtain ⟨taskQueue, new, -, huses⟩ := trace.planned
  have rule : ResourceEntryRule graph topology plan t (AwaitsOwners graph t.task)
      (fun _ => True) := {
    empty := fun barrier hmem => by cases hmem
    append := fun a b ha hb => ha.append hb
    previous := by
      intro use range state planned _ hplanned barrier hmem hhandoff
      rw [not_handoff_of_previousState hplanned barrier hmem] at hhandoff
      cases hhandoff
    initial := fun use range owner _ hcell howner =>
      awaitsOwners_planFromInitialState hcell howner
    own := fun _ _ => trivial }
  exact ⟨e, he, trace.barriers, rule.taskUses huses fun _ _ => trivial⟩

end Planned

/-! ## Recorded completions -/

/-- The completions a packet waits for. -/
def GpuCompiledGraph.packetExternalDependenciesOf (plan : GpuCompiledGraph)
    (packet : GpuSubmissionPacket) : List GpuExternalCompletionId :=
  Spans.part plan.packetExternalDependencies packet.externalDependencyOffset
    packet.externalDependencyCount

/-- Every completion that a task of the packet waits for by an edge is listed. -/
def ListsCompletions (edges : List GpuTaskExternalDependencyEdge) (tasks : List GpuTaskId)
    (completions : List GpuExternalCompletionId) : Prop :=
  ∀ edge ∈ edges, edge.consumer ∈ tasks → edge.completion ∈ completions

variable {completions : List GpuExternalCompletionId} {completion : GpuExternalCompletionId}

variable {edge : GpuTaskExternalDependencyEdge}

lemma mem_appendPacketExternalDependency :
    completion ∈ appendPacketExternalDependency completions edge ↔
      completion ∈ completions ∨ completion = edge.completion := by
  rw [appendPacketExternalDependency]
  split
  · next hknown =>
      rw [List.contains_iff_mem] at hknown
      constructor
      · exact Or.inl
      · rintro (hold | rfl)
        · exact hold
        · exact hknown
  · rw [List.mem_append, List.mem_singleton]

lemma mem_foldl_appendPacketExternalDependency {edges : List GpuTaskExternalDependencyEdge} :
    completion ∈ edges.foldl appendPacketExternalDependency completions ↔
      completion ∈ completions ∨ ∃ edge ∈ edges, completion = edge.completion := by
  induction edges generalizing completions with
  | nil => simp
  | cons edge rest ih =>
    rw [List.foldl_cons, ih, mem_appendPacketExternalDependency, or_assoc]
    simp

variable {owners : List GpuTaskExternalDependencyEdge}

/-- The task loop lists what its tasks wait for. -/
lemma listsCompletions_foldl {external : List GpuTaskExternalDependencyEdge}
    {tasks : List GpuTaskId} :
    completion ∈ tasks.foldl (planConsumerTaskExternalDependencies external owners) completions ↔
      completion ∈ completions ∨
        ∃ edge ∈ external ++ owners, edge.consumer ∈ tasks ∧ completion = edge.completion := by
  induction tasks generalizing completions with
  | nil => simp
  | cons id rest ih =>
    rw [List.foldl_cons, ih, planConsumerTaskExternalDependencies,
      mem_foldl_appendPacketExternalDependency, or_assoc]
    refine or_congr_right ⟨?_, ?_⟩
    · rintro (⟨edge, hedge, rfl⟩ | ⟨edge, hedge, hconsumer, rfl⟩)
      · obtain ⟨hlisted, hself⟩ := List.mem_filter.1 hedge
        exact ⟨edge, hlisted, List.mem_cons.2 (Or.inl (by simpa using hself)), rfl⟩
      · exact ⟨edge, hedge, List.mem_cons_of_mem _ hconsumer, rfl⟩
    · rintro ⟨edge, hedge, hconsumer, rfl⟩
      rcases List.mem_cons.1 hconsumer with hself | hrest
      · exact Or.inl ⟨edge, List.mem_filter.2 ⟨hedge, by simpa using hself⟩, rfl⟩
      · exact Or.inr ⟨edge, hedge, hrest, rfl⟩

/-- The packets planned so far list the waits of their tasks. -/
structure ExternalWaits (plan : GpuCompiledGraph) (edges : List GpuTaskExternalDependencyEdge)
    (state : PacketDependencyState) : Prop where
  inside : ∀ packet ∈ state.packets, packet.externalDependencyOffset
    + packet.externalDependencyCount ≤ state.packetExternalDependencies.length
  lists : ∀ packet ∈ state.packets, ListsCompletions edges (plan.packetTasksOf packet)
    (Spans.part state.packetExternalDependencies packet.externalDependencyOffset
      packet.externalDependencyCount)

variable {plan : GpuCompiledGraph}

lemma externalWaits_of_planConsumerPackets {analysis : GpuTaskGraphAnalysis}
    {state : PacketDependencyState} (h : planConsumerPackets plan analysis owners = some state) :
    ExternalWaits plan (analysis.externalDependencies ++ owners) state := by
  refine OptionList.foldlM_invariant (ExternalWaits plan (analysis.externalDependencies ++ owners))
    ?_ h ⟨by simp, by simp⟩
  intro state packet state' hstep hinv
  simp only [planConsumerPacket, Option.bind_eq_bind, Option.bind_eq_some_iff,
    Option.some.injEq] at hstep
  obtain ⟨dependencies, -, rfl⟩ := hstep
  refine ⟨fun other hmem => ?_, fun other hmem => ?_⟩
  · rcases List.mem_append.1 hmem with hold | hnew
    · have := hinv.inside other hold
      simp only [List.length_append]
      omega
    · rw [List.mem_singleton.1 hnew, List.length_append]
  · rcases List.mem_append.1 hmem with hold | hnew
    · simp only
      rw [Spans.part_append_right (hinv.inside other hold)]
      exact hinv.lists other hold
    · obtain rfl := List.mem_singleton.1 hnew
      intro edge hedge hconsumer
      have hpart := Spans.part_append_middle state.packetExternalDependencies
        ((plan.packetTasksOf packet).foldl (planConsumerTaskExternalDependencies
          analysis.externalDependencies owners) []) []
      rw [List.append_nil] at hpart
      simp only
      rw [hpart, listsCompletions_foldl]
      exact Or.inr ⟨edge, hedge, hconsumer, rfl⟩

/-! ## Compiled imports -/

lemma mem_ownership_concat {xs : List StatePlanEntries} {k : ℕ} {e : StatePlanEntries}
    (h : xs[k]? = some e) (hmem : edge ∈ e.initialOwnershipDependencies) :
    edge ∈ (StatePlanEntries.concat xs).initialOwnershipDependencies := by
  rw [StatePlanEntries.concat_split h]
  simp [hmem]

section Compile

variable {assignQueues : QueueAssigner} {options : GpuTaskGraphCompileOptions}
  {planGeneration : CompiledPlanGeneration} {graph : GpuTaskGraph}
  {topology : GpuTaskGraphQueueTopology} {out : GpuTaskGraphCompilation}

/-- A packet waits for the completion of every owner that one of its tasks imports. -/
theorem awaitsOwners_of_compile
    (h : compile assignQueues options planGeneration graph topology = some out)
    {packet : GpuSubmissionPacket} (hpacket : packet ∈ out.compiledGraph.packets)
    {id : GpuTaskId} (hid : id ∈ out.compiledGraph.packetTasksOf packet) :
    ∃ t, out.compiledGraph.findCompiledTask id = some t ∧
      ∀ barrier ∈ out.compiledGraph.prologueBarriersOf t, barrier.isInitialOwnerHandoff = true →
        ∃ owner, ImportsOwner graph barrier owner ∧
          owner.completion ∈ out.compiledGraph.packetExternalDependenciesOf packet := by
  obtain ⟨-, plan, owners, ordered, presentEndpoint, hstates, hordered, hcompiled⟩ :=
    compile_stages h
  obtain ⟨entries, exports, hplanned, howners, -⟩ := plannedGraph_owners_of_compileStates hstates
  have hafter := (orderedPlan_of_planPacketOrder hordered).plannedGraph hplanned
  rw [hcompiled] at hpacket hid ⊢
  obtain ⟨i, hi⟩ := List.mem_iff_getElem?.1 hpacket
  obtain ⟨k, t, ht, rfl, -⟩ := hafter.layout.exists_of_mem_packetTasksOf hi hid
  obtain ⟨e, he, hbarriers, hawaits⟩ := hafter.awaitsOwners ht
  refine ⟨t, hafter.layout.find_at ht, fun barrier hmem hhandoff => ?_⟩
  obtain ⟨owner, howner, hwait⟩ := hawaits barrier (hbarriers ▸ hmem) hhandoff
  refine ⟨owner, howner, ?_⟩
  have hedge := howners ▸ mem_ownership_concat he hwait
  simp only [planPacketOrder, Option.bind_eq_bind, Option.bind_eq_some_iff,
    Option.some.injEq] at hordered
  obtain ⟨state, hstate, frontiers, -, rfl⟩ := hordered
  obtain ⟨original, frontier, horiginal, -, rfl⟩ := getElem?_withFrontiers hi
  have hlists := (externalWaits_of_planConsumerPackets hstate).lists original
    (List.mem_of_getElem? horiginal)
  exact hlists _ (List.mem_append_right _ hedge) hid

end Compile

/-! ## Resolved axes -/

/-- What remains of an axis ends no later than what was asked for. -/
lemma rangeEnd_resolveCount_le {all : UInt32} (hall : all = 0xFFFFFFFF)
    (base count available : UInt32) :
    rangeEnd base (resolveCount base count all available) all ≤ rangeEnd base count all := by
  subst hall
  have hcount := toNat_resolveCount base count 0xFFFFFFFF available
  have hbase := base.toNat_lt
  have hlt := available.toNat_lt
  have hasked := count.toNat_lt
  by_cases hall : count = 0xFFFFFFFF
  · rw [if_pos hall] at hcount
    simp only [rangeEnd, if_pos hall, u64Max]
    split <;> omega
  · rw [if_neg hall] at hcount
    have hne : count.toNat ≠ 4294967295 := fun heq => hall (UInt32.toNat_inj.1 (by simpa using heq))
    have hresolved : resolveCount base count 0xFFFFFFFF available ≠ 0xFFFFFFFF := by
      intro heq
      rw [heq] at hcount
      change 4294967295 = _ at hcount
      omega
    rw [rangeEnd, rangeEnd, if_neg hresolved, if_neg hall]
    omega

/-- On an axis of few cells, what remains ends at the axis or where it was asked to. -/
lemma rangeEnd_resolveCount {all base count available : UInt32} (hall : all = 0xFFFFFFFF)
    (hfew : available.toNat ≤ 32) (hsome : resolveCount base count all available ≠ 0) :
    rangeEnd base (resolveCount base count all available) all
      = min (rangeEnd base count all) available.toNat := by
  subst hall
  have hcount := toNat_resolveCount base count 0xFFFFFFFF available
  have hbase := base.toNat_lt
  have hpositive : (resolveCount base count 0xFFFFFFFF available).toNat ≠ 0 := fun hzero =>
    hsome (UInt32.toNat_inj.1 (by simpa using hzero))
  have hle : (resolveCount base count 0xFFFFFFFF available).toNat ≤ available.toNat := by
    rw [hcount]
    split <;> omega
  have hresolved : resolveCount base count 0xFFFFFFFF available ≠ 0xFFFFFFFF := by
    intro heq
    rw [heq] at hle
    change 4294967295 ≤ available.toNat at hle
    omega
  rw [rangeEnd, rangeEnd, if_neg hresolved]
  split
  · next hall =>
      rw [if_pos hall] at hcount
      simp only [u64Max]
      omega
  · next hall =>
      rw [if_neg hall] at hcount
      omega

/-! ## Declared sources -/

/-- Texture creation refuses more mips than the extent has, and an extent has at most 32. -/
def TexturesCreated (graph : GpuTaskGraph) : Prop :=
  ∀ resource ∈ graph.resources, ∀ desc, resource.texture = some desc → desc.mipLevels.toNat ≤ 32

/-- A listed source between the barrier's queues whose declared range contains the barrier's. -/
def GpuTaskGraphInitialOwnerHandoffSourceView.coversBarrier
    (source : GpuTaskGraphInitialOwnerHandoffSourceView) (barrier : GpuCompiledBarrier) : Bool :=
  source.sourceQueue == barrier.sourceQueue && source.destinationQueue == barrier.destinationQueue
    && rangeContains .texture source.range barrier.range

/-- Every listed source of every resource names cells of its texture. -/
def SourcesResolve (graph : GpuTaskGraph) : Prop :=
  ∀ id, graph.validResource id = true →
    ∀ source ∈ (graph.resourceAt id.index).initialOwnerHandoffSources,
      (resolveTextureRangeForPlanning (graph.textureForResource id) source.range).isSome = true

variable {graph : GpuTaskGraph}

lemma sourcesResolve_of_accepted {topology : GpuTaskGraphQueueTopology}
    (h : acceptsOwnershipMetadata graph topology plan = true) :
    SourcesResolve graph := by
  intro id hid source hsource
  simp only [GpuTaskGraph.validResource, validHandle, Bool.and_eq_true, beq_iff_eq,
    decide_eq_true_eq] at hid
  obtain ⟨⟨-, hgeneration⟩, hindex⟩ := hid
  have hself : (graph.resourceAt id.index).id = id := by
    show (⟨id.index, graph.generation⟩ : GpuGraphResourceId) = id
    rw [← hgeneration]
  rw [acceptsOwnershipMetadata, List.all_eq_true] at h
  have haccepted := h id.index (List.mem_range.2 hindex)
  rw [acceptsResourceOwnership, Bool.and_eq_true] at haccepted
  have hsome : (!(graph.resourceAt id.index).initialOwnerHandoffSources.isEmpty) = true := by
    rw [Bool.not_eq_true', List.isEmpty_eq_false_iff_exists_mem]
    exact ⟨source, hsource⟩
  rw [if_pos hsome, Bool.and_eq_true, Bool.and_eq_true, List.all_eq_true, hself] at haccepted
  have hchecks := haccepted.2.2 source hsource
  simp only [acceptsInitialOwnerHandoffSource, Bool.and_eq_true] at hchecks
  exact hchecks.1.1.1.1.1.1

variable {source : GpuTaskGraphInitialOwnerHandoffSourceView}

/-- Different listed sources of a declared resource share no cell. -/
lemma eq_of_common_cell {sources : List GpuTaskGraphInitialOwnerHandoffSourceView}
    (h : disjointInitialOwnerHandoffSources sources = true)
    {other : GpuTaskGraphInitialOwnerHandoffSourceView} (hsource : source ∈ sources)
    (hother : other ∈ sources) {c : Cell} (hc : rangeCovers .texture source.range c = true)
    (hc' : rangeCovers .texture other.range c = true) : other = source := by
  induction sources with
  | nil => cases hsource
  | cons first rest ih =>
    rw [disjointInitialOwnerHandoffSources, Bool.and_eq_true, List.all_eq_true] at h
    have hoverlap : ∀ {a b : GpuTaskGraphInitialOwnerHandoffSourceView},
        rangeCovers .texture a.range c = true → rangeCovers .texture b.range c = true →
        textureRangesOverlap a.range.textureSubresources b.range.textureSubresources = true := by
      intro a b ha hb
      simpa [rangesOverlap] using rangesOverlap_of_common_cell ha hb
    rcases List.mem_cons.1 hsource with rfl | hsourceRest
    · rcases List.mem_cons.1 hother with rfl | hotherRest
      · rfl
      · have hapart := h.1 other hotherRest
        rw [hoverlap hc' hc] at hapart
        cases hapart
    · rcases List.mem_cons.1 hother with rfl | hotherRest
      · have hapart := h.1 source hsourceRest
        rw [hoverlap hc hc'] at hapart
        cases hapart
      · exact ih h.2 hsourceRest hotherRest

/-- Only textures have listed sources, and these are apart. -/
lemma declared_of_listed {index : ℕ}
    (hsource : source ∈ (graph.resourceAt index).initialOwnerHandoffSources) :
    (graph.resourceAt index).type = .texture ∧
      disjointInitialOwnerHandoffSources (graph.resourceAt index).initialOwnerHandoffSources
        = true := by
  have hindex : index < graph.resources.length := by
    by_contra hout
    simp only [GpuTaskGraph.resourceAt, List.getD_eq_getElem?_getD,
      List.getElem?_eq_none (Nat.not_lt.1 hout), Option.getD_none] at hsource
    cases hsource
  have hdeclared := graph.resources_declared _ (List.getElem_mem hindex)
  have hat : (graph.resourceAt index).toGpuGraphResourceNode = graph.resources[index] := by
    simp [GpuTaskGraph.resourceAt, hindex]
  rw [← hat] at hdeclared
  have hlisted : (graph.resourceAt index).initialOwnerHandoffSources.isEmpty = false := by
    rw [List.isEmpty_eq_false_iff_exists_mem]
    exact ⟨source, hsource⟩
  simp only [validResourceDeclaration, hlisted, Bool.and_eq_true, Bool.not_false, Bool.not_true,
    Bool.false_or, beq_iff_eq] at hdeclared
  exact ⟨hdeclared.1.1.1.1.2.1.1.1.1, hdeclared.2⟩

lemma rangeContains_texture_iff {outer inner : GpuTaskResourceRange} :
    rangeContains .texture outer inner = true ↔
      outer.textureSubresources.baseMipLevel.toNat ≤ inner.textureSubresources.baseMipLevel.toNat ∧
      rangeEnd inner.textureSubresources.baseMipLevel inner.textureSubresources.numMipLevels
          allMipLevels
        ≤ rangeEnd outer.textureSubresources.baseMipLevel outer.textureSubresources.numMipLevels
          allMipLevels ∧
      outer.textureSubresources.baseArraySlice.toNat
        ≤ inner.textureSubresources.baseArraySlice.toNat ∧
      rangeEnd inner.textureSubresources.baseArraySlice inner.textureSubresources.numArraySlices
          allArraySlices
        ≤ rangeEnd outer.textureSubresources.baseArraySlice
          outer.textureSubresources.numArraySlices allArraySlices := by
  simp [rangeContains, UInt32.le_iff_toNat_le, and_assoc]

variable {desc : TextureDesc} {range : GpuTaskResourceRange}

variable {planned : GpuTaskResourceRange}

/-- A declared range that contains a planned range of a texture without slices contains it after
resolution too. -/
lemma rangeContains_resolved {source other : GpuTaskResourceRange}
    {plannedOther : GpuTaskResourceRange} (hfew : desc.mipLevels.toNat ≤ 32)
    (hslices : desc.dimension.hasArraySlices = false)
    (hplanned : resolveTextureRangeForPlanning (some desc) source = some planned)
    (hother : resolveTextureRangeForPlanning (some desc) other = some plannedOther)
    (hcontains : rangeContains .texture planned range = true)
    (hdeclared : rangeContains .texture other range = true) :
    rangeContains .texture plannedOther range = true := by
  simp only [resolveTextureRangeForPlanning] at hplanned hother
  split at hplanned
  · next hvalid =>
      split at hother
      · next hvalidOther =>
          obtain rfl := Option.some.inj hplanned
          obtain rfl := Option.some.inj hother
          simp only [isValidTextureRange, TextureSubresourceSet.resolve, hslices, Bool.and_eq_true,
            bne_iff_ne] at hvalid hvalidOther
          simp only [rangeContains_texture_iff, TextureSubresourceSet.resolve, hslices,
            Bool.false_eq_true, if_false] at hcontains hdeclared ⊢
          have hall : allMipLevels = 0xFFFFFFFF := rfl
          rw [rangeEnd_resolveCount hall hfew hvalid.1] at hcontains
          rw [rangeEnd_resolveCount hall hfew hvalidOther.1]
          omega
      · cases hother
  · cases hplanned

/-- A range contained in a planned source range is contained in the declared one, over a texture
with slices. -/
lemma rangeContains_declared {source : GpuTaskResourceRange}
    (hslices : desc.dimension.hasArraySlices = true)
    (hplanned : resolveTextureRangeForPlanning (some desc) source = some planned)
    (hcontains : rangeContains .texture planned range = true) :
    rangeContains .texture source range = true := by
  simp only [resolveTextureRangeForPlanning] at hplanned
  split at hplanned
  · obtain rfl := Option.some.inj hplanned
    have hmips := rangeEnd_resolveCount_le (show allMipLevels = 0xFFFFFFFF from rfl)
      source.textureSubresources.baseMipLevel
      source.textureSubresources.numMipLevels desc.mipLevels
    have harray := rangeEnd_resolveCount_le (show allArraySlices = 0xFFFFFFFF from rfl)
      source.textureSubresources.baseArraySlice
      source.textureSubresources.numArraySlices desc.arraySize
    simp only [rangeContains_texture_iff, TextureSubresourceSet.resolve, hslices, if_true]
      at hcontains ⊢
    omega
  · cases hplanned

lemma textureForResource_eq_some {id : GpuGraphResourceId}
    (h : graph.textureForResource id = some desc) :
    graph.validResource id = true ∧ (graph.resourceAt id.index).toGpuGraphResourceNode ∈
      graph.resources ∧ (graph.resourceAt id.index).texture = some desc := by
  simp only [GpuTaskGraph.textureForResource] at h
  split at h
  · next hvalid =>
      split at h
      · refine ⟨hvalid, ?_, h⟩
        simp only [GpuTaskGraph.validResource, validHandle, Bool.and_eq_true,
          decide_eq_true_eq] at hvalid
        simp [GpuTaskGraph.resourceAt, hvalid.2]
      · cases h
  · cases h

variable {resource : GpuTaskGraphResourceView} {texture : Option TextureDesc}
  {destinationQueue : GpuPhysicalQueueId}

lemma findInitialOwnerHandoffSource_eq_some
    (h : findInitialOwnerHandoffSource resource texture range destinationQueue = some source) :
    source ∈ resource.initialOwnerHandoffSources ∧
      (∃ planned, resolveTextureRangeForPlanning texture source.range = some planned ∧
        rangeContains resource.type planned range = true) ∧
      ∀ other ∈ resource.initialOwnerHandoffSources, other.destinationQueue = destinationQueue →
        ∀ planned, resolveTextureRangeForPlanning texture other.range = some planned →
          rangeContains resource.type planned range = true → other = source := by
  simp only [findInitialOwnerHandoffSource] at h
  split at h
  · next found hmatching =>
      obtain rfl := Option.some.inj h
      have hmem := List.mem_filter.1 (hmatching ▸ List.mem_singleton_self found)
      simp only [Bool.and_eq_true, beq_iff_eq, Option.any_eq_true] at hmem
      refine ⟨hmem.1, hmem.2.2, fun other hother hdestination planned hplanned hcontains => ?_⟩
      refine List.mem_singleton.1 (hmatching ▸ List.mem_filter.2 ⟨hother, ?_⟩)
      simp [hdestination, hplanned, hcontains]
  · cases h

lemma findInitialOwnerHandoffSource_destination
    (h : findInitialOwnerHandoffSource resource texture range destinationQueue = some source) :
    source.destinationQueue = destinationQueue := by
  simp only [findInitialOwnerHandoffSource] at h
  split at h
  · next found hmatching =>
      obtain rfl := Option.some.inj h
      have hmem := List.mem_filter.1 (hmatching ▸ List.mem_singleton_self found)
      simp only [Bool.and_eq_true, beq_iff_eq] at hmem
      exact hmem.2.1
  · cases h

/-- The owner behind an import: the resource's own, or a listed source that no other listed source
between the barrier's queues covers the barrier beside. -/
inductive DeclaredOwner (resource : GpuTaskGraphResourceView) (barrier : GpuCompiledBarrier)
    (completion : GpuExternalCompletionId) : Prop
  | own (unlisted : resource.initialOwnerHandoffSources = [])
      (queue : resource.initialOwnerQueue = barrier.sourceQueue)
      (completion_eq : resource.initialOwnerCompletion = completion)
  | listed (source : GpuTaskGraphInitialOwnerHandoffSourceView)
      (listed : source ∈ resource.initialOwnerHandoffSources)
      (completion_eq : source.completion = completion)
      (only : ∀ other ∈ resource.initialOwnerHandoffSources,
        other.coversBarrier barrier = true → other = source)

theorem ImportsOwner.declared (hcreated : TexturesCreated graph) (hresolve : SourcesResolve graph)
    {barrier : GpuCompiledBarrier} {owner : InitialOwnerImport}
    (h : ImportsOwner graph barrier owner) :
    DeclaredOwner (graph.resourceAt barrier.resource.index) barrier owner.completion := by
  obtain ⟨hresolved, hqueue, hcell⟩ := h
  simp only [resolveInitialOwner] at hresolved
  split at hresolved
  · cases hresolved
  split at hresolved
  · simp only [Option.bind_eq_bind, Option.bind_eq_some_iff, Option.some.injEq] at hresolved
    obtain ⟨source, hfind, acquire, -, rfl⟩ := hresolved
    obtain ⟨hlisted, ⟨planned, hplanned, hcontains⟩, honly⟩ :=
      findInitialOwnerHandoffSource_eq_some hfind
    refine .listed source hlisted rfl fun other hother hcovers => ?_
    obtain ⟨htype, hapart⟩ := declared_of_listed hlisted
    simp only [GpuTaskGraphInitialOwnerHandoffSourceView.coversBarrier, Bool.and_eq_true,
      beq_iff_eq] at hcovers
    rw [htype] at hcontains honly
    cases htexture : graph.textureForResource barrier.resource with
    | none =>
      rw [htexture] at honly
      exact honly other hother hcovers.1.2 other.range rfl hcovers.2
    | some desc =>
      obtain ⟨hvalid, hdesc⟩ := textureForResource_eq_some htexture
      rw [htexture] at hplanned honly
      cases hslices : desc.dimension.hasArraySlices with
      | true =>
        -- Over slices a planned range lies in the declared one, and declared ranges are apart.
        obtain ⟨c, hc⟩ := hcell htype
        refine eq_of_common_cell hapart hlisted hother ?_
          (rangeCovers_of_rangeContains hcovers.2 hc)
        exact rangeCovers_of_rangeContains (rangeContains_declared hslices hplanned hcontains) hc
      | false =>
        have hsome := hresolve barrier.resource hvalid other hother
        rw [htexture] at hsome
        obtain ⟨plannedOther, hplannedOther⟩ := Option.isSome_iff_exists.1 hsome
        refine honly other hother hcovers.1.2 plannedOther hplannedOther ?_
        exact rangeContains_resolved (hcreated _ hdesc.1 desc hdesc.2) hslices hplanned
          hplannedOther hcontains hcovers.2
  · next hempty =>
    split at hresolved
    · split at hresolved
      · cases hresolved
      · simp only [Option.bind_eq_bind, Option.bind_eq_some_iff, Option.some.injEq] at hresolved
        obtain ⟨acquire, -, rfl⟩ := hresolved
        refine .own ?_ hqueue rfl
        simpa using hempty
    · cases hresolved

section Compile

variable {assignQueues : QueueAssigner} {options : GpuTaskGraphCompileOptions}
  {planGeneration : CompiledPlanGeneration} {graph : GpuTaskGraph}
  {topology : GpuTaskGraphQueueTopology} {out : GpuTaskGraphCompilation}

lemma sourcesResolve_of_compile
    (h : compile assignQueues options planGeneration graph topology = some out) :
    SourcesResolve graph := by
  obtain ⟨-, plan, owners, ordered, presentEndpoint, hstates, -, -⟩ := compile_stages h
  simp only [compileStates, Option.bind_eq_bind, Option.bind_eq_some_iff] at hstates
  obtain ⟨packets, hpackets, -⟩ := hstates
  simp only [compilePackets, Option.bind_eq_bind] at hpackets
  split at hpackets
  · cases hpackets
  split at hpackets
  · cases hpackets
  simp only [Option.bind_eq_some_iff] at hpackets
  obtain ⟨assignments, -, firstQueue, -, hpackets⟩ := hpackets
  split at hpackets
  · cases hpackets
  split at hpackets
  · cases hpackets
  · next haccepted => exact sourcesResolve_of_accepted (by simpa using haccepted)

/-- Every handoff from an external owner to a task of a packet comes with a completion of its
declared owner among those the packet waits for. -/
theorem declaredOwner_of_compile
    (h : compile assignQueues options planGeneration graph topology = some out)
    (hcreated : TexturesCreated graph) {packet : GpuSubmissionPacket}
    (hpacket : packet ∈ out.compiledGraph.packets) {id : GpuTaskId}
    (hid : id ∈ out.compiledGraph.packetTasksOf packet) :
    ∃ t, out.compiledGraph.findCompiledTask id = some t ∧
      ∀ barrier ∈ out.compiledGraph.prologueBarriersOf t, barrier.isInitialOwnerHandoff = true →
        ∃ completion ∈ out.compiledGraph.packetExternalDependenciesOf packet,
          DeclaredOwner (graph.resourceAt barrier.resource.index) barrier completion := by
  obtain ⟨t, ht, howners⟩ := awaitsOwners_of_compile h hpacket hid
  refine ⟨t, ht, fun barrier hmem hhandoff => ?_⟩
  obtain ⟨owner, himports, hwait⟩ := howners barrier hmem hhandoff
  exact ⟨owner.completion, hwait, himports.declared hcreated (sourcesResolve_of_compile h)⟩

end Compile

end NwbLot.TaskGraph
