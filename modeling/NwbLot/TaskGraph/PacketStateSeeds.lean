import NwbLot.TaskGraph.PacketOrder

/-!
# The state seeds of a packet

A packet starts from the seeds of its tasks.  A task seeds a cell only when its newest earlier user
lies in another packet, so no cell is seeded twice in a packet, and the newest earlier user of a
seeded cell is the newest one before the packet.
-/

namespace NwbLot.TaskGraph

/-- The seeds that the recording of a packet walks: those of its tasks, in order. -/
def packetStateSeeds (plan : GpuCompiledGraph) (packet : GpuSubmissionPacket) :
    Option (List GpuPacketStateSeed) := do
  let seeds ← (plan.packetTasksOf packet).mapM fun id =>
    (plan.findCompiledTask id).bind (requireStateSeeds plan)
  some seeds.flatten

/-- The seeds have no cell in common. -/
def DisjointSeeds (graph : GpuTaskGraph) (a b : GpuPacketStateSeed) : Prop :=
  a.resource = b.resource → ∀ c,
    ¬(rangeCovers (graph.resourceAt a.resource.index).type a.range c = true ∧
      rangeCovers (graph.resourceAt b.resource.index).type b.range c = true)

/-- A cell over which two seeds are in common. -/
lemma disjointSeeds_iff {graph : GpuTaskGraph} {a b : GpuPacketStateSeed} :
    DisjointSeeds graph a b ↔
      ∀ x, ¬(seedCovers graph x a = true ∧ seedCovers graph x b = true) := by
  have hcovers (x : ResourceCell) (seed : GpuPacketStateSeed) : seedCovers graph x seed = true ↔
      seed.resource = x.resource ∧
        rangeCovers (graph.resourceAt seed.resource.index).type seed.range x.cell = true := by
    rw [seedCovers, ResourceCell.within, Bool.and_eq_true, beq_iff_eq]
    refine and_congr_right fun hresource => ?_
    rw [ResourceCell.type, hresource]
  simp only [hcovers]
  constructor
  · rintro h x ⟨⟨ha, hacell⟩, hb, hbcell⟩
    exact h (ha.trans hb.symm) x.cell ⟨hacell, hbcell⟩
  · intro h hresource c hcells
    exact h ⟨a.resource, c⟩ ⟨⟨rfl, hcells.1⟩, hresource.symm, hcells.2⟩

/-- Elements of which at most one satisfies each predicate satisfy none in pairs. -/
lemma pairwise_of_filter {α ι : Type} {p : ι → α → Bool} {xs : List α}
    (h : ∀ i, (xs.filter (p i)).length ≤ 1) :
    xs.Pairwise fun a b => ∀ i, ¬(p i a = true ∧ p i b = true) := by
  induction xs with
  | nil => exact List.Pairwise.nil
  | cons a rest ih =>
    have hrest (i : ι) : (rest.filter (p i)).length ≤ 1 :=
      ((List.sublist_cons_self a rest).filter _).length_le.trans (h i)
    refine List.pairwise_cons.2 ⟨?_, ih hrest⟩
    rintro b hb i ⟨ha, hbi⟩
    have hpositive := List.length_pos_of_mem (List.mem_filter.2 ⟨hb, hbi⟩)
    have hle := h i
    rw [List.filter_cons_of_pos ha, List.length_cons] at hle
    omega

lemma planFromInitialState_seeds (resource : GpuTaskGraphResourceView) (use : GpuTaskResourceUse)
    (task : GpuCompiledTask) (range : GpuTaskResourceRange) (owner : Option InitialOwnerImport)
    (hasInitialOwnerStateSeed : Bool) :
    (planFromInitialState resource use task range owner
      hasInitialOwnerStateSeed).prologueStateSeeds = [] := by
  have htransition : (planInitialTransition resource use task range
      hasInitialOwnerStateSeed).prologueStateSeeds = [] := by
    simp only [planInitialTransition]
    split <;> rfl
  simp only [planFromInitialState]
  rw [StatePlanEntries.append_seeds, htransition, List.append_nil]
  cases owner <;> rfl

section Planned

variable {graph : GpuTaskGraph} {topology : GpuTaskGraphQueueTopology}
  {assignments : GpuTaskGraphQueueAssignments} {plan : GpuCompiledGraph}
  {entries : List StatePlanEntries} {exports : ExternalExportPlan}

namespace PlannedGraph

variable (h : PlannedGraph graph topology assignments plan entries exports)
include h

variable {k : ℕ} {t : GpuCompiledTask} {e : StatePlanEntries}

/-- What a task seeds over a cell: nothing, or the state that the newest earlier user of the cell
left in another packet. -/
lemma seeds_over_cell (ht : plan.tasks[k]? = some t) (he : entries[k]? = some e)
    (x : ResourceCell) :
    e.prologueStateSeeds.filter (seedCovers graph x) = [] ∨
      ∃ seed i u use, e.prologueStateSeeds.filter (seedCovers graph x) = [seed] ∧
        usesCell graph x t = true ∧ PreviousUser graph plan x k i u use ∧
        seed.sourcePacket = u.packet ∧ u.packet ≠ t.packet := by
  cases huse : firstUse graph x (declaredUses graph t) with
  | none =>
    have hunused : usesCell graph x t = false := by
      rw [← firstUse_isSome, huse]
      rfl
    exact .inl (congrArg StatePlanEntries.prologueStateSeeds (h.restrict_of_unused ht hunused he))
  | some use =>
    rcases h.plan_at_cell ht he huse with
      ⟨i, u, previousUse, range, previousRange, hprevious, hplanned⟩ | ⟨-, range, owner, hplanned⟩
    · obtain ⟨planned, hentries, hown⟩ := hplanned.planned
      have hseeds : e.prologueStateSeeds.filter (seedCovers graph x) =
          planned.prologueStateSeeds := congrArg StatePlanEntries.prologueStateSeeds hown
      rw [hseeds]
      simp only [planFromPreviousState, Option.bind_eq_bind, Option.bind_eq_some_iff,
        Option.some.injEq] at hentries
      obtain ⟨handoff, hhandoff, rfl⟩ := hentries
      rw [StatePlanEntries.append_seeds, planTransition_rest.1, List.append_nil]
      rcases planPacketHandoff_cases hhandoff with ⟨-, rfl⟩ | ⟨hother, source, destination, hcase⟩
      · exact .inl rfl
      · rw [hcase.seeds]
        have hpacket : plan.findCompiledPacketForTask u.task = u.packet :=
          h.layout.packet_at hprevious.task_at
        split
        · exact .inl rfl
        · exact .inr ⟨_, i, u, previousUse, rfl, usesCell_of_firstUse huse, hprevious, hpacket,
            hpacket ▸ hother⟩
    · refine .inl ?_
      have hseeds : e.prologueStateSeeds.filter (seedCovers graph x) =
          (planFromInitialState (graph.resourceAt use.resource.index) use t range owner
            owner.isSome).prologueStateSeeds :=
        congrArg StatePlanEntries.prologueStateSeeds hplanned.planned
      rw [hseeds]
      exact planFromInitialState_seeds _ _ _ _ _ _

/-! ## The tasks of a packet -/

/-- The seeds of a packet are those of the entries planned for its tasks. -/
lemma packetStateSeeds_eq (packet : GpuSubmissionPacket) :
    packetStateSeeds plan packet =
      some ((Spans.part entries packet.taskOffset packet.taskCount).flatMap
        (·.prologueStateSeeds)) := by
  have hall : plan.packetTasks.map (fun id =>
      (plan.findCompiledTask id).bind (requireStateSeeds plan)) =
        (entries.map (·.prologueStateSeeds)).map some := by
    rw [h.layout.packetTasks_eq]
    refine List.ext_getElem? fun k => ?_
    cases ht : plan.tasks[k]? with
    | none =>
      have hlength := List.getElem?_eq_none_iff.1 ht
      rw [List.getElem?_eq_none, List.getElem?_eq_none]
      · rw [List.length_map, List.length_map, h.trace.entries_length]
        exact hlength
      · rw [List.length_map, ← h.layout.tasks_length]
        exact hlength
    | some t =>
      obtain ⟨e, he, trace⟩ := h.trace.at_task k t ht
      simp [h.layout.order_at ht, he, h.layout.find_at ht, trace.seeds]
  have hpart : (plan.packetTasksOf packet).mapM (fun id =>
      (plan.findCompiledTask id).bind (requireStateSeeds plan)) =
        some ((Spans.part entries packet.taskOffset packet.taskCount).map
          (·.prologueStateSeeds)) := by
    rw [OptionList.mapM_eq_some_iff, GpuCompiledGraph.packetTasksOf, Spans.part, Spans.part,
      List.map_take, List.map_drop, hall, List.map_take, List.map_drop, List.map_take,
      List.map_drop]
  rw [packetStateSeeds, hpart, List.flatMap]
  rfl

variable {x : ResourceCell} {packet : GpuSubmissionPacket}

/-- A newest user in another packet lies before the whole packet. -/
lemma before_packet {i : ℕ} {u : GpuCompiledTask} {use : GpuTaskResourceUse}
    (ht : plan.tasks[k]? = some t) (hprevious : PreviousUser graph plan x k i u use)
    (hother : u.packet ≠ t.packet) (hpacket : plan.packets[t.packet.index]? = some packet) :
    i < packet.taskOffset := by
  obtain ⟨source, hsource⟩ := h.layout.placed i u hprevious.task_at
  have hle := h.layout.packet_index_mono hprevious.task_at ht (Nat.le_of_lt hprevious.lt)
  have hne : u.packet.index ≠ t.packet.index := by
    intro heq
    refine hother ?_
    rw [(h.layout.packet_valid hprevious.task_at).2.1, heq, ← (h.layout.packet_valid ht).2.1]
  have hspan := h.layout.span_le hsource.packet_at hpacket (by omega)
  have := hsource.upper
  omega

variable {j : ℕ}

/-- The task at a position of the packet's span, with the entries planned for it. -/
lemma task_in_packet (hpacket : plan.packets[j]? = some packet) (he : entries[k]? = some e)
    (hlower : packet.taskOffset ≤ k) (hupper : k < packet.taskOffset + packet.taskCount) :
    ∃ t, plan.tasks[k]? = some t ∧ plan.packets[t.packet.index]? = some packet := by
  have hk : k < plan.tasks.length := by
    rw [← h.trace.entries_length]
    exact (List.getElem?_eq_some_iff.1 he).1
  have ht := List.getElem?_eq_getElem hk
  have hid : plan.tasks[k].task ∈ plan.packetTasksOf packet := by
    refine List.mem_of_getElem? (i := k - packet.taskOffset) ?_
    rw [GpuCompiledGraph.packetTasksOf, Spans.getElem?_part (by omega), h.layout.packetTasks_eq,
      Nat.add_sub_cancel' hlower]
    exact h.layout.order_at ht
  obtain ⟨l, t, hl, htask, hindex⟩ := h.layout.exists_of_mem_packetTasksOf hpacket hid
  obtain rfl := h.layout.position_unique hl ht htask
  exact ⟨t, hl, hindex ▸ hpacket⟩

/-- A seed over a cell: its task is the packet's first user of the cell, and the seed's source is
the packet of the newest user before the packet. -/
lemma newest_before_packet (ht : plan.tasks[k]? = some t) (he : entries[k]? = some e)
    (hpacket : plan.packets[t.packet.index]? = some packet) (hlower : packet.taskOffset ≤ k)
    {seed : GpuPacketStateSeed} (hseed : seed ∈ e.prologueStateSeeds)
    (hcovers : seedCovers graph x seed = true) :
    usesCell graph x t = true ∧ ∃ i u use,
      PreviousUser graph plan x packet.taskOffset i u use ∧ seed.sourcePacket = u.packet ∧
      UnusedBetween graph plan x i k := by
  have hmem := List.mem_filter.2 ⟨hseed, hcovers⟩
  rcases h.seeds_over_cell ht he x with hnone | ⟨own, i, u, use, hone, huses, hprevious, hsource,
    hother⟩
  · rw [hnone] at hmem
    cases hmem
  · rw [hone, List.mem_singleton] at hmem
    have hbefore := h.before_packet ht hprevious hother hpacket
    refine ⟨huses, i, u, use, ⟨hbefore, hprevious.task_at, hprevious.last, ?_⟩, hmem ▸ hsource,
      hprevious.unused⟩
    exact fun m hlow hhigh => hprevious.unused m hlow (by omega)

/-- No cell is seeded twice in a packet. -/
lemma packetStateSeeds_pairwise (hpacket : plan.packets[j]? = some packet) :
    ((Spans.part entries packet.taskOffset packet.taskCount).flatMap
      (·.prologueStateSeeds)).Pairwise (DisjointSeeds graph) := by
  have hat {n : ℕ} {e : StatePlanEntries}
      (he : (Spans.part entries packet.taskOffset packet.taskCount)[n]? = some e) :
      entries[packet.taskOffset + n]? = some e ∧ ∃ t,
        plan.tasks[packet.taskOffset + n]? = some t ∧
        plan.packets[t.packet.index]? = some packet := by
    have hn : n < packet.taskCount := by
      have := (List.getElem?_eq_some_iff.1 he).1
      rw [Spans.part, List.length_take] at this
      omega
    rw [Spans.getElem?_part hn] at he
    exact ⟨he, h.task_in_packet hpacket he (by omega) (by omega)⟩
  rw [List.pairwise_flatMap]
  constructor
  · intro e hmem
    obtain ⟨n, hn⟩ := List.mem_iff_getElem?.1 hmem
    obtain ⟨he, t, ht, -⟩ := hat hn
    have hfilter : e.prologueStateSeeds.Pairwise fun a b =>
        ∀ x, ¬(seedCovers graph x a = true ∧ seedCovers graph x b = true) := by
      refine pairwise_of_filter fun x => ?_
      rcases h.seeds_over_cell ht he x with hnone | ⟨seed, i, u, use, hone, -⟩
      · rw [hnone]
        exact Nat.zero_le _
      · rw [hone]
        exact Nat.le_refl _
    exact hfilter.imp disjointSeeds_iff.2
  · rw [List.pairwise_iff_getElem]
    intro m n hm hn hmn a ha b hb
    rw [disjointSeeds_iff]
    rintro x ⟨hacovers, hbcovers⟩
    obtain ⟨hea, s, hs, hspacket⟩ := hat (List.getElem?_eq_getElem hm)
    obtain ⟨heb, t, ht, htpacket⟩ := hat (List.getElem?_eq_getElem hn)
    -- the earlier task uses the cell, behind the newest user the later seed knows of
    have huses := (h.newest_before_packet hs hea hspacket (by omega) ha hacovers).1
    obtain ⟨-, i, u, use, hprevious, -, hunused⟩ :=
      h.newest_before_packet ht heb htpacket (by omega) hb hbcovers
    have hlt := hprevious.lt
    rw [hunused _ (by omega) (by omega) s hs] at huses
    cases huses

/-- The seeds of a packet. -/
lemma packetStateSeeds_newest (hpacket : plan.packets[j]? = some packet) {seed : GpuPacketStateSeed}
    (hseed : seed ∈ (Spans.part entries packet.taskOffset packet.taskCount).flatMap
      (·.prologueStateSeeds)) (hcovers : seedCovers graph x seed = true) :
    ∃ i u use, PreviousUser graph plan x packet.taskOffset i u use ∧
      seed.sourcePacket = u.packet := by
  obtain ⟨e, hmem, hown⟩ := List.mem_flatMap.1 hseed
  obtain ⟨n, hn⟩ := List.mem_iff_getElem?.1 hmem
  have hcount : n < packet.taskCount := by
    have := (List.getElem?_eq_some_iff.1 hn).1
    rw [Spans.part, List.length_take] at this
    omega
  rw [Spans.getElem?_part hcount] at hn
  obtain ⟨t, ht, htpacket⟩ := h.task_in_packet hpacket hn (by omega) (by omega)
  obtain ⟨-, i, u, use, hprevious, hsource, -⟩ :=
    h.newest_before_packet ht hn htpacket (by omega) hown hcovers
  exact ⟨i, u, use, hprevious, hsource⟩

end PlannedGraph

end Planned

section Compile

variable {assignQueues : QueueAssigner} {options : GpuTaskGraphCompileOptions}
  {planGeneration : CompiledPlanGeneration} {graph : GpuTaskGraph}
  {topology : GpuTaskGraphQueueTopology}

/-- The seeds of a packet are pairwise disjoint, and each names, for every cell it covers, the
packet of the newest task before the packet that uses the cell. -/
theorem compile_packetStateSeeds {out : GpuTaskGraphCompilation}
    (h : compile assignQueues options planGeneration graph topology = some out) {j : ℕ}
    {packet : GpuSubmissionPacket} (hpacket : out.compiledGraph.packets[j]? = some packet) :
    ∃ seeds, packetStateSeeds out.compiledGraph packet = some seeds ∧
      seeds.Pairwise (DisjointSeeds graph) ∧
      ∀ seed ∈ seeds, ∀ x, seedCovers graph x seed = true →
        ∃ i u use, PreviousUser graph out.compiledGraph x packet.taskOffset i u use ∧
          seed.sourcePacket = u.packet := by
  obtain ⟨entries, exports, hplanned⟩ := plannedGraph_of_compile h
  exact ⟨_, hplanned.packetStateSeeds_eq packet, hplanned.packetStateSeeds_pairwise hpacket,
    fun seed hseed x hcovers => hplanned.packetStateSeeds_newest hpacket hseed hcovers⟩

/-- One mip level or two of a texture. -/
def mipUse (firstMip mipCount : UInt32) (requiredState : ResourceStates)
    (access : GpuTaskResourceAccess) : GpuTaskResourceUse :=
  { resource := ⟨0, 1⟩, range := { textureSubresources := ⟨firstMip, mipCount, 0, 1⟩ }
    requiredState, access }

/-- A Graphics and a Compute task write a mip level each of a texture that a third task reads. -/
def twoMipsGraph : GpuTaskGraph where
  generation := 1
  tasks :=
    [recordedTask 1 .graphics [mipUse 0 1 ResourceStates.copyDest .write],
     recordedTask 2 .compute [mipUse 1 1 ResourceStates.unorderedAccess .write],
     recordedTask 3 .graphics [mipUse 0 2 ResourceStates.shaderResource .read]]
  resources :=
    [{ identity := 4, type := .texture, texture := some { mipLevels := 2 }, deviceGeneration := 1
       initialState := ResourceStates.common }]
  externalCompletions := []
  generation_ne_zero := Nat.one_ne_zero
  tasks_length_le := by decide
  resources_length_le := by decide
  resources_declared := by decide

def twoMipsCompilation : Option GpuTaskGraphCompilation :=
  compile assignPreferredQueues {} ⟨1, Nat.one_ne_zero⟩ twoMipsGraph twoFamilyTopology

/-- The reading packet is seeded by both writing packets, each for the mip level that it has
written. -/
theorem compile_packetStateSeeds_twoMips : ∃ out packet first second,
    twoMipsCompilation = some out ∧ out.compiledGraph.packets[2]? = some packet ∧
      packetStateSeeds out.compiledGraph packet = some [first, second] ∧
      first.sourcePacket ≠ second.sourcePacket ∧ DisjointSeeds twoMipsGraph first second ∧
      seedCovers twoMipsGraph ⟨⟨0, 1⟩, (0, 0)⟩ first = true ∧
      seedCovers twoMipsGraph ⟨⟨0, 1⟩, (1, 0)⟩ second = true ∧
      ∀ seed ∈ [first, second], ∀ x, seedCovers twoMipsGraph x seed = true →
        ∃ i u use,
          PreviousUser twoMipsGraph out.compiledGraph x packet.taskOffset i u use ∧
          seed.sourcePacket = u.packet := by
  obtain ⟨out, packet, first, second, hout, hpacket, hseeds, hsources, hfirst, hsecond⟩ :
      ∃ out packet first second, twoMipsCompilation = some out ∧
        out.compiledGraph.packets[2]? = some packet ∧
        packetStateSeeds out.compiledGraph packet = some [first, second] ∧
        first.sourcePacket ≠ second.sourcePacket ∧
        seedCovers twoMipsGraph ⟨⟨0, 1⟩, (0, 0)⟩ first = true ∧
        seedCovers twoMipsGraph ⟨⟨0, 1⟩, (1, 0)⟩ second = true :=
    ⟨_, _, _, _, rfl, rfl, rfl, by decide, by decide, by decide⟩
  obtain ⟨seeds, hown, hdisjoint, hnewest⟩ := compile_packetStateSeeds hout hpacket
  obtain rfl := Option.some.inj (hseeds.symm.trans hown)
  exact ⟨out, packet, first, second, hout, hpacket, hseeds, hsources,
    List.rel_of_pairwise_cons hdisjoint (List.mem_singleton_self _), hfirst, hsecond, hnewest⟩

end Compile

end NwbLot.TaskGraph
