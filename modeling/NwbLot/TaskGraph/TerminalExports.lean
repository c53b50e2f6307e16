import NwbLot.TaskGraph.CellHistory

/-!
# Terminal exports

Export planning hangs its barriers on the tasks that end a resource: every one of them names a
range whose cells all have their newest tracked state in that task, and no cell gets two releases.
-/

namespace NwbLot.TaskGraph

/-! ## Terminal states -/

section Terminal

variable {graph : GpuTaskGraph} {tracked : List TrackedCompiledResourceState} {x : ResourceCell}

variable {terminal : TrackedCompiledResourceState × GpuTaskResourceRange}

variable {resource : GpuTaskGraphResourceView}

/-- A tracked state of a whole resource is terminal when no later one names the resource. -/
lemma mem_terminalWholeResourceStates (htype : resource.type ≠ .texture)
    (h : terminal ∈ terminalWholeResourceStates resource tracked) :
    terminal.2 = terminal.1.range ∧ terminal.1.resource = resource.id ∧
      tracked.reverse.find? (·.resource == resource.id) = some terminal.1 := by
  induction tracked with
  | nil => simp [terminalWholeResourceStates] at h
  | cons state later ih =>
    have hlater : terminal ∈ terminalWholeResourceStates resource later →
        terminal.2 = terminal.1.range ∧ terminal.1.resource = resource.id ∧
          (state :: later).reverse.find? (·.resource == resource.id) = some terminal.1 := by
      intro hmem
      obtain ⟨hrange, hresource, hfind⟩ := ih hmem
      refine ⟨hrange, hresource, ?_⟩
      rw [List.reverse_cons, List.find?_append, hfind]
      rfl
    simp only [terminalWholeResourceStates] at h
    split at h
    · next hterminal =>
        rcases List.mem_cons.1 h with rfl | hmem
        · simp only [Bool.and_eq_true, beq_iff_eq, Bool.not_eq_true', List.any_eq_false,
            rangesOverlap_whole htype, and_true] at hterminal
          refine ⟨rfl, hterminal.1, ?_⟩
          have hnone : later.reverse.find? (·.resource == resource.id) = none := by
            rw [List.find?_eq_none]
            intro other hother
            simpa using hterminal.2 other (List.mem_reverse.1 hother)
          rw [List.reverse_cons, List.find?_append, hnone]
          simp [hterminal.1]
        · exact hlater hmem
    · exact hlater h

variable {terminals : List (TrackedCompiledResourceState × GpuTaskResourceRange)}

/-- Terminal states of a resource name the resource. -/
lemma resource_of_terminal (h : terminalStates resource tracked = some terminals)
    (hmem : terminal ∈ terminals) :
    terminal.1.resource = resource.id := by
  unfold terminalStates at h
  split at h
  · simp only [Option.bind_eq_bind, Option.bind_eq_some_iff] at h
    obtain ⟨fragments, hfragments, hterminals⟩ := h
    obtain ⟨fragment, hfragment, hfragmentState⟩ := OptionList.exists_of_mem_mapM hterminals hmem
    obtain ⟨state, hstate, rfl⟩ := Option.map_eq_some_iff.1 hfragmentState
    exact ((cutFrom_of_terminal hfragments fragment hfragment).state_tracked hstate).2
  · next hwhole =>
      simp only [beq_iff_eq] at hwhole
      cases h
      exact (mem_terminalWholeResourceStates hwhole hmem).2.1

/-- A terminal state is the newest one over each cell of its range. -/
lemma latestState_of_terminal {index : ℕ}
    (h : terminalStates (graph.resourceAt index) tracked = some terminals)
    (hmem : terminal ∈ terminals) (hwithin : x.within graph terminal.1.resource terminal.2 = true) :
    latestState graph x tracked = some terminal.1 := by
  simp only [ResourceCell.within, Bool.and_eq_true, beq_iff_eq] at hwithin
  obtain ⟨hresource, hcovers⟩ := hwithin
  have hidentity := resource_of_terminal h hmem
  have htype : x.type graph = (graph.resourceAt index).type := by
    rw [ResourceCell.type, ← hresource, hidentity]
    rfl
  unfold terminalStates at h
  split at h
  · next htexture =>
      simp only [beq_iff_eq] at htexture
      simp only [Option.bind_eq_bind, Option.bind_eq_some_iff] at h
      obtain ⟨fragments, hfragments, hterminals⟩ := h
      obtain ⟨fragment, hfragment, hfragmentState⟩ := OptionList.exists_of_mem_mapM hterminals hmem
      obtain ⟨state, hstate, rfl⟩ := Option.map_eq_some_iff.1 hfragmentState
      rw [htexture] at htype
      have hat : some state ∈ fragmentStatesAt fragments x.cell :=
        List.mem_map.2 ⟨fragment, List.mem_filter.2 ⟨hfragment, htype ▸ hcovers⟩, hstate⟩
      rw [fragmentStatesAt_collectTerminal hfragments] at hat
      rw [latestState_texture htype, ← hresource, hidentity]
      simpa using hat
  · next hwhole =>
      simp only [beq_iff_eq] at hwhole
      cases h
      obtain ⟨-, -, hfind⟩ := mem_terminalWholeResourceStates hwhole hmem
      rw [← htype] at hwhole
      rw [latestState, ← hfind]
      congr 1
      funext state
      rw [stateCovers, within_whole hwhole, ← hresource, hidentity]

end Terminal

/-! ## The barriers of an export -/

/-- A pending barrier of a terminal state: its export marker, or the release that follows it. -/
structure TerminalBarrier (resource : GpuTaskGraphResourceView)
    (terminal : TrackedCompiledResourceState × GpuTaskResourceRange)
    (pending : PendingCompiledEpilogueBarrier) : Prop where
  task_eq : pending.task = terminal.1.task
  resource_eq : pending.barrier.resource = terminal.1.resource
  range_eq : pending.barrier.range = terminal.2
  source_eq : pending.barrier.sourceQueue = terminal.1.queue
  kind : stateExportBarrierType resource.type = some pending.barrier.type ∨
    (ownershipReleaseBarrierType resource.type = some pending.barrier.type ∧
      resource.externalFinalReleaseDestinationQueue.valid = true ∧
      pending.barrier.destinationQueue = resource.externalFinalReleaseDestinationQueue ∧
      terminal.1.queue ≠ resource.externalFinalReleaseDestinationQueue)

section Exports

variable {graph : GpuTaskGraph} {plan : GpuCompiledGraph} {resource : GpuTaskGraphResourceView}
  {tracked : List TrackedCompiledResourceState}

variable {terminal : TrackedCompiledResourceState × GpuTaskResourceRange}

variable {acc : ExternalExportState}

lemma recordExportSource_pending {sourced : ExternalExportState}
    (h : recordExportSource plan resource acc terminal.1 terminal.2 = some sourced) :
    sourced.pendingEpilogueBarriers = acc.pendingEpilogueBarriers := by
  unfold recordExportSource at h
  split at h
  · simp only [appendExportSource] at h
    split_ifs at h <;> cases h <;> rfl
  · cases h
    rfl

lemma externalFinalRelease_barrier {released : List PendingCompiledEpilogueBarrier}
    (h : externalFinalRelease resource terminal.1 terminal.2 = some released) :
    ∀ pending ∈ released, TerminalBarrier resource terminal pending := by
  simp only [externalFinalRelease] at h
  split at h
  · next hleaves =>
      simp only [Bool.and_eq_true, bne_iff_ne] at hleaves
      obtain ⟨release, hrelease, rfl⟩ := Option.map_eq_some_iff.1 h
      intro pending hmem
      obtain rfl := List.mem_singleton.1 hmem
      exact ⟨rfl, rfl, rfl, rfl, Or.inr ⟨hrelease, hleaves.1, rfl, hleaves.2⟩⟩
  · cases h
    simp

lemma appendTerminalState_pending {exportType : GpuCompiledBarrierType}
    (htype : stateExportBarrierType resource.type = some exportType) {acc' : ExternalExportState}
    (h : appendTerminalState plan resource exportType acc terminal = some acc') :
    ∀ pending ∈ acc'.pendingEpilogueBarriers,
      pending ∈ acc.pendingEpilogueBarriers ∨ TerminalBarrier resource terminal pending := by
  simp only [appendTerminalState, Option.bind_eq_bind, Option.bind_eq_some_iff,
    Option.some.injEq] at h
  obtain ⟨sourced, hsourced, released, hreleased, rfl⟩ := h
  intro pending hmem
  rw [List.mem_append, recordExportSource_pending hsourced] at hmem
  rcases hmem with hold | hnew
  · exact Or.inl hold
  · rcases List.mem_cons.1 hnew with rfl | hrelease
    · exact Or.inr ⟨rfl, rfl, rfl, rfl, Or.inl htype⟩
    · exact Or.inr (externalFinalRelease_barrier hreleased pending hrelease)

/-- The barrier belongs to a terminal state of one of the graph's resources. -/
def ExportedFrom (graph : GpuTaskGraph) (tracked : List TrackedCompiledResourceState)
    (pending : PendingCompiledEpilogueBarrier) : Prop :=
  ∃ index terminals, terminalStates (graph.resourceAt index) tracked = some terminals ∧
    ∃ terminal ∈ terminals, TerminalBarrier (graph.resourceAt index) terminal pending

lemma planExternalResourceExport_pending {index : ℕ} {exportPlan exportPlan' : ExternalExportPlan}
    (h : planExternalResourceExport plan tracked exportPlan (graph.resourceAt index)
      = some exportPlan') :
    ∀ pending ∈ exportPlan'.pendingEpilogueBarriers,
      pending ∈ exportPlan.pendingEpilogueBarriers ∨ ExportedFrom graph tracked pending := by
  unfold planExternalResourceExport at h
  split at h
  · cases h
    exact fun pending hmem => Or.inl hmem
  simp only [Option.bind_eq_bind, Option.bind_eq_some_iff] at h
  obtain ⟨exportType, htype, terminals, hterminals, state, hstate, h⟩ := h
  have hpending : ∀ pending ∈ state.pendingEpilogueBarriers,
      ∃ terminal ∈ [] ++ terminals, TerminalBarrier (graph.resourceAt index) terminal pending := by
    refine OptionList.foldlM_processed
      (fun done (acc : ExternalExportState) => ∀ pending ∈ acc.pendingEpilogueBarriers,
        ∃ terminal ∈ done, TerminalBarrier (graph.resourceAt index) terminal pending) ?_ hstate
      (fun pending hmem => absurd hmem List.not_mem_nil)
    intro done acc terminal acc' hstep hdone pending hmem
    rcases appendTerminalState_pending htype hstep pending hmem with hold | hnew
    · obtain ⟨earlier, hearlier, hbarrier⟩ := hdone pending hold
      exact ⟨earlier, List.mem_append_left _ hearlier, hbarrier⟩
    · exact ⟨terminal, by simp, hnew⟩
  split at h
  · cases h
  split at h
  · cases h
  cases h
  intro pending hmem
  rcases List.mem_append.1 hmem with hold | hnew
  · exact Or.inl hold
  · exact Or.inr ⟨index, terminals, hterminals, hpending pending hnew⟩

/-- Every barrier of export planning belongs to a terminal state. -/
theorem exportedFrom_of_mem {exports : ExternalExportPlan}
    (h : planExternalResourceExports graph plan tracked = some exports) :
    ∀ pending ∈ exports.pendingEpilogueBarriers, ExportedFrom graph tracked pending := by
  refine OptionList.foldlM_invariant
    (fun exportPlan : ExternalExportPlan =>
      ∀ pending ∈ exportPlan.pendingEpilogueBarriers, ExportedFrom graph tracked pending) ?_ h
    (fun pending hmem => absurd hmem List.not_mem_nil)
  intro exportPlan index exportPlan' hstep hbefore pending hmem
  rcases planExternalResourceExport_pending hstep pending hmem with hold | hnew
  · exact hbefore pending hold
  · exact hnew

end Exports

/-! ## One release a cell -/

section Single

variable {graph : GpuTaskGraph} {plan : GpuCompiledGraph}
  {tracked : List TrackedCompiledResourceState} {x : ResourceCell}

/-- A pending release over the cell. -/
def releasesCell (graph : GpuTaskGraph) (x : ResourceCell)
    (pending : PendingCompiledEpilogueBarrier) : Bool :=
  pending.barrier.type.isOwnershipRelease && barrierCovers graph x pending.barrier

variable {resource : GpuTaskGraphResourceView}

variable {exportType : GpuCompiledBarrierType}

lemma isOwnershipRelease_of_stateExport
    (h : stateExportBarrierType resource.type = some exportType) :
    exportType.isOwnershipRelease = false := by
  cases hresource : resource.type <;> rw [hresource] at h <;> cases h <;> rfl

/-- A whole resource has one terminal state. -/
lemma terminalWholeResourceStates_length (htype : resource.type ≠ .texture) :
    (terminalWholeResourceStates resource tracked).length ≤ 1 := by
  induction tracked with
  | nil => exact Nat.zero_le _
  | cons state later ih =>
    simp only [terminalWholeResourceStates]
    split
    · next hterminal =>
        simp only [Bool.and_eq_true, beq_iff_eq, Bool.not_eq_true', List.any_eq_false,
          rangesOverlap_whole htype, and_true] at hterminal
        have hnil : terminalWholeResourceStates resource later = [] := by
          refine List.eq_nil_iff_forall_not_mem.2 fun terminal hmem => ?_
          obtain ⟨-, hresource, hfind⟩ := mem_terminalWholeResourceStates htype hmem
          exact hterminal.2 _ (List.mem_reverse.1 (List.mem_of_find?_eq_some hfind)) hresource
        simp [hnil]
    · exact ih

/-- At most one terminal range of a resource covers a cell. -/
lemma terminal_countP {index : ℕ}
    {terminals : List (TrackedCompiledResourceState × GpuTaskResourceRange)}
    (h : terminalStates (graph.resourceAt index) tracked = some terminals) :
    terminals.countP (fun terminal => x.within graph terminal.1.resource terminal.2)
      ≤ if index = x.resource.index then 1 else 0 := by
  split
  · next hindex =>
      have htype : x.type graph = (graph.resourceAt index).type := by
        rw [ResourceCell.type, hindex]
      unfold terminalStates at h
      split at h
      · next htexture =>
          simp only [beq_iff_eq] at htexture
          simp only [Option.bind_eq_bind, Option.bind_eq_some_iff] at h
          obtain ⟨fragments, hfragments, hterminals⟩ := h
          rw [htexture] at htype
          have hcount := @OptionList.countP_of_mapM _ _ _
            (fun fragment : TrackedTextureStateFragment =>
              rangeCovers .texture fragment.range x.cell)
            (fun terminal : TrackedCompiledResourceState × GpuTaskResourceRange =>
              rangeCovers .texture terminal.2 x.cell)
            (fun fragment terminal hterminal => by
              obtain ⟨state, -, rfl⟩ := Option.map_eq_some_iff.1 hterminal
              rfl) _ _ hterminals
          have hcells := congrArg List.length (fragmentStatesAt_collectTerminal hfragments x.cell)
          rw [fragmentStatesAt, List.length_map, ← List.countP_eq_length_filter] at hcells
          calc terminals.countP (fun terminal => x.within graph terminal.1.resource terminal.2)
              ≤ terminals.countP (fun terminal => rangeCovers .texture terminal.2 x.cell) := by
                refine List.countP_mono_left fun terminal _ hwithin => ?_
                rw [ResourceCell.within, htype, Bool.and_eq_true] at hwithin
                exact hwithin.2
            _ ≤ 1 := by
                rw [hcount, hcells]
                cases latestCovering .texture tracked _ _ <;> simp
      · next hwhole =>
          simp only [beq_iff_eq] at hwhole
          cases h
          exact List.countP_le_length.trans (terminalWholeResourceStates_length hwhole)
  · next hindex =>
      rw [Nat.le_zero, List.countP_eq_zero]
      intro terminal hmem hwithin
      rw [ResourceCell.within, Bool.and_eq_true, beq_iff_eq, resource_of_terminal h hmem] at hwithin
      exact hindex (congrArg GraphHandle.index hwithin.1)

lemma appendTerminalState_countP (htype : stateExportBarrierType resource.type = some exportType)
    {acc acc' : ExternalExportState}
    {terminal : TrackedCompiledResourceState × GpuTaskResourceRange}
    (h : appendTerminalState plan resource exportType acc terminal = some acc') :
    acc'.pendingEpilogueBarriers.countP (releasesCell graph x)
      ≤ acc.pendingEpilogueBarriers.countP (releasesCell graph x)
        + if x.within graph terminal.1.resource terminal.2 then 1 else 0 := by
  simp only [appendTerminalState, Option.bind_eq_bind, Option.bind_eq_some_iff,
    Option.some.injEq] at h
  obtain ⟨sourced, hsourced, released, hreleased, rfl⟩ := h
  simp only [List.countP_append, List.countP_cons, recordExportSource_pending hsourced]
  have hexported := isOwnershipRelease_of_stateExport htype
  simp only [releasesCell, hexported, Bool.false_and, Bool.false_eq_true, if_false, Nat.add_zero]
  refine Nat.add_le_add_left ?_ _
  simp only [externalFinalRelease] at hreleased
  split at hreleased
  · obtain ⟨release, hrelease, rfl⟩ := Option.map_eq_some_iff.1 hreleased
    simp [releasesCell, barrierCovers, ownershipReleaseBarrierType_isOwnershipRelease hrelease]
  · cases hreleased
    exact Nat.zero_le _

/-- A resource adds a release over its own cells only, and one a cell. -/
lemma planExternalResourceExport_countP {index : ℕ} {exportPlan exportPlan' : ExternalExportPlan}
    (h : planExternalResourceExport plan tracked exportPlan (graph.resourceAt index)
      = some exportPlan') :
    exportPlan'.pendingEpilogueBarriers.countP (releasesCell graph x)
      ≤ exportPlan.pendingEpilogueBarriers.countP (releasesCell graph x)
        + if index = x.resource.index then 1 else 0 := by
  unfold planExternalResourceExport at h
  split at h
  · cases h
    exact Nat.le_add_right _ _
  simp only [Option.bind_eq_bind, Option.bind_eq_some_iff] at h
  obtain ⟨exportType, htype, terminals, hterminals, state, hstate, h⟩ := h
  have hcount : state.pendingEpilogueBarriers.countP (releasesCell graph x)
      ≤ ([] ++ terminals).countP
        (fun terminal : TrackedCompiledResourceState × GpuTaskResourceRange =>
          x.within graph terminal.1.resource terminal.2) := by
    refine OptionList.foldlM_processed
      (fun done (acc : ExternalExportState) =>
        acc.pendingEpilogueBarriers.countP (releasesCell graph x)
          ≤ done.countP (fun terminal => x.within graph terminal.1.resource terminal.2)) ?_ hstate
      (Nat.zero_le _)
    intro done acc terminal acc' hstep hdone
    rw [List.countP_append, List.countP_singleton]
    exact (appendTerminalState_countP htype hstep).trans (Nat.add_le_add_right hdone _)
  have hterminal : terminals.countP (fun terminal => x.within graph terminal.1.resource terminal.2)
      ≤ if index = x.resource.index then 1 else 0 := terminal_countP hterminals
  split at h
  · cases h
  split at h
  · cases h
  cases h
  rw [List.countP_append]
  exact Nat.add_le_add_left (hcount.trans hterminal) _

/-- At most one external release covers a cell. -/
theorem exported_countP {exports : ExternalExportPlan}
    (h : planExternalResourceExports graph plan tracked = some exports) :
    exports.pendingEpilogueBarriers.countP (releasesCell graph x) ≤ 1 := by
  have hrun : exports.pendingEpilogueBarriers.countP (releasesCell graph x)
      ≤ ([] ++ List.range graph.resourceCount).count x.resource.index := by
    refine OptionList.foldlM_processed
      (fun done (exportPlan : ExternalExportPlan) =>
        exportPlan.pendingEpilogueBarriers.countP (releasesCell graph x)
          ≤ done.count x.resource.index) ?_ h (Nat.zero_le _)
    intro done exportPlan index exportPlan' hstep hdone
    have hadded := planExternalResourceExport_countP (x := x) hstep
    rw [List.count_append, List.count_singleton]
    simp only [beq_iff_eq]
    omega
  exact hrun.trans (List.nodup_iff_count_le_one.1 List.nodup_range _)

end Single

end NwbLot.TaskGraph
