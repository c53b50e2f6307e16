import NwbLot.TaskGraph.ExportPlan

/-!
# Complete terminal exports

After all epilogues of a compiled plan, every cell of a resource with an external final state that a
task has touched is in that state: the last task to touch it exports it, nobody else does, and the
release to another queue follows.  The recorded sources are these exports.
-/

namespace NwbLot.TaskGraph

/-! ## Terminal states over a cell -/

section Terminal

variable {graph : GpuTaskGraph} {tracked : List TrackedCompiledResourceState} {x : ResourceCell}
  {index : ℕ}

variable {state : TrackedCompiledResourceState}

/-- Some exported terminal state covers a cell that has a newest state. -/
lemma exists_exported_over (hchecked : ExportChecked tracked (graph.resourceAt index))
    (hx : x.resource = (graph.resourceAt index).id)
    (hlatest : latestState graph x tracked = some state) :
    ∃ terminal ∈ exportedStates tracked (graph.resourceAt index),
      x.within graph terminal.1.resource terminal.2 = true := by
  have hresource : ∀ terminal ∈ exportedStates tracked (graph.resourceAt index),
      terminal.1.resource = x.resource := fun terminal hmem =>
    (resource_of_terminal hchecked.terminals hmem).trans hx.symm
  have hindex : x.resource.index = index := congrArg GraphHandle.index hx
  have htype : x.type graph = (graph.resourceAt index).type := by rw [ResourceCell.type, hindex]
  have hterminals := hchecked.terminals
  unfold terminalStates at hterminals
  split at hterminals
  · next htexture =>
    simp only [beq_iff_eq] at htexture
    simp only [Option.bind_eq_bind, Option.bind_eq_some_iff] at hterminals
    obtain ⟨fragments, hfragments, hmapped⟩ := hterminals
    have hat := fragmentStatesAt_collectTerminal hfragments x.cell
    rw [← hx, ← latestState_texture (htype.trans htexture), hlatest] at hat
    have hmem : some state ∈ fragmentStatesAt fragments x.cell := by
      rw [hat]
      exact List.mem_singleton.2 rfl
    obtain ⟨fragment, hfragment, hstate⟩ := List.mem_map.1 hmem
    obtain ⟨hlisted, hcovers⟩ := List.mem_filter.1 hfragment
    have hterminal : some (state, fragment.range) ∈
        (exportedStates tracked (graph.resourceAt index)).map some := by
      rw [← OptionList.mapM_eq_some_iff.1 hmapped]
      exact List.mem_map.2 ⟨fragment, hlisted, by rw [hstate]; rfl⟩
    obtain ⟨terminal, hmem', heq⟩ := List.mem_map.1 hterminal
    obtain rfl := Option.some.inj heq
    refine ⟨_, hmem', ?_⟩
    rw [hresource _ hmem', within_self, htype, htexture]
    exact hcovers
  · next hwhole =>
    simp only [beq_iff_eq] at hwhole
    obtain ⟨terminal, hmem⟩ := List.exists_mem_of_ne_nil _ hchecked.nonempty
    refine ⟨terminal, hmem, ?_⟩
    rw [hresource terminal hmem, within_whole (by rw [htype]; exact hwhole)]
    exact beq_self_eq_true _

/-- Exactly one exported terminal state covers the cell: its newest state. -/
lemma exported_over (hchecked : ExportChecked tracked (graph.resourceAt index))
    (hx : x.resource = (graph.resourceAt index).id)
    (hlatest : latestState graph x tracked = some state) :
    ∃ range, (exportedStates tracked (graph.resourceAt index)).filter
      (fun terminal => x.within graph terminal.1.resource terminal.2) = [(state, range)] := by
  obtain ⟨terminal, hmem, hwithin⟩ := exists_exported_over hchecked hx hlatest
  have hone := terminal_countP (x := x) hchecked.terminals
  have hindex : index = x.resource.index := (congrArg GraphHandle.index hx).symm
  rw [if_pos hindex, List.countP_eq_length_filter] at hone
  have hlisted : terminal ∈ (exportedStates tracked (graph.resourceAt index)).filter fun terminal =>
      x.within graph terminal.1.resource terminal.2 := List.mem_filter.2 ⟨hmem, hwithin⟩
  obtain ⟨only, honly⟩ := List.length_eq_one_iff.1
    (Nat.le_antisymm hone (List.length_pos_of_mem hlisted))
  rw [honly, List.mem_singleton] at hlisted
  have hstate := latestState_of_terminal hchecked.terminals hmem hwithin
  rw [hlatest] at hstate
  refine ⟨terminal.2, ?_⟩
  rw [honly, ← hlisted, Option.some.inj hstate]

end Terminal

/-! ## The epilogue of the last user -/

section Epilogue

variable {graph : GpuTaskGraph} {tracked : List TrackedCompiledResourceState} {x : ResourceCell}
  {index : ℕ} {exports : ExternalExportPlan}

variable {resource : GpuTaskGraphResourceView}
  {terminal : TrackedCompiledResourceState × GpuTaskResourceRange}

variable {pending : PendingCompiledEpilogueBarrier}

/-- The barriers of a terminal state name its task, its resource and its range. -/
lemma of_mem_terminalBarriers (h : pending ∈ terminalBarriers resource terminal) :
    pending.task = terminal.1.task ∧ pending.barrier.resource = terminal.1.resource ∧
      pending.barrier.range = terminal.2 ∧ pending.barrier.sourceQueue = terminal.1.queue := by
  rcases List.mem_cons.1 h with rfl | hrelease
  · exact ⟨rfl, rfl, rfl, rfl⟩
  · cases hreleased : externalFinalRelease resource terminal.1 terminal.2 with
    | none =>
      rw [hreleased] at hrelease
      exact absurd hrelease List.not_mem_nil
    | some released =>
      rw [hreleased] at hrelease
      have hbarrier := externalFinalRelease_barrier hreleased pending hrelease
      exact ⟨hbarrier.task_eq, hbarrier.resource_eq, hbarrier.range_eq, hbarrier.source_eq⟩

/-- Every barrier of a terminal state leads to the external final state. -/
lemma after_of_mem_terminalBarriers (hmem : pending ∈ terminalBarriers resource terminal) :
    pending.barrier.after = resource.externalFinalState := by
  rcases List.mem_cons.1 hmem with rfl | hrelease
  · rfl
  · rw [externalFinalRelease] at hrelease
    split at hrelease
    · cases htype : ownershipReleaseBarrierType resource.type with
      | none =>
        rw [htype] at hrelease
        exact absurd hrelease List.not_mem_nil
      | some releaseType =>
        rw [htype] at hrelease
        obtain rfl := List.mem_singleton.1 hrelease
        rfl
    · exact absurd hrelease List.not_mem_nil

lemma resource_of_mem_exportedStates (h : terminal ∈ exportedStates tracked resource) :
    terminal.1.resource = resource.id := by
  unfold exportedStates at h
  split at h
  · exact absurd h List.not_mem_nil
  · cases hterminals : terminalStates resource tracked with
    | none =>
      rw [hterminals] at h
      exact absurd h List.not_mem_nil
    | some terminals =>
      rw [hterminals] at h
      exact resource_of_terminal hterminals h

/-- The pending barriers of one resource. -/
lemma exports_filter_resource
    (h : ExportsOf graph tracked (List.range graph.resourceCount) exports)
    (hindex : index < graph.resourceCount) :
    exports.pendingEpilogueBarriers.filter
        (fun pending => pending.barrier.resource == (graph.resourceAt index).id)
      = resourceBarriers tracked (graph.resourceAt index) := by
  have htag : ∀ i, ∀ pending ∈ resourceBarriers tracked (graph.resourceAt i),
      pending.barrier.resource = (graph.resourceAt i).id := by
    intro i pending hmem
    obtain ⟨terminal, hterminal, hpending⟩ := List.mem_flatMap.1 hmem
    rw [(of_mem_terminalBarriers hpending).2.1]
    exact resource_of_mem_exportedStates hterminal
  have hnodup : ((List.range graph.resourceCount).map fun i => (graph.resourceAt i).id).Nodup :=
    List.Nodup.map (fun i j hij => congrArg GraphHandle.index hij) List.nodup_range
  rw [h.pending]
  exact OptionList.filter_flatMap_of_key_nodup htag hnodup (List.mem_range.2 hindex)

/-- Over a cell, export planning leaves the barriers of the newest state. -/
lemma exports_filter_cell
    (h : ExportsOf graph tracked (List.range graph.resourceCount) exports)
    (hindex : index < graph.resourceCount)
    (hfinal : (graph.resourceAt index).externalFinalState ≠ ResourceStates.unknown)
    (hx : x.resource = (graph.resourceAt index).id) {state : TrackedCompiledResourceState}
    (hlatest : latestState graph x tracked = some state) :
    ∃ range, exports.pendingEpilogueBarriers.filter
        (fun pending => barrierCovers graph x pending.barrier)
      = terminalBarriers (graph.resourceAt index) (state, range) := by
  have hchecked := h.checked index (List.mem_range.2 hindex) hfinal
  obtain ⟨range, hrange⟩ := exported_over hchecked hx hlatest
  refine ⟨range, ?_⟩
  have hcovers : ∀ pending : PendingCompiledEpilogueBarrier,
      barrierCovers graph x pending.barrier = (barrierCovers graph x pending.barrier &&
        pending.barrier.resource == (graph.resourceAt index).id) := by
    intro pending
    rw [barrierCovers, ResourceCell.within, hx, Bool.and_right_comm, Bool.and_self]
  rw [List.filter_congr fun pending _ => hcovers pending, ← List.filter_filter,
    exports_filter_resource h hindex, resourceBarriers, List.filter_flatMap]
  have hterminal : ∀ terminal,
      (terminalBarriers (graph.resourceAt index) terminal).filter
        (fun pending => barrierCovers graph x pending.barrier)
      = if x.within graph terminal.1.resource terminal.2 then
          terminalBarriers (graph.resourceAt index) terminal else [] := by
    intro terminal
    refine filter_all fun pending hmem => ?_
    obtain ⟨-, hresource, hpending, -⟩ := of_mem_terminalBarriers hmem
    rw [barrierCovers, hresource, hpending]
  calc _ = (exportedStates tracked (graph.resourceAt index)).flatMap fun terminal =>
        if x.within graph terminal.1.resource terminal.2 then
          terminalBarriers (graph.resourceAt index) terminal else [] := by
        simp only [hterminal]
    _ = ((exportedStates tracked (graph.resourceAt index)).filter fun terminal =>
          x.within graph terminal.1.resource terminal.2).flatMap
            (terminalBarriers (graph.resourceAt index)) := by
        induction exportedStates tracked (graph.resourceAt index) with
        | nil => rfl
        | cons terminal rest ih =>
          rw [List.flatMap_cons, ih, List.filter_cons]
          split <;> rfl
    _ = _ := by rw [hrange, List.flatMap_singleton]

end Epilogue

/-! ## What a planned graph exports -/

section Planned

variable {graph : GpuTaskGraph} {topology : GpuTaskGraphQueueTopology} {plan : GpuCompiledGraph}
  {assignments : GpuTaskGraphQueueAssignments} {entries : List StatePlanEntries}
  {exports : ExternalExportPlan} {x : ResourceCell} {index : ℕ}

/-- The task declares a use over the cell. -/
def Touches (graph : GpuTaskGraph) (x : ResourceCell) (t : GpuCompiledTask) : Prop :=
  ∃ use ∈ declaredUses graph t, ∃ range,
    plannedRange graph use = some range ∧ x.within graph use.resource range = true

/-- A state export of the resource. -/
def isExportOf (resource : GpuGraphResourceId) (barrier : GpuCompiledBarrier) : Bool :=
  barrier.type.isStateExport && barrier.resource == resource

namespace PlannedGraph

variable (h : PlannedGraph graph topology assignments plan entries exports)
include h

lemma exportsOf : ExportsOf graph (trackedBefore graph plan plan.tasks.length)
    (List.range graph.resourceCount) exports :=
  exportsOf_planExternalResourceExports h.exported

variable {k : ℕ} {t : GpuCompiledTask}

/-- A resource with an external final state is no hazard domain, so all its uses are planned. -/
lemma touches_iff (hindex : index < graph.resourceCount)
    (hfinal : (graph.resourceAt index).externalFinalState ≠ ResourceStates.unknown)
    (hx : x.resource = (graph.resourceAt index).id) (ht : plan.tasks[k]? = some t) :
    Touches graph x t ↔ usesCell graph x t = true := by
  have htyped := (h.exportsOf.checked index (List.mem_range.2 hindex) hfinal).typed
  have hdomain : (graph.resourceAt index).type ≠ .hazardDomain := by
    intro htype
    rw [htype] at htyped
    cases htyped
  rw [usesCell, List.any_eq_true]
  refine exists_congr fun use => and_congr_right fun hmem => ?_
  rw [useCovers, Bool.and_eq_true, Option.any_eq_true]
  constructor
  · rintro ⟨range, hrange, hwithin⟩
    refine ⟨?_, range, hrange, hwithin⟩
    have hresource : use.resource = x.resource := by
      rw [ResourceCell.within, Bool.and_eq_true, beq_iff_eq] at hwithin
      exact hwithin.1
    have htype : (graph.resourceAt use.resource.index).type ≠ .hazardDomain := by
      rw [hresource, hx]
      exact hdomain
    rw [isStatePlanned, Bool.and_eq_true, bne_iff_ne, bne_iff_ne]
    exact ⟨htype, (h.accepted ht use hmem).2⟩
  · rintro ⟨-, range, hrange, hwithin⟩
    exact ⟨range, hrange, hwithin⟩

variable {i : ℕ} {u : GpuCompiledTask} {use : GpuTaskResourceUse}

/-- Nothing that a later task asks for stands over a cell in the epilogue of its last user. -/
lemma internal_of_last (hlast : PreviousUser graph plan x plan.tasks.length i u use) :
    (StatePlanEntries.concat entries).pendingEpilogueBarriers.filter (fun pending =>
      barrierCovers graph x pending.barrier && pending.task == u.task) = [] := by
  rw [List.filter_eq_nil_iff]
  intro pending hmem hpending
  simp only [Bool.and_eq_true, beq_iff_eq] at hpending
  obtain ⟨j, e, he, hmem'⟩ := StatePlanEntries.exists_of_mem_concat_pending hmem
  have hj : j < plan.tasks.length := h.trace.entries_length ▸ (List.getElem?_eq_some_iff.1 he).1
  have hat := List.getElem?_eq_getElem hj
  obtain ⟨huses, i', u', use', hprevious, -, htask⟩ :=
    h.release_of_pending hat he (List.mem_filter.2 ⟨hmem', hpending.1⟩)
  obtain rfl := h.layout.position_unique hlast.task_at hprevious.task_at
    (hpending.2.symm.trans htask)
  rw [hlast.unused j hprevious.lt hj _ hat] at huses
  cases huses

/-- Over a cell, the epilogue of the last user holds the barriers of its last use. -/
lemma epilogue_of_last (hindex : index < graph.resourceCount)
    (hfinal : (graph.resourceAt index).externalFinalState ≠ ResourceStates.unknown)
    (hx : x.resource = (graph.resourceAt index).id)
    (hlast : PreviousUser graph plan x plan.tasks.length i u use) :
    ∃ range planned, (plan.epilogueBarriersOf u).filter (barrierCovers graph x)
      = (terminalBarriers (graph.resourceAt index) (trackedState u use planned, range)).map
        (·.barrier) := by
  have hhistory : HistoryAt graph plan x plan.tasks.length _ :=
    historyAt_latestState (Nat.le_refl _)
  cases hlatest : latestState graph x (trackedBefore graph plan plan.tasks.length) with
  | none =>
    rw [hlatest] at hhistory
    have hunused := hhistory i hlast.lt u hlast.task_at
    rw [usesCell_of_lastUse hlast.last] at hunused
    cases hunused
  | some state =>
    rw [hlatest] at hhistory
    obtain ⟨i', u', use', planned, hlast', rfl⟩ := hhistory
    obtain ⟨rfl, rfl, rfl⟩ := hlast.unique hlast'
    obtain ⟨range, hrange⟩ := exports_filter_cell h.exportsOf hindex hfinal hx hlatest
    refine ⟨range, planned, ?_⟩
    obtain ⟨e, -, trace⟩ := h.trace.at_task i u hlast.task_at
    have hown : exports.pendingEpilogueBarriers.filter (fun pending =>
        barrierCovers graph x pending.barrier && pending.task == u.task)
        = terminalBarriers (graph.resourceAt index) (trackedState u use planned, range) := by
      rw [← List.filter_filter, List.filter_comm, hrange, List.filter_eq_self]
      intro pending hmem
      rw [(of_mem_terminalBarriers hmem).1]
      exact beq_self_eq_true _
    rw [trace.epilogue, pendingOf, List.filter_map, List.filter_filter, List.filter_append]
    exact congrArg (List.map _) (congrArg₂ (· ++ ·) (h.internal_of_last hlast) hown)

/-- Nothing stands over a cell in the epilogue of a task that does not use it. -/
lemma epilogue_of_unused (ht : plan.tasks[k]? = some t) (hunused : usesCell graph x t = false) :
    (plan.epilogueBarriersOf t).filter (barrierCovers graph x) = [] := by
  rw [List.filter_eq_nil_iff]
  intro barrier hmem hcovers
  obtain ⟨e, -, trace⟩ := h.trace.at_task k t ht
  rw [trace.epilogue, pendingOf, List.mem_map] at hmem
  obtain ⟨pending, hpending, rfl⟩ := hmem
  obtain ⟨hlisted, htask⟩ := List.mem_filter.1 hpending
  rw [beq_iff_eq] at htask
  have huser : ∃ k' i u use, PreviousUser graph plan x k' i u use ∧ u.task = t.task := by
    rcases List.mem_append.1 hlisted with hinternal | hexported
    · obtain ⟨j, e', he', hmem'⟩ := StatePlanEntries.exists_of_mem_concat_pending hinternal
      have hj : j < plan.tasks.length :=
        h.trace.entries_length ▸ (List.getElem?_eq_some_iff.1 he').1
      obtain ⟨-, i, u, use, hprevious, -, hidentity⟩ := h.release_of_pending
        (List.getElem?_eq_getElem hj) he' (List.mem_filter.2 ⟨hmem', hcovers⟩)
      exact ⟨j, i, u, use, hprevious, hidentity.symm.trans htask⟩
    · obtain ⟨i, u, use, hlast, hidentity, -⟩ := h.last_user_of_exported hexported hcovers
      exact ⟨_, i, u, use, hlast, hidentity.trans htask⟩
  obtain ⟨k', i, u, use, hprevious, hidentity⟩ := huser
  obtain rfl := h.layout.position_unique ht hprevious.task_at hidentity.symm
  obtain rfl := Option.some.inj (ht.symm.trans hprevious.task_at)
  rw [usesCell_of_lastUse hprevious.last] at hunused
  cases hunused

end PlannedGraph

/-! ### The state after all epilogues -/

/-- A barrier of an epilogue leaves the cells it covers in the state behind it. -/
def replayEpilogueBarrier (graph : GpuTaskGraph) (x : ResourceCell) (current : ResourceStates)
    (barrier : GpuCompiledBarrier) : ResourceStates :=
  if barrierCovers graph x barrier then barrier.after else current

/-- What a task with its epilogue does to a cell. -/
def epilogueEffect (graph : GpuTaskGraph) (plan : GpuCompiledGraph) (x : ResourceCell)
    (t : GpuCompiledTask) (current : ResourceStates) : ResourceStates :=
  (plan.epilogueBarriersOf t).foldl (replayEpilogueBarrier graph x)
    (taskEffect graph plan x t current)

/-- The state of a cell after all tasks and epilogues. -/
def stateAfterEpilogues (graph : GpuTaskGraph) (plan : GpuCompiledGraph) (x : ResourceCell) :
    ResourceStates :=
  replayedState graph plan (epilogueEffect graph plan) x plan.tasks.length

lemma foldl_replayEpilogueBarrier_filter (barriers : List GpuCompiledBarrier)
    (current : ResourceStates) :
    barriers.foldl (replayEpilogueBarrier graph x) current
      = (barriers.filter (barrierCovers graph x)).foldl (replayEpilogueBarrier graph x)
          current := by
  induction barriers generalizing current with
  | nil => rfl
  | cons barrier rest ih =>
    rw [List.filter_cons]
    split
    · rw [List.foldl_cons, List.foldl_cons, ih]
    · next hcovers => rw [List.foldl_cons, replayEpilogueBarrier, if_neg hcovers, ih]

/-- Barriers over the cell that all lead to one state. -/
lemma foldl_replayEpilogueBarrier_all {final current : ResourceStates}
    {barriers : List GpuCompiledBarrier} (hne : barriers ≠ [])
    (h : ∀ barrier ∈ barriers, barrierCovers graph x barrier = true ∧ barrier.after = final) :
    barriers.foldl (replayEpilogueBarrier graph x) current = final := by
  have hlast : ∀ (rest : List GpuCompiledBarrier),
      (∀ barrier ∈ rest, barrierCovers graph x barrier = true ∧ barrier.after = final) →
      rest.foldl (replayEpilogueBarrier graph x) final = final := by
    intro rest
    induction rest with
    | nil => exact fun _ => rfl
    | cons barrier rest ih =>
      intro hrest
      obtain ⟨hcovers, hafter⟩ := hrest barrier List.mem_cons_self
      rw [List.foldl_cons, replayEpilogueBarrier, if_pos hcovers, hafter]
      exact ih fun other hmem => hrest other (List.mem_cons_of_mem _ hmem)
  obtain ⟨first, rest, rfl⟩ := List.exists_cons_of_ne_nil hne
  obtain ⟨hcovers, hafter⟩ := h first List.mem_cons_self
  rw [List.foldl_cons, replayEpilogueBarrier, if_pos hcovers, hafter]
  exact hlast rest fun other hmem => h other (List.mem_cons_of_mem _ hmem)

namespace PlannedGraph

variable (h : PlannedGraph graph topology assignments plan entries exports)
include h

/-- A task does nothing to a cell that it does not use. -/
lemma epilogueEffect_of_unused {k : ℕ} {t : GpuCompiledTask} (ht : plan.tasks[k]? = some t)
    (hunused : usesCell graph x t = false) (current : ResourceStates) :
    epilogueEffect graph plan x t current = current := by
  obtain ⟨e, he, trace⟩ := h.trace.at_task k t ht
  have hbarriers : (plan.prologueBarriersOf t).filter (barrierCovers graph x) = [] := by
    rw [trace.barriers]
    exact congrArg StatePlanEntries.prologueBarriers (h.restrict_of_unused ht hunused he)
  rw [epilogueEffect, taskEffect, lastUse_eq_none hunused, foldl_replayEpilogueBarrier_filter,
    h.epilogue_of_unused ht hunused]
  show replayPrologue graph plan x t current = current
  rw [replayPrologue, foldl_replayBarrier_filter, hbarriers]
  rfl

/-- After all epilogues the cell is in the external final state. -/
lemma stateAfterEpilogues_eq (hindex : index < graph.resourceCount)
    (hfinal : (graph.resourceAt index).externalFinalState ≠ ResourceStates.unknown)
    (hx : x.resource = (graph.resourceAt index).id) {i : ℕ} {u : GpuCompiledTask}
    {use : GpuTaskResourceUse} (hlast : PreviousUser graph plan x plan.tasks.length i u use) :
    stateAfterEpilogues graph plan x = (graph.resourceAt index).externalFinalState := by
  suffices hrun : ∀ k, i < k → k ≤ plan.tasks.length →
      replayedState graph plan (epilogueEffect graph plan) x k
        = (graph.resourceAt index).externalFinalState from
    hrun _ hlast.lt (Nat.le_refl _)
  intro k hik
  have hstep : ∀ {k : ℕ} {t : GpuCompiledTask}, plan.tasks[k]? = some t →
      replayedState graph plan (epilogueEffect graph plan) x (k + 1)
        = epilogueEffect graph plan x t
          (replayedState graph plan (epilogueEffect graph plan) x k) := by
    intro k t ht
    obtain ⟨hk, rfl⟩ := List.getElem?_eq_some_iff.1 ht
    rw [replayedState, List.take_succ_eq_append_getElem hk, List.foldl_append]
    rfl
  induction k, hik using Nat.le_induction with
  | base =>
    intro _
    obtain ⟨range, planned, hepilogue⟩ := h.epilogue_of_last hindex hfinal hx hlast
    rw [hstep hlast.task_at, epilogueEffect, foldl_replayEpilogueBarrier_filter]
    refine foldl_replayEpilogueBarrier_all ?_ fun barrier hmem => ⟨(List.mem_filter.1 hmem).2, ?_⟩
    · rw [hepilogue]
      exact List.cons_ne_nil _ _
    · rw [hepilogue] at hmem
      obtain ⟨pending, hpending, rfl⟩ := List.mem_map.1 hmem
      exact after_of_mem_terminalBarriers hpending
  | succ k hik ih =>
    intro hk
    have ht := List.getElem?_eq_getElem (Nat.lt_of_succ_le hk)
    rw [hstep ht, h.epilogueEffect_of_unused ht (hlast.unused k hik hk _ ht),
      ih (Nat.le_of_succ_le hk)]

end PlannedGraph

/-! ### Records -/

namespace PlannedGraph

variable (h : PlannedGraph graph topology assignments plan entries exports)
include h

/-- A recorded resource has one record, over its own sources. -/
lemma exists_record (hindex : index < graph.resourceCount)
    (hfinal : (graph.resourceAt index).externalFinalState ≠ ResourceStates.unknown)
    (hvalid : (graph.resourceAt index).externalFinalReleaseDestinationQueue.valid = true) :
    ∃ record, exports.exports.filter (·.resource == (graph.resourceAt index).id) = [record] ∧
      ExportRecord (trackedBefore graph plan plan.tasks.length) (graph.resourceAt index)
        exports.sources record := by
  have hinjective : Function.Injective fun i => (graph.resourceAt i).id :=
    fun i j hij => congrArg GraphHandle.index hij
  have hnodup : (exports.exports.map (·.resource)).Nodup := by
    rw [h.exportsOf.recorded]
    exact (List.nodup_range.filter _).map hinjective
  have hmem : (graph.resourceAt index).id ∈ exports.exports.map (·.resource) := by
    rw [h.exportsOf.recorded]
    refine List.mem_map.2 ⟨index, List.mem_filter.2 ⟨List.mem_range.2 hindex, ?_⟩, rfl⟩
    rw [isRecorded, Bool.and_eq_true, bne_iff_ne]
    exact ⟨hfinal, hvalid⟩
  obtain ⟨record, hrecord, hresource⟩ := List.mem_map.1 hmem
  obtain ⟨other, hother, hof⟩ := h.exportsOf.records record hrecord
  obtain rfl : other = index := hinjective (hof.resource_eq.symm.trans hresource)
  refine ⟨record, ?_, hof⟩
  have hfilter := @OptionList.filter_flatMap_of_key_nodup _ _ _ _
    GpuCompiledExternalResourceExport.resource GpuCompiledExternalResourceExport.resource
    (fun record => [record]) (fun _ _ hother => by rw [List.mem_singleton.1 hother]) _ hnodup _
    hrecord
  rw [List.flatMap_singleton', hresource] at hfilter
  exact hfilter

variable {terminal : TrackedCompiledResourceState × GpuTaskResourceRange}

omit h in
/-- Of the barriers of a terminal state, the first one is an export, the other no longer. -/
lemma terminalBarriers_filter {resource : GpuTaskGraphResourceView}
    (hresource : terminal.1.resource = resource.id) :
    (terminalBarriers resource terminal).filter
        (fun pending => isExportOf resource.id pending.barrier)
      = [terminalExport resource terminal] := by
  have hexport : isExportOf resource.id (terminalExport resource terminal).barrier = true := by
    rw [isExportOf, Bool.and_eq_true]
    refine ⟨?_, beq_iff_eq.2 hresource⟩
    rw [terminalExport]
    cases resource.type <;> rfl
  have hnone : ((externalFinalRelease resource terminal.1 terminal.2).getD []).filter
      (fun pending => isExportOf resource.id pending.barrier) = [] := by
    rw [List.filter_eq_nil_iff, externalFinalRelease]
    intro pending hmem hof
    split at hmem
    · cases hrelease : ownershipReleaseBarrierType resource.type with
      | none =>
        rw [hrelease] at hmem
        exact absurd hmem List.not_mem_nil
      | some releaseType =>
        rw [hrelease] at hmem
        obtain rfl := List.mem_singleton.1 hmem
        have hkind := isStateExport_of_release
          (ownershipReleaseBarrierType_isOwnershipRelease hrelease)
        rw [isExportOf, Bool.and_eq_true] at hof
        rw [hkind] at hof
        exact Bool.noConfusion hof.1
    · exact absurd hmem List.not_mem_nil
  rw [terminalBarriers, List.filter_cons, if_pos hexport, hnone]

/-- The pending exports of a resource are the exports of its terminal states. -/
lemma exports_filter_export (hindex : index < graph.resourceCount)
    (hfinal : (graph.resourceAt index).externalFinalState ≠ ResourceStates.unknown) :
    exports.pendingEpilogueBarriers.filter
        (fun pending => isExportOf (graph.resourceAt index).id pending.barrier)
      = (exportedStates (trackedBefore graph plan plan.tasks.length)
          (graph.resourceAt index)).map (terminalExport (graph.resourceAt index)) := by
  have hchecked := h.exportsOf.checked index (List.mem_range.2 hindex) hfinal
  have hexport : ∀ pending : PendingCompiledEpilogueBarrier,
      isExportOf (graph.resourceAt index).id pending.barrier
        = (isExportOf (graph.resourceAt index).id pending.barrier &&
          pending.barrier.resource == (graph.resourceAt index).id) := by
    intro pending
    rw [isExportOf, Bool.and_assoc, Bool.and_self]
  rw [List.filter_congr fun pending _ => hexport pending, ← List.filter_filter,
    exports_filter_resource h.exportsOf hindex, resourceBarriers, List.filter_flatMap]
  have hstates : ∀ terminal ∈ exportedStates (trackedBefore graph plan plan.tasks.length)
      (graph.resourceAt index), terminal.1.resource = (graph.resourceAt index).id :=
    fun _ hmem => resource_of_mem_exportedStates hmem
  generalize exportedStates (trackedBefore graph plan plan.tasks.length)
    (graph.resourceAt index) = states at hstates ⊢
  induction states with
  | nil => rfl
  | cons terminal rest ih =>
    rw [List.flatMap_cons, List.map_cons, ih fun other hmem =>
      hstates other (List.mem_cons_of_mem _ hmem), terminalBarriers_filter
        (hstates terminal List.mem_cons_self)]
    rfl

/-- The exports of a resource in an epilogue are those of its terminal states in that task. -/
lemma epilogue_exports (hindex : index < graph.resourceCount)
    (hfinal : (graph.resourceAt index).externalFinalState ≠ ResourceStates.unknown)
    {k : ℕ} {t : GpuCompiledTask} (ht : plan.tasks[k]? = some t) :
    (plan.epilogueBarriersOf t).filter (isExportOf (graph.resourceAt index).id)
      = (((exportedStates (trackedBefore graph plan plan.tasks.length)
          (graph.resourceAt index)).filter (·.1.task == t.task)).map
            fun terminal => (terminalExport (graph.resourceAt index) terminal).barrier) := by
  obtain ⟨e, -, trace⟩ := h.trace.at_task k t ht
  have hinternal : (StatePlanEntries.concat entries).pendingEpilogueBarriers.filter (fun pending =>
      isExportOf (graph.resourceAt index).id pending.barrier && pending.task == t.task) = [] := by
    rw [List.filter_eq_nil_iff]
    intro pending hmem hpending
    obtain ⟨j, e', he', hlisted⟩ := StatePlanEntries.exists_of_mem_concat_pending hmem
    have hj : j < plan.tasks.length := h.trace.entries_length ▸ (List.getElem?_eq_some_iff.1 he').1
    obtain ⟨i, u, -, hbetween, -⟩ :=
      (h.pairedEntries (List.getElem?_eq_getElem hj) he').transfers pending hlisted
    have hkind := isStateExport_of_release hbetween.isRelease
    simp [isExportOf, hkind] at hpending
  have hown : exports.pendingEpilogueBarriers.filter (fun pending =>
      isExportOf (graph.resourceAt index).id pending.barrier && pending.task == t.task)
      = ((exportedStates (trackedBefore graph plan plan.tasks.length)
          (graph.resourceAt index)).filter (·.1.task == t.task)).map
            (terminalExport (graph.resourceAt index)) := by
    rw [← List.filter_filter, List.filter_comm, h.exports_filter_export hindex hfinal,
      List.filter_map]
    rfl
  rw [trace.epilogue, pendingOf, List.filter_map, List.filter_filter, List.filter_append]
  refine (congrArg (List.map _) (congrArg₂ (· ++ ·) hinternal hown)).trans ?_
  rw [List.nil_append, List.map_map]
  rfl

omit h in
/-- An exported state is one that a task of the plan has left. -/
lemma task_of_exported
    (hmem : terminal ∈ exportedStates (trackedBefore graph plan plan.tasks.length)
      (graph.resourceAt index)) :
    ∃ (i : ℕ) (t : GpuCompiledTask), plan.tasks[i]? = some t ∧ terminal.1.task = t.task ∧
      terminal.1.queue = t.queue := by
  obtain ⟨i, t, -, ht, htask, hqueue⟩ := task_of_mem_trackedBefore (mem_of_exported hmem)
  exact ⟨i, t, ht, htask, hqueue⟩

end PlannedGraph

end Planned

/-! ## Completeness -/

/-- Over the cell, the epilogue of the task holds the export from the state of its last use, and
behind it the release of a resource that leaves for another queue. -/
def ExportedBy (graph : GpuTaskGraph) (plan : GpuCompiledGraph)
    (resource : GpuTaskGraphResourceView) (x : ResourceCell) (u : GpuCompiledTask) : Prop :=
  ∃ use range exportType releaseType, lastUse graph x (declaredUses graph u) = some use ∧
    stateExportBarrierType resource.type = some exportType ∧
    ownershipReleaseBarrierType resource.type = some releaseType ∧
    (plan.epilogueBarriersOf u).filter (barrierCovers graph x)
      = { resource := resource.id, range, before := use.requiredState
          after := resource.externalFinalState, sourceQueue := u.queue, destinationQueue := u.queue
          type := exportType } ::
        if resource.externalFinalReleaseDestinationQueue.valid
            && u.queue != resource.externalFinalReleaseDestinationQueue then
          [{ resource := resource.id, range, before := resource.externalFinalState
             after := resource.externalFinalState, sourceQueue := u.queue
             destinationQueue := resource.externalFinalReleaseDestinationQueue
             type := releaseType }]
        else []

/-- The sources of a record. -/
def GpuCompiledGraph.exportSourcesOf (plan : GpuCompiledGraph)
    (record : GpuCompiledExternalResourceExport) : List GpuCompiledExternalResourceExportSource :=
  Spans.part plan.externalResourceExportSources record.sourceOffset record.sourceCount

/-- A resource leaves the graph completely. -/
structure ExportedCompletely (graph : GpuTaskGraph) (plan : GpuCompiledGraph)
    (resource : GpuTaskGraphResourceView) : Prop where
  /-- After all epilogues a touched cell is in the external final state. -/
  states : ∀ x : ResourceCell, x.resource = resource.id → (∃ t ∈ plan.tasks, Touches graph x t) →
    stateAfterEpilogues graph plan x = resource.externalFinalState
  /-- It was exported by the task that touched it last, and by no other. -/
  exports : ∀ x : ResourceCell, x.resource = resource.id → (∃ t ∈ plan.tasks, Touches graph x t) →
    ∃ (i : ℕ) (u : GpuCompiledTask), plan.tasks[i]? = some u ∧ Touches graph x u ∧
      ExportedBy graph plan resource x u ∧
      ∀ (j : ℕ) (t : GpuCompiledTask), plan.tasks[j]? = some t →
        (i < j → ¬Touches graph x t) ∧
        (j ≠ i → ∀ barrier ∈ plan.epilogueBarriersOf t, barrier.type.isStateExport = true →
          barrierCovers graph x barrier = false)
  /-- A resource that leaves for a queue has one record, whose sources are its exports, task by
  task, with the queues of the tasks. -/
  recorded : resource.externalFinalReleaseDestinationQueue.valid = true →
    ∃ record, plan.externalResourceExports.filter (·.resource == resource.id) = [record] ∧
      record.destinationQueue = resource.externalFinalReleaseDestinationQueue ∧
      record.finalState = resource.externalFinalState ∧
      (∀ t ∈ plan.tasks, (plan.exportSourcesOf record).filter (·.producerTask == t.task)
        = ((plan.epilogueBarriersOf t).filter (isExportOf resource.id)).map fun barrier =>
          ({ producerTask := t.task, sourceQueue := barrier.sourceQueue, range := barrier.range } :
            GpuCompiledExternalResourceExportSource)) ∧
      ∀ source ∈ plan.exportSourcesOf record, ∃ t : GpuCompiledTask, t ∈ plan.tasks ∧
        source.producerTask = t.task ∧ source.sourceQueue = t.queue
  /-- Without subresources there is one export, so one packet exports, and the record names it. -/
  single : resource.type ≠ .texture → ∃ (i : ℕ) (u : GpuCompiledTask), plan.tasks[i]? = some u ∧
    ((plan.epilogueBarriersOf u).filter (isExportOf resource.id)).length = 1 ∧
    (∀ (j : ℕ) (t : GpuCompiledTask), plan.tasks[j]? = some t → j ≠ i →
      (plan.epilogueBarriersOf t).filter (isExportOf resource.id) = []) ∧
    ∀ record ∈ plan.externalResourceExports, record.resource = resource.id →
      record.producerTask = u.task ∧ record.sourceQueue = u.queue

section Completeness

variable {graph : GpuTaskGraph} {topology : GpuTaskGraphQueueTopology} {plan : GpuCompiledGraph}
  {assignments : GpuTaskGraphQueueAssignments} {entries : List StatePlanEntries}
  {exports : ExternalExportPlan} {x : ResourceCell} {index : ℕ}

namespace PlannedGraph

variable (h : PlannedGraph graph topology assignments plan entries exports)
include h

omit h in
/-- Some task uses the cell last. -/
lemma exists_last {k : ℕ} {t : GpuCompiledTask} (ht : plan.tasks[k]? = some t)
    (huses : usesCell graph x t = true) :
    ∃ i u use, PreviousUser graph plan x plan.tasks.length i u use := by
  have hhistory : HistoryAt graph plan x plan.tasks.length _ :=
    historyAt_latestState (Nat.le_refl _)
  cases hlatest : latestState graph x (trackedBefore graph plan plan.tasks.length) with
  | none =>
    rw [hlatest] at hhistory
    rw [hhistory k (List.getElem?_eq_some_iff.1 ht).1 t ht] at huses
    cases huses
  | some state =>
    rw [hlatest] at hhistory
    obtain ⟨i, u, use, -, hlast, -⟩ := hhistory
    exact ⟨i, u, use, hlast⟩

lemma exportedBy_last (hindex : index < graph.resourceCount)
    (hfinal : (graph.resourceAt index).externalFinalState ≠ ResourceStates.unknown)
    (hx : x.resource = (graph.resourceAt index).id) {i : ℕ} {u : GpuCompiledTask}
    {use : GpuTaskResourceUse} (hlast : PreviousUser graph plan x plan.tasks.length i u use) :
    ExportedBy graph plan (graph.resourceAt index) x u := by
  obtain ⟨range, planned, hepilogue⟩ := h.epilogue_of_last hindex hfinal hx hlast
  have htyped := (h.exportsOf.checked index (List.mem_range.2 hindex) hfinal).typed
  obtain ⟨exportType, hexport⟩ := Option.isSome_iff_exists.1 htyped
  have hrelease : ∃ releaseType,
      ownershipReleaseBarrierType (graph.resourceAt index).type = some releaseType := by
    cases htype : (graph.resourceAt index).type <;> rw [htype] at hexport <;>
      first | exact ⟨_, rfl⟩ | cases hexport
  obtain ⟨releaseType, hrelease⟩ := hrelease
  have hresource : use.resource = (graph.resourceAt index).id :=
    (resource_of_useCovers (useCovers_of_lastUse hlast.last).2).trans hx
  refine ⟨use, range, exportType, releaseType, hlast.last, hexport, hrelease, ?_⟩
  rw [hepilogue, terminalBarriers, List.map_cons, terminalExport, hexport, externalFinalRelease,
    hrelease]
  simp only [trackedState, hresource, Option.getD_some, Option.map_some]
  congr 1
  split <;> rfl

lemma exportedCompletely (hindex : index < graph.resourceCount)
    (hfinal : (graph.resourceAt index).externalFinalState ≠ ResourceStates.unknown)
    (hexports : plan.externalResourceExports = exports.exports)
    (hsources : plan.externalResourceExportSources = exports.sources) :
    ExportedCompletely graph plan (graph.resourceAt index) where
  states := by
    rintro x hx ⟨t, hmem, htouches⟩
    obtain ⟨k, ht⟩ := List.mem_iff_getElem?.1 hmem
    obtain ⟨i, u, use, hlast⟩ :=
      exists_last ht ((h.touches_iff hindex hfinal hx ht).1 htouches)
    exact h.stateAfterEpilogues_eq hindex hfinal hx hlast
  exports := by
    rintro x hx ⟨t, hmem, htouches⟩
    obtain ⟨k, ht⟩ := List.mem_iff_getElem?.1 hmem
    obtain ⟨i, u, use, hlast⟩ :=
      exists_last ht ((h.touches_iff hindex hfinal hx ht).1 htouches)
    refine ⟨i, u, hlast.task_at, ?_, h.exportedBy_last hindex hfinal hx hlast,
      fun j v hv => ⟨fun hij => ?_, fun hne barrier hbarrier hexport => ?_⟩⟩
    · exact (h.touches_iff hindex hfinal hx hlast.task_at).2 (usesCell_of_lastUse hlast.last)
    · rw [h.touches_iff hindex hfinal hx hv,
        hlast.unused j hij (List.getElem?_eq_some_iff.1 hv).1 v hv]
      exact Bool.noConfusion
    · refine Bool.eq_false_of_not_eq_true fun hcovers => ?_
      obtain ⟨use', hlast'⟩ := h.last_user_of_stateExport hv hbarrier hexport hcovers
      exact hne (hlast'.unique hlast).1
  recorded := by
    intro hvalid
    obtain ⟨record, hrecord, hof⟩ := h.exists_record hindex hfinal hvalid
    have hlisted : plan.exportSourcesOf record
        = (exportedStates (trackedBefore graph plan plan.tasks.length)
          (graph.resourceAt index)).map terminalSource := by
      rw [GpuCompiledGraph.exportSourcesOf, hsources, hof.sources_eq, resourceSources,
        if_pos hvalid]
    refine ⟨record, by rw [hexports, hrecord], hof.destination_eq, hof.finalState_eq,
      fun t hmem => ?_, fun source hmem => ?_⟩
    · obtain ⟨k, ht⟩ := List.mem_iff_getElem?.1 hmem
      rw [hlisted, h.epilogue_exports hindex hfinal ht, List.filter_map, List.map_map]
      refine List.map_congr_left fun terminal hterminal => ?_
      have htask : terminal.1.task = t.task := beq_iff_eq.1 (List.mem_filter.1 hterminal).2
      simp only [terminalSource, Function.comp_apply, terminalExport]
      rw [htask]
    · rw [hlisted] at hmem
      obtain ⟨terminal, hterminal, rfl⟩ := List.mem_map.1 hmem
      obtain ⟨i, t, ht, htask, hqueue⟩ := task_of_exported hterminal
      exact ⟨t, List.mem_of_getElem? ht, htask, hqueue⟩
  single := by
    intro htype
    have hchecked := h.exportsOf.checked index (List.mem_range.2 hindex) hfinal
    have hone : (exportedStates (trackedBefore graph plan plan.tasks.length)
        (graph.resourceAt index)).length ≤ 1 := by
      have hterminals := hchecked.terminals
      rw [terminalStates, if_neg (by simpa using htype)] at hterminals
      rw [← Option.some.inj hterminals]
      exact terminalWholeResourceStates_length htype
    obtain ⟨terminal, hsingle⟩ := List.length_eq_one_iff.1
      (Nat.le_antisymm hone (List.length_pos_iff.2 hchecked.nonempty))
    obtain ⟨i, u, hu, htask, hqueue⟩ := task_of_exported
      (hsingle ▸ List.mem_singleton_self terminal)
    refine ⟨i, u, hu, ?_, fun j t ht hne => ?_, fun record hmem hresource => ?_⟩
    · rw [h.epilogue_exports hindex hfinal hu, hsingle, List.filter_cons_of_pos (by simp [htask])]
      rfl
    · have hother : (terminal.1.task == t.task) = false := by
        rw [htask, beq_eq_false_iff_ne]
        exact fun heq => hne (h.layout.position_unique ht hu heq.symm)
      rw [h.epilogue_exports hindex hfinal ht, hsingle, List.filter_singleton, hother]
      rfl
    · obtain ⟨other, -, hof⟩ := h.exportsOf.records record (hexports ▸ hmem)
      obtain rfl : other = index :=
        congrArg GraphHandle.index (hof.resource_eq.symm.trans hresource)
      obtain ⟨hproducer, hsource⟩ := hof.single terminal hsingle
      exact ⟨hproducer.trans htask, hsource.trans hqueue⟩

end PlannedGraph

end Completeness

/-- Every resource with an external final state leaves a compiled graph completely. -/
theorem compile_exportsComplete {assignQueues : QueueAssigner}
    {options : GpuTaskGraphCompileOptions} {planGeneration : CompiledPlanGeneration}
    {graph : GpuTaskGraph} {topology : GpuTaskGraphQueueTopology} {out : GpuTaskGraphCompilation}
    (h : compile assignQueues options planGeneration graph topology = some out) {index : ℕ}
    (hindex : index < graph.resourceCount)
    (hfinal : (graph.resourceAt index).externalFinalState ≠ ResourceStates.unknown) :
    ExportedCompletely graph out.compiledGraph (graph.resourceAt index) := by
  obtain ⟨entries, exports, hplanned, hexports, hsources⟩ := plannedExports_of_compile h
  exact hplanned.exportedCompletely hindex hfinal hexports hsources

theorem compile_exportsComplete_exportedBuffer : ∃ out, exportedBufferCompilation = some out ∧
    ExportedCompletely exportedBufferGraph out.compiledGraph
      (exportedBufferGraph.resourceAt 0) := by
  obtain ⟨out, hout⟩ : ∃ out, exportedBufferCompilation = some out := ⟨_, rfl⟩
  exact ⟨out, hout, compile_exportsComplete hout (by decide) (by decide)⟩

end NwbLot.TaskGraph
