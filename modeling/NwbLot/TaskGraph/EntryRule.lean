import NwbLot.TaskGraph.CellHistory

/-!
# A rule for everything a task appends

What holds of the plan of every range, whatever earlier state it starts from, and is kept by
appending, holds of all entries of a task.  The rule also carries a property of the tracked
states, which the ranges are planned against.
-/

namespace NwbLot.TaskGraph

/-! ## Fragments have cells -/

variable {resource : GpuGraphResourceId} {fragments : List TrackedTextureStateFragment}
  {tracked : List TrackedCompiledResourceState} {ranges : List GpuTaskResourceRange}

/-- A range named by bounds has a cell. -/
lemma exists_cell_of_boundsTo {bounds : TextureRangeBounds} {range : GpuTaskResourceRange}
    (h : textureRangeBoundsTo bounds = some range) :
    ∃ c, rangeCovers .texture range c = true := by
  have hfrom := textureRangeBoundsFrom_of_to h
  refine ⟨(bounds.mipBegin, bounds.arrayBegin), ?_⟩
  rw [rangeCovers_of_boundsFrom hfrom, TextureRangeBounds.covers_iff]
  simp only [textureRangeBoundsFrom] at hfrom
  split at hfrom
  · next hnonempty =>
      have hbounds := Option.some.inj hfrom
      rw [hbounds, TextureRangeBounds.nonempty_iff] at hnonempty
      exact ⟨le_rfl, hnonempty.1, le_rfl, hnonempty.2⟩
  · cases hfrom

/-- Every latest-state fragment has a cell. -/
lemma cell_of_fragment
    (h : collectLatestTextureStateFragments tracked resource ranges = some fragments)
    {fragment : TrackedTextureStateFragment} (hmem : fragment ∈ fragments) :
    ∃ c, rangeCovers .texture fragment.range c = true := by
  obtain ⟨bounds, hbounds⟩ := (cutFrom_of_latest h fragment hmem).named
  exact exists_cell_of_boundsTo hbounds

/-! ## The rule -/

section Rule

variable {graph : GpuTaskGraph} {topology : GpuTaskGraphQueueTopology} {plan : GpuCompiledGraph}
  {task : GpuCompiledTask}

/-- `P` holds of what one range gets from a tracked state satisfying `Q` or from the initial
state, and is kept by appending; `Q` holds of the task's own tracked states. -/
structure EntryRule (graph : GpuTaskGraph) (topology : GpuTaskGraphQueueTopology)
    (plan : GpuCompiledGraph) (task : GpuCompiledTask) (P : StatePlanEntries → Prop)
    (Q : TrackedCompiledResourceState → Prop) : Prop where
  empty : P {}
  append : ∀ a b, P a → P b → P (a ++ b)
  previous : ∀ use range state entries, Q state →
    planFromPreviousState topology plan (graph.resourceAt use.resource.index) use task range state
      = some entries → P entries
  initial : ∀ use range texture owner hasInitialOwnerStateSeed,
    resolveInitialOwner (graph.resourceAt use.resource.index) texture range task.queue
      = some owner →
    P (planFromInitialState (graph.resourceAt use.resource.index) use task range owner
      hasInitialOwnerStateSeed)
  own : ∀ use range, Q (trackedState task use range)

/-- The same with first uses resolved against the texture of the resource they name, over ranges
that have cells. -/
structure ResourceEntryRule (graph : GpuTaskGraph) (topology : GpuTaskGraphQueueTopology)
    (plan : GpuCompiledGraph) (task : GpuCompiledTask) (P : StatePlanEntries → Prop)
    (Q : TrackedCompiledResourceState → Prop) : Prop where
  empty : P {}
  append : ∀ a b, P a → P b → P (a ++ b)
  previous : ∀ use range state entries, Q state →
    planFromPreviousState topology plan (graph.resourceAt use.resource.index) use task range state
      = some entries → P entries
  initial : ∀ use range owner hasInitialOwnerStateSeed,
    ((graph.resourceAt use.resource.index).type = .texture →
      ∃ c, rangeCovers .texture range c = true) →
    resolveInitialOwner (graph.resourceAt use.resource.index)
        (graph.textureForResource use.resource) range task.queue = some owner →
    P (planFromInitialState (graph.resourceAt use.resource.index) use task range owner
      hasInitialOwnerStateSeed)
  own : ∀ use range, Q (trackedState task use range)

variable {P : StatePlanEntries → Prop} {Q : TrackedCompiledResourceState → Prop}

lemma EntryRule.resourceEntryRule (rule : EntryRule graph topology plan task P Q) :
    ResourceEntryRule graph topology plan task P Q where
  empty := rule.empty
  append := rule.append
  previous := rule.previous
  initial := fun use range owner hasSeed _ h => rule.initial use range _ owner hasSeed h
  own := rule.own

namespace ResourceEntryRule

variable (rule : ResourceEntryRule graph topology plan task P Q)
include rule

lemma concat {entries : List StatePlanEntries} (h : ∀ e ∈ entries, P e) :
    P (StatePlanEntries.concat entries) := by
  induction entries with
  | nil => exact rule.empty
  | cons e rest ih =>
    exact rule.append _ _ (h e List.mem_cons_self)
      (ih fun e' hmem => h e' (List.mem_cons_of_mem _ hmem))

variable {entries : StatePlanEntries} {previousUses : List GpuTaskResourceUse}
  {tracked new : List TrackedCompiledResourceState}

variable {use : GpuTaskResourceUse}

lemma textureUse
    (h : planTextureUse graph topology plan task previousUses tracked use = some (new, entries))
    (htracked : ∀ state ∈ tracked, Q state) : P entries ∧ ∀ state ∈ new, Q state := by
  simp only [planTextureUse, Option.bind_eq_bind, Option.bind_eq_some_iff, Option.some.injEq,
    Prod.mk.injEq] at h
  obtain ⟨range, -, firstUse, -, fragments, hfragments, pieces, hpieces, rfl, rfl⟩ := h
  refine ⟨rule.concat fun e hmem => ?_, fun state hmem => ?_⟩
  · obtain ⟨fragment, hfragment, hplanned⟩ := OptionList.exists_of_mem_mapM hpieces hmem
    simp only [planTextureFragment] at hplanned
    cases hstate : fragment.state with
    | some state =>
      rw [hstate] at hplanned
      exact rule.previous use _ state e
        (htracked state ((cutFrom_of_latest hfragments _ hfragment).state_tracked hstate).1) hplanned
    | none =>
      simp only [hstate, Option.bind_eq_bind, Option.bind_eq_some_iff, Option.some.injEq]
        at hplanned
      obtain ⟨owner, howner, rfl⟩ := hplanned
      exact rule.initial use _ owner _ (fun _ => cell_of_fragment hfragments hfragment)
        howner
  · rw [List.mem_singleton.1 hmem]
    exact rule.own use range

lemma wholeResourceUse (htype : (graph.resourceAt use.resource.index).type ≠ .texture)
    (h : planWholeResourceUse graph topology plan task previousUses tracked use
      = some (new, entries)) (htracked : ∀ state ∈ tracked, Q state) :
    P entries ∧ ∀ state ∈ new, Q state := by
  have hown : ∀ state ∈ [trackedState task use use.range], Q state := fun state hmem => by
    rw [List.mem_singleton.1 hmem]
    exact rule.own use use.range
  have hnone : graph.textureForResource use.resource = none := by
    simp [GpuTaskGraph.textureForResource, htype]
  simp only [planWholeResourceUse] at h
  split at h
  · simp only [Option.some.injEq, Prod.mk.injEq] at h
    obtain ⟨rfl, rfl⟩ := h
    exact ⟨rule.empty, hown⟩
  · split at h
    · next state hfind =>
        simp only [Option.bind_eq_bind, Option.bind_eq_some_iff, Option.some.injEq,
          Prod.mk.injEq] at h
        obtain ⟨planned, hplanned, rfl, rfl⟩ := h
        have hmem := List.mem_reverse.1 (List.mem_of_find?_eq_some hfind)
        exact ⟨rule.previous use _ state planned (htracked state hmem) hplanned, hown⟩
    · simp only [Option.bind_eq_bind, Option.bind_eq_some_iff, Option.some.injEq,
        Prod.mk.injEq] at h
      obtain ⟨owner, howner, rfl, rfl⟩ := h
      exact ⟨rule.initial use _ owner _ (fun htexture => absurd htexture htype) (hnone ▸ howner),
        hown⟩

/-- Everything a task's use loop appends satisfies the rule's property. -/
theorem taskUses {taskQueue : GpuPhysicalQueueInfo} {uses : List GpuTaskResourceUse}
    (h : planTaskUses graph topology plan task taskQueue previousUses tracked uses
      = some (new, entries)) (htracked : ∀ state ∈ tracked, Q state) : P entries := by
  induction uses generalizing previousUses tracked new entries with
  | nil =>
    simp only [planTaskUses, Option.some.injEq, Prod.mk.injEq] at h
    exact h.2 ▸ rule.empty
  | cons use rest ih =>
    simp only [planTaskUses, Option.bind_eq_bind, Option.bind_eq_some_iff, Option.some.injEq,
      Prod.mk.injEq] at h
    obtain ⟨⟨states, first⟩, hfirst, ⟨tracked', later⟩, hlater, rfl, rfl⟩ := h
    have hspec : P first ∧ ∀ state ∈ states, Q state := by
      simp only [planResourceUse] at hfirst
      split at hfirst
      · simp only [Option.some.injEq, Prod.mk.injEq] at hfirst
        obtain ⟨rfl, rfl⟩ := hfirst
        exact ⟨rule.empty, by simp⟩
      · split at hfirst
        · cases hfirst
        · split at hfirst
          · exact rule.textureUse hfirst htracked
          · next htype => exact rule.wholeResourceUse (by simpa using htype) hfirst htracked
    refine rule.append _ _ hspec.1 (ih hlater fun state hmem => ?_)
    exact (List.mem_append.1 hmem).elim (htracked state) (hspec.2 state)

end ResourceEntryRule

theorem EntryRule.taskUses (rule : EntryRule graph topology plan task P Q)
    {taskQueue : GpuPhysicalQueueInfo} {previousUses uses : List GpuTaskResourceUse}
    {tracked new : List TrackedCompiledResourceState} {entries : StatePlanEntries}
    (h : planTaskUses graph topology plan task taskQueue previousUses tracked uses
      = some (new, entries))
    (htracked : ∀ state ∈ tracked, Q state) : P entries :=
  rule.resourceEntryRule.taskUses h htracked

end Rule

end NwbLot.TaskGraph
