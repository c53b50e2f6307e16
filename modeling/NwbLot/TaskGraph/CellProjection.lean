import NwbLot.TaskGraph.CellView

/-!
# The projection of a task to one cell

`planTaskUses_at`: over one cell, a task's entries are those of its first use over the cell,
planned against the newest earlier state.  A texture use reaches a cell through exactly one
fragment, a whole-resource use through its only range.
-/

namespace NwbLot.TaskGraph

/-! ## One range -/

section Range

variable {topology : GpuTaskGraphQueueTopology} {plan : GpuCompiledGraph}
  {resource : GpuTaskGraphResourceView} {use : GpuTaskResourceUse} {task : GpuCompiledTask}
  {range : GpuTaskResourceRange} {previousState : TrackedCompiledResourceState}

lemma on_empty : ({} : StatePlanEntries).On use.resource range := ⟨by simp, by simp, by simp⟩

variable {entries : StatePlanEntries}

lemma planOwnershipHandoff_on
    (h : planOwnershipHandoff resource use task range previousState = some entries) :
    entries.On use.resource range := by
  simp only [planOwnershipHandoff, Option.bind_eq_bind, Option.bind_eq_some_iff,
    Option.some.injEq] at h
  obtain ⟨_, -, _, -, rfl⟩ := h
  exact ⟨by simp, by simp, by simp⟩

lemma planStateSeed_on {sourcePacket : GpuSubmissionPacketId} {concurrentQueuePair : Bool} :
    (planStateSeed use range previousState sourcePacket concurrentQueuePair).On use.resource
      range := by
  rw [planStateSeed]
  split
  · exact on_empty
  · exact ⟨by simp, by simp, by simp⟩

lemma planTransition_on :
    (planTransition resource use task range previousState).On use.resource range := by
  simp only [planTransition]
  split
  · exact ⟨by simp, by simp, by simp⟩
  · exact on_empty

lemma planInitialTransition_on {hasInitialOwnerStateSeed : Bool} :
    (planInitialTransition resource use task range hasInitialOwnerStateSeed).On use.resource
      range := by
  simp only [planInitialTransition]
  split
  · exact ⟨by simp, by simp, by simp⟩
  · exact on_empty

lemma planPacketHandoff_on
    (h : planPacketHandoff topology plan resource use task range previousState = some entries) :
    entries.On use.resource range := by
  simp only [planPacketHandoff] at h
  split at h
  · cases h
  split at h
  · cases h
    exact on_empty
  simp only [Option.bind_eq_bind, Option.bind_eq_some_iff] at h
  obtain ⟨sourceQueue, -, destinationQueue, -, h⟩ := h
  split at h
  · cases h
  simp only [Option.bind_eq_some_iff, Option.some.injEq] at h
  obtain ⟨handoff, hhandoff, rfl⟩ := h
  refine StatePlanEntries.On.append ?_ planStateSeed_on
  rw [planExclusiveHandoff] at hhandoff
  split at hhandoff
  · exact planOwnershipHandoff_on hhandoff
  · cases hhandoff
    exact on_empty

lemma planFromPreviousState_on
    (h : planFromPreviousState topology plan resource use task range previousState
      = some entries) : entries.On use.resource range := by
  simp only [planFromPreviousState, Option.bind_eq_bind, Option.bind_eq_some_iff,
    Option.some.injEq] at h
  obtain ⟨handoff, hhandoff, rfl⟩ := h
  exact (planPacketHandoff_on hhandoff).append planTransition_on

lemma planFromInitialState_on {owner : Option InitialOwnerImport}
    {hasInitialOwnerStateSeed : Bool} :
    (planFromInitialState resource use task range owner hasInitialOwnerStateSeed).On use.resource
      range := by
  refine StatePlanEntries.On.append ?_ planInitialTransition_on
  cases owner with
  | none => exact on_empty
  | some owner =>
    exact ⟨by simp [planInitialOwnerImport], by simp [planInitialOwnerImport],
      by simp [planInitialOwnerImport]⟩

end Range

/-! ## The entries over one cell -/

section Cell

variable (graph : GpuTaskGraph) (topology : GpuTaskGraphQueueTopology) (plan : GpuCompiledGraph)
  (task : GpuCompiledTask)

/-- The entries of a use on one range over the cell, against the newest earlier state. -/
def CellEntries (x : ResourceCell) (use : GpuTaskResourceUse)
    (previousState : Option TrackedCompiledResourceState) (entries : StatePlanEntries) : Prop :=
  let resource := graph.resourceAt use.resource.index
  ∃ range, x.within graph use.resource range = true ∧
    match previousState with
    | some previousState => ∃ planned,
        planFromPreviousState topology plan resource use task range previousState = some planned ∧
          entries = planned.ranged
    | none => ∃ owner,
        resolveInitialOwner resource (graph.textureForResource use.resource) range task.queue
            = some owner ∧
          entries = (planFromInitialState resource use task range owner owner.isSome).ranged

variable {graph topology plan task}

/-- Planned fragment by fragment, the entries over a cell are those of the fragments over it. -/
lemma restrict_concat_mapM {use : GpuTaskResourceUse} {x : ResourceCell}
    {plan' : TrackedTextureStateFragment → Option StatePlanEntries}
    (hon : ∀ fragment entries, plan' fragment = some entries →
      entries.On use.resource fragment.range)
    {fragments : List TrackedTextureStateFragment} {entries : List StatePlanEntries}
    (h : fragments.mapM plan' = some entries) :
    ∃ covering : List StatePlanEntries,
      (fragments.filter fun fragment => x.within graph use.resource fragment.range).mapM plan'
        = some covering ∧
      (StatePlanEntries.concat entries).restrict graph x
        = StatePlanEntries.concat (covering.map StatePlanEntries.ranged) := by
  induction fragments generalizing entries with
  | nil =>
    simp only [List.mapM_nil, Option.pure_def, Option.some.injEq] at h
    subst h
    exact ⟨[], rfl, rfl⟩
  | cons fragment rest ih =>
    simp only [List.mapM_cons, Option.bind_eq_bind, Option.pure_def, Option.bind_eq_some_iff,
      Option.some.injEq] at h
    obtain ⟨first, hfirst, later, hlater, rfl⟩ := h
    obtain ⟨covering, hcovering, hrestrict⟩ := ih hlater
    rw [StatePlanEntries.concat_cons, StatePlanEntries.restrict_append, hrestrict,
      (hon fragment first hfirst).restrict graph x]
    cases hwithin : x.within graph use.resource fragment.range
    · exact ⟨covering, by simpa [List.filter_cons, hwithin] using hcovering, by simp⟩
    · refine ⟨first :: covering, ?_, by simp⟩
      simp [hwithin, hfirst, hcovering]

/-! ## Texture uses -/

/-- The declared uses a projection relies on: valid handles and known states. -/
def AcceptedUse (graph : GpuTaskGraph) (use : GpuTaskResourceUse) : Prop :=
  graph.validResource use.resource = true ∧ use.requiredState ≠ ResourceStates.unknown

variable {x : ResourceCell}

/-- Ranges of the cell's own resource are told apart by coverage. -/
lemma within_self :
    x.within graph x.resource = fun range => rangeCovers (x.type graph) range x.cell := by
  funext range
  simp [ResourceCell.within]

variable {resource : GpuGraphResourceId}

/-- No range of another resource covers the cell. -/
lemma within_other (hresource : resource ≠ x.resource) :
    x.within graph resource = fun _ => false := by
  funext range
  simp [ResourceCell.within, hresource]

variable {use : GpuTaskResourceUse}

lemma useCovers_other (hresource : use.resource ≠ x.resource) : useCovers graph x use = false := by
  cases hrange : plannedRange graph use <;> simp [useCovers, within_other hresource, hrange]

lemma useCovers_texture (htype : x.type graph = .texture) (huse : AcceptedUse graph use) :
    useCovers graph x use
      = previousUseCovers x.resource (graph.textureForResource x.resource) x.cell use := by
  by_cases hresource : use.resource = x.resource
  · have htexture : (graph.resourceAt x.resource.index).type = .texture := htype
    have hstate : (use.requiredState != ResourceStates.unknown) = true := by simpa using huse.2
    have hplanned : isStatePlanned graph use = true := by
      simp [isStatePlanned, hresource, htexture, hstate]
    rw [useCovers, previousUseCovers, hplanned, hresource, within_self, htype, plannedRange,
      hresource, if_pos htexture]
    simp
  · simp [useCovers_other hresource, previousUseCovers, hresource]

lemma latestState_texture (htype : x.type graph = .texture)
    (tracked : List TrackedCompiledResourceState) :
    latestState graph x tracked = latestCovering .texture tracked x.resource x.cell := by
  have hpredicate : stateCovers graph x
      = TrackedCompiledResourceState.covers .texture x.resource x.cell := by
    funext state
    simp [stateCovers, ResourceCell.within, TrackedCompiledResourceState.covers, htype]
  rw [latestState, latestCovering, hpredicate]

variable {entries : StatePlanEntries}

lemma planTextureFragment_on {fragment : TrackedTextureStateFragment}
    (h : planTextureFragment graph topology plan task use fragment = some entries) :
    entries.On use.resource fragment.range := by
  simp only [planTextureFragment] at h
  split at h
  · exact planFromPreviousState_on h
  · simp only [Option.bind_eq_bind, Option.bind_eq_some_iff, Option.some.injEq] at h
    obtain ⟨owner, -, rfl⟩ := h
    exact planFromInitialState_on

/-- A fragment over the cell plans the cell. -/
lemma cellEntries_of_fragment {fragment : TrackedTextureStateFragment}
    (h : planTextureFragment graph topology plan task use fragment = some entries)
    (hwithin : x.within graph use.resource fragment.range = true) :
    CellEntries graph topology plan task x use fragment.state entries.ranged := by
  refine ⟨fragment.range, hwithin, ?_⟩
  simp only [planTextureFragment] at h
  cases hstate : fragment.state with
  | some previousState => exact ⟨entries, by simpa [hstate] using h, rfl⟩
  | none =>
    simp only [hstate, Option.bind_eq_bind, Option.bind_eq_some_iff, Option.some.injEq] at h
    obtain ⟨owner, howner, rfl⟩ := h
    exact ⟨owner, howner, rfl⟩

/-- What one use appends over a cell: the cell's plan if this is the task's first use over it. -/
def UseAt (graph : GpuTaskGraph) (topology : GpuTaskGraphQueueTopology) (plan : GpuCompiledGraph)
    (task : GpuCompiledTask) (previousUses : List GpuTaskResourceUse)
    (tracked : List TrackedCompiledResourceState) (x : ResourceCell) (use : GpuTaskResourceUse)
    (entries : StatePlanEntries) : Prop :=
  if useCovers graph x use && !previousUses.any (useCovers graph x) then
    CellEntries graph topology plan task x use (latestState graph x tracked)
      (entries.restrict graph x)
  else entries.restrict graph x = {}

variable {previousUses : List GpuTaskResourceUse} {tracked new : List TrackedCompiledResourceState}

lemma planTextureUse_at
    (h : planTextureUse graph topology plan task previousUses tracked use = some (new, entries))
    (htype : (graph.resourceAt use.resource.index).type = .texture) (huse : AcceptedUse graph use)
    (hprevious : ∀ previous ∈ previousUses, AcceptedUse graph previous) (x : ResourceCell) :
    UseAt graph topology plan task previousUses tracked x use entries := by
  simp only [planTextureUse, Option.bind_eq_bind, Option.bind_eq_some_iff, Option.some.injEq,
    Prod.mk.injEq] at h
  obtain ⟨planned, hplanned, firstUse, hfirstUse, fragments, hfragments, pieces, hpieces, -, rfl⟩ := h
  obtain ⟨covering, hcovering, hrestrict⟩ :=
    @restrict_concat_mapM graph use x _ (fun _ _ => planTextureFragment_on) _ _ hpieces
  by_cases hresource : use.resource = x.resource
  · have hxtype : x.type graph = .texture := by
      rw [ResourceCell.type, ← hresource]
      exact htype
    have hcount := countP_firstUseRanges hfirstUse x.cell
    have hstates := fragmentStatesAt_collectLatest hfragments x.cell
    rw [hcount, hresource, ← latestState_texture hxtype] at hstates
    have hprev : previousUses.any (previousUseCovers x.resource
        (graph.textureForResource x.resource) x.cell) = previousUses.any (useCovers graph x) := by
      rw [Bool.eq_iff_iff, List.any_eq_true, List.any_eq_true]
      exact exists_congr fun previous => and_congr_right fun hmem => by
        rw [useCovers_texture hxtype (hprevious previous hmem)]
    have hself : useCovers graph x use = rangeCovers .texture planned x.cell := by
      rw [useCovers_texture hxtype huse]
      rw [hresource] at hplanned
      simp [previousUseCovers, hresource, hplanned]
    rw [hprev, ← hself] at hstates
    have hfilter : (fragments.filter fun fragment => x.within graph use.resource fragment.range)
        = fragments.filter fun fragment => rangeCovers .texture fragment.range x.cell := by
      rw [hresource, within_self, hxtype]
    rw [fragmentStatesAt, ← hfilter] at hstates
    rw [UseAt, hrestrict]
    split
    · next hfirst =>
        rw [if_pos hfirst, List.replicate_one] at hstates
        obtain ⟨fragment, hfragment, hstate⟩ := List.map_eq_singleton_iff.1 hstates
        rw [hfragment] at hcovering
        simp only [List.mapM_cons, List.mapM_nil, Option.bind_eq_bind, Option.pure_def,
          Option.bind_some, Option.bind_eq_some_iff, Option.some.injEq] at hcovering
        obtain ⟨piece, hpiece, rfl⟩ := hcovering
        have hwithin : x.within graph use.resource fragment.range = true := by
          have hmem : fragment ∈ fragments.filter fun fragment =>
              x.within graph use.resource fragment.range := by simp [hfragment]
          exact (List.mem_filter.1 hmem).2
        rw [← hstate]
        simpa using cellEntries_of_fragment hpiece hwithin
    · next hlater =>
        rw [if_neg hlater, List.replicate_zero, List.map_eq_nil_iff] at hstates
        rw [hstates] at hcovering
        simp only [List.mapM_nil, Option.pure_def, Option.some.injEq] at hcovering
        simp [← hcovering]
  · have hnone : (fragments.filter fun fragment =>
        x.within graph use.resource fragment.range) = [] := by
      simp [within_other hresource]
    rw [hnone] at hcovering
    simp only [List.mapM_nil, Option.pure_def, Option.some.injEq] at hcovering
    rw [UseAt, useCovers_other hresource, hrestrict]
    simp [← hcovering]

/-! ## Whole-resource uses -/

/-- A resource declared under a valid handle has passed the checks of `appendResource`. -/
lemma declared_of_validResource (hvalid : graph.validResource resource = true) :
    validResourceDeclaration (validHandle graph.generation graph.externalCompletions.length)
      (graph.resourceAt resource.index).toGpuGraphResourceNode = true := by
  have hindex : resource.index < graph.resources.length := by
    simp only [GpuTaskGraph.validResource, validHandle, Bool.and_eq_true, decide_eq_true_eq]
      at hvalid
    exact hvalid.2
  refine graph.resources_declared _ ?_
  simp [GpuTaskGraph.resourceAt, List.getElem?_eq_getElem hindex]

/-- Without listed sources, an owner is imported exactly when the declaration announces one. -/
lemma announced_eq_isSome {resource : GpuTaskGraphResourceView} {texture : Option TextureDesc}
    {validCompletion : GpuExternalCompletionId → Bool} {range : GpuTaskResourceRange}
    {queue : GpuPhysicalQueueId} {owner : Option InitialOwnerImport}
    (hdeclared : validResourceDeclaration validCompletion resource.toGpuGraphResourceNode = true)
    (hsources : resource.initialOwnerHandoffSources.isEmpty = true)
    (h : resolveInitialOwner resource texture range queue = some owner) :
    (resource.initialOwnerReleaseDestinationQueue.valid && resource.initialOwnerStateSource.isSome)
      = owner.isSome := by
  simp only [validResourceDeclaration, Bool.and_eq_true, Bool.or_eq_true, Bool.not_eq_true',
    bne_iff_ne] at hdeclared
  obtain ⟨⟨⟨-, hhandoff⟩, -⟩, -⟩ := hdeclared
  simp only [resolveInitialOwner, hsources, Bool.not_true, Bool.false_eq_true, if_false] at h
  split at h
  · cases h
  next hdestination =>
  split at h
  · split at h
    · cases h
    next hannounced =>
    simp only [Option.bind_eq_bind, Option.bind_eq_some_iff, Option.some.injEq] at h
    obtain ⟨acquireType, -, rfl⟩ := h
    simp only [Bool.or_eq_true, Bool.not_eq_true', not_or, Bool.not_eq_false] at hannounced
    obtain ⟨⟨⟨hvalid, -⟩, -⟩, hsource⟩ := hannounced
    cases hstate : resource.initialOwnerStateSource
    · simp [hstate] at hsource
    · simp [hvalid]
  · next howner =>
    cases h
    rw [Option.isSome_none]
    by_contra hannounced
    simp only [Bool.not_eq_false, Bool.and_eq_true] at hannounced
    -- an announced handoff has another owner queue, which the use's queue then is
    rcases hhandoff with hnone | hsome
    · simp [hannounced.1] at hnone
    · have hqueue : resource.initialOwnerReleaseDestinationQueue = queue := by
        simpa [hannounced.1] using hdestination
      have hvalid := hsome.1.1.1.1.1.1.1.1
      have hne := hsome.1.1.1.1.1.1.2
      rw [Bool.and_eq_true, not_and] at howner
      have := howner hvalid
      simp only [bne_iff_ne, ne_eq, not_not] at this
      exact hne (hqueue.trans this.symm)

lemma within_whole (htype : x.type graph ≠ .texture) :
    x.within graph resource = fun _ => resource == x.resource := by
  funext range
  simp [ResourceCell.within, rangeCovers, htype]

lemma rangesOverlap_whole {type : GpuGraphResourceType} (htype : type ≠ .texture)
    (lhs rhs : GpuTaskResourceRange) : rangesOverlap type lhs rhs = true := by
  simp [rangesOverlap, htype]

lemma useCovers_whole (htype : x.type graph ≠ .texture) (hdomain : x.type graph ≠ .hazardDomain)
    (huse : AcceptedUse graph use) : useCovers graph x use = (use.resource == x.resource) := by
  by_cases hresource : use.resource = x.resource
  · have htexture : (graph.resourceAt x.resource.index).type ≠ .texture := htype
    have hnative : (graph.resourceAt x.resource.index).type ≠ .hazardDomain := hdomain
    have hstate : (use.requiredState != ResourceStates.unknown) = true := by simpa using huse.2
    rw [useCovers, within_whole htype]
    simp [isStatePlanned, plannedRange, hresource, htexture, hnative, hstate]
  · simp [useCovers_other hresource, hresource]

/-- The searches of the whole-resource branch are the cell's. -/
lemma planWholeResourceUse_at
    (h : planWholeResourceUse graph topology plan task previousUses tracked use
      = some (new, entries)) (htype : (graph.resourceAt use.resource.index).type ≠ .texture)
    (hdomain : (graph.resourceAt use.resource.index).type ≠ .hazardDomain)
    (huse : AcceptedUse graph use)
    (hprevious : ∀ previous ∈ previousUses, AcceptedUse graph previous) (x : ResourceCell) :
    UseAt graph topology plan task previousUses tracked x use entries := by
  simp only [planWholeResourceUse, rangesOverlap_whole htype, Bool.and_true] at h
  by_cases hresource : use.resource = x.resource
  · have hxtype : x.type graph ≠ .texture := by
      rw [ResourceCell.type, ← hresource]
      exact htype
    have hxdomain : x.type graph ≠ .hazardDomain := by
      rw [ResourceCell.type, ← hresource]
      exact hdomain
    have hprev : (previousUses.any fun previousUse => previousUse.resource == use.resource)
        = previousUses.any (useCovers graph x) := by
      rw [Bool.eq_iff_iff, List.any_eq_true, List.any_eq_true]
      exact exists_congr fun previous => and_congr_right fun hmem => by
        rw [useCovers_whole hxtype hxdomain (hprevious previous hmem), hresource]
    have hlatest : (tracked.reverse.find? fun candidate => candidate.resource == use.resource)
        = latestState graph x tracked := by
      rw [latestState, hresource]
      congr 1
      funext state
      rw [stateCovers, within_whole hxtype]
    have hself : useCovers graph x use = true := by
      simp [useCovers_whole hxtype hxdomain huse, hresource]
    have hwithin : x.within graph use.resource use.range = true := by
      simp [within_whole hxtype, hresource]
    rw [hprev, hlatest] at h
    rw [UseAt, hself, Bool.true_and]
    split at h
    · next hlater =>
        simp only [Option.some.injEq, Prod.mk.injEq] at h
        simp [hlater, ← h.2]
    · next hfirst =>
        rw [if_pos (by simpa using hfirst)]
        cases hstate : latestState graph x tracked with
        | some previousState =>
          simp only [hstate, Option.bind_eq_bind, Option.bind_eq_some_iff, Option.some.injEq,
            Prod.mk.injEq] at h
          obtain ⟨planned, hplanned, -, rfl⟩ := h
          refine ⟨use.range, hwithin, planned, hplanned, ?_⟩
          rw [(planFromPreviousState_on hplanned).restrict graph x, if_pos hwithin]
        | none =>
          simp only [hstate, Option.bind_eq_bind, Option.bind_eq_some_iff, Option.some.injEq,
            Prod.mk.injEq] at h
          obtain ⟨owner, howner, -, rfl⟩ := h
          have hdeclared := declared_of_validResource huse.1
          have hsources :
              (graph.resourceAt use.resource.index).initialOwnerHandoffSources.isEmpty = true := by
            have := hdeclared
            simp only [validResourceDeclaration, Bool.and_eq_true, Bool.or_eq_true,
              Bool.not_eq_true'] at this
            rcases this.1.1.1.1.2 with hempty | hmulti
            · simpa using hempty
            · exact absurd (by simpa using hmulti.1.1.1.1) htype
          have htexture : graph.textureForResource use.resource = none := by
            simp [GpuTaskGraph.textureForResource, htype]
          rw [hsources, Bool.not_true, Bool.false_or,
            announced_eq_isSome hdeclared hsources howner]
          refine ⟨use.range, hwithin, owner, htexture ▸ howner, ?_⟩
          rw [planFromInitialState_on.restrict graph x, if_pos hwithin]
  · rw [UseAt, useCovers_other hresource, Bool.false_and, if_neg (by simp)]
    have hdrop : ∀ planned : StatePlanEntries, planned.On use.resource use.range →
        planned.restrict graph x = {} := by
      intro planned hon
      rw [hon.restrict graph x, within_other hresource]
      simp
    split at h
    · simp only [Option.some.injEq, Prod.mk.injEq] at h
      simp [← h.2]
    · split at h
      · simp only [Option.bind_eq_bind, Option.bind_eq_some_iff, Option.some.injEq,
          Prod.mk.injEq] at h
        obtain ⟨planned, hplanned, -, rfl⟩ := h
        exact hdrop planned (planFromPreviousState_on hplanned)
      · simp only [Option.bind_eq_bind, Option.bind_eq_some_iff, Option.some.injEq,
          Prod.mk.injEq] at h
        obtain ⟨owner, -, -, rfl⟩ := h
        exact hdrop _ planFromInitialState_on

/-! ## The use loop -/

/-- The tracked state a use leaves, if it is planned. -/
def useStates (graph : GpuTaskGraph) (task : GpuCompiledTask) (use : GpuTaskResourceUse) :
    List TrackedCompiledResourceState :=
  if isStatePlanned graph use then ((plannedRange graph use).map (trackedState task use)).toList
  else []

/-- A planned use over the cell becomes its newest state; another use leaves it alone. -/
lemma latestState_useStates :
    latestState graph x (tracked ++ useStates graph task use)
      = if useCovers graph x use then (plannedRange graph use).map (trackedState task use)
        else latestState graph x tracked := by
  cases hplanned : isStatePlanned graph use
  · simp [useStates, useCovers, hplanned]
  · cases hrange : plannedRange graph use with
    | none => simp [useStates, useCovers, hplanned, hrange]
    | some range =>
      have hcovers : stateCovers graph x (trackedState task use range)
          = x.within graph use.resource range := rfl
      cases hwithin : x.within graph use.resource range <;>
        simp [useStates, useCovers, latestState, hplanned, hrange, hcovers, hwithin]

variable {taskQueue : GpuPhysicalQueueInfo}

/-- What one use appends: its tracked state, and over every cell the cell's plan if it is the
task's first use there. -/
lemma planResourceUse_spec
    (h : planResourceUse graph topology plan task taskQueue previousUses tracked use
      = some (new, entries)) (huse : AcceptedUse graph use)
    (hprevious : ∀ previous ∈ previousUses, AcceptedUse graph previous) :
    new = useStates graph task use ∧
      ∀ x, UseAt graph topology plan task previousUses tracked x use entries := by
  simp only [planResourceUse] at h
  split at h
  · next hunplanned =>
      simp only [Option.some.injEq, Prod.mk.injEq] at h
      obtain ⟨rfl, rfl⟩ := h
      have hplanned : isStatePlanned graph use = false := by
        rw [isStatePlanned, Bool.and_eq_false_iff]
        simpa using hunplanned
      exact ⟨by simp [useStates, hplanned], fun x => by simp [UseAt, useCovers, hplanned]⟩
  next hplannedUse =>
  simp only [Bool.or_eq_true, beq_iff_eq, not_or] at hplannedUse
  have hplanned : isStatePlanned graph use = true := by simpa [isStatePlanned] using hplannedUse
  split at h
  · cases h
  split at h
  · next htype =>
      refine ⟨?_, planTextureUse_at h (by simpa using htype) huse hprevious⟩
      simp only [planTextureUse, Option.bind_eq_bind, Option.bind_eq_some_iff, Option.some.injEq,
        Prod.mk.injEq] at h
      obtain ⟨planned, hrange, -, -, -, -, -, -, rfl, -⟩ := h
      simp [useStates, hplanned, plannedRange, show _ = GpuGraphResourceType.texture by
        simpa using htype, hrange]
  · next htype =>
      refine ⟨?_, planWholeResourceUse_at h (by simpa using htype) hplannedUse.1 huse hprevious⟩
      have hnew : new = [trackedState task use use.range] := by
        simp only [planWholeResourceUse] at h
        split at h
        · simp only [Option.some.injEq, Prod.mk.injEq] at h
          exact h.1.symm
        · split at h <;>
            simp only [Option.bind_eq_bind, Option.bind_eq_some_iff, Option.some.injEq,
              Prod.mk.injEq] at h
          · obtain ⟨-, -, rfl, -⟩ := h
            rfl
          · obtain ⟨-, -, rfl, -⟩ := h
            rfl
      have hrange : plannedRange graph use = some use.range := by
        rw [plannedRange, if_neg (by simpa using htype)]
      simp [hnew, useStates, hplanned, hrange]

/-- The first use of a list over a cell. -/
def firstUse (graph : GpuTaskGraph) (x : ResourceCell) (uses : List GpuTaskResourceUse) :
    Option GpuTaskResourceUse :=
  uses.find? (useCovers graph x)

/-- What a task's uses append over a cell, the newest earlier state being given. -/
def TaskEntriesAt (graph : GpuTaskGraph) (topology : GpuTaskGraphQueueTopology)
    (plan : GpuCompiledGraph) (task : GpuCompiledTask) (uses : List GpuTaskResourceUse)
    (previousState : Option TrackedCompiledResourceState) (x : ResourceCell)
    (entries : StatePlanEntries) : Prop :=
  match firstUse graph x uses with
  | none => entries.restrict graph x = {}
  | some use =>
      CellEntries graph topology plan task x use previousState (entries.restrict graph x)

/-- The loop from any previous uses: a cell they cover gets nothing more, another cell the plan of
the first remaining use over it. -/
lemma planTaskUses_from {uses : List GpuTaskResourceUse}
    (h : planTaskUses graph topology plan task taskQueue previousUses tracked uses
      = some (new, entries)) (huses : ∀ use ∈ uses, AcceptedUse graph use)
    (hprevious : ∀ previous ∈ previousUses, AcceptedUse graph previous) :
    new = tracked ++ uses.flatMap (useStates graph task) ∧
      ∀ x, if previousUses.any (useCovers graph x) then entries.restrict graph x = {}
        else TaskEntriesAt graph topology plan task uses (latestState graph x tracked) x entries := by
  induction uses generalizing previousUses tracked new entries with
  | nil =>
    simp only [planTaskUses, Option.some.injEq, Prod.mk.injEq] at h
    obtain ⟨rfl, rfl⟩ := h
    exact ⟨by simp, fun x => by simp [TaskEntriesAt, firstUse]⟩
  | cons use rest ih =>
    simp only [planTaskUses, Option.bind_eq_bind, Option.bind_eq_some_iff, Option.some.injEq,
      Prod.mk.injEq] at h
    obtain ⟨⟨states, first⟩, hfirst, ⟨tracked', later⟩, hlater, rfl, rfl⟩ := h
    have huse := huses use List.mem_cons_self
    obtain ⟨rfl, hat⟩ := planResourceUse_spec hfirst huse hprevious
    have hprevious' : ∀ previous ∈ previousUses ++ [use], AcceptedUse graph previous := by
      intro previous hmem
      rcases List.mem_append.1 hmem with hold | hnew
      · exact hprevious previous hold
      · exact List.mem_singleton.1 hnew ▸ huse
    obtain ⟨hstates, hcells⟩ := ih hlater
      (fun use hmem => huses use (List.mem_cons_of_mem _ hmem)) hprevious'
    refine ⟨by simp [hstates], fun x => ?_⟩
    have hfirstAt := hat x
    have hlaterAt := hcells x
    simp only [List.any_append, List.any_cons, List.any_nil, Bool.or_false] at hlaterAt
    rw [UseAt] at hfirstAt
    cases hearlier : previousUses.any (useCovers graph x)
    · cases hcovers : useCovers graph x use
      · rw [if_neg (by simp [hcovers])] at hfirstAt
        rw [if_neg (by simp [hearlier, hcovers]), latestState_useStates,
          if_neg (by simp [hcovers])] at hlaterAt
        rw [if_neg (by simp)]
        simpa [TaskEntriesAt, firstUse, List.find?_cons, hcovers, hfirstAt] using hlaterAt
      · rw [if_pos (by simp [hcovers, hearlier])] at hfirstAt
        rw [if_pos (by simp [hcovers])] at hlaterAt
        rw [if_neg (by simp)]
        simpa [TaskEntriesAt, firstUse, List.find?_cons, hcovers, hlaterAt] using hfirstAt
    · rw [if_neg (by simp [hearlier])] at hfirstAt
      rw [if_pos (by simp [hearlier])] at hlaterAt
      simp [hfirstAt, hlaterAt]

/-- The use loop of one task, cell by cell. -/
theorem planTaskUses_at {uses : List GpuTaskResourceUse}
    (h : planTaskUses graph topology plan task taskQueue [] tracked uses = some (new, entries))
    (huses : ∀ use ∈ uses, AcceptedUse graph use) :
    new = tracked ++ uses.flatMap (useStates graph task) ∧
      ∀ x, TaskEntriesAt graph topology plan task uses (latestState graph x tracked) x entries := by
  have := planTaskUses_from h huses (by simp)
  simpa using this

end Cell

end NwbLot.TaskGraph
