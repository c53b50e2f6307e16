import NwbLot.Library.FallibleLists
import NwbLot.TaskGraph.ResourceRanges

/-!
# Cells of the collected fragments

What the three range collections say about one cell: a use's first-use ranges cover exactly the
cells no earlier use of the task covers, once each; every requested cell lies in exactly one
latest-state fragment, whose state is the newest tracked state over the cell; every cell under
some tracked state lies in exactly one terminal fragment, likewise the newest.
-/

namespace NwbLot.TaskGraph

/-! ## Tracked states over a cell -/

/-- The tracked state names the resource and its range covers the cell. -/
def TrackedCompiledResourceState.covers (type : GpuGraphResourceType)
    (resource : GpuGraphResourceId) (c : Cell) (state : TrackedCompiledResourceState) : Bool :=
  state.resource == resource && rangeCovers type state.range c

/-- The newest tracked state over a cell. -/
def latestCovering (type : GpuGraphResourceType) (tracked : List TrackedCompiledResourceState)
    (resource : GpuGraphResourceId) (c : Cell) : Option TrackedCompiledResourceState :=
  tracked.reverse.find? (TrackedCompiledResourceState.covers type resource c)

/-- A use of the resource whose planned range covers the cell. -/
def previousUseCovers (resource : GpuGraphResourceId) (texture : Option TextureDesc) (c : Cell)
    (use : GpuTaskResourceUse) : Bool :=
  use.resource == resource
    && (resolveTextureRangeForPlanning texture use.range).any (rangeCovers .texture · c)

/-! ## First-use ranges -/

variable {ranges : List GpuTaskResourceRange}

variable {bounds : List TextureRangeBounds}

lemma coverCount_of_mapM_boundsTo (h : bounds.mapM textureRangeBoundsTo = some ranges) (c : Cell) :
    ranges.countP (rangeCovers .texture · c) = textureRegions.coverCount bounds c :=
  OptionList.countP_of_mapM (fun _ _ hto => rangeCovers_of_boundsTo hto c) h

lemma coverCount_of_mapM_boundsFrom (h : ranges.mapM textureRangeBoundsFrom = some bounds)
    (c : Cell) :
    textureRegions.coverCount bounds c = ranges.countP (rangeCovers .texture · c) :=
  OptionList.countP_of_mapM (fun _ _ hfrom => (rangeCovers_of_boundsFrom hfrom c).symm) h

variable {resource : GpuGraphResourceId} {uncovered : List TextureRangeBounds}

variable {texture : Option TextureDesc} {previousUses : List GpuTaskResourceUse}

/-- The loop removes the cells of the previous uses of the resource and nothing else. -/
lemma coverCount_subtractPreviousUses {remaining : List TextureRangeBounds}
    (h : subtractPreviousUses resource texture previousUses uncovered = some remaining) (c : Cell) :
    textureRegions.coverCount remaining c
      = if previousUses.any (previousUseCovers resource texture c) then 0
        else textureRegions.coverCount uncovered c := by
  induction previousUses generalizing uncovered with
  | nil =>
    cases h
    simp
  | cons use rest ih =>
    rw [subtractPreviousUses] at h
    split at h
    · next hempty =>
        cases h
        simp [List.isEmpty_iff.1 hempty]
    · split at h
      · next hother =>
          rw [ih h]
          simp [previousUseCovers, hother]
      · next hsame =>
          simp only [Option.bind_eq_bind, Option.bind_eq_some_iff] at h
          obtain ⟨range, hrange, bounds, hbounds, hrest⟩ := h
          have hcut : previousUseCovers resource texture c use = bounds.covers c := by
            simp [previousUseCovers, not_not.1 hsame, hrange, rangeCovers_of_boundsFrom hbounds]
          rw [ih hrest, textureRegions.coverCount_subtract, List.any_cons, hcut]
          show _ = if (bounds.covers c || _) = true then 0 else _
          cases hc : textureRegions.covers bounds c <;>
            simp [show bounds.covers c = _ from hc]

/-- A first-use range list covers a requested cell once unless an earlier use covers it. -/
theorem countP_firstUseRanges {range : GpuTaskResourceRange}
    (h : collectTextureFirstUseRangesWithinTask previousUses resource texture range = some ranges)
    (c : Cell) :
    ranges.countP (rangeCovers .texture · c)
      = if rangeCovers .texture range c && !previousUses.any (previousUseCovers resource texture c)
        then 1 else 0 := by
  simp only [collectTextureFirstUseRangesWithinTask, Option.bind_eq_bind,
    Option.bind_eq_some_iff] at h
  obtain ⟨bounds, hbounds, uncovered, hsubtract, hranges⟩ := h
  rw [coverCount_of_mapM_boundsTo hranges, coverCount_subtractPreviousUses hsubtract,
    RegionOps.coverCount_cons, RegionOps.coverCount_nil, rangeCovers_of_boundsFrom hbounds]
  show (if _ then 0 else (if bounds.covers c = true then 1 else 0) + 0) = _
  cases previousUses.any (previousUseCovers resource texture c) <;>
    cases bounds.covers c <;> simp

/-! ## Latest-state fragments -/

/-- The states of the fragments over a cell. -/
def fragmentStatesAt (fragments : List TrackedTextureStateFragment) (c : Cell) :
    List (Option TrackedCompiledResourceState) :=
  (fragments.filter fun fragment => rangeCovers .texture fragment.range c).map (·.state)

@[simp] lemma fragmentStatesAt_append (xs ys : List TrackedTextureStateFragment) (c : Cell) :
    fragmentStatesAt (xs ++ ys) c = fragmentStatesAt xs c ++ fragmentStatesAt ys c := by
  simp [fragmentStatesAt]

/-- Fragments cut from one state carry that state over each of their cells. -/
lemma fragmentStatesAt_map (ranges : List GpuTaskResourceRange)
    (state : Option TrackedCompiledResourceState) (stateIndex : Option ℕ) (c : Cell) :
    fragmentStatesAt (ranges.map fun range => { range, state, stateIndex }) c
      = List.replicate (ranges.countP (rangeCovers .texture · c)) state := by
  induction ranges with
  | nil => simp [fragmentStatesAt]
  | cons range rest ih =>
    simp only [fragmentStatesAt, List.map_cons, List.filter_cons, List.countP_cons] at ih ⊢
    cases hc : rangeCovers .texture range c
    · simpa using ih
    · simpa [List.replicate_succ] using ih

/-- The newest-first search over indexed tracked states. -/
def latestAmong (states : List (TrackedCompiledResourceState × ℕ)) (resource : GpuGraphResourceId)
    (c : Cell) : Option TrackedCompiledResourceState :=
  (states.map (·.1)).find? (TrackedCompiledResourceState.covers .texture resource c)

variable {states : List (TrackedCompiledResourceState × ℕ)}
  {fragments : List TrackedTextureStateFragment}

lemma fragmentStatesAt_collectLatestFrom
    (h : collectLatestFrom resource states uncovered = some fragments) (c : Cell) :
    fragmentStatesAt fragments c
      = List.replicate (textureRegions.coverCount uncovered c) (latestAmong states resource c) := by
  induction states generalizing uncovered fragments with
  | nil =>
    simp only [collectLatestFrom, Option.bind_eq_bind, Option.pure_def, Option.bind_eq_some_iff,
      Option.some.injEq] at h
    obtain ⟨ranges, hranges, rfl⟩ := h
    rw [fragmentStatesAt_map, coverCount_of_mapM_boundsTo hranges]
    rfl
  | cons entry older ih =>
    obtain ⟨state, stateIndex⟩ := entry
    rw [collectLatestFrom] at h
    split at h
    · next hempty =>
        cases h
        simp [List.isEmpty_iff.1 hempty, fragmentStatesAt]
    · split at h
      · next hother =>
          rw [ih h]
          simp [latestAmong, TrackedCompiledResourceState.covers, hother]
      · next hsame =>
          simp only [Option.bind_eq_bind, Option.pure_def, Option.bind_eq_some_iff,
            Option.some.injEq] at h
          obtain ⟨bounds, hbounds, ranges, hranges, later, hlater, rfl⟩ := h
          have hstate : state.covers .texture resource c = bounds.covers c := by
            simp [TrackedCompiledResourceState.covers, not_not.1 hsame,
              rangeCovers_of_boundsFrom hbounds]
          rw [fragmentStatesAt_append, fragmentStatesAt_map, ih hlater,
            coverCount_of_mapM_boundsTo hranges, textureRegions.coverCount_clip,
            textureRegions.coverCount_subtract, latestAmong, latestAmong, List.map_cons,
            List.find?_cons, hstate]
          show List.replicate (if bounds.covers c = true then _ else 0) _
            ++ List.replicate (if bounds.covers c = true then 0 else _) _ = _
          cases bounds.covers c <;> simp

/-! ## State order -/

/-- The fragment is one of a state below the bound, or the remainder of a range. -/
def TrackedTextureStateFragment.IndexedBelow (stateCount : ℕ)
    (fragment : TrackedTextureStateFragment) : Prop :=
  (fragment.state = none ∧ fragment.stateIndex = none) ∨
    (fragment.state.isSome = true ∧ ∃ i < stateCount, fragment.stateIndex = some i)

/-- The fragments taken in index order are those with an index below the bound. -/
lemma flatMap_range_perm (fragments : List TrackedTextureStateFragment) (n : ℕ) :
    ((List.range n).flatMap fun i => fragments.filter fun f => f.stateIndex == some i).Perm
      (fragments.filter fun f => f.stateIndex.any fun i => decide (i < n)) := by
  induction n with
  | zero => simp
  | succ n ih =>
    rw [List.range_succ, List.flatMap_append]
    have hsplit := List.filter_append_perm
      (fun f : TrackedTextureStateFragment => f.stateIndex.any fun i => decide (i < n))
      (fragments.filter fun f => f.stateIndex.any fun i => decide (i < n + 1))
    rw [List.filter_filter, List.filter_filter] at hsplit
    refine List.Perm.trans (List.Perm.append ih (List.Perm.refl _)) (List.Perm.trans ?_ hsplit)
    refine List.Perm.of_eq (congrArg₂ (· ++ ·) ?_ ?_)
    · refine List.filter_congr fun f _ => ?_
      cases f.stateIndex with
      | none => simp
      | some i => simp; omega
    · simp only [List.flatMap_cons, List.flatMap_nil, List.append_nil]
      refine List.filter_congr fun f _ => ?_
      cases f.stateIndex with
      | none => simp
      | some i =>
        rw [Bool.eq_iff_iff]
        simp
        omega

variable {stateCount : ℕ}

/-- Reordering by state index keeps every fragment. -/
lemma textureStateFragmentsInStateOrder_perm {discovered : List TrackedTextureStateFragment}
    (h : ∀ f ∈ discovered, f.IndexedBelow stateCount) :
    (textureStateFragmentsInStateOrder discovered stateCount).Perm discovered := by
  have hsplit := List.filter_append_perm
    (fun f : TrackedTextureStateFragment => f.stateIndex.any fun i => decide (i < stateCount))
    discovered
  refine List.Perm.trans (List.Perm.append (flatMap_range_perm discovered stateCount) ?_) hsplit
  refine List.Perm.of_eq (List.filter_congr fun f hf => ?_)
  rcases h f hf with ⟨hstate, hindex⟩ | ⟨hstate, i, hi, hindex⟩
  · simp [hstate, hindex]
  · cases hs : f.state <;> simp_all

lemma mem_zipIdx_lt {α : Type*} {xs : List α} {x : α} {i : ℕ} (h : (x, i) ∈ xs.zipIdx) :
    i < xs.length := by
  have := List.mem_zipIdx h
  omega

/-! ## Where a fragment comes from -/

/-- Bounds name the fragment's range, and it carries one of the resource's states with its index,
or is what no state covers. -/
structure TrackedTextureStateFragment.CutFrom (resource : GpuGraphResourceId)
    (states : List (TrackedCompiledResourceState × ℕ)) (fragment : TrackedTextureStateFragment) :
    Prop where
  named : ∃ bounds, textureRangeBoundsTo bounds = some fragment.range
  source : (fragment.state = none ∧ fragment.stateIndex = none) ∨
    ∃ entry ∈ states, entry.1.resource = resource ∧ fragment.state = some entry.1 ∧
      fragment.stateIndex = some entry.2

namespace TrackedTextureStateFragment.CutFrom

variable {fragment : TrackedTextureStateFragment} {entry : TrackedCompiledResourceState × ℕ}

lemma cons (h : fragment.CutFrom resource states) : fragment.CutFrom resource (entry :: states) :=
  ⟨h.named, h.source.imp_right fun ⟨other, hmem, hcut⟩ =>
    ⟨other, List.mem_cons_of_mem _ hmem, hcut⟩⟩

lemma indexedBelow (h : fragment.CutFrom resource states)
    (hstates : ∀ e ∈ states, e.2 < stateCount) : fragment.IndexedBelow stateCount := by
  rcases h.source with hleft | ⟨entry, hentry, -, hstate, hindex⟩
  · exact Or.inl hleft
  · exact Or.inr ⟨hstate ▸ rfl, entry.2, hstates entry hentry, hindex⟩

/-- The fragments cut from the newest state of the resource, and those of the older ones. -/
lemma append {older : List (TrackedCompiledResourceState × ℕ)}
    {later : List TrackedTextureStateFragment} (hsame : entry.1.resource = resource)
    (hranges : bounds.mapM textureRangeBoundsTo = some ranges)
    (hlater : ∀ f ∈ later, f.CutFrom resource older) :
    ∀ f ∈ ranges.map (fun range => TrackedTextureStateFragment.mk range (some entry.1)
      (some entry.2)) ++ later, f.CutFrom resource (entry :: older) := by
  intro f hf
  rcases List.mem_append.1 hf with hnew | hold
  · obtain ⟨range, hrange, rfl⟩ := List.mem_map.1 hnew
    obtain ⟨bound, -, hto⟩ := OptionList.exists_of_mem_mapM hranges hrange
    exact ⟨⟨bound, hto⟩, Or.inr ⟨entry, List.mem_cons_self, hsame, rfl, rfl⟩⟩
  · exact (hlater f hold).cons

end TrackedTextureStateFragment.CutFrom

lemma collectLatestFrom_cutFrom
    (h : collectLatestFrom resource states uncovered = some fragments) :
    ∀ f ∈ fragments, f.CutFrom resource states := by
  induction states generalizing uncovered fragments with
  | nil =>
    simp only [collectLatestFrom, Option.bind_eq_bind, Option.pure_def, Option.bind_eq_some_iff,
      Option.some.injEq] at h
    obtain ⟨ranges, hranges, rfl⟩ := h
    intro f hf
    obtain ⟨range, hrange, rfl⟩ := List.mem_map.1 hf
    obtain ⟨bound, -, hto⟩ := OptionList.exists_of_mem_mapM hranges hrange
    exact ⟨⟨bound, hto⟩, Or.inl ⟨rfl, rfl⟩⟩
  | cons entry older ih =>
    rw [collectLatestFrom] at h
    split at h
    · cases h
      simp
    · split at h
      · exact fun f hf => (ih h f hf).cons
      · next hsame =>
          simp only [Option.bind_eq_bind, Option.pure_def, Option.bind_eq_some_iff,
            Option.some.injEq] at h
          obtain ⟨bounds, -, ranges, hranges, later, hlater, rfl⟩ := h
          exact .append (not_not.1 hsame) hranges (ih hlater)

variable {covered : List TextureRangeBounds}

lemma collectTerminalFrom_cutFrom
    (h : collectTerminalFrom resource states covered = some fragments) :
    ∀ f ∈ fragments, f.CutFrom resource states := by
  induction states generalizing covered fragments with
  | nil =>
    cases h
    simp
  | cons entry older ih =>
    rw [collectTerminalFrom] at h
    split at h
    · exact fun f hf => (ih h f hf).cons
    · next hsame =>
        simp only [Option.bind_eq_bind, Option.pure_def, Option.bind_eq_some_iff,
          Option.some.injEq] at h
        obtain ⟨bounds, -, ranges, hranges, later, hlater, rfl⟩ := h
        exact .append (not_not.1 hsame) hranges (ih hlater)

variable {tracked : List TrackedCompiledResourceState}

/-- Putting discovered fragments in state order keeps each of them. -/
lemma stateOrder_perm (h : ∀ f ∈ fragments, f.CutFrom resource tracked.zipIdx.reverse) :
    (textureStateFragmentsInStateOrder fragments tracked.length).Perm fragments :=
  textureStateFragmentsInStateOrder_perm fun f hf => (h f hf).indexedBelow fun e he =>
    mem_zipIdx_lt (x := e.1) (i := e.2) (List.mem_reverse.1 he)

lemma cutFrom_of_latest
    (h : collectLatestTextureStateFragments tracked resource ranges = some fragments) :
    ∀ f ∈ fragments, f.CutFrom resource tracked.zipIdx.reverse := by
  simp only [collectLatestTextureStateFragments, Option.bind_eq_bind, Option.pure_def,
    Option.bind_eq_some_iff, Option.some.injEq] at h
  obtain ⟨uncovered, -, discovered, hdiscovered, rfl⟩ := h
  have hcut := collectLatestFrom_cutFrom hdiscovered
  exact fun f hf => hcut f ((stateOrder_perm hcut).mem_iff.1 hf)

lemma cutFrom_of_terminal
    (h : collectTerminalTextureStateFragments tracked resource = some fragments) :
    ∀ f ∈ fragments, f.CutFrom resource tracked.zipIdx.reverse := by
  simp only [collectTerminalTextureStateFragments, Option.bind_eq_bind, Option.pure_def,
    Option.bind_eq_some_iff, Option.some.injEq] at h
  obtain ⟨discovered, hdiscovered, rfl⟩ := h
  have hcut := collectTerminalFrom_cutFrom hdiscovered
  exact fun f hf => hcut f ((stateOrder_perm hcut).mem_iff.1 hf)

/-- The state of a fragment is a tracked one of the resource. -/
lemma TrackedTextureStateFragment.CutFrom.state_tracked {fragment : TrackedTextureStateFragment}
    (h : fragment.CutFrom resource tracked.zipIdx.reverse) {state : TrackedCompiledResourceState}
    (hstate : fragment.state = some state) : state ∈ tracked ∧ state.resource = resource := by
  rcases h.source with ⟨hnone, -⟩ | ⟨entry, hentry, hresource, hsome, -⟩
  · exact absurd (hstate.symm.trans hnone) nofun
  · obtain rfl := Option.some.inj (hsome.symm.trans hstate)
    exact ⟨List.fst_mem_of_mem_zipIdx (List.mem_reverse.1 hentry), hresource⟩

/-! ## The newest state -/

lemma latestAmong_zipIdx_reverse (tracked : List TrackedCompiledResourceState)
    (resource : GpuGraphResourceId) (c : Cell) :
    latestAmong tracked.zipIdx.reverse resource c = latestCovering .texture tracked resource c := by
  rw [latestAmong, latestCovering, List.map_reverse, List.zipIdx_map_fst]

/-- Every requested cell lies in as many fragments as it was requested, all with the newest
tracked state over it. -/
theorem fragmentStatesAt_collectLatest {requestedRanges : List GpuTaskResourceRange}
    (h : collectLatestTextureStateFragments tracked resource requestedRanges = some fragments)
    (c : Cell) :
    fragmentStatesAt fragments c
      = List.replicate (requestedRanges.countP (rangeCovers .texture · c))
          (latestCovering .texture tracked resource c) := by
  simp only [collectLatestTextureStateFragments, Option.bind_eq_bind, Option.pure_def,
    Option.bind_eq_some_iff, Option.some.injEq] at h
  obtain ⟨uncovered, huncovered, discovered, hdiscovered, rfl⟩ := h
  have hperm := stateOrder_perm (collectLatestFrom_cutFrom hdiscovered)
  have hcells : (fragmentStatesAt (textureStateFragmentsInStateOrder discovered tracked.length)
      c).Perm (fragmentStatesAt discovered c) := (hperm.filter _).map _
  rw [fragmentStatesAt_collectLatestFrom hdiscovered, coverCount_of_mapM_boundsFrom huncovered,
    latestAmong_zipIdx_reverse] at hcells
  exact List.perm_replicate.1 hcells

/-! ## Terminal fragments -/

lemma fragmentStatesAt_collectTerminalFrom
    (h : collectTerminalFrom resource states covered = some fragments) (c : Cell) :
    fragmentStatesAt fragments c
      = if covered.any (·.covers c) then [] else ((latestAmong states resource c).map some).toList := by
  induction states generalizing covered fragments with
  | nil =>
    cases h
    simp [fragmentStatesAt, latestAmong]
  | cons entry older ih =>
    obtain ⟨state, stateIndex⟩ := entry
    rw [collectTerminalFrom] at h
    split at h
    · next hother =>
        rw [ih h]
        simp [latestAmong, TrackedCompiledResourceState.covers, hother]
    · next hsame =>
        simp only [Option.bind_eq_bind, Option.pure_def, Option.bind_eq_some_iff,
          Option.some.injEq] at h
        obtain ⟨bounds, hbounds, ranges, hranges, later, hlater, rfl⟩ := h
        have hstate : state.covers .texture resource c = bounds.covers c := by
          simp [TrackedCompiledResourceState.covers, not_not.1 hsame,
            rangeCovers_of_boundsFrom hbounds]
        rw [fragmentStatesAt_append, fragmentStatesAt_map, ih hlater,
          coverCount_of_mapM_boundsTo hranges, textureRegions.coverCount_subtractAll,
          RegionOps.coverCount_cons, RegionOps.coverCount_nil, latestAmong, latestAmong,
          List.map_cons, List.find?_cons, hstate, List.any_append, List.any_cons, List.any_nil,
          Bool.or_false]
        show List.replicate (if covered.any (fun b => b.covers c) = true then 0
          else (if bounds.covers c = true then 1 else 0) + 0) _ ++ _ = _
        cases hcovered : covered.any (fun b => b.covers c) <;>
          cases hc : bounds.covers c <;> simp

/-- Every cell under a tracked state lies in one terminal fragment, with the newest state; the
other cells lie in none. -/
theorem fragmentStatesAt_collectTerminal
    (h : collectTerminalTextureStateFragments tracked resource = some fragments) (c : Cell) :
    fragmentStatesAt fragments c
      = ((latestCovering .texture tracked resource c).map some).toList := by
  simp only [collectTerminalTextureStateFragments, Option.bind_eq_bind, Option.pure_def,
    Option.bind_eq_some_iff, Option.some.injEq] at h
  obtain ⟨discovered, hdiscovered, rfl⟩ := h
  have hperm := stateOrder_perm (collectTerminalFrom_cutFrom hdiscovered)
  have hcells : (fragmentStatesAt (textureStateFragmentsInStateOrder discovered tracked.length)
      c).Perm (fragmentStatesAt discovered c) := (hperm.filter _).map _
  rw [fragmentStatesAt_collectTerminalFrom hdiscovered, latestAmong_zipIdx_reverse] at hcells
  simp only [List.any_nil, Bool.false_eq_true, if_false] at hcells
  cases hlatest : latestCovering .texture tracked resource c with
  | none =>
    rw [hlatest] at hcells
    simpa using hcells.eq_nil
  | some state =>
    rw [hlatest] at hcells
    simpa using List.perm_singleton.1 hcells

end NwbLot.TaskGraph
