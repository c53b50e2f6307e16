import NwbLot.TaskGraph.StateFragments

/-!
# The range collections are partitions

The counts of `StateFragments` read as partitions: the ranges of each collection share no cell,
and together they name the undeclared part of a use, the requested ranges, or everything tracked.
Each fragment carries the newest tracked state over its cells.

`TextureRangeBoundsTo` gives up on a rectangle that starts beyond the 32-bit bases or has as many
levels as the symbolic count.  Rectangles whose finite ends stay below the symbolic count
(`Addressable`) are closed under intersection and difference, so on them the collections never
give up; elsewhere they may.
-/

namespace NwbLot.TaskGraph

/-! ## Partitions -/

/-- The ranges share no cell. -/
def DisjointRanges (lhs rhs : GpuTaskResourceRange) : Prop :=
  ∀ c, ¬ (rangeCovers .texture lhs c = true ∧ rangeCovers .texture rhs c = true)

/-- The ranges are pairwise disjoint and their union is exactly the given cells. -/
structure Partitions (ranges : List GpuTaskResourceRange) (cells : Cell → Prop) : Prop where
  disjoint : ranges.Pairwise DisjointRanges
  union : ∀ c, (∃ range ∈ ranges, rangeCovers .texture range c = true) ↔ cells c

variable {ranges : List GpuTaskResourceRange}

variable {c : Cell}

lemma countP_pos_iff_exists :
    0 < ranges.countP (rangeCovers .texture · c)
      ↔ ∃ range ∈ ranges, rangeCovers .texture range c = true := by
  rw [List.countP_pos_iff]

/-- Ranges under which no cell is counted twice are disjoint. -/
lemma disjoint_of_countP_le_one (h : ∀ c, ranges.countP (rangeCovers .texture · c) ≤ 1) :
    ranges.Pairwise DisjointRanges := by
  induction ranges with
  | nil => exact List.Pairwise.nil
  | cons range rest ih =>
    have hrest : ∀ c, rest.countP (rangeCovers .texture · c) ≤ 1 := fun c =>
      Nat.le_trans ((List.sublist_cons_self range rest).countP_le) (h c)
    refine List.pairwise_cons.2 ⟨?_, ih hrest⟩
    rintro other hother c ⟨hrange, hcovers⟩
    have hpos : 0 < rest.countP (rangeCovers .texture · c) :=
      countP_pos_iff_exists.2 ⟨other, hother, hcovers⟩
    have hle := h c
    rw [List.countP_cons_of_pos (by exact hrange)] at hle
    omega

/-- Disjoint ranges count every cell at most once. -/
lemma countP_le_one_of_disjoint (h : ranges.Pairwise DisjointRanges) (c : Cell) :
    ranges.countP (rangeCovers .texture · c) ≤ 1 := by
  induction ranges with
  | nil => simp
  | cons range rest ih =>
    obtain ⟨hfirst, hrest⟩ := List.pairwise_cons.1 h
    rw [List.countP_cons]
    by_cases hrange : rangeCovers .texture range c = true
    · have hnone : rest.countP (rangeCovers .texture · c) = 0 := by
        rw [List.countP_eq_zero]
        exact fun other hother hcovers => hfirst other hother c ⟨hrange, hcovers⟩
      simp [hnone, hrange]
    · have := ih hrest
      simpa [hrange] using this

/-- Ranges that count every given cell once and the others never partition the given cells. -/
lemma Partitions.of_countP {cells : Cell → Prop} [DecidablePred cells]
    (h : ∀ c, ranges.countP (rangeCovers .texture · c) = if cells c then 1 else 0) :
    Partitions ranges cells where
  disjoint := disjoint_of_countP_le_one fun c => by
    rw [h]
    split <;> omega
  union := fun c => by
    rw [← countP_pos_iff_exists, h]
    split <;> simp_all

/-- Every fragment carries the newest tracked state of the resource over each of its cells. -/
def LabelledNewest (tracked : List TrackedCompiledResourceState) (resource : GpuGraphResourceId)
    (fragments : List TrackedTextureStateFragment) : Prop :=
  ∀ fragment ∈ fragments, ∀ c, rangeCovers .texture fragment.range c = true →
    fragment.state = latestCovering .texture tracked resource c

lemma length_fragmentStatesAt (fragments : List TrackedTextureStateFragment) (c : Cell) :
    (fragmentStatesAt fragments c).length
      = (fragments.map (·.range)).countP (rangeCovers .texture · c) := by
  rw [fragmentStatesAt, List.length_map, ← List.countP_eq_length_filter, List.countP_map]
  rfl

variable {fragments : List TrackedTextureStateFragment}

lemma mem_fragmentStatesAt {fragment : TrackedTextureStateFragment} (hmem : fragment ∈ fragments)
    (hcovers : rangeCovers .texture fragment.range c = true) :
    fragment.state ∈ fragmentStatesAt fragments c :=
  List.mem_map_of_mem (List.mem_filter.2 ⟨hmem, hcovers⟩)

/-! ## Addressable rectangles -/

/-- An interval that starts and, unless symbolic, ends below the symbolic 32-bit count. -/
def AddressableEnds (start stop : ℕ) : Prop :=
  start < u32Max ∧ (stop = u64Max ∨ stop < u32Max)

/-- A nonempty rectangle of such intervals. -/
structure TextureRangeBounds.Addressable (bounds : TextureRangeBounds) : Prop where
  nonempty : bounds.nonempty = true
  mips : AddressableEnds bounds.mipBegin bounds.mipEnd
  slices : AddressableEnds bounds.arrayBegin bounds.arrayEnd

/-- The declared range denotes an addressable rectangle. -/
def GpuTaskResourceRange.Addressable (range : GpuTaskResourceRange) : Prop :=
  (textureBounds range.textureSubresources).Addressable

namespace AddressableEnds

lemma boundsCount_ok {start stop : ℕ} (h : AddressableEnds start stop) (hlt : start < stop)
    {all : UInt32} (hall : all.toNat = u32Max) :
    boundsCount start stop all ≠ 0 ∧ boundsCount start stop all ≤ u32Max
      ∧ (stop ≠ u64Max → boundsCount start stop all ≠ all.toNat) := by
  obtain ⟨hstart, hstop⟩ := h
  simp only [u32Max] at hstart hstop hall ⊢
  by_cases hsymbolic : stop = u64Max
  · simp [boundsCount, hsymbolic, hall]
  · simp only [boundsCount, hsymbolic, if_false, false_or] at hstop ⊢
    omega

variable {a b a' b' : ℕ}

/-- The intersection of two intervals. -/
lemma inter (h : AddressableEnds a b) (h' : AddressableEnds a' b') :
    AddressableEnds (max a a') (min b b') := by
  obtain ⟨hstart, hstop⟩ := h
  obtain ⟨hstart', hstop'⟩ := h'
  simp only [AddressableEnds, u32Max, u64Max] at hstart hstop hstart' hstop' ⊢
  omega

/-- The part of an interval before another one. -/
lemma before (h : AddressableEnds a b) (h' : AddressableEnds a' b') :
    AddressableEnds a a' :=
  ⟨h.1, Or.inr h'.1⟩

/-- The part of an interval after one that ends first. -/
lemma after (h : AddressableEnds a b) (h' : AddressableEnds a' b') (hlt : b' < b) :
    AddressableEnds b' b := by
  obtain ⟨-, hstop⟩ := h
  obtain ⟨-, hstop'⟩ := h'
  simp only [AddressableEnds, u32Max, u64Max] at hstop hstop' ⊢
  omega

end AddressableEnds

namespace TextureRangeBounds.Addressable

variable {a b : TextureRangeBounds}

/-- An addressable rectangle can be named. -/
lemma to_isSome (h : a.Addressable) : (textureRangeBoundsTo a).isSome = true := by
  obtain ⟨hmips, hslices⟩ := TextureRangeBounds.nonempty_iff.1 h.nonempty
  obtain ⟨hmip0, hmip1, hmip2⟩ := h.mips.boundsCount_ok hmips (rfl : allMipLevels.toNat = u32Max)
  obtain ⟨hslice0, hslice1, hslice2⟩ :=
    h.slices.boundsCount_ok hslices (rfl : allArraySlices.toNat = u32Max)
  have hmipBegin := h.mips.1
  have hsliceBegin := h.slices.1
  rw [textureRangeBoundsTo, if_neg (by simp; omega)]
  dsimp only
  rw [if_neg (by simpa [hmip0, hslice0, hmip1, hslice1] using ⟨hmip2, hslice2⟩)]
  rfl

lemma from_isSome {range : GpuTaskResourceRange} (h : range.Addressable) :
    textureRangeBoundsFrom range = some (textureBounds range.textureSubresources) := by
  simp [textureRangeBoundsFrom, h.nonempty]

/-- The intersection of addressable rectangles is addressable. -/
lemma inter (ha : a.Addressable) (hb : b.Addressable) {i : TextureRangeBounds}
    (hi : intersectTextureRangeBounds a b = some i) : i.Addressable := by
  simp only [intersectTextureRangeBounds, Option.ite_none_right_eq_some, Option.some.injEq] at hi
  obtain ⟨hnonempty, rfl⟩ := hi
  exact ⟨hnonempty, ha.mips.inter hb.mips, ha.slices.inter hb.slices⟩

/-- What remains of an addressable rectangle around an addressable cut is addressable. -/
lemma remainder (ha : a.Addressable) (hb : b.Addressable) :
    ∀ r ∈ textureRangeRemainder a b, r.Addressable := by
  intro r hr
  rw [textureRangeRemainder] at hr
  cases hi : intersectTextureRangeBounds a b with
  | none =>
    rw [hi] at hr
    rw [List.mem_singleton.1 hr]
    exact ha
  | some i =>
    have hinter := ha.inter hb hi
    obtain ⟨hmips, hslices⟩ := TextureRangeBounds.nonempty_iff.1 hinter.nonempty
    obtain ⟨houterMips, houterSlices⟩ := TextureRangeBounds.nonempty_iff.1 ha.nonempty
    simp only [hi, List.mem_append, List.mem_ite_nil_right, List.mem_singleton] at hr
    rcases hr with ((⟨hside, rfl⟩ | ⟨hside, rfl⟩) | ⟨hside, rfl⟩) | ⟨hside, rfl⟩
    · exact ⟨nonempty_iff.2 ⟨hside, houterSlices⟩, ha.mips.before hinter.mips, ha.slices⟩
    · exact ⟨nonempty_iff.2 ⟨hside, houterSlices⟩, ha.mips.after hinter.mips hside, ha.slices⟩
    · exact ⟨nonempty_iff.2 ⟨hmips, hside⟩, hinter.mips, ha.slices.before hinter.slices⟩
    · exact ⟨nonempty_iff.2 ⟨hmips, hside⟩, hinter.mips, ha.slices.after hinter.slices hside⟩

variable {regions : List TextureRangeBounds}

lemma subtract (h : ∀ r ∈ regions, r.Addressable) (hb : b.Addressable) :
    ∀ r ∈ textureRegions.subtract regions b, r.Addressable := by
  intro r hr
  obtain ⟨outer, houter, hr⟩ := List.mem_flatMap.1 hr
  exact (h outer houter).remainder hb r hr

lemma subtractAll {cuts : List TextureRangeBounds} (h : ∀ r ∈ regions, r.Addressable)
    (hcuts : ∀ cut ∈ cuts, cut.Addressable) :
    ∀ r ∈ textureRegions.subtractAll regions cuts, r.Addressable := by
  induction cuts generalizing regions with
  | nil => exact h
  | cons cut rest ih =>
    exact ih (subtract h (hcuts cut List.mem_cons_self)) fun other hother =>
      hcuts other (List.mem_cons_of_mem _ hother)

lemma clip (h : ∀ r ∈ regions, r.Addressable) (hb : b.Addressable) :
    ∀ r ∈ textureRegions.clip regions b, r.Addressable := by
  intro r hr
  obtain ⟨outer, houter, hr⟩ := List.mem_filterMap.1 hr
  exact (h outer houter).inter hb hr

/-- A list of addressable rectangles can be named. -/
lemma mapM_to (h : ∀ r ∈ regions, r.Addressable) :
    ∃ ranges, regions.mapM textureRangeBoundsTo = some ranges := by
  induction regions with
  | nil => exact ⟨[], rfl⟩
  | cons r rest ih =>
    obtain ⟨range, hrange⟩ := Option.isSome_iff_exists.1 (h r List.mem_cons_self).to_isSome
    obtain ⟨ranges, hranges⟩ := ih fun other hother => h other (List.mem_cons_of_mem _ hother)
    exact ⟨range :: ranges, by simp [List.mapM_cons, hrange, hranges]⟩

end TextureRangeBounds.Addressable

/-! ## The collections succeed on addressable ranges -/

/-- A previous use of the resource resolves to an addressable range. -/
def AddressableUse (resource : GpuGraphResourceId) (texture : Option TextureDesc)
    (use : GpuTaskResourceUse) : Prop :=
  use.resource = resource →
    ∃ planned, resolveTextureRangeForPlanning texture use.range = some planned
      ∧ planned.Addressable

variable {resource : GpuGraphResourceId} {texture : Option TextureDesc}
  {uses : List GpuTaskResourceUse}

variable {uncovered : List TextureRangeBounds}

lemma subtractPreviousUses_total (huses : ∀ use ∈ uses, AddressableUse resource texture use)
    (h : ∀ r ∈ uncovered, r.Addressable) :
    ∃ remaining, subtractPreviousUses resource texture uses uncovered = some remaining
      ∧ ∀ r ∈ remaining, r.Addressable := by
  induction uses generalizing uncovered with
  | nil => exact ⟨uncovered, rfl, h⟩
  | cons use rest ih =>
    have hrest := fun other hother => huses other (List.mem_cons_of_mem use hother)
    rw [subtractPreviousUses]
    split
    · exact ⟨uncovered, rfl, h⟩
    · split
      · exact ih hrest h
      · next hsame =>
          obtain ⟨planned, hplanned, haddressable⟩ :=
            huses use List.mem_cons_self (not_not.1 hsame)
          obtain ⟨remaining, hremaining, hpieces⟩ :=
            ih hrest (TextureRangeBounds.Addressable.subtract h haddressable)
          refine ⟨remaining, ?_, hpieces⟩
          simp [hplanned, TextureRangeBounds.Addressable.from_isSome haddressable, hremaining]

variable {range : GpuTaskResourceRange}

lemma collectTextureFirstUse_total (hrange : range.Addressable)
    (huses : ∀ use ∈ uses, AddressableUse resource texture use) :
    ∃ ranges, collectTextureFirstUseRangesWithinTask uses resource texture range = some ranges := by
  obtain ⟨remaining, hremaining, hpieces⟩ := subtractPreviousUses_total huses
    (List.forall_mem_singleton.2 hrange)
  obtain ⟨ranges, hranges⟩ := TextureRangeBounds.Addressable.mapM_to hpieces
  exact ⟨ranges, by simp [collectTextureFirstUseRangesWithinTask,
    TextureRangeBounds.Addressable.from_isSome hrange, hremaining, hranges]⟩

/-- The states of the resource are addressable. -/
def AddressableStates (resource : GpuGraphResourceId)
    (states : List TrackedCompiledResourceState) : Prop :=
  ∀ state ∈ states, state.resource = resource → state.range.Addressable

variable {states : List (TrackedCompiledResourceState × ℕ)}

lemma collectLatestFrom_total (hstates : AddressableStates resource (states.map (·.1)))
    (h : ∀ r ∈ uncovered, r.Addressable) :
    ∃ fragments, collectLatestFrom resource states uncovered = some fragments := by
  induction states generalizing uncovered with
  | nil =>
    obtain ⟨ranges, hranges⟩ := TextureRangeBounds.Addressable.mapM_to h
    exact ⟨_, by simp [collectLatestFrom, hranges]; rfl⟩
  | cons entry older ih =>
    obtain ⟨state, stateIndex⟩ := entry
    have holder : AddressableStates resource (older.map (·.1)) := fun other hother =>
      hstates other (List.mem_cons_of_mem _ hother)
    rw [collectLatestFrom]
    split
    · exact ⟨[], rfl⟩
    · split
      · exact ih holder h
      · next hsame =>
          have haddressable := hstates state List.mem_cons_self (not_not.1 hsame)
          obtain ⟨ranges, hranges⟩ := TextureRangeBounds.Addressable.mapM_to
            (TextureRangeBounds.Addressable.clip h haddressable)
          obtain ⟨later, hlater⟩ :=
            ih holder (TextureRangeBounds.Addressable.subtract h haddressable)
          exact ⟨_, by
            simp [TextureRangeBounds.Addressable.from_isSome haddressable, hranges, hlater]; rfl⟩

lemma mapM_boundsFrom_of_addressable (h : ∀ range ∈ ranges, range.Addressable) :
    ranges.mapM textureRangeBoundsFrom
      = some (ranges.map fun range => textureBounds range.textureSubresources) := by
  rw [OptionList.mapM_eq_some_iff, List.map_map]
  exact List.map_congr_left fun range hrange =>
    TextureRangeBounds.Addressable.from_isSome (h range hrange)

lemma map_fst_zipIdx_reverse (tracked : List TrackedCompiledResourceState) :
    tracked.zipIdx.reverse.map (·.1) = tracked.reverse := by
  rw [List.map_reverse, List.zipIdx_map_fst]

variable {tracked : List TrackedCompiledResourceState}

lemma AddressableStates.zipIdx_reverse (h : AddressableStates resource tracked) :
    AddressableStates resource (tracked.zipIdx.reverse.map (·.1)) := by
  rw [map_fst_zipIdx_reverse]
  exact fun state hstate => h state (List.mem_reverse.1 hstate)

variable {requestedRanges : List GpuTaskResourceRange}

lemma collectLatest_total (htracked : AddressableStates resource tracked)
    (hrequested : ∀ range ∈ requestedRanges, range.Addressable) :
    ∃ fragments,
      collectLatestTextureStateFragments tracked resource requestedRanges = some fragments := by
  have hbounds : ∀ r ∈ requestedRanges.map fun range => textureBounds range.textureSubresources,
      r.Addressable := by
    intro r hr
    obtain ⟨range, hrange, rfl⟩ := List.mem_map.1 hr
    exact hrequested range hrange
  obtain ⟨fragments, hfragments⟩ := collectLatestFrom_total htracked.zipIdx_reverse hbounds
  exact ⟨_, by
    simp [collectLatestTextureStateFragments, mapM_boundsFrom_of_addressable hrequested,
      hfragments]; rfl⟩

lemma collectTerminalFrom_total (hstates : AddressableStates resource (states.map (·.1)))
    {covered : List TextureRangeBounds} (h : ∀ r ∈ covered, r.Addressable) :
    ∃ fragments, collectTerminalFrom resource states covered = some fragments := by
  induction states generalizing covered with
  | nil => exact ⟨[], rfl⟩
  | cons entry older ih =>
    obtain ⟨state, stateIndex⟩ := entry
    have holder : AddressableStates resource (older.map (·.1)) := fun other hother =>
      hstates other (List.mem_cons_of_mem _ hother)
    rw [collectTerminalFrom]
    split
    · exact ih holder h
    · next hsame =>
        have haddressable := hstates state List.mem_cons_self (not_not.1 hsame)
        have hone : ∀ r ∈ [textureBounds state.range.textureSubresources], r.Addressable :=
          List.forall_mem_singleton.2 haddressable
        obtain ⟨ranges, hranges⟩ :=
          TextureRangeBounds.Addressable.mapM_to (TextureRangeBounds.Addressable.subtractAll hone h)
        obtain ⟨later, hlater⟩ := ih holder
          (fun r hr => (List.mem_append.1 hr).elim (h r) (hone r))
        exact ⟨_, by
          simp [TextureRangeBounds.Addressable.from_isSome haddressable, hranges, hlater]; rfl⟩

lemma collectTerminal_total (htracked : AddressableStates resource tracked) :
    ∃ fragments, collectTerminalTextureStateFragments tracked resource = some fragments := by
  obtain ⟨fragments, hfragments⟩ := collectTerminalFrom_total htracked.zipIdx_reverse
    (List.forall_mem_nil TextureRangeBounds.Addressable)
  exact ⟨_, by simp [collectTerminalTextureStateFragments, hfragments]; rfl⟩

/-! ## The three partitions -/

/-- The first-use ranges of a use partition the cells it requests and no earlier use declared. -/
theorem firstUseRanges_partition
    (h : collectTextureFirstUseRangesWithinTask uses resource texture range = some ranges) :
    Partitions ranges fun c =>
      rangeCovers .texture range c = true
        ∧ ¬ ∃ use ∈ uses, previousUseCovers resource texture c use = true := by
  classical
  refine Partitions.of_countP fun c => ?_
  rw [countP_firstUseRanges h]
  refine if_congr ?_ rfl rfl
  rw [Bool.and_eq_true, Bool.not_eq_true', Bool.eq_false_iff, Ne, List.any_eq_true]

/-- The latest-state fragments of disjoint requested ranges partition the requested cells. -/
theorem latestFragments_partition
    (h : collectLatestTextureStateFragments tracked resource requestedRanges = some fragments)
    (hdisjoint : requestedRanges.Pairwise DisjointRanges) :
    Partitions (fragments.map (·.range)) (fun c =>
        ∃ range ∈ requestedRanges, rangeCovers .texture range c = true)
      ∧ LabelledNewest tracked resource fragments := by
  classical
  refine ⟨Partitions.of_countP fun c => ?_, fun fragment hmem c hcovers => ?_⟩
  · have hcount := congrArg List.length (fragmentStatesAt_collectLatest h c)
    rw [length_fragmentStatesAt, List.length_replicate] at hcount
    have hle := countP_le_one_of_disjoint hdisjoint c
    rw [hcount]
    split
    · next hsome =>
        have := countP_pos_iff_exists.2 hsome
        omega
    · next hnone =>
        have := mt countP_pos_iff_exists.1 hnone
        omega
  · have hstate := mem_fragmentStatesAt hmem hcovers
    rw [fragmentStatesAt_collectLatest h] at hstate
    exact (List.mem_replicate.1 hstate).2

/-- The terminal fragments partition the union of the tracked ranges of the resource. -/
theorem terminalFragments_partition
    (h : collectTerminalTextureStateFragments tracked resource = some fragments) :
    Partitions (fragments.map (·.range)) (fun c =>
        ∃ state ∈ tracked, state.resource = resource
          ∧ rangeCovers .texture state.range c = true)
      ∧ LabelledNewest tracked resource fragments := by
  classical
  have htracked : ∀ c, (latestCovering .texture tracked resource c).isSome = true ↔
      ∃ state ∈ tracked, state.resource = resource
        ∧ rangeCovers .texture state.range c = true := by
    intro c
    simp [latestCovering, List.find?_isSome, TrackedCompiledResourceState.covers]
  refine ⟨Partitions.of_countP fun c => ?_, fun fragment hmem c hcovers => ?_⟩
  · have hcount := congrArg List.length (fragmentStatesAt_collectTerminal h c)
    rw [length_fragmentStatesAt] at hcount
    rw [hcount, ← if_congr (htracked c) rfl rfl]
    cases latestCovering .texture tracked resource c <;> rfl
  · have hstate := mem_fragmentStatesAt hmem hcovers
    rw [fragmentStatesAt_collectTerminal h] at hstate
    cases hlatest : latestCovering .texture tracked resource c with
    | none => simp [hlatest] at hstate
    | some state => simpa [hlatest] using hstate

/-- On addressable ranges the three collections succeed, and whenever one succeeds its ranges are
an exact partition, labelled with the newest tracked states. -/
theorem rangeCollections_partition (resource : GpuGraphResourceId) :
    (∀ uses texture range,
      (range.Addressable → (∀ use ∈ uses, AddressableUse resource texture use) →
        ∃ ranges,
          collectTextureFirstUseRangesWithinTask uses resource texture range = some ranges)
      ∧ ∀ ranges,
        collectTextureFirstUseRangesWithinTask uses resource texture range = some ranges →
          Partitions ranges fun c =>
            rangeCovers .texture range c = true
              ∧ ¬ ∃ use ∈ uses, previousUseCovers resource texture c use = true)
    ∧ (∀ tracked requestedRanges,
      (AddressableStates resource tracked → (∀ range ∈ requestedRanges, range.Addressable) →
        ∃ fragments,
          collectLatestTextureStateFragments tracked resource requestedRanges = some fragments)
      ∧ ∀ fragments,
        collectLatestTextureStateFragments tracked resource requestedRanges = some fragments →
        requestedRanges.Pairwise DisjointRanges →
          Partitions (fragments.map (·.range)) (fun c =>
              ∃ range ∈ requestedRanges, rangeCovers .texture range c = true)
            ∧ LabelledNewest tracked resource fragments)
    ∧ ∀ tracked,
      (AddressableStates resource tracked →
        ∃ fragments, collectTerminalTextureStateFragments tracked resource = some fragments)
      ∧ ∀ fragments,
        collectTerminalTextureStateFragments tracked resource = some fragments →
          Partitions (fragments.map (·.range)) (fun c =>
              ∃ state ∈ tracked, state.resource = resource
                ∧ rangeCovers .texture state.range c = true)
            ∧ LabelledNewest tracked resource fragments := by
  refine ⟨fun uses texture range => ⟨collectTextureFirstUse_total, fun ranges h =>
    firstUseRanges_partition h⟩, fun tracked requestedRanges => ⟨collectLatest_total,
    fun fragments h hdisjoint => latestFragments_partition h hdisjoint⟩, fun tracked =>
    ⟨collectTerminal_total, fun fragments h => terminalFragments_partition h⟩⟩

/-- Two tracked rectangles, of which the newer one overlaps the older. -/
def trackedCorners : List TrackedCompiledResourceState :=
  [{ range := { textureSubresources := ⟨0, 2, 0, 2⟩ }, state := ResourceStates.shaderResource },
   { range := { textureSubresources := ⟨1, 2, 1, 2⟩ }, state := ResourceStates.copyDest }]

lemma trackedCorners_addressable : AddressableStates {} trackedCorners := by
  intro state hstate _
  rcases List.mem_pair.1 hstate with rfl | rfl <;>
    exact ⟨by decide, ⟨by decide, by decide⟩, ⟨by decide, by decide⟩⟩

/-- All that is left behind the first mip and slice. -/
def cornerRequest : GpuTaskResourceRange :=
  { textureSubresources := ⟨1, allMipLevels, 1, allArraySlices⟩ }

lemma cornerRequest_addressable : cornerRequest.Addressable :=
  ⟨by decide, ⟨by decide, by decide⟩, ⟨by decide, by decide⟩⟩

/-- An earlier use of the task. -/
def cornerUse : GpuTaskResourceUse := { range := { textureSubresources := ⟨0, 2, 0, 2⟩ } }

lemma cornerUse_addressable : AddressableUse {} none cornerUse := fun _ =>
  ⟨_, rfl, by decide, ⟨by decide, by decide⟩, ⟨by decide, by decide⟩⟩

/-- An earlier use cuts the request into two, the newer corner cuts it into three, and of the older
corner two pieces outside the newer one are terminal. -/
theorem rangeCollections_partition_corners :
    (∃ ranges, collectTextureFirstUseRangesWithinTask [cornerUse] {} none
        cornerRequest = some ranges ∧ ranges.length = 2 ∧
      Partitions ranges fun c => rangeCovers .texture cornerRequest c = true ∧
        ¬∃ use ∈ [cornerUse], previousUseCovers {} none c use = true) ∧
    (∃ fragments, collectLatestTextureStateFragments trackedCorners {} [cornerRequest]
        = some fragments ∧ fragments.length = 3 ∧
      Partitions (fragments.map (·.range)) (fun c =>
        ∃ range ∈ [cornerRequest], rangeCovers .texture range c = true) ∧
      LabelledNewest trackedCorners {} fragments) ∧
    ∃ fragments, collectTerminalTextureStateFragments trackedCorners {} = some fragments ∧
      fragments.length = 3 ∧
      Partitions (fragments.map (·.range)) (fun c =>
        ∃ state ∈ trackedCorners, state.resource = {} ∧
          rangeCovers .texture state.range c = true) ∧
      LabelledNewest trackedCorners {} fragments := by
  obtain ⟨hfirst, hlatest, hterminal⟩ := rangeCollections_partition {}
  refine ⟨?_, ?_, ?_⟩
  · obtain ⟨htotal, hpartition⟩ := hfirst [cornerUse] none cornerRequest
    obtain ⟨ranges, hranges⟩ := htotal cornerRequest_addressable fun use huse =>
      List.mem_singleton.1 huse ▸ cornerUse_addressable
    have hlength : (collectTextureFirstUseRangesWithinTask [cornerUse] {} none
        cornerRequest).map List.length = some 2 := by decide
    rw [hranges] at hlength
    exact ⟨ranges, hranges, Option.some.inj hlength, hpartition ranges hranges⟩
  · obtain ⟨htotal, hpartition⟩ := hlatest trackedCorners [cornerRequest]
    obtain ⟨fragments, hfragments⟩ := htotal trackedCorners_addressable fun range hrange =>
      List.mem_singleton.1 hrange ▸ cornerRequest_addressable
    have hlength : (collectLatestTextureStateFragments trackedCorners {}
        [cornerRequest]).map List.length = some 3 := by decide
    rw [hfragments] at hlength
    exact ⟨fragments, hfragments, Option.some.inj hlength,
      hpartition fragments hfragments (List.pairwise_singleton _ _)⟩
  · obtain ⟨htotal, hpartition⟩ := hterminal trackedCorners
    obtain ⟨fragments, hfragments⟩ := htotal trackedCorners_addressable
    have hlength : (collectTerminalTextureStateFragments trackedCorners {}).map List.length
        = some 3 := by decide
    rw [hfragments] at hlength
    exact ⟨fragments, hfragments, Option.some.inj hlength, hpartition fragments hfragments⟩

/-- A tracked range on the last mip level a 32-bit base can name. -/
def trackedLastMip : TrackedCompiledResourceState :=
  { range := { textureSubresources := ⟨0xFFFFFFFF, 1, 0, 1⟩ }
    state := ResourceStates.shaderResource }

/-- Cutting the last mip level out of all of them leaves as many levels as the symbolic count, which
no range names: the collection gives up although both ranges are valid. -/
theorem collectLatest_gives_up :
    ¬ ∀ (tracked : List TrackedCompiledResourceState) (resource : GpuGraphResourceId)
        (range : GpuTaskResourceRange),
      (∀ state ∈ tracked, isValidTextureRange state.range.textureSubresources = true) →
      isValidTextureRange range.textureSubresources = true →
      ∃ fragments, collectLatestTextureStateFragments tracked resource [range] = some fragments
        ∧ Partitions (fragments.map (·.range)) fun c => rangeCovers .texture range c = true := by
  intro h
  have hall := h [trackedLastMip] {} { textureSubresources := ⟨0, allMipLevels, 0, 1⟩ }
    (by decide) (by decide)
  have hfails : collectLatestTextureStateFragments [trackedLastMip] {}
      [{ textureSubresources := ⟨0, allMipLevels, 0, 1⟩ }] = none := by decide
  rw [hfails] at hall
  simp at hall

end NwbLot.TaskGraph
