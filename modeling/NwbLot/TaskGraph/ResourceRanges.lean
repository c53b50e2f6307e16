import NwbLot.Library.Region
import NwbLot.TaskGraph.Graph

/-!
# Symbolic subresource ranges

`compiler_resource_ranges.cpp`: rectangles of mips and array slices with symbolic ends, their
intersection and difference, and the three collections built on them (the part of a use its task
has not declared yet, the latest tracked states under a list of ranges, the terminal states of a
resource).

A cell is a pair of a mip level and an array slice.  `textureRegions` is the region algebra of
the rectangles over cells; everything below is proved through it.
-/

namespace NwbLot.TaskGraph

/-- A mip level and an array slice; the single cell of a buffer is any of them. -/
abbrev Cell := ℕ × ℕ

/-! ## Declared ranges -/

/-- `IsValidBufferRange`. -/
def isValidBufferRange (range : BufferRange) : Bool :=
  range.byteSize != 0
    && (range.byteSize == 0xFFFFFFFFFFFFFFFF
      || decide (range.byteOffset.toNat ≤ u64Max - range.byteSize.toNat))

/-- The texture dimensions whose array slices are addressable. -/
def TextureDimension.hasArraySlices : TextureDimension → Bool
  | .texture1DArray | .texture2DArray | .textureCube | .textureCubeArray
  | .texture2DMSArray => true
  | _ => false

/-- What remains of an axis from `base` on, clamped to the requested count. -/
def resolveCount (base count all available : UInt32) : UInt32 :=
  let remaining := if base < available then available - base else 0
  if count = all then remaining else min count remaining

lemma toNat_resolveCount (base count all available : UInt32) :
    (resolveCount base count all available).toNat =
      if count = all then available.toNat - base.toNat
      else min count.toNat (available.toNat - base.toNat) := by
  have hremaining : (if base < available then available - base else 0).toNat
      = available.toNat - base.toNat := by
    split
    · next hlt =>
        rw [UInt32.toNat_sub_of_le]
        rw [UInt32.lt_iff_toNat_lt] at hlt
        exact UInt32.le_iff_toNat_le.2 (Nat.le_of_lt hlt)
    · next hle =>
        rw [UInt32.lt_iff_toNat_lt, Nat.not_lt] at hle
        simp [hle]
  simp only [resolveCount]
  generalize (if base < available then available - base else 0) = remaining at hremaining ⊢
  split
  · exact hremaining
  · rw [← hremaining]
    show (if count ≤ remaining then count else remaining).toNat = _
    split
    · next hle => rw [min_eq_left (UInt32.le_iff_toNat_le.1 hle)]
    · next hgt =>
        rw [UInt32.le_iff_toNat_le, Nat.not_le] at hgt
        rw [min_eq_right (Nat.le_of_lt hgt)]

/-- `TextureSubresourceSet::resolve` with `TextureSubresourceMipResolve::Range`. -/
def TextureSubresourceSet.resolve (range : TextureSubresourceSet) (desc : TextureDesc) :
    TextureSubresourceSet :=
  { baseMipLevel := range.baseMipLevel
    numMipLevels := resolveCount range.baseMipLevel range.numMipLevels allMipLevels desc.mipLevels
    baseArraySlice := if desc.dimension.hasArraySlices then range.baseArraySlice else 0
    numArraySlices :=
      if desc.dimension.hasArraySlices then
        resolveCount range.baseArraySlice range.numArraySlices allArraySlices desc.arraySize
      else 1 }

/-- Typed textures are planned on their finite extent; untyped ones stay symbolic. -/
def resolveTextureRangeForPlanning (texture : Option TextureDesc) (range : GpuTaskResourceRange) :
    Option GpuTaskResourceRange :=
  match texture with
  | none => some range
  | some desc =>
      let resolved := range.textureSubresources.resolve desc
      if isValidTextureRange resolved then some { range with textureSubresources := resolved }
      else none

/-- `RangesOverlap`: buffers and acceleration structures are whole resources. -/
def rangesOverlap (type : GpuGraphResourceType) (lhs rhs : GpuTaskResourceRange) : Bool :=
  if type != .texture then true
  else textureRangesOverlap lhs.textureSubresources rhs.textureSubresources

/-- `RangeContains`. -/
def rangeContains (type : GpuGraphResourceType) (outer inner : GpuTaskResourceRange) : Bool :=
  if type != .texture then true
  else
    let outerTexture := outer.textureSubresources
    let innerTexture := inner.textureSubresources
    decide (outerTexture.baseMipLevel ≤ innerTexture.baseMipLevel)
      && decide (rangeEnd innerTexture.baseMipLevel innerTexture.numMipLevels allMipLevels
          ≤ rangeEnd outerTexture.baseMipLevel outerTexture.numMipLevels allMipLevels)
      && decide (outerTexture.baseArraySlice ≤ innerTexture.baseArraySlice)
      && decide (rangeEnd innerTexture.baseArraySlice innerTexture.numArraySlices allArraySlices
          ≤ rangeEnd outerTexture.baseArraySlice outerTexture.numArraySlices allArraySlices)

/-! ## Rectangles -/

/-- Half-open intervals of mips and slices; an end of `u64Max` is symbolic. -/
structure TextureRangeBounds where
  mipBegin : ℕ
  mipEnd : ℕ
  arrayBegin : ℕ
  arrayEnd : ℕ
  deriving DecidableEq, Repr

namespace TextureRangeBounds

/-- The bounds hold a cell. -/
def nonempty (b : TextureRangeBounds) : Bool :=
  decide (b.mipBegin < b.mipEnd) && decide (b.arrayBegin < b.arrayEnd)

/-- The cell lies in the bounds. -/
def covers (b : TextureRangeBounds) (c : Cell) : Bool :=
  decide (b.mipBegin ≤ c.1) && decide (c.1 < b.mipEnd)
    && decide (b.arrayBegin ≤ c.2) && decide (c.2 < b.arrayEnd)

lemma covers_iff {b : TextureRangeBounds} {c : Cell} :
    b.covers c = true ↔
      b.mipBegin ≤ c.1 ∧ c.1 < b.mipEnd ∧ b.arrayBegin ≤ c.2 ∧ c.2 < b.arrayEnd := by
  simp [covers, and_assoc]

end TextureRangeBounds

/-- The rectangle a declared range denotes. -/
def textureBounds (range : TextureSubresourceSet) : TextureRangeBounds :=
  { mipBegin := range.baseMipLevel.toNat
    mipEnd := rangeEnd range.baseMipLevel range.numMipLevels allMipLevels
    arrayBegin := range.baseArraySlice.toNat
    arrayEnd := rangeEnd range.baseArraySlice range.numArraySlices allArraySlices }

/-- `TextureRangeBoundsFrom`. -/
def textureRangeBoundsFrom (range : GpuTaskResourceRange) : Option TextureRangeBounds :=
  let bounds := textureBounds range.textureSubresources
  if bounds.nonempty then some bounds else none

/-- The declared count of an interval, with the symbolic end. -/
def boundsCount (start stop : ℕ) (all : UInt32) : ℕ :=
  if stop = u64Max then all.toNat else stop - start

/-- `TextureRangeBoundsTo`: fails on intervals no 32-bit range can name. -/
def textureRangeBoundsTo (bounds : TextureRangeBounds) : Option GpuTaskResourceRange :=
  if bounds.mipEnd ≤ bounds.mipBegin || bounds.arrayEnd ≤ bounds.arrayBegin
      || u32Max < bounds.mipBegin || u32Max < bounds.arrayBegin then none
  else
    let mipCount := boundsCount bounds.mipBegin bounds.mipEnd allMipLevels
    let arrayCount := boundsCount bounds.arrayBegin bounds.arrayEnd allArraySlices
    if mipCount = 0 || arrayCount = 0 || u32Max < mipCount || u32Max < arrayCount
        || (bounds.mipEnd ≠ u64Max && mipCount = allMipLevels.toNat)
        || (bounds.arrayEnd ≠ u64Max && arrayCount = allArraySlices.toNat) then none
    else
      some { textureSubresources :=
        { baseMipLevel := UInt32.ofNat bounds.mipBegin
          numMipLevels := UInt32.ofNat mipCount
          baseArraySlice := UInt32.ofNat bounds.arrayBegin
          numArraySlices := UInt32.ofNat arrayCount } }

/-- `IntersectTextureRangeBounds`. -/
def intersectTextureRangeBounds (lhs rhs : TextureRangeBounds) : Option TextureRangeBounds :=
  let intersection : TextureRangeBounds :=
    { mipBegin := max lhs.mipBegin rhs.mipBegin
      mipEnd := min lhs.mipEnd rhs.mipEnd
      arrayBegin := max lhs.arrayBegin rhs.arrayBegin
      arrayEnd := min lhs.arrayEnd rhs.arrayEnd }
  if intersection.nonempty then some intersection else none

/-- The list `AppendTextureRangeRemainder` appends: at most four rectangles around the cut. -/
def textureRangeRemainder (outer cut : TextureRangeBounds) : List TextureRangeBounds :=
  match intersectTextureRangeBounds outer cut with
  | none => [outer]
  | some intersection =>
      (if outer.mipBegin < intersection.mipBegin then
        [{ mipBegin := outer.mipBegin, mipEnd := intersection.mipBegin,
           arrayBegin := outer.arrayBegin, arrayEnd := outer.arrayEnd }] else [])
      ++ (if intersection.mipEnd < outer.mipEnd then
        [{ mipBegin := intersection.mipEnd, mipEnd := outer.mipEnd,
           arrayBegin := outer.arrayBegin, arrayEnd := outer.arrayEnd }] else [])
      ++ (if outer.arrayBegin < intersection.arrayBegin then
        [{ mipBegin := intersection.mipBegin, mipEnd := intersection.mipEnd,
           arrayBegin := outer.arrayBegin, arrayEnd := intersection.arrayBegin }] else [])
      ++ (if intersection.arrayEnd < outer.arrayEnd then
        [{ mipBegin := intersection.mipBegin, mipEnd := intersection.mipEnd,
           arrayBegin := intersection.arrayEnd, arrayEnd := outer.arrayEnd }] else [])

lemma intersectTextureRangeBounds_covers (a b : TextureRangeBounds) (c : Cell) :
    ((intersectTextureRangeBounds a b).any fun r => r.covers c) = (a.covers c && b.covers c) := by
  rw [Bool.eq_iff_iff, Option.any_eq_true]
  simp only [intersectTextureRangeBounds, TextureRangeBounds.nonempty, Bool.and_eq_true,
    decide_eq_true_eq, TextureRangeBounds.covers_iff]
  constructor
  · rintro ⟨r, hr, hc⟩
    split at hr
    · cases hr
      simp only at hc
      omega
    · cases hr
  · intro h
    rw [if_pos (by omega)]
    refine ⟨_, rfl, ?_⟩
    simp only
    omega

lemma countP_sideRectangle (side : Prop) [Decidable side] (r : TextureRangeBounds) (c : Cell) :
    (if side then [r] else []).countP (fun r => r.covers c)
      = if side ∧ r.covers c = true then 1 else 0 := by
  by_cases hside : side <;> simp [hside, List.countP_cons]

/-- The four side rectangles and the intersection partition the outer rectangle. -/
lemma textureRangeRemainder_count (a b : TextureRangeBounds) (c : Cell) :
    (textureRangeRemainder a b).countP (fun r => r.covers c)
      = if a.covers c && !b.covers c then 1 else 0 := by
  have hinter := intersectTextureRangeBounds_covers a b c
  rw [textureRangeRemainder]
  cases hi : intersectTextureRangeBounds a b with
  | none =>
    rw [hi, Option.any_none] at hinter
    cases ha : a.covers c <;> cases hb : b.covers c <;> simp_all
  | some i =>
    rw [hi, Option.any_some] at hinter
    have hinside : i.covers c = true ↔ a.covers c = true ∧ b.covers c = true := by
      rw [hinter, Bool.and_eq_true]
    have hkept : (a.covers c && !b.covers c) = true ↔
        a.covers c = true ∧ ¬ i.covers c = true := by
      rw [hinside]
      cases a.covers c <;> cases b.covers c <;> simp
    have hsub : i.mipBegin = max a.mipBegin b.mipBegin ∧ i.mipEnd = min a.mipEnd b.mipEnd ∧
        i.arrayBegin = max a.arrayBegin b.arrayBegin ∧ i.arrayEnd = min a.arrayEnd b.arrayEnd ∧
        i.mipBegin < i.mipEnd ∧ i.arrayBegin < i.arrayEnd := by
      simp only [intersectTextureRangeBounds, Option.ite_none_right_eq_some,
        Option.some.injEq] at hi
      obtain ⟨hnonempty, rfl⟩ := hi
      simpa [TextureRangeBounds.nonempty] using hnonempty
    simp only [TextureRangeBounds.covers_iff] at hkept
    obtain ⟨h1, h2, h3, h4, h5, h6⟩ := hsub
    simp only [List.countP_append, countP_sideRectangle, TextureRangeBounds.covers_iff, hkept]
    -- the cell lies left, right, below or above the intersection, or in it, or outside
    split_ifs <;> omega

/-- The rectangles as a region algebra over cells. -/
def textureRegions : RegionOps TextureRangeBounds Cell where
  covers := TextureRangeBounds.covers
  inter := intersectTextureRangeBounds
  remainder := textureRangeRemainder
  inter_covers := intersectTextureRangeBounds_covers
  remainder_count := textureRangeRemainder_count

/-! ## Rectangles and declared ranges -/

lemma UInt32.toNat_ofNat_of_le {n : ℕ} (h : n ≤ u32Max) : (UInt32.ofNat n).toNat = n := by
  have hlt : n < 2 ^ 32 := by
    simp only [u32Max] at h
    omega
  simpa using UInt32.toNat_ofNat_of_lt' hlt

/-- A named rectangle reads back as itself. -/
lemma rangeEnd_ofNat {start stop : ℕ} {all : UInt32}
    (hstart : start ≤ u32Max) (hlt : start < stop)
    (hcount : boundsCount start stop all ≤ u32Max)
    (hsymbolic : stop ≠ u64Max → boundsCount start stop all ≠ all.toNat) :
    rangeEnd (UInt32.ofNat start) (UInt32.ofNat (boundsCount start stop all)) all = stop := by
  unfold rangeEnd
  by_cases hstop : stop = u64Max
  · have : UInt32.ofNat (boundsCount start stop all) = all := by
      simp [boundsCount, hstop]
    rw [if_pos this, hstop]
  · have hne : UInt32.ofNat (boundsCount start stop all) ≠ all := by
      intro h
      apply hsymbolic hstop
      rw [← h, UInt32.toNat_ofNat_of_le hcount, h]
    rw [if_neg hne, UInt32.toNat_ofNat_of_le hcount, UInt32.toNat_ofNat_of_le hstart]
    simp only [boundsCount, hstop, if_false]
    omega

variable {bounds : TextureRangeBounds} {range : GpuTaskResourceRange}

/-- `TextureRangeBoundsTo` writes a range that `TextureRangeBoundsFrom` reads back. -/
theorem textureRangeBoundsFrom_of_to (h : textureRangeBoundsTo bounds = some range) :
    textureRangeBoundsFrom range = some bounds := by
  simp only [textureRangeBoundsTo] at h
  split at h
  · cases h
  next hproper =>
  split at h
  · cases h
  next hcounts =>
  cases h
  simp only [Bool.or_eq_true, decide_eq_true_eq, not_or, not_le, not_lt, Bool.and_eq_true,
    not_and] at hproper hcounts
  obtain ⟨⟨⟨hmip, harray⟩, hmipBegin⟩, harrayBegin⟩ := hproper
  obtain ⟨⟨⟨⟨⟨-, -⟩, hmipCount⟩, harrayCount⟩, hmipSymbolic⟩, harraySymbolic⟩ := hcounts
  have hbounds : textureBounds
      { baseMipLevel := UInt32.ofNat bounds.mipBegin
        numMipLevels := UInt32.ofNat (boundsCount bounds.mipBegin bounds.mipEnd allMipLevels)
        baseArraySlice := UInt32.ofNat bounds.arrayBegin
        numArraySlices :=
          UInt32.ofNat (boundsCount bounds.arrayBegin bounds.arrayEnd allArraySlices) }
      = bounds := by
    simp only [textureBounds]
    rw [rangeEnd_ofNat hmipBegin hmip hmipCount hmipSymbolic,
      rangeEnd_ofNat harrayBegin harray harrayCount harraySymbolic,
      UInt32.toNat_ofNat_of_le hmipBegin, UInt32.toNat_ofNat_of_le harrayBegin]
  simp [textureRangeBoundsFrom, hbounds, TextureRangeBounds.nonempty, hmip, harray]

/-! ## Coverage of declared ranges -/

/-- The cells a planned range names; whole-resource kinds have one cell, under every pair. -/
def rangeCovers (type : GpuGraphResourceType) (range : GpuTaskResourceRange) (c : Cell) : Bool :=
  if type = .texture then (textureBounds range.textureSubresources).covers c else true

lemma rangeCovers_of_boundsFrom (h : textureRangeBoundsFrom range = some bounds) (c : Cell) :
    rangeCovers .texture range c = bounds.covers c := by
  simp only [textureRangeBoundsFrom] at h
  split at h
  · cases h
    simp [rangeCovers]
  · cases h

lemma rangeCovers_of_boundsTo (h : textureRangeBoundsTo bounds = some range) (c : Cell) :
    rangeCovers .texture range c = bounds.covers c :=
  rangeCovers_of_boundsFrom (textureRangeBoundsFrom_of_to h) c

lemma base_lt_rangeEnd {base count all : UInt32} (h : count ≠ 0) :
    base.toNat < rangeEnd base count all := by
  have hbase := base.toNat_lt
  have hcount : count.toNat ≠ 0 := fun hzero => h (UInt32.toNat_inj.1 (by simpa using hzero))
  unfold rangeEnd u64Max
  split <;> omega

/-- A valid declared range is a nonempty rectangle. -/
lemma textureBounds_nonempty {range : TextureSubresourceSet}
    (h : isValidTextureRange range = true) : (textureBounds range).nonempty = true := by
  simp only [isValidTextureRange, Bool.and_eq_true, bne_iff_ne] at h
  simp [TextureRangeBounds.nonempty, textureBounds, base_lt_rangeEnd h.1, base_lt_rangeEnd h.2]

lemma TextureRangeBounds.nonempty_iff {b : TextureRangeBounds} :
    b.nonempty = true ↔ b.mipBegin < b.mipEnd ∧ b.arrayBegin < b.arrayEnd := by
  simp [TextureRangeBounds.nonempty]

variable {type : GpuGraphResourceType}

/-- Containment of declared ranges is containment of cells. -/
lemma rangeCovers_of_rangeContains {outer inner : GpuTaskResourceRange}
    (h : rangeContains type outer inner = true) {c : Cell} (hc : rangeCovers type inner c = true) :
    rangeCovers type outer c = true := by
  by_cases htype : type = .texture
  · subst htype
    simp only [rangeContains, rangeCovers, textureBounds, TextureRangeBounds.covers_iff,
      bne_self_eq_false, Bool.false_eq_true, if_false, if_true, Bool.and_eq_true,
      decide_eq_true_eq, UInt32.le_iff_toNat_le] at h hc ⊢
    omega
  · simp [rangeCovers, htype]

/-- Ranges that share a cell overlap. -/
lemma rangesOverlap_of_common_cell {lhs rhs : GpuTaskResourceRange} {c : Cell}
    (hl : rangeCovers type lhs c = true) (hr : rangeCovers type rhs c = true) :
    rangesOverlap type lhs rhs = true := by
  by_cases htype : type = .texture
  · subst htype
    simp only [rangeCovers, textureBounds, TextureRangeBounds.covers_iff, if_true] at hl hr
    simp only [rangesOverlap, textureRangesOverlap, bne_self_eq_false, Bool.false_eq_true,
      if_false, Bool.and_eq_true, decide_eq_true_eq]
    omega
  · simp [rangesOverlap, htype]

/-- Valid ranges that overlap share a cell. -/
lemma exists_common_cell {lhs rhs : GpuTaskResourceRange}
    (hl : type = .texture → isValidTextureRange lhs.textureSubresources = true)
    (hr : type = .texture → isValidTextureRange rhs.textureSubresources = true)
    (h : rangesOverlap type lhs rhs = true) :
    ∃ c : Cell, rangeCovers type lhs c = true ∧ rangeCovers type rhs c = true := by
  by_cases htype : type = .texture
  · have hleft := TextureRangeBounds.nonempty_iff.1 (textureBounds_nonempty (hl htype))
    have hright := TextureRangeBounds.nonempty_iff.1 (textureBounds_nonempty (hr htype))
    subst htype
    simp only [rangesOverlap, textureRangesOverlap, bne_self_eq_false, Bool.false_eq_true,
      if_false, Bool.and_eq_true, decide_eq_true_eq] at h
    simp only [textureBounds] at hleft hright
    refine ⟨(max lhs.textureSubresources.baseMipLevel.toNat
        rhs.textureSubresources.baseMipLevel.toNat,
      max lhs.textureSubresources.baseArraySlice.toNat
        rhs.textureSubresources.baseArraySlice.toNat), ?_⟩
    simp only [rangeCovers, textureBounds, TextureRangeBounds.covers_iff, if_true]
    omega
  · exact ⟨(0, 0), by simp [rangeCovers, htype]⟩

/-! ## Tracked states -/

/-- One planned use, in planning order. -/
structure TrackedCompiledResourceState where
  resource : GpuGraphResourceId := {}
  range : GpuTaskResourceRange := {}
  state : ResourceStates := ResourceStates.unknown
  access : GpuTaskResourceAccess := .read
  task : GpuTaskId := {}
  queue : GpuPhysicalQueueId := {}
  deriving DecidableEq, Repr, Inhabited

/-- A part of a requested range with the tracked state that owns it; `none` (the sentinel index
and the null pointer of the source) where no tracked state does. -/
structure TrackedTextureStateFragment where
  range : GpuTaskResourceRange := {}
  state : Option TrackedCompiledResourceState := none
  stateIndex : Option ℕ := none
  deriving DecidableEq, Repr, Inhabited

/-! ## The undeclared part of a use -/

/-- The loop of `CollectTextureFirstUseRangesWithinTask` over the previous uses of the task. -/
def subtractPreviousUses (resource : GpuGraphResourceId) (texture : Option TextureDesc) :
    List GpuTaskResourceUse → List TextureRangeBounds → Option (List TextureRangeBounds)
  | [], uncovered => some uncovered
  | previousUse :: rest, uncovered =>
      if uncovered.isEmpty then some uncovered
      else if previousUse.resource ≠ resource then
        subtractPreviousUses resource texture rest uncovered
      else do
        let previousRange ← resolveTextureRangeForPlanning texture previousUse.range
        let previousBounds ← textureRangeBoundsFrom previousRange
        subtractPreviousUses resource texture rest
          (textureRegions.subtract uncovered previousBounds)

/-- `CollectTextureFirstUseRangesWithinTask`. -/
def collectTextureFirstUseRangesWithinTask (previousUses : List GpuTaskResourceUse)
    (resource : GpuGraphResourceId) (texture : Option TextureDesc) (range : GpuTaskResourceRange) :
    Option (List GpuTaskResourceRange) := do
  let requestedBounds ← textureRangeBoundsFrom range
  let uncovered ← subtractPreviousUses resource texture previousUses [requestedBounds]
  uncovered.mapM textureRangeBoundsTo

/-! ## The latest states under a list of ranges -/

/-- The newest-to-oldest loop of `CollectLatestTextureStateFragments`.  The list is reversed and
carries each state's index. -/
def collectLatestFrom (resource : GpuGraphResourceId) :
    List (TrackedCompiledResourceState × ℕ) → List TextureRangeBounds →
      Option (List TrackedTextureStateFragment)
  | [], uncovered => do
      let ranges ← uncovered.mapM textureRangeBoundsTo
      pure (ranges.map fun range => { range })
  | (state, stateIndex) :: older, uncovered =>
      if uncovered.isEmpty then some []
      else if state.resource ≠ resource then collectLatestFrom resource older uncovered
      else do
        let stateBounds ← textureRangeBoundsFrom state.range
        let ranges ← (textureRegions.clip uncovered stateBounds).mapM textureRangeBoundsTo
        let later ← collectLatestFrom resource older (textureRegions.subtract uncovered stateBounds)
        pure (ranges.map (fun range => { range, state := some state, stateIndex := some stateIndex })
          ++ later)

/-- `AppendTextureStateFragmentsInStateOrder`. -/
def textureStateFragmentsInStateOrder (discovered : List TrackedTextureStateFragment)
    (stateCount : ℕ) : List TrackedTextureStateFragment :=
  (List.range stateCount).flatMap
      (fun stateIndex => discovered.filter fun fragment => fragment.stateIndex == some stateIndex)
    ++ discovered.filter fun fragment => fragment.state.isNone

/-- `CollectLatestTextureStateFragments`. -/
def collectLatestTextureStateFragments (trackedStates : List TrackedCompiledResourceState)
    (resource : GpuGraphResourceId) (requestedRanges : List GpuTaskResourceRange) :
    Option (List TrackedTextureStateFragment) := do
  let uncovered ← requestedRanges.mapM textureRangeBoundsFrom
  let discovered ← collectLatestFrom resource trackedStates.zipIdx.reverse uncovered
  pure (textureStateFragmentsInStateOrder discovered trackedStates.length)

/-! ## Terminal states -/

/-- The loop of `CollectTerminalTextureStateFragments`. -/
def collectTerminalFrom (resource : GpuGraphResourceId) :
    List (TrackedCompiledResourceState × ℕ) → List TextureRangeBounds →
      Option (List TrackedTextureStateFragment)
  | [], _ => some []
  | (state, stateIndex) :: older, covered =>
      if state.resource ≠ resource then collectTerminalFrom resource older covered
      else do
        let stateBounds ← textureRangeBoundsFrom state.range
        let ranges ← (textureRegions.subtractAll [stateBounds] covered).mapM textureRangeBoundsTo
        let later ← collectTerminalFrom resource older (covered ++ [stateBounds])
        pure (ranges.map (fun range => { range, state := some state, stateIndex := some stateIndex })
          ++ later)

/-- `CollectTerminalTextureStateFragments`. -/
def collectTerminalTextureStateFragments (trackedStates : List TrackedCompiledResourceState)
    (resource : GpuGraphResourceId) : Option (List TrackedTextureStateFragment) := do
  let discovered ← collectTerminalFrom resource trackedStates.zipIdx.reverse []
  pure (textureStateFragmentsInStateOrder discovered trackedStates.length)

end NwbLot.TaskGraph
