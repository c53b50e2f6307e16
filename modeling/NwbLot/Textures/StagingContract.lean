import NwbLot.Textures.StagingLayouts

/-!
# Places in a staging texture

Every block of a staging texture has a range of the buffer of its own, and a slice of texels spans
the ranges from its first block to its last.
-/

namespace NwbLot.Textures

open Guarded

/-! ## Numbers of two digits -/

lemma radix_lt {high low highs lows : ℕ} (hhigh : high < highs) (hlow : low < lows) :
    high * lows + low < highs * lows := by
  have hnext := Nat.mul_le_mul_right lows (Nat.succ_le_of_lt hhigh)
  rw [Nat.succ_mul] at hnext
  omega

/-- Of two slots of one length, the one with the smaller number ends where the other starts. -/
lemma slot_le {slot slot' length : ℕ} (h : slot < slot') :
    slot * length + length ≤ slot' * length := by
  rw [← Nat.succ_mul]
  exact Nat.mul_le_mul_right length h

lemma radix_inj {high low high' low' lows : ℕ} (hlow : low < lows) (hlow' : low' < lows)
    (h : high * lows + low = high' * lows + low') : high = high' ∧ low = low' := by
  have hpos : 0 < lows := (Nat.zero_le _).trans_lt hlow
  constructor
  · have hdiv := congrArg (· / lows) h
    simpa only [Nat.mul_comm _ lows, Nat.mul_add_div hpos, Nat.div_eq_of_lt hlow,
      Nat.div_eq_of_lt hlow', Nat.add_zero] using hdiv
  · have hmod := congrArg (· % lows) h
    simpa only [Nat.mul_add_mod_self_right, Nat.mod_eq_of_lt hlow, Nat.mod_eq_of_lt hlow']
      using hmod

/-! ## Levels -/

section Levels

variable (desc : TextureDesc) (formatLayout : TextureFormatBlockLayout)

/-- The blocks in a row of a level. -/
def levelColumns (mip : ℕ) : ℕ :=
  blockCount (getTextureMipExtent desc (UInt32.ofNat mip)).width formatLayout.blockWidth

/-- The rows of blocks in a level. -/
def levelRows (mip : ℕ) : ℕ :=
  blockCount (getTextureMipExtent desc (UInt32.ofNat mip)).height formatLayout.blockHeight

/-- The slices of a level. -/
def levelDepth (mip : ℕ) : ℕ := (getTextureMipExtent desc (UInt32.ofNat mip)).depth

/-- The blocks of a level, in bytes. -/
def levelSize (mip : ℕ) : ℕ :=
  levelDepth desc mip * levelRows desc formatLayout mip * levelColumns desc formatLayout mip *
    formatLayout.bytesPerBlock

/-- The pitches of a level. -/
structure Level (mip : ℕ) (layout : StagingTextureMipLayout) : Prop where
  rowPitch_eq : layout.rowPitch = levelColumns desc formatLayout mip * formatLayout.bytesPerBlock
  slicePitch_eq : layout.slicePitch = levelRows desc formatLayout mip *
    levelColumns desc formatLayout mip * formatLayout.bytesPerBlock

/-- Levels one behind the other below a size. -/
structure StagingLevels (size : ℕ) (layouts : List StagingTextureMipLayout) : Prop where
  size_lt : size < 2 ^ 64
  level : ∀ (mip : ℕ) layout, layouts[mip]? = some layout → Level desc formatLayout mip layout
  inside : ∀ (mip : ℕ) layout, layouts[mip]? = some layout →
    layout.byteOffset + levelSize desc formatLayout mip ≤ size
  apart : ∀ (mip mip' : ℕ) layout layout', layouts[mip]? = some layout →
    layouts[mip']? = some layout' → mip < mip' →
      layout.byteOffset + levelSize desc formatLayout mip ≤ layout'.byteOffset

variable {desc formatLayout}

lemma StagingLevels.snoc {size next : ℕ} {layouts : List StagingTextureMipLayout}
    {layout : StagingTextureMipLayout} (h : StagingLevels desc formatLayout size layouts)
    (hlevel : Level desc formatLayout layouts.length layout)
    (hnext : size + levelSize desc formatLayout layouts.length ≤ next) (hbound : next < 2 ^ 64) :
    StagingLevels desc formatLayout next (layouts ++ [{ layout with byteOffset := size }]) := by
  have hcases : ∀ (mip : ℕ) found,
      (layouts ++ [{ layout with byteOffset := size }])[mip]? = some found →
        layouts[mip]? = some found ∨
          mip = layouts.length ∧ found = { layout with byteOffset := size } := by
    intro mip found hfound
    rcases lt_or_ge mip layouts.length with hlt | hge
    · rw [List.getElem?_append_left hlt] at hfound
      exact Or.inl hfound
    · rw [List.getElem?_append_right hge] at hfound
      obtain ⟨hlast, hlayout⟩ := List.getElem?_eq_some_iff.1 hfound
      rw [List.length_singleton] at hlast
      have hmip : mip = layouts.length := by omega
      subst hmip
      refine Or.inr ⟨rfl, ?_⟩
      rw [← hlayout]
      simp
  refine ⟨hbound, fun mip found hfound => ?_, fun mip found hfound => ?_,
    fun mip mip' found found' hfound hfound' hlt => ?_⟩
  · rcases hcases mip found hfound with hold | ⟨rfl, rfl⟩
    · exact h.level mip found hold
    · exact ⟨hlevel.rowPitch_eq, hlevel.slicePitch_eq⟩
  · rcases hcases mip found hfound with hold | ⟨rfl, rfl⟩
    · have hinside := h.inside mip found hold
      omega
    · exact hnext
  · rcases hcases mip' found' hfound' with hold' | ⟨rfl, rfl⟩
    · rcases hcases mip found hfound with hold | ⟨rfl, rfl⟩
      · exact h.apart mip mip' found found' hold hold' hlt
      · have hlt' := (List.getElem?_eq_some_iff.1 hold').1
        omega
    · rcases hcases mip found hfound with hold | ⟨rfl, rfl⟩
      · exact h.inside mip found hold
      · exact absurd hlt (lt_irrefl _)

/-! ## The loops -/

lemma max_blockCount (length block : ℕ) :
    max (blockCount length block) 1 = blockCount length block :=
  max_eq_left (Nat.le_add_right 1 _)

lemma buildStagingTextureMipLayout_spec (hlayout : formatLayout.Proper) (mip : ℕ) :
    Satisfies (buildStagingTextureMipLayout desc formatLayout (UInt32.ofNat mip))
      fun result => ∀ layout size, result = some (layout, size) →
        Level desc formatLayout mip layout ∧ size = levelSize desc formatLayout mip ∧
          size < 2 ^ 64 := by
  have hextent := proper_getTextureMipExtent desc (UInt32.ofNat mip)
  have hcolumns : blockCount (getTextureMipExtent desc (UInt32.ofNat mip)).width
      formatLayout.blockWidth = levelColumns desc formatLayout mip := rfl
  have hrows : blockCount (getTextureMipExtent desc (UInt32.ofNat mip)).height
      formatLayout.blockHeight = levelRows desc formatLayout mip := rfl
  have hdepth : (getTextureMipExtent desc (UInt32.ofNat mip)).depth = levelDepth desc mip := rfl
  have hcolumnsLt : levelColumns desc formatLayout mip < 2 ^ 32 :=
    (blockCount_le _ hextent.width_pos).trans_lt hextent.width_lt
  have hrowsLt : levelRows desc formatLayout mip < 2 ^ 32 :=
    (blockCount_le _ hextent.height_pos).trans_lt hextent.height_lt
  -- every factor but the blocks of a slice is of 32 bits
  have hproduct : ∀ {a b : ℕ}, a < 2 ^ 32 → b < 2 ^ 8 → a * b < 2 ^ 64 := by
    intro a b ha hb
    exact (Nat.mul_lt_mul'' ha hb).trans (by decide)
  unfold buildStagingTextureMipLayout
  dsimp only
  rw [divideUp_eq hextent.width_pos hlayout.blockWidth_pos.ne'
      (hextent.width_lt.trans (by decide)), ok_bind,
    divideUp_eq hextent.height_pos hlayout.blockHeight_pos.ne'
      (hextent.height_lt.trans (by decide)), ok_bind, max_blockCount, max_blockCount, hcolumns,
    hrows, hdepth]
  refine satisfies_ite (fun _ => satisfies_ok nofun) fun hblocks => ?_
  rw [Guarded.mul_eq (hproduct hcolumnsLt hlayout.blockWidth_lt), ok_bind,
    Guarded.mul_eq (hproduct hrowsLt hlayout.blockHeight_lt), ok_bind]
  refine satisfies_ite (fun _ => satisfies_ok nofun) fun _ => ?_
  rw [Guarded.mul_eq (mul_le_of_not_gt hblocks), ok_bind]
  refine satisfies_ite (fun _ => satisfies_ok nofun) fun hslice => ?_
  rw [Guarded.mul_eq (hproduct hcolumnsLt hlayout.bytesPerBlock_lt), ok_bind,
    Guarded.mul_eq (mul_le_of_not_gt hslice), ok_bind]
  refine satisfies_ite (fun _ => satisfies_ok nofun) fun hlevel => ?_
  have hsize := mul_le_of_not_gt hlevel
  rw [Nat.mul_comm] at hsize
  rw [Guarded.mul_eq hsize, ok_bind]
  refine satisfies_ok fun layout size heq => ?_
  obtain ⟨rfl, rfl⟩ := Prod.mk.inj (Option.some.inj heq)
  refine ⟨⟨rfl, ?_⟩, ?_, hsize⟩
  · exact congrArg (· * formatLayout.bytesPerBlock) (Nat.mul_comm _ _)
  · rw [levelSize, Nat.mul_assoc (levelDepth desc mip),
      Nat.mul_comm (levelRows desc formatLayout mip), Nat.mul_assoc (levelDepth desc mip),
      Nat.mul_comm (levelDepth desc mip)]

lemma addAlignedStagingMipSize_spec {size mipSize : ℕ} (hmipSize : mipSize < 2 ^ 64) :
    Satisfies (addAlignedStagingMipSize size mipSize)
      fun result => ∀ next, result = some next → size + mipSize ≤ next ∧ next < 2 ^ 64 := by
  have hnone : ∀ next, (none : Option ℕ) = some next → size + mipSize ≤ next ∧ next < 2 ^ 64 :=
    fun next heq => absurd heq.symm (Option.some_ne_none next)
  unfold addAlignedStagingMipSize
  rw [Guarded.sub_eq (by rw [u64Max]; omega), ok_bind]
  refine satisfies_ite (fun _ => satisfies_ok hnone) fun hroom => ?_
  rw [u64Max] at hroom
  rw [Guarded.add_eq (by omega), ok_bind, alignUpU64Checked, if_neg (by decide)]
  refine satisfies_ite (fun _ => satisfies_ok fun next heq => ?_) fun _ => ?_
  · obtain rfl := Option.some.inj heq
    omega
  have hremainder : (size + mipSize) % bufferAlignmentBytes < 4 := Nat.mod_lt _ (by decide)
  rw [bufferAlignmentBytes] at hremainder ⊢
  rw [Guarded.sub_eq hremainder.le, ok_bind, Guarded.sub_eq (by rw [u64Max]; omega), ok_bind]
  refine satisfies_ite (fun _ => satisfies_ok hnone) fun hlast => ?_
  rw [u64Max] at hlast
  rw [Guarded.add_eq (by omega), ok_bind]
  refine satisfies_ok fun next heq => ?_
  obtain rfl := Option.some.inj heq
  omega

lemma stagingMipLayouts_spec (hlayout : formatLayout.Proper) (remaining mip size : ℕ)
    (layouts : List StagingTextureMipLayout) (h : StagingLevels desc formatLayout size layouts)
    (hlength : layouts.length = mip) :
    Satisfies (stagingMipLayouts desc formatLayout remaining mip size layouts)
      fun result => ∀ arrayByteSize mipLayouts, result = some (arrayByteSize, mipLayouts) →
        StagingLevels desc formatLayout arrayByteSize mipLayouts ∧
          mipLayouts.length = mip + remaining := by
  induction remaining generalizing mip size layouts with
  | zero =>
    refine satisfies_ok fun arrayByteSize mipLayouts heq => ?_
    obtain ⟨rfl, rfl⟩ := Prod.mk.inj (Option.some.inj heq)
    exact ⟨h, hlength⟩
  | succ remaining ih =>
    rw [stagingMipLayouts]
    refine (buildStagingTextureMipLayout_spec hlayout mip).bind fun result hresult => ?_
    cases result with
    | none => exact satisfies_ok fun _ _ heq => nomatch heq
    | some built =>
      obtain ⟨layout, mipSize⟩ := built
      obtain ⟨hlevel, hmipSize, hbound⟩ := hresult layout mipSize rfl
      refine (addAlignedStagingMipSize_spec hbound).bind fun result hresult => ?_
      cases result with
      | none => exact satisfies_ok fun _ _ heq => nomatch heq
      | some next =>
        obtain ⟨hnext, hnextBound⟩ := hresult next rfl
        rw [hmipSize, ← hlength] at hnext
        have hih := ih (mip + 1) next _ (h.snoc (hlength ▸ hlevel) hnext hnextBound)
          (by rw [List.length_append, hlength]; rfl)
        refine hih.mono fun result hresult arrayByteSize mipLayouts heq => ?_
        obtain ⟨hlevels, hcount⟩ := hresult arrayByteSize mipLayouts heq
        exact ⟨hlevels, by omega⟩

/-- The levels of a texture follow one another inside an array element, and building them does not
wrap. -/
theorem buildStagingTextureLayout_spec (hlayout : formatLayout.Proper) :
    Satisfies (buildStagingTextureLayout desc formatLayout)
      fun result => ∀ arrayByteSize mipLayouts, result = some (arrayByteSize, mipLayouts) →
        StagingLevels desc formatLayout arrayByteSize mipLayouts ∧
          mipLayouts.length = desc.mipLevels.toNat := by
  refine satisfies_ite (fun _ => satisfies_ok nofun) fun _ => ?_
  have hempty : StagingLevels desc formatLayout 0 [] :=
    ⟨by decide, nofun, nofun, nofun⟩
  refine (stagingMipLayouts_spec hlayout desc.mipLevels.toNat 0 0 [] hempty rfl).mono
    fun result hresult arrayByteSize mipLayouts heq => ?_
  rw [Nat.zero_add] at hresult
  exact hresult arrayByteSize mipLayouts heq

end Levels

/-! ## Blocks -/

/-- A block of a texture. -/
structure StagingBlock where
  arraySlice : ℕ
  mip : ℕ
  z : ℕ
  row : ℕ
  column : ℕ
  deriving DecidableEq

namespace StagingBlock

variable {desc : TextureDesc} {formatLayout : TextureFormatBlockLayout}

/-- The block lies in the texture. -/
structure InTexture (desc : TextureDesc) (formatLayout : TextureFormatBlockLayout)
    (block : StagingBlock) : Prop where
  arraySlice_lt : block.arraySlice < desc.arraySize.toNat
  mip_lt : block.mip < desc.mipLevels.toNat
  z_lt : block.z < levelDepth desc block.mip
  row_lt : block.row < levelRows desc formatLayout block.mip
  column_lt : block.column < levelColumns desc formatLayout block.mip

/-- Where the pitches put a block. -/
def address (formatLayout : TextureFormatBlockLayout) (arrayByteSize : ℕ)
    (mipLayout : StagingTextureMipLayout) (block : StagingBlock) : ℕ :=
  block.arraySlice * arrayByteSize + mipLayout.byteOffset
    + (block.z * mipLayout.slicePitch + block.row * mipLayout.rowPitch
      + block.column * formatLayout.bytesPerBlock)

/-- The number of a block in its level. -/
def place (desc : TextureDesc) (formatLayout : TextureFormatBlockLayout) (block : StagingBlock) :
    ℕ :=
  (block.z * levelRows desc formatLayout block.mip + block.row)
    * levelColumns desc formatLayout block.mip + block.column

variable {block : StagingBlock}

lemma address_eq {mipLayout : StagingTextureMipLayout}
    (h : Level desc formatLayout block.mip mipLayout) (arrayByteSize : ℕ) :
    block.address formatLayout arrayByteSize mipLayout
      = block.arraySlice * arrayByteSize + mipLayout.byteOffset
        + block.place desc formatLayout * formatLayout.bytesPerBlock := by
  rw [address, place, h.slicePitch_eq, h.rowPitch_eq, Nat.add_mul (_ * _), Nat.add_mul (_ * _),
    Nat.add_mul (_ * _)]
  simp only [Nat.mul_assoc]

lemma InTexture.place_lt (h : block.InTexture desc formatLayout) :
    block.place desc formatLayout < levelDepth desc block.mip *
      levelRows desc formatLayout block.mip * levelColumns desc formatLayout block.mip :=
  radix_lt (radix_lt h.z_lt h.row_lt) h.column_lt

lemma InTexture.place_end (h : block.InTexture desc formatLayout) :
    block.place desc formatLayout * formatLayout.bytesPerBlock + formatLayout.bytesPerBlock
      ≤ levelSize desc formatLayout block.mip :=
  slot_le h.place_lt

lemma InTexture.place_inj {block' : StagingBlock} (h : block.InTexture desc formatLayout)
    (h' : block'.InTexture desc formatLayout) (hslice : block.arraySlice = block'.arraySlice)
    (hmip : block.mip = block'.mip)
    (hplace : block.place desc formatLayout = block'.place desc formatLayout) : block = block' := by
  obtain ⟨arraySlice, mip, z, row, column⟩ := block
  obtain ⟨arraySlice', mip', z', row', column'⟩ := block'
  obtain rfl : arraySlice = arraySlice' := hslice
  obtain rfl : mip = mip' := hmip
  obtain ⟨hrow, hcolumn⟩ := radix_inj h.column_lt h'.column_lt hplace
  obtain ⟨hz, hrow⟩ := radix_inj h.row_lt h'.row_lt hrow
  obtain rfl : z = z' := hz
  obtain rfl : row = row' := hrow
  obtain rfl : column = column' := hcolumn
  rfl

end StagingBlock

section Placed

variable {desc : TextureDesc} {formatLayout : TextureFormatBlockLayout} {arrayByteSize : ℕ}
  {mipLayouts : List StagingTextureMipLayout}

/-- A block is inside its level, its level inside its array element, and the element inside the
buffer. -/
lemma StagingLevels.block_le (h : StagingLevels desc formatLayout arrayByteSize mipLayouts)
    {block : StagingBlock} (hblock : block.InTexture desc formatLayout)
    {mipLayout : StagingTextureMipLayout} (hmip : mipLayouts[block.mip]? = some mipLayout) :
    block.arraySlice * arrayByteSize + mipLayout.byteOffset
        ≤ block.address formatLayout arrayByteSize mipLayout ∧
      block.address formatLayout arrayByteSize mipLayout + formatLayout.bytesPerBlock
        ≤ block.arraySlice * arrayByteSize + mipLayout.byteOffset
          + levelSize desc formatLayout block.mip ∧
      block.arraySlice * arrayByteSize + arrayByteSize ≤ desc.arraySize.toNat * arrayByteSize := by
  have hend := hblock.place_end
  rw [StagingBlock.address_eq (h.level _ _ hmip)]
  exact ⟨Nat.le_add_right _ _, by omega, slot_le hblock.arraySlice_lt⟩

/-- Different blocks have ranges of their own. -/
lemma StagingLevels.apart_of_ne (h : StagingLevels desc formatLayout arrayByteSize mipLayouts)
    {block block' : StagingBlock} (hblock : block.InTexture desc formatLayout)
    (hblock' : block'.InTexture desc formatLayout) (hne : block ≠ block')
    {mipLayout mipLayout' : StagingTextureMipLayout}
    (hmip : mipLayouts[block.mip]? = some mipLayout)
    (hmip' : mipLayouts[block'.mip]? = some mipLayout') :
    block.address formatLayout arrayByteSize mipLayout + formatLayout.bytesPerBlock
        ≤ block'.address formatLayout arrayByteSize mipLayout' ∨
      block'.address formatLayout arrayByteSize mipLayout' + formatLayout.bytesPerBlock
        ≤ block.address formatLayout arrayByteSize mipLayout := by
  have hend := hblock.place_end
  have hend' := hblock'.place_end
  have hinside := h.inside _ _ hmip
  have hinside' := h.inside _ _ hmip'
  rw [StagingBlock.address_eq (h.level _ _ hmip), StagingBlock.address_eq (h.level _ _ hmip')]
  rcases lt_trichotomy block.arraySlice block'.arraySlice with hlt | heq | hlt
  · have hslot := @slot_le _ _ arrayByteSize hlt
    exact Or.inl (by omega)
  · rw [heq]
    rcases lt_trichotomy block.mip block'.mip with hlt | hlevel | hlt
    · have hapart := h.apart _ _ _ _ hmip hmip' hlt
      exact Or.inl (by omega)
    · rw [hlevel] at hmip
      obtain rfl := Option.some.inj (hmip.symm.trans hmip')
      rcases lt_trichotomy (block.place desc formatLayout) (block'.place desc formatLayout)
        with hlt | hplace | hlt
      · have hslot := @slot_le _ _ formatLayout.bytesPerBlock hlt
        exact Or.inl (by omega)
      · exact absurd (hblock.place_inj hblock' heq hlevel hplace) hne
      · have hslot := @slot_le _ _ formatLayout.bytesPerBlock hlt
        exact Or.inr (by omega)
    · have hapart := h.apart _ _ _ _ hmip' hmip hlt
      exact Or.inr (by omega)
  · have hslot := @slot_le _ _ arrayByteSize hlt
    exact Or.inr (by omega)

end Placed

/-! ## Slices -/

namespace ResolvedSlice

/-- A slice of texels that starts with a block of a texture and ends in it. -/
structure InTexture (desc : TextureDesc) (formatLayout : TextureFormatBlockLayout)
    (slice : ResolvedSlice) : Prop where
  mipLevel_lt : slice.mipLevel < desc.mipLevels
  arraySlice_lt : slice.arraySlice < desc.arraySize
  width_pos : 0 < slice.width
  height_pos : 0 < slice.height
  depth_pos : 0 < slice.depth
  width_le : slice.x + slice.width ≤ (getTextureMipExtent desc slice.mipLevel).width
  height_le : slice.y + slice.height ≤ (getTextureMipExtent desc slice.mipLevel).height
  depth_le : slice.z + slice.depth ≤ (getTextureMipExtent desc slice.mipLevel).depth
  column_mod : slice.x % formatLayout.blockWidth = 0
  row_mod : slice.y % formatLayout.blockHeight = 0

/-- The block of a texel. -/
def blockAt (formatLayout : TextureFormatBlockLayout) (slice : ResolvedSlice) (x y z : ℕ) :
    StagingBlock where
  arraySlice := slice.arraySlice.toNat
  mip := slice.mipLevel.toNat
  z
  row := y / formatLayout.blockHeight
  column := x / formatLayout.blockWidth

/-- The first block of a slice. -/
def firstBlock (formatLayout : TextureFormatBlockLayout) (slice : ResolvedSlice) : StagingBlock :=
  slice.blockAt formatLayout slice.x slice.y slice.z

/-- The last block of a slice. -/
def lastBlock (formatLayout : TextureFormatBlockLayout) (slice : ResolvedSlice) : StagingBlock :=
  slice.blockAt formatLayout (slice.x + slice.width - 1) (slice.y + slice.height - 1)
    (slice.z + slice.depth - 1)

variable {desc : TextureDesc} {formatLayout : TextureFormatBlockLayout} {slice : ResolvedSlice}

lemma InTexture.blockAt (h : slice.InTexture desc formatLayout) {x y z : ℕ}
    (hx : x < slice.x + slice.width) (hy : y < slice.y + slice.height)
    (hz : z < slice.z + slice.depth) :
    (slice.blockAt formatLayout x y z).InTexture desc formatLayout := by
  have hlevel : UInt32.ofNat slice.mipLevel.toNat = slice.mipLevel := UInt32.ofNat_toNat
  refine ⟨UInt32.lt_iff_toNat_lt.1 h.arraySlice_lt, UInt32.lt_iff_toNat_lt.1 h.mipLevel_lt, ?_, ?_,
    ?_⟩
  · show z < (getTextureMipExtent desc (UInt32.ofNat slice.mipLevel.toNat)).depth
    rw [hlevel]
    exact hz.trans_le h.depth_le
  · show y / formatLayout.blockHeight < blockCount
      (getTextureMipExtent desc (UInt32.ofNat slice.mipLevel.toNat)).height formatLayout.blockHeight
    rw [hlevel]
    exact div_lt_blockCount _ (hy.trans_le h.height_le)
  · show x / formatLayout.blockWidth < blockCount
      (getTextureMipExtent desc (UInt32.ofNat slice.mipLevel.toNat)).width formatLayout.blockWidth
    rw [hlevel]
    exact div_lt_blockCount _ (hx.trans_le h.width_le)

/-- The last block of a stretch, counted from its first. -/
lemma div_last {place extent block : ℕ} (hblock : 0 < block) (hplace : place % block = 0)
    (hextent : 0 < extent) :
    (place + extent - 1) / block = place / block + (blockCount extent block - 1) := by
  have hsum : place + extent - 1 = block * (place / block) + (extent - 1) := by
    rw [Nat.mul_div_cancel' (Nat.dvd_of_mod_eq_zero hplace)]
    omega
  rw [hsum, Nat.mul_add_div hblock, blockCount, Nat.add_sub_cancel_left]

end ResolvedSlice

/-- The address grows with the texel. -/
lemma ResolvedSlice.address_blockAt_mono (formatLayout : TextureFormatBlockLayout)
    (slice : ResolvedSlice) {x y z x' y' z' : ℕ} (hx : x ≤ x') (hy : y ≤ y') (hz : z ≤ z')
    (arrayByteSize : ℕ) (mipLayout : StagingTextureMipLayout) :
    (slice.blockAt formatLayout x y z).address formatLayout arrayByteSize mipLayout
      ≤ (slice.blockAt formatLayout x' y' z').address formatLayout arrayByteSize mipLayout := by
  have hrow : y / formatLayout.blockHeight ≤ y' / formatLayout.blockHeight :=
    Nat.div_le_div_right hy
  have hcolumn : x / formatLayout.blockWidth ≤ x' / formatLayout.blockWidth :=
    Nat.div_le_div_right hx
  exact Nat.add_le_add_left (Nat.add_le_add (Nat.add_le_add (Nat.mul_le_mul_right _ hz)
    (Nat.mul_le_mul_right _ hrow)) (Nat.mul_le_mul_right _ hcolumn)) _

variable {desc : TextureDesc} {formatLayout : TextureFormatBlockLayout}

lemma resolveTextureSliceInBounds_spec {slice : TextureSlice} {resolved : ResolvedSlice}
    (h : resolveTextureSliceInBounds desc slice formatLayout = some resolved) :
    resolved.InTexture desc formatLayout := by
  unfold resolveTextureSliceInBounds at h
  obtain ⟨hmips, h⟩ := Option.ite_none_left_eq_some.1 h
  obtain ⟨hslices, h⟩ := Option.ite_none_left_eq_some.1 h
  obtain ⟨-, h⟩ := Option.ite_none_left_eq_some.1 h
  obtain ⟨hsizes, h⟩ := Option.ite_none_left_eq_some.1 h
  obtain ⟨hwidth, h⟩ := Option.ite_none_left_eq_some.1 h
  obtain ⟨hheight, h⟩ := Option.ite_none_left_eq_some.1 h
  obtain ⟨hdepth, h⟩ := Option.ite_none_left_eq_some.1 h
  obtain ⟨hblocks, h⟩ := Option.ite_none_left_eq_some.1 h
  obtain ⟨-, h⟩ := Option.ite_none_left_eq_some.1 h
  obtain ⟨-, h⟩ := Option.ite_none_left_eq_some.1 h
  obtain rfl := Option.some.inj h
  simp only [not_or, not_lt, not_not] at hmips hslices hsizes hwidth hheight hdepth hblocks
  have hfits : ∀ {place extent length : ℕ}, place ≤ length → extent ≤ length - place →
      place + extent ≤ length := by
    omega
  exact ⟨UInt32.not_le.1 hmips.2, UInt32.not_le.1 hslices.2, Nat.pos_of_ne_zero hsizes.1,
    Nat.pos_of_ne_zero hsizes.2.1, Nat.pos_of_ne_zero hsizes.2.2,
    hfits hwidth.1 hwidth.2, hfits hheight.1 hheight.2, hfits hdepth.1 hdepth.2, hblocks.1,
    hblocks.2⟩

variable {slice : ResolvedSlice}

/-- The place of a slice, where the end of its last block is a 64-bit number. -/
lemma computeStagingTextureOffset_eq {arrayByteSize : ℕ} {mipLayout : StagingTextureMipLayout}
    (hlayout : formatLayout.Proper) (hwidth : 0 < slice.width) (hwidthLt : slice.width < 2 ^ 64)
    (hheight : 0 < slice.height) (hheightLt : slice.height < 2 ^ 64) (hdepth : 0 < slice.depth)
    (h : slice.arraySlice.toNat * arrayByteSize + mipLayout.byteOffset
      + (slice.z * mipLayout.slicePitch + (slice.depth - 1) * mipLayout.slicePitch
        + (slice.y / formatLayout.blockHeight * mipLayout.rowPitch
          + (blockCount slice.height formatLayout.blockHeight - 1) * mipLayout.rowPitch)
        + (slice.x / formatLayout.blockWidth * formatLayout.bytesPerBlock
          + blockCount slice.width formatLayout.blockWidth * formatLayout.bytesPerBlock))
      < 2 ^ 64) :
    computeStagingTextureOffset slice mipLayout formatLayout arrayByteSize = .ok {
      offset := (slice.firstBlock formatLayout).address formatLayout arrayByteSize mipLayout
      rowPitch := mipLayout.rowPitch
      bufferRowLength := mipLayout.bufferRowLength
      bufferImageHeight := mipLayout.bufferImageHeight
      rangeSize := (slice.depth - 1) * mipLayout.slicePitch
        + (blockCount slice.height formatLayout.blockHeight - 1) * mipLayout.rowPitch
        + blockCount slice.width formatLayout.blockWidth * formatLayout.bytesPerBlock } := by
  have hcount : 1 ≤ blockCount slice.height formatLayout.blockHeight := Nat.le_add_right 1 _
  have hstart : mipLayout.byteOffset + slice.arraySlice.toNat * arrayByteSize
      + (slice.z * mipLayout.slicePitch + slice.y / formatLayout.blockHeight * mipLayout.rowPitch
        + slice.x / formatLayout.blockWidth * formatLayout.bytesPerBlock)
      = (slice.firstBlock formatLayout).address formatLayout arrayByteSize mipLayout :=
    congrArg (· + _) (Nat.add_comm _ _)
  unfold computeStagingTextureOffset
  rw [Nat.mul_comm] at h
  rw [Guarded.mul_eq (by omega), ok_bind, Guarded.add_eq (by omega), ok_bind,
    divideUp_eq hwidth hlayout.blockWidth_pos.ne' hwidthLt, ok_bind,
    divideUp_eq hheight hlayout.blockHeight_pos.ne' hheightLt, ok_bind]
  dsimp only
  rw [max_blockCount, max_blockCount, Guarded.sub_eq (by omega : 1 ≤ slice.depth), ok_bind,
    Guarded.mul_eq (by omega), ok_bind, Guarded.sub_eq hcount, ok_bind,
    Guarded.mul_eq (by omega), ok_bind, Guarded.mul_eq (by omega), ok_bind,
    Guarded.add_eq (by omega), ok_bind, Guarded.add_eq (by omega), ok_bind,
    Guarded.mul_eq (by omega), ok_bind, Guarded.mul_eq (by omega), ok_bind,
    Guarded.mul_eq (by omega), ok_bind, Guarded.add_eq (by omega), ok_bind,
    Guarded.add_eq (by omega), ok_bind, Guarded.add_eq (by omega), ok_bind,
    Nat.mul_comm arrayByteSize, hstart]
  rfl

/-- The end of the last block of a slice. -/
lemma ResolvedSlice.InTexture.lastBlock_end (h : slice.InTexture desc formatLayout)
    (hlayout : formatLayout.Proper) (arrayByteSize : ℕ) (mipLayout : StagingTextureMipLayout) :
    (slice.lastBlock formatLayout).address formatLayout arrayByteSize mipLayout
        + formatLayout.bytesPerBlock
      = slice.arraySlice.toNat * arrayByteSize + mipLayout.byteOffset
        + (slice.z * mipLayout.slicePitch + (slice.depth - 1) * mipLayout.slicePitch
          + (slice.y / formatLayout.blockHeight * mipLayout.rowPitch
            + (blockCount slice.height formatLayout.blockHeight - 1) * mipLayout.rowPitch)
          + (slice.x / formatLayout.blockWidth * formatLayout.bytesPerBlock
            + blockCount slice.width formatLayout.blockWidth * formatLayout.bytesPerBlock)) := by
  have hz : slice.z + slice.depth - 1 = slice.z + (slice.depth - 1) :=
    Nat.add_sub_assoc h.depth_pos _
  have hrow := div_last hlayout.blockHeight_pos h.row_mod h.height_pos
  have hcolumn := div_last hlayout.blockWidth_pos h.column_mod h.width_pos
  have hcount : blockCount slice.width formatLayout.blockWidth - 1 + 1
      = blockCount slice.width formatLayout.blockWidth :=
    Nat.sub_add_cancel (Nat.le_add_right 1 _)
  have hcolumns : (blockCount slice.width formatLayout.blockWidth - 1) * formatLayout.bytesPerBlock
      + formatLayout.bytesPerBlock
      = blockCount slice.width formatLayout.blockWidth * formatLayout.bytesPerBlock := by
    rw [← Nat.succ_mul, Nat.succ_eq_add_one, hcount]
  rw [← hcolumns]
  show slice.arraySlice.toNat * arrayByteSize + mipLayout.byteOffset
    + ((slice.z + slice.depth - 1) * mipLayout.slicePitch
      + (slice.y + slice.height - 1) / formatLayout.blockHeight * mipLayout.rowPitch
      + (slice.x + slice.width - 1) / formatLayout.blockWidth * formatLayout.bytesPerBlock)
    + formatLayout.bytesPerBlock = _
  rw [hz, hrow, hcolumn, Nat.add_mul, Nat.add_mul, Nat.add_mul]
  simp only [Nat.add_assoc]

/-- A range of a staging buffer goes from the first block of a slice to the end of its last one,
over every block of the slice and inside its level of its array element. -/
structure StagingTextureRange.Covers (desc : TextureDesc) (formatLayout : TextureFormatBlockLayout)
    (arrayByteSize : ℕ) (mipLayout : StagingTextureMipLayout) (slice : ResolvedSlice)
    (range : StagingTextureRange) : Prop where
  first_eq : range.offset =
    (slice.firstBlock formatLayout).address formatLayout arrayByteSize mipLayout
  last_eq : range.offset + range.rangeSize =
    (slice.lastBlock formatLayout).address formatLayout arrayByteSize mipLayout
      + formatLayout.bytesPerBlock
  between : ∀ x y z, slice.x ≤ x → x < slice.x + slice.width → slice.y ≤ y →
    y < slice.y + slice.height → slice.z ≤ z → z < slice.z + slice.depth →
      range.offset
          ≤ (slice.blockAt formatLayout x y z).address formatLayout arrayByteSize mipLayout ∧
        (slice.blockAt formatLayout x y z).address formatLayout arrayByteSize mipLayout
          + formatLayout.bytesPerBlock ≤ range.offset + range.rangeSize
  level_le : slice.arraySlice.toNat * arrayByteSize + mipLayout.byteOffset ≤ range.offset
  le_level : range.offset + range.rangeSize ≤ slice.arraySlice.toNat * arrayByteSize
    + mipLayout.byteOffset + levelSize desc formatLayout slice.mipLevel.toNat
  element_le : mipLayout.byteOffset + levelSize desc formatLayout slice.mipLevel.toNat
    ≤ arrayByteSize

theorem computeStagingTextureOffset_spec {arrayByteSize : ℕ}
    {mipLayouts : List StagingTextureMipLayout} {mipLayout : StagingTextureMipLayout}
    (hlayout : formatLayout.Proper)
    (hlevels : StagingLevels desc formatLayout arrayByteSize mipLayouts)
    (htotal : desc.arraySize.toNat * arrayByteSize < 2 ^ 64)
    (hslice : slice.InTexture desc formatLayout)
    (hmip : mipLayouts[slice.mipLevel.toNat]? = some mipLayout) :
    Satisfies (computeStagingTextureOffset slice mipLayout formatLayout arrayByteSize)
      (StagingTextureRange.Covers desc formatLayout arrayByteSize mipLayout slice) := by
  have hextent := proper_getTextureMipExtent desc slice.mipLevel
  have hfirst : (slice.firstBlock formatLayout).InTexture desc formatLayout :=
    hslice.blockAt (Nat.lt_add_of_pos_right hslice.width_pos)
      (Nat.lt_add_of_pos_right hslice.height_pos) (Nat.lt_add_of_pos_right hslice.depth_pos)
  have hlast : (slice.lastBlock formatLayout).InTexture desc formatLayout :=
    hslice.blockAt (Nat.sub_one_lt (Nat.add_pos_right _ hslice.width_pos).ne')
      (Nat.sub_one_lt (Nat.add_pos_right _ hslice.height_pos).ne')
      (Nat.sub_one_lt (Nat.add_pos_right _ hslice.depth_pos).ne')
  obtain ⟨hlevelLe, -, helement⟩ := hlevels.block_le hfirst hmip
  obtain ⟨-, hleLevel, -⟩ := hlevels.block_le hlast hmip
  have hinside := hlevels.inside _ _ hmip
  have hend := hslice.lastBlock_end hlayout arrayByteSize mipLayout
  have hbound : (slice.lastBlock formatLayout).address formatLayout arrayByteSize mipLayout
      + formatLayout.bytesPerBlock < 2 ^ 64 :=
    calc (slice.lastBlock formatLayout).address formatLayout arrayByteSize mipLayout
          + formatLayout.bytesPerBlock
        ≤ slice.arraySlice.toNat * arrayByteSize + mipLayout.byteOffset
          + levelSize desc formatLayout slice.mipLevel.toNat := hleLevel
      _ ≤ slice.arraySlice.toNat * arrayByteSize + arrayByteSize := by
          rw [Nat.add_assoc]
          exact Nat.add_le_add_left hinside _
      _ ≤ desc.arraySize.toNat * arrayByteSize := helement
      _ < 2 ^ 64 := htotal
  have hsum : (slice.firstBlock formatLayout).address formatLayout arrayByteSize mipLayout
      + ((slice.depth - 1) * mipLayout.slicePitch
        + (blockCount slice.height formatLayout.blockHeight - 1) * mipLayout.rowPitch
        + blockCount slice.width formatLayout.blockWidth * formatLayout.bytesPerBlock)
      = (slice.lastBlock formatLayout).address formatLayout arrayByteSize mipLayout
        + formatLayout.bytesPerBlock := by
    rw [hend]
    show slice.arraySlice.toNat * arrayByteSize + mipLayout.byteOffset
      + (slice.z * mipLayout.slicePitch + slice.y / formatLayout.blockHeight * mipLayout.rowPitch
        + slice.x / formatLayout.blockWidth * formatLayout.bytesPerBlock) + _ = _
    ac_rfl
  rw [hend] at hbound
  refine ⟨_, computeStagingTextureOffset_eq hlayout hslice.width_pos
    (((Nat.le_add_left _ _).trans hslice.width_le).trans_lt
      (hextent.width_lt.trans (by decide))) hslice.height_pos
    (((Nat.le_add_left _ _).trans hslice.height_le).trans_lt
      (hextent.height_lt.trans (by decide))) hslice.depth_pos hbound, ?_⟩
  refine ⟨rfl, hsum, fun x y z hx hxLt hy hyLt hz hzLt => ⟨?_, ?_⟩, hlevelLe, ?_, hinside⟩
  · exact slice.address_blockAt_mono formatLayout hx hy hz _ _
  · refine (Nat.add_le_add_right ?_ _).trans_eq hsum.symm
    exact slice.address_blockAt_mono formatLayout (Nat.le_sub_one_of_lt hxLt)
      (Nat.le_sub_one_of_lt hyLt) (Nat.le_sub_one_of_lt hzLt) _ _
  · exact hsum.trans_le hleLevel

/-! ## The layout -/

/-- The blocks of a staging texture in its buffer, and what its slices span. -/
structure StagingPlaced (desc : TextureDesc) (formatLayout : TextureFormatBlockLayout)
    (arrayByteSize : ℕ) (mipLayouts : List StagingTextureMipLayout) : Prop where
  levels : mipLayouts.length = desc.mipLevels.toNat
  total : stagingTotalSize desc formatLayout
    = .ok (some (arrayByteSize * desc.arraySize.toNat, arrayByteSize, mipLayouts))
  inside : ∀ (block : StagingBlock) mipLayout, block.InTexture desc formatLayout →
    mipLayouts[block.mip]? = some mipLayout →
      block.address formatLayout arrayByteSize mipLayout + formatLayout.bytesPerBlock
        ≤ arrayByteSize * desc.arraySize.toNat
  apart : ∀ (block block' : StagingBlock) mipLayout mipLayout',
    block.InTexture desc formatLayout → block'.InTexture desc formatLayout → block ≠ block' →
      mipLayouts[block.mip]? = some mipLayout → mipLayouts[block'.mip]? = some mipLayout' →
        block.address formatLayout arrayByteSize mipLayout + formatLayout.bytesPerBlock
            ≤ block'.address formatLayout arrayByteSize mipLayout' ∨
          block'.address formatLayout arrayByteSize mipLayout' + formatLayout.bytesPerBlock
            ≤ block.address formatLayout arrayByteSize mipLayout
  slices : ∀ slice resolved, resolveTextureSliceInBounds desc slice formatLayout = some resolved →
    resolved.InTexture desc formatLayout ∧
      ∃ mipLayout range, mipLayouts[resolved.mipLevel.toNat]? = some mipLayout ∧
        computeStagingTextureOffset resolved mipLayout formatLayout arrayByteSize = .ok range ∧
        range.Covers desc formatLayout arrayByteSize mipLayout resolved

/-- Building a layout never wraps, and where the array elements fit in 64 bits the layout that is
built has a place for every block and the range of every slice. -/
theorem stagingLayout_contract (formats : FormatTable) (desc : TextureDesc)
    (formatLayout : TextureFormatBlockLayout)
    (hformat : getTextureFormatBlockLayout (formats.getFormatInfo desc.format)
      = some formatLayout) :
    ∃ built, buildStagingTextureLayout desc formatLayout = .ok built ∧
      ∀ arrayByteSize mipLayouts, built = some (arrayByteSize, mipLayouts) →
        arrayByteSize * desc.arraySize.toNat < 2 ^ 64 →
          StagingPlaced desc formatLayout arrayByteSize mipLayouts := by
  have hlayout := proper_of_getTextureFormatBlockLayout hformat
  obtain ⟨built, hbuilt, hlevels⟩ := @buildStagingTextureLayout_spec desc _ hlayout
  refine ⟨built, hbuilt, ?_⟩
  rintro arrayByteSize mipLayouts rfl htotal
  obtain ⟨hlevels, hlength⟩ := hlevels _ _ rfl
  have htotal' := htotal
  rw [Nat.mul_comm] at htotal'
  refine ⟨hlength, ?_, fun block mipLayout hblock hmip => ?_,
    fun block block' _ _ hblock hblock' hne hmip hmip' =>
      hlevels.apart_of_ne hblock hblock' hne hmip hmip', fun slice resolved hslice => ?_⟩
  · have hfits : ¬(arrayByteSize ≠ 0 ∧ desc.arraySize.toNat > u64Max / arrayByteSize) := by
      rintro ⟨hsize, hlarge⟩
      refine not_gt_div (Nat.pos_of_ne_zero hsize) ?_ hlarge
      rw [u64Max]
      omega
    rw [stagingTotalSize, hbuilt, ok_bind]
    dsimp only
    rw [if_neg hfits, Guarded.mul_eq htotal, ok_bind]
  · obtain ⟨-, hlevel, helement⟩ := hlevels.block_le hblock hmip
    have hinside := hlevels.inside _ _ hmip
    rw [Nat.mul_comm arrayByteSize]
    omega
  · have hresolved := resolveTextureSliceInBounds_spec hslice
    have hlt : resolved.mipLevel.toNat < mipLayouts.length :=
      hlength ▸ UInt32.lt_iff_toNat_lt.1 hresolved.mipLevel_lt
    obtain ⟨range, hrange, hcovers⟩ := computeStagingTextureOffset_spec hlayout hlevels htotal'
      hresolved (List.getElem?_eq_getElem hlt)
    exact ⟨hresolved, _, range, List.getElem?_eq_getElem hlt, hrange, hcovers⟩

/-- Two mip levels of 4×4 blocks, the blocks at the edge cut, in three array elements. -/
def blockArrayDesc : TextureDesc := { width := 10, height := 8, mipLevels := 2, arraySize := 3 }

/-- The mip layouts of the example. -/
def blockArrayLayouts : List StagingTextureMipLayout :=
  [⟨0, 24, 48, 12, 8⟩, ⟨48, 16, 16, 8, 4⟩]

/-- Their layout is built, and the block of the last element in the second column and row is the
slice of that block. -/
theorem stagingLayout_contract_blockArray :
    buildStagingTextureLayout blockArrayDesc ⟨4, 4, 8⟩ = .ok (some (64, blockArrayLayouts)) ∧
      StagingPlaced blockArrayDesc ⟨4, 4, 8⟩ 64 blockArrayLayouts ∧
      ∃ resolved mipLayout range,
        resolveTextureSliceInBounds blockArrayDesc
          { x := 4, y := 4, width := 4, height := 4, arraySlice := 2 } ⟨4, 4, 8⟩ = some resolved ∧
        computeStagingTextureOffset resolved mipLayout ⟨4, 4, 8⟩ 64 = .ok range ∧
        range.Covers blockArrayDesc ⟨4, 4, 8⟩ 64 mipLayout resolved := by
  obtain ⟨built, hbuilt, hplaced⟩ := stagingLayout_contract
    ⟨1, ⟨0, 0, none, false, false⟩, fun _ => ⟨8, 4, none, false, false⟩⟩ blockArrayDesc ⟨4, 4, 8⟩ rfl
  have hlayout : buildStagingTextureLayout blockArrayDesc ⟨4, 4, 8⟩
      = .ok (some (64, blockArrayLayouts)) := rfl
  have hstaged := hplaced 64 blockArrayLayouts
    (Except.ok.inj (hbuilt.symm.trans hlayout)) (by decide)
  obtain ⟨resolved, hresolved⟩ : ∃ resolved, resolveTextureSliceInBounds blockArrayDesc
      { x := 4, y := 4, width := 4, height := 4, arraySlice := 2 } ⟨4, 4, 8⟩ = some resolved :=
    ⟨_, rfl⟩
  obtain ⟨-, mipLayout, range, -, hrange, hcovers⟩ := hstaged.slices _ resolved hresolved
  exact ⟨hlayout, hstaged, resolved, mipLayout, range, hresolved, hrange, hcovers⟩

end NwbLot.Textures
