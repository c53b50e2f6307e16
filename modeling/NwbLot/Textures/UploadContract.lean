import NwbLot.Textures.TextureLayouts

/-!
# Declared uploads can be recorded

Both computations of the upload size follow one description of a copy, so that what is accepted at
declaration time is accepted at recording time, with the same size.
-/

namespace NwbLot.Textures

open TaskGraph (TextureDimension)
open Guarded

/-- A copy between a buffer and a texture level, with the pitches that were asked for. -/
structure PitchedCopy where
  extent : Extent
  layout : TextureFormatBlockLayout
  rowPitch : UInt64
  depthPitch : UInt64

namespace PitchedCopy

variable (copy : PitchedCopy)

/-- The blocks in a row. -/
def columns : ℕ := blockCount copy.extent.width copy.layout.blockWidth
/-- The rows of blocks in a slice. -/
def rows : ℕ := blockCount copy.extent.height copy.layout.blockHeight

/-- The bytes of a row. -/
def naturalRowPitch : ℕ := copy.columns * copy.layout.bytesPerBlock

/-- The given row pitch, or the natural one. -/
def effectiveRowPitch : ℕ :=
  if copy.rowPitch ≠ 0 then copy.rowPitch.toNat else copy.naturalRowPitch

/-- The bytes of a slice without padding. -/
def packedSlicePitch : ℕ := copy.effectiveRowPitch * copy.rows

/-- The given slice pitch, or the packed one. -/
def effectiveDepthPitch : ℕ :=
  if copy.depthPitch ≠ 0 then copy.depthPitch.toNat else copy.packedSlicePitch

/-- The row pitch in texels. -/
def bufferRowLength : ℕ :=
  copy.effectiveRowPitch / copy.layout.bytesPerBlock * copy.layout.blockWidth

/-- The slice pitch in rows of texels. -/
def bufferImageHeight : ℕ :=
  copy.effectiveDepthPitch / copy.effectiveRowPitch * copy.layout.blockHeight

/-- The slices with their padding, but for the last one. -/
def requiredSize : ℕ :=
  copy.effectiveDepthPitch * (copy.extent.depth - 1) + copy.packedSlicePitch

/-- The pitches are long enough, made of whole blocks and whole rows, and in the range of their
fields. -/
structure Fits : Prop where
  natural_le : copy.naturalRowPitch ≤ copy.effectiveRowPitch
  row_mod : copy.effectiveRowPitch % copy.layout.bytesPerBlock = 0
  packed_le : copy.packedSlicePitch ≤ copy.effectiveDepthPitch
  depth_mod : copy.effectiveDepthPitch % copy.effectiveRowPitch = 0
  rowLength_lt : copy.bufferRowLength < 2 ^ 32
  imageHeight_lt : copy.bufferImageHeight < 2 ^ 32
  requiredSize_lt : copy.requiredSize < 2 ^ 64

end PitchedCopy

/-- The copy that an upload declares. -/
def uploadCopy (formats : FormatTable) (desc : TextureDesc) (mipLevel : UInt32)
    (rowPitch depthPitch : UInt64) : PitchedCopy where
  extent := getTextureMipExtent desc mipLevel
  layout := ⟨getFormatBlockWidth (formats.getFormatInfo desc.format),
    getFormatBlockHeight (formats.getFormatInfo desc.format),
    (formats.getFormatInfo desc.format).bytesPerBlock.toNat⟩
  rowPitch
  depthPitch

theorem computeTextureUploadByteSize_spec (formats : FormatTable) (desc : TextureDesc)
    (arraySlice mipLevel : UInt32) (rowPitch depthPitch : UInt64) :
    Satisfies (computeTextureUploadByteSize formats desc arraySlice mipLevel rowPitch depthPitch)
      fun result => ∀ size, result = some size →
        (desc.sampleCount = 1 ∧ mipLevel < desc.mipLevels ∧ arraySlice < desc.arraySize) ∧
        (uploadCopy formats desc mipLevel rowPitch depthPitch).layout.Proper ∧
        ¬((formats.getFormatInfo desc.format).hasDepth = true ∧
          (formats.getFormatInfo desc.format).hasStencil = true) ∧
        (uploadCopy formats desc mipLevel rowPitch depthPitch).Fits ∧
        size = (uploadCopy formats desc mipLevel rowPitch depthPitch).requiredSize := by
  have hrefused : ∀ P : ℕ → Prop, Satisfies (.ok none : Guarded (Option ℕ))
      fun result => ∀ size, result = some size → P size :=
    fun P => satisfies_ok fun size h => nomatch h
  unfold computeTextureUploadByteSize
  refine satisfies_ite (fun _ => hrefused _) fun hdesc => ?_
  dsimp only
  refine satisfies_ite (fun _ => hrefused _) fun hformat => ?_
  simp only [not_or] at hdesc hformat
  set copy := uploadCopy formats desc mipLevel rowPitch depthPitch with hcopy
  have hextent : copy.extent.Proper := proper_getTextureMipExtent desc mipLevel
  have hlayout : copy.layout.Proper :=
    ⟨Nat.pos_of_ne_zero hformat.1, (formats.getFormatInfo desc.format).blockSize.toNat_lt,
      Nat.pos_of_ne_zero hformat.2.1, UInt8.toNat_lt _, Nat.pos_of_ne_zero hformat.2.2.1,
      UInt8.toNat_lt _⟩
  have hwidth : max 1 (desc.width.toNat >>> mipLevel.toNat) = copy.extent.width := max_comm _ _
  have hheight : max 1 (desc.height.toNat >>> mipLevel.toNat) = copy.extent.height := max_comm _ _
  have hdepth : (if desc.dimension = .texture3D then max 1 (desc.depth.toNat >>> mipLevel.toNat)
      else 1) = copy.extent.depth := by
    rw [max_comm]
    rfl
  have hblockWidth : getFormatBlockWidth (formats.getFormatInfo desc.format)
      = copy.layout.blockWidth := rfl
  have hblockHeight : getFormatBlockHeight (formats.getFormatInfo desc.format)
      = copy.layout.blockHeight := rfl
  have hbytes : (formats.getFormatInfo desc.format).bytesPerBlock.toNat
      = copy.layout.bytesPerBlock := rfl
  have hnaturalRow : blockCount copy.extent.width copy.layout.blockWidth * copy.layout.bytesPerBlock
      = copy.naturalRowPitch := rfl
  have heffectiveRow : (if rowPitch ≠ 0 then rowPitch.toNat else copy.naturalRowPitch)
      = copy.effectiveRowPitch := rfl
  have hpackedSlice : copy.effectiveRowPitch * blockCount copy.extent.height copy.layout.blockHeight
      = copy.packedSlicePitch := rfl
  have heffectiveDepth : (if depthPitch ≠ 0 then depthPitch.toNat else copy.packedSlicePitch)
      = copy.effectiveDepthPitch := rfl
  have hrowLength : copy.effectiveRowPitch / copy.layout.bytesPerBlock * copy.layout.blockWidth
      = copy.bufferRowLength := rfl
  have himageHeight : copy.effectiveDepthPitch / copy.effectiveRowPitch * copy.layout.blockHeight
      = copy.bufferImageHeight := rfl
  rw [hwidth, hheight, hdepth, hblockWidth, hblockHeight, hbytes,
    divideUp_eq hextent.width_pos hlayout.blockWidth_pos.ne'
      (hextent.width_lt.trans (by omega)), ok_bind,
    divideUp_eq hextent.height_pos hlayout.blockHeight_pos.ne'
      (hextent.height_lt.trans (by omega)), ok_bind]
  refine satisfies_ite (fun _ => hrefused _) fun hnatural => ?_
  rw [Guarded.mul_eq (mul_le_of_not_gt hnatural), ok_bind, hnaturalRow, heffectiveRow]
  refine satisfies_ite (fun _ => hrefused _) fun hrow => ?_
  simp only [not_or, not_not, not_lt] at hrow
  have hpacked := mul_le_of_not_gt (not_lt.2 hrow.2.2.2)
  rw [Nat.mul_comm] at hpacked
  rw [Guarded.mul_eq hpacked, ok_bind, hpackedSlice, heffectiveDepth]
  refine satisfies_ite (fun _ => hrefused _) fun hdepthPitch => ?_
  simp only [not_or, not_not, not_lt] at hdepthPitch
  refine satisfies_ite (fun _ => hrefused _) fun hfields => ?_
  rw [not_or] at hfields
  rw [Guarded.mul_eq (mul_le_of_not_gt hfields.1), ok_bind, hrowLength]
  refine satisfies_ite (fun _ => hrefused _) fun hrowField => ?_
  rw [Guarded.mul_eq (mul_le_of_not_gt hfields.2), ok_bind, himageHeight]
  refine satisfies_ite (fun _ => hrefused _) fun himageField => ?_
  have hfits : copy.requiredSize < 2 ^ 64 → copy.Fits := fun hsize =>
    ⟨hrow.2.1, hrow.2.2.1, hdepthPitch.2.1, hdepthPitch.2.2, by rw [u32Max] at hrowField; omega,
      by rw [u32Max] at himageField; omega, hsize⟩
  have haccepted : ∀ size, size = copy.requiredSize → size < 2 ^ 64 →
      Satisfies (.ok (some size) : Guarded (Option ℕ)) fun result => ∀ size, result = some size →
        (desc.sampleCount = 1 ∧ mipLevel < desc.mipLevels ∧ arraySlice < desc.arraySize) ∧
        copy.layout.Proper ∧
        ¬((formats.getFormatInfo desc.format).hasDepth = true ∧
          (formats.getFormatInfo desc.format).hasStencil = true) ∧
        copy.Fits ∧ size = copy.requiredSize := by
    rintro size rfl hsize
    refine satisfies_ok fun size heq => ?_
    obtain ⟨-, -, -, -, -, hsamples, hmip, hslice, -⟩ := hdesc
    rw [← Option.some.inj heq]
    exact ⟨⟨not_not.1 hsamples, UInt32.not_le.1 hmip, UInt32.not_le.1 hslice⟩, hlayout,
      hformat.2.2.2, hfits hsize, rfl⟩
  refine satisfies_ite (fun hdeep => ?_) fun hflat => ?_
  · have hpackedLe : copy.packedSlicePitch ≤ u64Max := by
      rw [u64Max]
      exact Nat.le_sub_one_of_lt hpacked
    rw [Guarded.sub_eq hpackedLe, ok_bind]
    refine satisfies_ite (fun _ => hrefused _) fun hroom => ?_
    have hslices := le_of_not_gt_div hroom
    rw [Nat.mul_comm] at hslices
    have hsize : copy.requiredSize ≤ u64Max := by
      rw [PitchedCopy.requiredSize]
      omega
    rw [u64Max] at hsize
    rw [PitchedCopy.requiredSize] at hsize
    rw [Guarded.mul_eq (by omega), ok_bind, Guarded.add_eq (by omega), ok_bind]
    exact haccepted _ rfl (by omega)
  · refine haccepted _ ?_ hpacked
    have hone : copy.extent.depth - 1 = 0 := by omega
    rw [PitchedCopy.requiredSize, hone, Nat.mul_zero, Nat.zero_add]

section Fits

variable {copy : PitchedCopy}

lemma PitchedCopy.Fits.packed_lt (h : copy.Fits) : copy.packedSlicePitch ≤ u64Max := by
  have hle : copy.packedSlicePitch ≤ copy.requiredSize := Nat.le_add_left _ _
  exact Nat.le_sub_one_of_lt (hle.trans_lt h.requiredSize_lt)

lemma PitchedCopy.naturalRowPitch_pos (hlayout : copy.layout.Proper) : 0 < copy.naturalRowPitch :=
  Nat.mul_pos (Nat.add_pos_left Nat.one_pos _) hlayout.bytesPerBlock_pos

lemma PitchedCopy.effectiveRowPitch_le : copy.effectiveRowPitch ≤ copy.packedSlicePitch :=
  Nat.le_mul_of_pos_right _ (Nat.add_pos_left Nat.one_pos _)

lemma PitchedCopy.Fits.row_pos (h : copy.Fits) (hlayout : copy.layout.Proper) :
    0 < copy.effectiveRowPitch :=
  (naturalRowPitch_pos hlayout).trans_le h.natural_le

lemma PitchedCopy.Fits.depth_pos (h : copy.Fits) (hlayout : copy.layout.Proper) :
    0 < copy.effectiveDepthPitch :=
  ((h.row_pos hlayout).trans_le effectiveRowPitch_le).trans_le h.packed_le

/-- The size of a copy of padded slices. -/
lemma requiredCopySize_paddedSlices (hextent : copy.extent.Proper) (hlayout : copy.layout.Proper)
    (hpacked : copy.packedSlicePitch < 2 ^ 64) :
    Satisfies (requiredCopySize .paddedSlices copy.extent.depth copy.rows copy.naturalRowPitch
        copy.effectiveRowPitch copy.packedSlicePitch copy.effectiveDepthPitch)
      fun required => copy.Fits → required = some copy.requiredSize := by
  refine satisfies_ite (fun hdeep => ?_) fun hflat => ?_
  · have hpackedLe : copy.packedSlicePitch ≤ u64Max := Nat.le_sub_one_of_lt hpacked
    rw [Guarded.sub_eq hpackedLe, ok_bind]
    refine satisfies_ite (fun hrefused => satisfies_ok fun hfits => ?_) fun hroom => ?_
    · have hsize := hfits.requiredSize_lt
      rw [PitchedCopy.requiredSize, Nat.mul_comm] at hsize
      refine absurd hrefused (not_gt_div (hfits.depth_pos hlayout) ?_)
      rw [u64Max]
      omega
    · have hslices := le_of_not_gt_div hroom
      rw [Nat.mul_comm, u64Max] at hslices
      rw [Guarded.mul_eq (by omega), ok_bind, Guarded.add_eq (by omega), ok_bind]
      exact satisfies_ok fun _ => rfl
  · refine satisfies_ok fun _ => congrArg some ?_
    have hone : copy.extent.depth - 1 = 0 := by
      have hdepth := hextent.depth_pos
      omega
    rw [PitchedCopy.requiredSize, hone, Nat.mul_zero, Nat.zero_add]

theorem buildBufferImageCopyLayout_spec (hextent : copy.extent.Proper)
    (hlayout : copy.layout.Proper) :
    Satisfies (buildBufferImageCopyLayout copy.extent copy.layout copy.rowPitch copy.depthPitch
        .paddedSlices .emitExplicit)
      fun result => copy.Fits → result = some {
        requiredSize := copy.requiredSize
        bufferRowLength := copy.bufferRowLength
        bufferImageHeight := copy.bufferImageHeight } := by
  have hcolumns : max (blockCount copy.extent.width copy.layout.blockWidth) 1 = copy.columns :=
    max_eq_left (Nat.le_add_right 1 _)
  have hrows : max (blockCount copy.extent.height copy.layout.blockHeight) 1 = copy.rows :=
    max_eq_left (Nat.le_add_right 1 _)
  have hnaturalRow : copy.columns * copy.layout.bytesPerBlock = copy.naturalRowPitch := rfl
  have heffectiveRow : (if copy.rowPitch ≠ 0 then copy.rowPitch.toNat else copy.naturalRowPitch)
      = copy.effectiveRowPitch := rfl
  have hpackedSlice : copy.effectiveRowPitch * copy.rows = copy.packedSlicePitch := rfl
  have heffectiveDepth : (if copy.depthPitch ≠ 0 then copy.depthPitch.toNat
      else copy.packedSlicePitch) = copy.effectiveDepthPitch := rfl
  have hrowLength : copy.effectiveRowPitch / copy.layout.bytesPerBlock * copy.layout.blockWidth
      = copy.bufferRowLength := rfl
  have himageHeight : copy.effectiveDepthPitch / copy.effectiveRowPitch * copy.layout.blockHeight
      = copy.bufferImageHeight := rfl
  unfold buildBufferImageCopyLayout
  refine satisfies_ite (fun hzero => ?_) fun _ => ?_
  · rcases hzero with h | h | h
    · exact absurd h hlayout.blockWidth_pos.ne'
    · exact absurd h hlayout.blockHeight_pos.ne'
    · exact absurd h hlayout.bytesPerBlock_pos.ne'
  dsimp only
  rw [divideUp_eq hextent.width_pos hlayout.blockWidth_pos.ne'
      (hextent.width_lt.trans (by omega)), ok_bind,
    divideUp_eq hextent.height_pos hlayout.blockHeight_pos.ne'
      (hextent.height_lt.trans (by omega)), ok_bind, hcolumns, hrows]
  refine satisfies_ite (fun hrefused => satisfies_ok fun hfits => ?_) fun hnatural => ?_
  · refine absurd hrefused (not_gt_div hlayout.bytesPerBlock_pos ?_)
    exact (hfits.natural_le.trans PitchedCopy.effectiveRowPitch_le).trans hfits.packed_lt
  rw [Guarded.mul_eq (mul_le_of_not_gt hnatural), ok_bind, hnaturalRow, heffectiveRow]
  refine satisfies_ite (fun hrefused => satisfies_ok fun hfits => ?_) fun hrow => ?_
  · refine hrefused.elim (fun hzero => absurd hzero (hfits.row_pos hlayout).ne') fun hlarge => ?_
    refine absurd hlarge (not_gt_div (hfits.row_pos hlayout) ?_)
    rw [Nat.mul_comm]
    exact hfits.packed_lt
  rw [not_or] at hrow
  refine satisfies_ite (fun hrefused => satisfies_ok fun hfits => ?_) fun hpitch => ?_
  · exact hrefused.elim (fun hshort => absurd hfits.natural_le hshort.not_ge)
      fun hmod => absurd hfits.row_mod hmod
  have hpacked := mul_le_of_not_gt hrow.2
  rw [Nat.mul_comm] at hpacked
  rw [Guarded.mul_eq hpacked, ok_bind, hpackedSlice, heffectiveDepth]
  refine satisfies_ite (fun hrefused => satisfies_ok fun hfits => ?_) fun hdepthPitch => ?_
  · exact hrefused.elim (fun hshort => absurd hfits.packed_le hshort.not_ge)
      fun hmod => absurd hfits.depth_mod hmod
  refine satisfies_ite (fun hrefused => satisfies_ok fun hfits => ?_) fun hfields => ?_
  · have hrowField := hfits.rowLength_lt
    have himageField := hfits.imageHeight_lt
    rw [PitchedCopy.bufferRowLength] at hrowField
    rw [PitchedCopy.bufferImageHeight] at himageField
    refine hrefused.elim (fun hlarge => absurd hlarge (not_gt_div hlayout.blockWidth_pos ?_))
      fun hlarge => absurd hlarge (not_gt_div hlayout.blockHeight_pos ?_)
    · rw [u64Max]
      omega
    · rw [u64Max]
      omega
  rw [not_or] at hfields
  rw [Guarded.mul_eq (mul_le_of_not_gt hfields.1), ok_bind, hrowLength,
    Guarded.mul_eq (mul_le_of_not_gt hfields.2), ok_bind, himageHeight]
  refine satisfies_ite (fun hrefused => satisfies_ok fun hfits => ?_) fun _ => ?_
  · have hrowField := hfits.rowLength_lt
    have himageField := hfits.imageHeight_lt
    rw [u32Max] at hrefused
    omega
  refine (requiredCopySize_paddedSlices hextent hlayout hpacked).bind fun required hrequired => ?_
  cases required with
  | none => exact satisfies_ok fun hfits =>
      absurd (hrequired hfits) (Option.some_ne_none _).symm
  | some size =>
    refine satisfies_ok fun hfits => ?_
    rw [Option.some.inj (hrequired hfits)]
    rfl

/-! ## The blocks of a copy -/

/-- Where a copy has a block in the buffer: the rows take `bufferRowLength` texels, the images
`bufferImageHeight` rows of texels. -/
def BufferImageCopyLayout.blockOffset (copyLayout : BufferImageCopyLayout)
    (layout : TextureFormatBlockLayout) (column row slice : ℕ) : ℕ :=
  ((slice * (copyLayout.bufferImageHeight / layout.blockHeight) + row) *
    (copyLayout.bufferRowLength / layout.blockWidth) + column) * layout.bytesPerBlock

lemma PitchedCopy.Fits.blockOffset_eq (h : copy.Fits) (hlayout : copy.layout.Proper)
    {requiredSize : ℕ} (column row slice : ℕ) :
    BufferImageCopyLayout.blockOffset
        ⟨requiredSize, copy.bufferRowLength, copy.bufferImageHeight⟩ copy.layout column row slice
      = slice * copy.effectiveDepthPitch + row * copy.effectiveRowPitch
        + column * copy.layout.bytesPerBlock := by
  have hrow : copy.bufferRowLength / copy.layout.blockWidth * copy.layout.bytesPerBlock
      = copy.effectiveRowPitch := by
    rw [bufferRowLength, Nat.mul_div_cancel _ hlayout.blockWidth_pos,
      Nat.div_mul_cancel (Nat.dvd_of_mod_eq_zero h.row_mod)]
  have himage : copy.bufferImageHeight / copy.layout.blockHeight * copy.effectiveRowPitch
      = copy.effectiveDepthPitch := by
    rw [bufferImageHeight, Nat.mul_div_cancel _ hlayout.blockHeight_pos,
      Nat.div_mul_cancel (Nat.dvd_of_mod_eq_zero h.depth_mod)]
  rw [BufferImageCopyLayout.blockOffset, Nat.add_mul, Nat.mul_assoc, hrow, Nat.add_mul,
    Nat.mul_assoc, himage]

/-- Every block of the level ends inside the required size. -/
lemma PitchedCopy.Fits.block_le (h : copy.Fits) {column row slice : ℕ}
    (hcolumn : column < copy.columns) (hrow : row < copy.rows)
    (hslice : slice < copy.extent.depth) :
    slice * copy.effectiveDepthPitch + row * copy.effectiveRowPitch
      + column * copy.layout.bytesPerBlock + copy.layout.bytesPerBlock ≤ copy.requiredSize := by
  have hslices : slice * copy.effectiveDepthPitch
      ≤ copy.effectiveDepthPitch * (copy.extent.depth - 1) := by
    rw [Nat.mul_comm]
    exact Nat.mul_le_mul_left _ (by omega)
  have hcolumns : (column + 1) * copy.layout.bytesPerBlock ≤ copy.effectiveRowPitch :=
    (Nat.mul_le_mul_right _ hcolumn).trans h.natural_le
  have hrows : (row + 1) * copy.effectiveRowPitch ≤ copy.packedSlicePitch := by
    rw [packedSlicePitch, Nat.mul_comm copy.effectiveRowPitch]
    exact Nat.mul_le_mul_right _ hrow
  rw [Nat.add_mul, Nat.one_mul] at hcolumns hrows
  rw [requiredSize]
  omega

end Fits

/-- Neither computation ever wraps, and an accepted upload is recorded, in every build, with the
size it declared, pitch fields of 32 bits, and every block of its level inside that size. -/
theorem textureUploads_recordable (formats : FormatTable) (desc : TextureDesc)
    (arraySlice mipLevel : UInt32) (rowPitch depthPitch : UInt64) :
    (∃ declared, computeTextureUploadByteSize formats desc arraySlice mipLevel rowPitch depthPitch
        = .ok declared ∧
      ∀ size, declared = some size → ∀ debug, ∃ copyLayout layout,
        tryWriteTexture debug formats desc arraySlice mipLevel rowPitch depthPitch
          = .ok (some copyLayout) ∧
        getTextureFormatBlockLayout (formats.getFormatInfo desc.format) = some layout ∧
        copyLayout.requiredSize = size ∧ copyLayout.bufferRowLength < 2 ^ 32 ∧
        copyLayout.bufferImageHeight < 2 ^ 32 ∧
        ∀ column row slice,
          column < blockCount (getTextureMipExtent desc mipLevel).width layout.blockWidth →
          row < blockCount (getTextureMipExtent desc mipLevel).height layout.blockHeight →
          slice < (getTextureMipExtent desc mipLevel).depth →
          copyLayout.blockOffset layout column row slice + layout.bytesPerBlock ≤ size) ∧
    ∀ debug, ∃ recorded,
      tryWriteTexture debug formats desc arraySlice mipLevel rowPitch depthPitch
        = .ok recorded := by
  refine ⟨?_, fun debug => ?_⟩
  · obtain ⟨declared, hdeclared, haccepted⟩ := computeTextureUploadByteSize_spec formats desc
      arraySlice mipLevel rowPitch depthPitch
    refine ⟨declared, hdeclared, fun size hsize debug => ?_⟩
    obtain ⟨⟨hsamples, hmip, hslice⟩, hlayout, haspect, hfits, rfl⟩ := haccepted size hsize
    set copy := uploadCopy formats desc mipLevel rowPitch depthPitch with hcopy
    have hextent : copy.extent.Proper := proper_getTextureMipExtent desc mipLevel
    obtain ⟨result, hresult, hbuilt⟩ := buildBufferImageCopyLayout_spec hextent hlayout
    have hblock : getTextureFormatBlockLayout (formats.getFormatInfo desc.format)
        = some copy.layout :=
      if_pos ⟨hlayout.blockWidth_pos.ne', hlayout.blockHeight_pos.ne',
        hlayout.bytesPerBlock_pos.ne'⟩
    refine ⟨⟨copy.requiredSize, copy.bufferRowLength, copy.bufferImageHeight⟩, copy.layout, ?_,
      hblock, rfl, hfits.rowLength_lt, hfits.imageHeight_lt,
      fun column row slice hcolumn hrow hslice => ?_⟩
    · have hchecks : ¬(debug = true ∧ (desc.sampleCount ≠ 1 ∨ mipLevel ≥ desc.mipLevels ∨
          arraySlice ≥ desc.arraySize ∨ ((formats.getFormatInfo desc.format).hasDepth = true ∧
            (formats.getFormatInfo desc.format).hasStencil = true))) := by
        rintro ⟨-, hrefused | hrefused | hrefused | hrefused⟩
        · exact hrefused hsamples
        · exact UInt32.not_le.2 hmip hrefused
        · exact UInt32.not_le.2 hslice hrefused
        · exact haspect hrefused
      rw [tryWriteTexture, if_neg hchecks, hblock]
      exact hresult.trans (congrArg _ (hbuilt hfits))
    · rw [hfits.blockOffset_eq hlayout]
      exact hfits.block_le hcolumn hrow hslice
  · rw [tryWriteTexture]
    split
    · exact ⟨_, rfl⟩
    · split
      · exact ⟨_, rfl⟩
      · next layout hlayout =>
        obtain ⟨result, hresult, -⟩ := @buildBufferImageCopyLayout_spec
          ⟨getTextureMipExtent desc mipLevel, layout, rowPitch, depthPitch⟩
          (proper_getTextureMipExtent desc mipLevel) (proper_of_getTextureFormatBlockLayout hlayout)
        exact ⟨result, hresult⟩

end NwbLot.Textures
