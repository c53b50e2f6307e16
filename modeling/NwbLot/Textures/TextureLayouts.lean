import NwbLot.Library.PodCodec
import NwbLot.TaskGraph.Graph

/-!
# Texture layouts

Formats by the size of their blocks, texture descriptions, and the blocks of a mip level.  The table
of the formats is a parameter.  Levels that are shifted out have the extent 1.
-/

namespace NwbLot.Textures

open TaskGraph (TextureDimension)
open Guarded

/-- A format.  `blockHeight` is what `GetFormatBlockHeight` makes of it where the blocks are not
square. -/
structure FormatInfo where
  bytesPerBlock : UInt8
  blockSize : UInt8
  blockHeight : Option UInt8 := none
  hasDepth : Bool := false
  hasStencil : Bool := false

/-- What is known of each format. -/
structure FormatTable where
  kCount : ℕ
  unknown : FormatInfo
  info : ℕ → FormatInfo

/-- `GetFormatInfo`. -/
def FormatTable.getFormatInfo (formats : FormatTable) (format : ℕ) : FormatInfo :=
  if format ≥ formats.kCount then formats.unknown else formats.info format

/-- The width of a block in texels. -/
def getFormatBlockWidth (info : FormatInfo) : ℕ := info.blockSize.toNat

/-- The height of a block in texels. -/
def getFormatBlockHeight (info : FormatInfo) : ℕ := (info.blockHeight.getD info.blockSize).toNat

/-- The shape of a texture. -/
structure TextureDesc where
  width : UInt32 := 1
  height : UInt32 := 1
  depth : UInt32 := 1
  arraySize : UInt32 := 1
  mipLevels : UInt32 := 1
  sampleCount : UInt32 := 1
  format : ℕ := 0
  dimension : TextureDimension := .texture2D

/-- `VkExtent3D`. -/
structure Extent where
  width : ℕ
  height : ℕ
  depth : ℕ
  deriving DecidableEq

/-- The extent of a mip level. -/
def getTextureMipExtent (desc : TextureDesc) (mipLevel : UInt32) : Extent where
  width := max (desc.width.toNat >>> mipLevel.toNat) 1
  height := max (desc.height.toNat >>> mipLevel.toNat) 1
  depth := if desc.dimension = .texture3D then max (desc.depth.toNat >>> mipLevel.toNat) 1 else 1

/-- The blocks of a format. -/
structure TextureFormatBlockLayout where
  blockWidth : ℕ := 0
  blockHeight : ℕ := 0
  bytesPerBlock : ℕ := 0
  deriving DecidableEq

/-- The blocks of a format that has any. -/
def getTextureFormatBlockLayout (info : FormatInfo) : Option TextureFormatBlockLayout :=
  if getFormatBlockWidth info ≠ 0 ∧ getFormatBlockHeight info ≠ 0 ∧
      info.bytesPerBlock.toNat ≠ 0 then
    some ⟨getFormatBlockWidth info, getFormatBlockHeight info, info.bytesPerBlock.toNat⟩
  else none

/-- A quotient, rounded up. -/
def divideUp (value divisor : ℕ) : Guarded ℕ :=
  if value = 0 ∨ divisor = 0 then .ok 0
  else do
    let below ← Guarded.sub value 1
    Guarded.add 1 (below / divisor)

/-! ## Products below a bound -/

/-- The product of a bounded factor. -/
lemma le_of_not_gt_div {a b bound : ℕ} (h : ¬a > bound / b) : a * b ≤ bound :=
  (Nat.mul_le_mul_right b (not_lt.1 h)).trans (Nat.div_mul_le_self bound b)

lemma not_gt_div {a b bound : ℕ} (hb : 0 < b) (h : a * b ≤ bound) : ¬a > bound / b :=
  not_lt.2 ((Nat.le_div_iff_mul_le hb).2 h)

lemma mul_le_of_not_gt {a b : ℕ} (h : ¬a > u64Max / b) : a * b < 2 ^ 64 := by
  have hmul := le_of_not_gt_div h
  rw [u64Max] at hmul
  omega

/-! ## Blocks -/

/-- The blocks that a length takes. -/
def blockCount (length block : ℕ) : ℕ := 1 + (length - 1) / block

lemma blockCount_le {length : ℕ} (block : ℕ) (hlength : 0 < length) :
    blockCount length block ≤ length := by
  have hdiv := Nat.div_le_self (length - 1) block
  rw [blockCount]
  omega

lemma divideUp_eq {value divisor : ℕ} (hvalue : 0 < value) (hdivisor : divisor ≠ 0)
    (hbound : value < 2 ^ 64) : divideUp value divisor = .ok (blockCount value divisor) := by
  have hle := blockCount_le divisor hvalue
  rw [blockCount] at hle
  rw [divideUp, if_neg (by omega), Guarded.sub_eq (by omega : 1 ≤ value), ok_bind,
    Guarded.add_eq (by omega)]
  rfl

/-- A place in a length is in one of its blocks. -/
lemma div_lt_blockCount {place length : ℕ} (block : ℕ) (h : place < length) :
    place / block < blockCount length block := by
  have hle : place / block ≤ (length - 1) / block := Nat.div_le_div_right (by omega)
  rw [blockCount]
  omega

/-- An extent of 32-bit numbers without a zero. -/
structure Extent.Proper (extent : Extent) : Prop where
  width_pos : 0 < extent.width
  width_lt : extent.width < 2 ^ 32
  height_pos : 0 < extent.height
  height_lt : extent.height < 2 ^ 32
  depth_pos : 0 < extent.depth
  depth_lt : extent.depth < 2 ^ 32

lemma proper_getTextureMipExtent (desc : TextureDesc) (mipLevel : UInt32) :
    (getTextureMipExtent desc mipLevel).Proper := by
  have hlevel : ∀ size : UInt32, max (size.toNat >>> mipLevel.toNat) 1 < 2 ^ 32 := by
    intro size
    have hsize := size.toNat_lt
    have hshift : size.toNat >>> mipLevel.toNat ≤ size.toNat := by
      rw [Nat.shiftRight_eq_div_pow]
      exact Nat.div_le_self _ _
    exact max_lt (hshift.trans_lt hsize) (by omega)
  have hpos : ∀ size : ℕ, 0 < max size 1 := fun size =>
    lt_of_lt_of_le Nat.one_pos (le_max_right _ _)
  refine ⟨hpos _, hlevel _, hpos _, hlevel _, ?_, ?_⟩
  · rw [getTextureMipExtent]
    split
    · exact hpos _
    · exact Nat.one_pos
  · rw [getTextureMipExtent]
    split
    · exact hlevel _
    · show 1 < 2 ^ 32
      omega

/-- A block layout of bytes without a zero. -/
structure TextureFormatBlockLayout.Proper (layout : TextureFormatBlockLayout) : Prop where
  blockWidth_pos : 0 < layout.blockWidth
  blockWidth_lt : layout.blockWidth < 2 ^ 8
  blockHeight_pos : 0 < layout.blockHeight
  blockHeight_lt : layout.blockHeight < 2 ^ 8
  bytesPerBlock_pos : 0 < layout.bytesPerBlock
  bytesPerBlock_lt : layout.bytesPerBlock < 2 ^ 8

lemma proper_of_getTextureFormatBlockLayout {info : FormatInfo} {layout : TextureFormatBlockLayout}
    (h : getTextureFormatBlockLayout info = some layout) : layout.Proper := by
  rw [getTextureFormatBlockLayout] at h
  split at h
  · next hpositive =>
    obtain rfl := Option.some.inj h
    exact ⟨Nat.pos_of_ne_zero hpositive.1, info.blockSize.toNat_lt,
      Nat.pos_of_ne_zero hpositive.2.1, (info.blockHeight.getD info.blockSize).toNat_lt,
      Nat.pos_of_ne_zero hpositive.2.2, info.bytesPerBlock.toNat_lt⟩
  · cases h

/-! ## Upload sizes

The pitch arithmetic of a texture upload, twice: `ComputeTextureUploadByteSize` when the upload is
declared, and `BuildBufferImageCopyLayout` when it is recorded. -/

/-- `ComputeTextureUploadByteSize`.  A `usize` has 64 bits. -/
def computeTextureUploadByteSize (formats : FormatTable) (desc : TextureDesc)
    (arraySlice mipLevel : UInt32) (rowPitch depthPitch : UInt64) : Guarded (Option ℕ) :=
  if desc.width = 0 ∨ desc.height = 0 ∨ desc.depth = 0 ∨ desc.mipLevels = 0 ∨ desc.arraySize = 0 ∨
      desc.sampleCount ≠ 1 ∨ mipLevel ≥ desc.mipLevels ∨ arraySlice ≥ desc.arraySize ∨
      desc.format ≥ formats.kCount then
    .ok none
  else
    let info := formats.getFormatInfo desc.format
    let blockWidth := getFormatBlockWidth info
    let blockHeight := getFormatBlockHeight info
    let bytesPerBlock := info.bytesPerBlock.toNat
    if blockWidth = 0 ∨ blockHeight = 0 ∨ bytesPerBlock = 0 ∨
        (info.hasDepth = true ∧ info.hasStencil = true) then
      .ok none
    else do
      let width := max 1 (desc.width.toNat >>> mipLevel.toNat)
      let height := max 1 (desc.height.toNat >>> mipLevel.toNat)
      let depth :=
        if desc.dimension = .texture3D then max 1 (desc.depth.toNat >>> mipLevel.toNat) else 1
      let blockCountX ← divideUp width blockWidth
      let blockCountY ← divideUp height blockHeight
      if blockCountX > u64Max / bytesPerBlock then .ok none
      else
      let naturalRowPitch ← Guarded.mul blockCountX bytesPerBlock
      let effectiveRowPitch := if rowPitch ≠ 0 then rowPitch.toNat else naturalRowPitch
      if effectiveRowPitch = 0 ∨ effectiveRowPitch < naturalRowPitch ∨
          effectiveRowPitch % bytesPerBlock ≠ 0 ∨ blockCountY > u64Max / effectiveRowPitch then
        .ok none
      else
      let packedSlicePitch ← Guarded.mul effectiveRowPitch blockCountY
      let effectiveDepthPitch := if depthPitch ≠ 0 then depthPitch.toNat else packedSlicePitch
      if effectiveDepthPitch = 0 ∨ effectiveDepthPitch < packedSlicePitch ∨
          effectiveDepthPitch % effectiveRowPitch ≠ 0 then
        .ok none
      else
      let bufferRowBlocks := effectiveRowPitch / bytesPerBlock
      let bufferImageBlocks := effectiveDepthPitch / effectiveRowPitch
      if bufferRowBlocks > u64Max / blockWidth ∨ bufferImageBlocks > u64Max / blockHeight then
        .ok none
      else
      let bufferRowLength ← Guarded.mul bufferRowBlocks blockWidth
      if bufferRowLength > u32Max then .ok none
      else
      let bufferImageHeight ← Guarded.mul bufferImageBlocks blockHeight
      if bufferImageHeight > u32Max then .ok none
      else
      if depth > 1 then
        let room ← Guarded.sub u64Max packedSlicePitch
        if depth - 1 > room / effectiveDepthPitch then .ok none
        else
        let padded ← Guarded.mul effectiveDepthPitch (depth - 1)
        let requiredBytes ← Guarded.add padded packedSlicePitch
        .ok (some requiredBytes)
      else .ok (some packedSlicePitch)

/-- Which bytes a copy needs. -/
inductive BufferImageCopyRequiredSize
  | touchedBytes | paddedSlices
  deriving DecidableEq

/-- Whether implicit pitches are written out. -/
inductive BufferImageCopyPitchFields
  | omitImplicit | emitExplicit
  deriving DecidableEq

/-- The fields of a copy, and the bytes it needs. -/
structure BufferImageCopyLayout where
  requiredSize : ℕ
  bufferRowLength : ℕ
  bufferImageHeight : ℕ
  deriving DecidableEq

/-- The size of a copy, by `requiredSizeMode`. -/
def requiredCopySize (mode : BufferImageCopyRequiredSize)
    (depth blockCountY naturalRowPitch effectiveRowPitch packedSlicePitch effectiveDepthPitch : ℕ) :
    Guarded (Option ℕ) :=
  match mode with
  | .paddedSlices =>
    if depth > 1 then do
      let room ← Guarded.sub u64Max packedSlicePitch
      if depth - 1 > room / effectiveDepthPitch then .ok none
      else
      let padded ← Guarded.mul effectiveDepthPitch (depth - 1)
      let requiredSize ← Guarded.add padded packedSlicePitch
      .ok (some requiredSize)
    else .ok (some packedSlicePitch)
  | .touchedBytes => do
    let depthOffset ← Guarded.sub depth 1
    if depthOffset > u64Max / effectiveDepthPitch then .ok none
    else
    let depthBytes ← Guarded.mul depthOffset effectiveDepthPitch
    let lastRow ← Guarded.sub blockCountY 1
    let rowBytes ← Guarded.mul lastRow effectiveRowPitch
    let room ← Guarded.sub u64Max rowBytes
    if depthBytes > room then .ok none
    else
    let touched ← Guarded.add depthBytes rowBytes
    let room ← Guarded.sub u64Max naturalRowPitch
    if touched > room then .ok none
    else
    let requiredSize ← Guarded.add touched naturalRowPitch
    .ok (some requiredSize)

/-- `BuildBufferImageCopyLayout` without the name of the operation, which its messages hold. -/
def buildBufferImageCopyLayout (extent : Extent) (formatLayout : TextureFormatBlockLayout)
    (rowPitch depthPitch : UInt64) (requiredSizeMode : BufferImageCopyRequiredSize)
    (pitchFields : BufferImageCopyPitchFields) : Guarded (Option BufferImageCopyLayout) :=
  if formatLayout.blockWidth = 0 ∨ formatLayout.blockHeight = 0 ∨
      formatLayout.bytesPerBlock = 0 then
    .ok none
  else do
    let columns ← divideUp extent.width formatLayout.blockWidth
    let blockCountX := max columns 1
    let rows ← divideUp extent.height formatLayout.blockHeight
    let blockCountY := max rows 1
    if blockCountX > u64Max / formatLayout.bytesPerBlock then .ok none
    else
    let naturalRowPitch ← Guarded.mul blockCountX formatLayout.bytesPerBlock
    let effectiveRowPitch := if rowPitch ≠ 0 then rowPitch.toNat else naturalRowPitch
    if effectiveRowPitch = 0 ∨ blockCountY > u64Max / effectiveRowPitch then .ok none
    else
    if effectiveRowPitch < naturalRowPitch ∨ effectiveRowPitch % formatLayout.bytesPerBlock ≠ 0 then
      .ok none
    else
    let packedSlicePitch ← Guarded.mul effectiveRowPitch blockCountY
    let effectiveDepthPitch := if depthPitch ≠ 0 then depthPitch.toNat else packedSlicePitch
    if effectiveDepthPitch < packedSlicePitch ∨ effectiveDepthPitch % effectiveRowPitch ≠ 0 then
      .ok none
    else
    let bufferRowBlocks := effectiveRowPitch / formatLayout.bytesPerBlock
    let bufferImageBlocks := effectiveDepthPitch / effectiveRowPitch
    if bufferRowBlocks > u64Max / formatLayout.blockWidth ∨
        bufferImageBlocks > u64Max / formatLayout.blockHeight then
      .ok none
    else
    let bufferRowLength ← Guarded.mul bufferRowBlocks formatLayout.blockWidth
    let bufferImageHeight ← Guarded.mul bufferImageBlocks formatLayout.blockHeight
    if bufferRowLength > u32Max ∨ bufferImageHeight > u32Max then .ok none
    else
    let required ← requiredCopySize requiredSizeMode extent.depth blockCountY naturalRowPitch
      effectiveRowPitch packedSlicePitch effectiveDepthPitch
    match required with
    | none => .ok none
    | some requiredSize => .ok (some {
        requiredSize
        bufferRowLength :=
          if pitchFields = .emitExplicit ∨ rowPitch ≠ 0 then bufferRowLength else 0
        bufferImageHeight :=
          if pitchFields = .emitExplicit ∨ depthPitch ≠ 0 then bufferImageHeight else 0 })

/-- `tryWriteTexture` up to the staging memory, for source data that is there.  A debug build checks
the subresource and the aspect of the texture, too. -/
def tryWriteTexture (debug : Bool) (formats : FormatTable) (desc : TextureDesc)
    (arraySlice mipLevel : UInt32) (rowPitch depthPitch : UInt64) :
    Guarded (Option BufferImageCopyLayout) :=
  let info := formats.getFormatInfo desc.format
  if debug = true ∧ (desc.sampleCount ≠ 1 ∨ mipLevel ≥ desc.mipLevels ∨
      arraySlice ≥ desc.arraySize ∨ (info.hasDepth = true ∧ info.hasStencil = true)) then
    .ok none
  else
    match getTextureFormatBlockLayout info with
    | none => .ok none
    | some formatLayout =>
      buildBufferImageCopyLayout (getTextureMipExtent desc mipLevel) formatLayout rowPitch
        depthPitch .paddedSlices .emitExplicit

end NwbLot.Textures
