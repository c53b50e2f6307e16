import NwbLot.Textures.TextureLayouts

/-!
# Staging texture layouts

The layout of a staging texture in its buffer: the mip levels of an array element one behind the
other, each as slices of rows of blocks, and the place of a slice of texels in it.
-/

namespace NwbLot.Textures

open TaskGraph (TextureDimension)
open Guarded

/-- `s_BufferAlignmentBytes`. -/
def bufferAlignmentBytes : ℕ := 4

/-- Where a level lies in a staging buffer, and its pitches. -/
structure StagingTextureMipLayout where
  byteOffset : ℕ := 0
  rowPitch : ℕ
  slicePitch : ℕ
  bufferRowLength : ℕ
  bufferImageHeight : ℕ
  deriving DecidableEq

/-- `AlignUpU64Checked`. -/
def alignUpU64Checked (value alignment : ℕ) : Guarded (Option ℕ) :=
  if alignment = 0 then .ok (some value)
  else
    let remainder := value % alignment
    if remainder = 0 then .ok (some value)
    else do
      let addend ← Guarded.sub alignment remainder
      let room ← Guarded.sub u64Max addend
      if value > room then .ok none
      else
      let aligned ← Guarded.add value addend
      .ok (some aligned)

/-- The layout of a level, at offset 0, and its size. -/
def buildStagingTextureMipLayout (desc : TextureDesc) (formatLayout : TextureFormatBlockLayout)
    (mip : UInt32) : Guarded (Option (StagingTextureMipLayout × ℕ)) := do
  let mipExtent := getTextureMipExtent desc mip
  let columns ← divideUp mipExtent.width formatLayout.blockWidth
  let blocksX := max columns 1
  let rows ← divideUp mipExtent.height formatLayout.blockHeight
  let blocksY := max rows 1
  if blocksX > u64Max / blocksY then .ok none
  else
  let bufferRowLength ← Guarded.mul blocksX formatLayout.blockWidth
  let bufferImageHeight ← Guarded.mul blocksY formatLayout.blockHeight
  if bufferRowLength > u32Max ∨ bufferImageHeight > u32Max then .ok none
  else
  let blockCount ← Guarded.mul blocksX blocksY
  if blockCount > u64Max / formatLayout.bytesPerBlock then .ok none
  else
  let rowPitch ← Guarded.mul blocksX formatLayout.bytesPerBlock
  let slicePitch ← Guarded.mul blockCount formatLayout.bytesPerBlock
  if mipExtent.depth > u64Max / slicePitch then .ok none
  else
  let mipSize ← Guarded.mul slicePitch mipExtent.depth
  .ok (some ({ rowPitch, slicePitch, bufferRowLength, bufferImageHeight }, mipSize))

/-- The size with one more level, aligned. -/
def addAlignedStagingMipSize (size mipSize : ℕ) : Guarded (Option ℕ) := do
  let room ← Guarded.sub u64Max mipSize
  if size > room then .ok none
  else
  let sum ← Guarded.add size mipSize
  alignUpU64Checked sum bufferAlignmentBytes

/-- The loop over the levels, from `mip` on for `remaining` of them. -/
def stagingMipLayouts (desc : TextureDesc) (formatLayout : TextureFormatBlockLayout) :
    ℕ → ℕ → ℕ → List StagingTextureMipLayout →
      Guarded (Option (ℕ × List StagingTextureMipLayout))
  | 0, _, arrayByteSize, mipLayouts => .ok (some (arrayByteSize, mipLayouts))
  | remaining + 1, mip, arrayByteSize, mipLayouts => do
    match ← buildStagingTextureMipLayout desc formatLayout (UInt32.ofNat mip) with
    | none => .ok none
    | some (layout, mipSize) =>
      match ← addAlignedStagingMipSize arrayByteSize mipSize with
      | none => .ok none
      | some size =>
        stagingMipLayouts desc formatLayout remaining (mip + 1) size
          (mipLayouts ++ [{ layout with byteOffset := arrayByteSize }])

/-- The size of an array element and the layouts of its levels. -/
def buildStagingTextureLayout (desc : TextureDesc) (formatLayout : TextureFormatBlockLayout) :
    Guarded (Option (ℕ × List StagingTextureMipLayout)) :=
  if desc.mipLevels = 0 then .ok none
  else stagingMipLayouts desc formatLayout desc.mipLevels.toNat 0 0 []

/-! ## Slices -/

/-- A box of texels in one subresource. -/
structure TextureSlice where
  x : UInt32 := 0
  y : UInt32 := 0
  z : UInt32 := 0
  width : UInt32 := 4294967295
  height : UInt32 := 4294967295
  depth : UInt32 := 4294967295
  mipLevel : UInt32 := 0
  arraySlice : UInt32 := 0
  deriving DecidableEq

/-- `TextureSlice::AllDimensions`. -/
def allDimensions : UInt32 := 4294967295

/-- A slice whose extents are resolved. -/
structure ResolvedSlice where
  x : ℕ
  y : ℕ
  z : ℕ
  width : ℕ
  height : ℕ
  depth : ℕ
  mipLevel : UInt32
  arraySlice : UInt32
  deriving DecidableEq

/-- One extent of `TextureSlice::resolve`. -/
def resolveExtent (start extent : UInt32) (mipExtent : ℕ) : ℕ :=
  if extent = allDimensions then
    if start.toNat < mipExtent then mipExtent - start.toNat else 0
  else extent.toNat

/-- The box within the extent of a level. -/
def TextureSlice.resolve (slice : TextureSlice) (mipWidth mipHeight mipDepth : ℕ) :
    ResolvedSlice where
  x := slice.x.toNat
  y := slice.y.toNat
  z := slice.z.toNat
  width := resolveExtent slice.x slice.width mipWidth
  height := resolveExtent slice.y slice.height mipHeight
  depth := resolveExtent slice.z slice.depth mipDepth
  mipLevel := slice.mipLevel
  arraySlice := slice.arraySlice

/-- `IsTextureSliceInBounds`, with the slice that it resolves. -/
def resolveTextureSliceInBounds (desc : TextureDesc) (slice : TextureSlice)
    (formatLayout : TextureFormatBlockLayout) : Option ResolvedSlice :=
  if desc.mipLevels = 0 ∨ slice.mipLevel ≥ desc.mipLevels then none
  else if desc.arraySize = 0 ∨ slice.arraySlice ≥ desc.arraySize then none
  else if formatLayout.blockWidth = 0 ∨ formatLayout.blockHeight = 0 ∨
      formatLayout.bytesPerBlock = 0 then
    none
  else
    let mipExtent := getTextureMipExtent desc slice.mipLevel
    let resolved := slice.resolve mipExtent.width mipExtent.height mipExtent.depth
    if resolved.width = 0 ∨ resolved.height = 0 ∨ resolved.depth = 0 then none
    else if resolved.x > mipExtent.width ∨ resolved.width > mipExtent.width - resolved.x then none
    else if resolved.y > mipExtent.height ∨ resolved.height > mipExtent.height - resolved.y then
      none
    else if resolved.z > mipExtent.depth ∨ resolved.depth > mipExtent.depth - resolved.z then none
    else if resolved.x % formatLayout.blockWidth ≠ 0 ∨
        resolved.y % formatLayout.blockHeight ≠ 0 then
      none
    else if resolved.width % formatLayout.blockWidth ≠ 0 ∧
        resolved.x + resolved.width ≠ mipExtent.width then
      none
    else if resolved.height % formatLayout.blockHeight ≠ 0 ∧
        resolved.y + resolved.height ≠ mipExtent.height then
      none
    else some resolved

/-- The bytes of a box in the staging buffer. -/
structure StagingTextureRange where
  offset : ℕ
  rowPitch : ℕ
  bufferRowLength : ℕ
  bufferImageHeight : ℕ
  rangeSize : ℕ
  deriving DecidableEq

/-- `ComputeStagingTextureOffset` with all its results. -/
def computeStagingTextureOffset (resolvedSlice : ResolvedSlice)
    (mipLayout : StagingTextureMipLayout) (formatLayout : TextureFormatBlockLayout)
    (arrayByteSize : ℕ) : Guarded StagingTextureRange := do
  let elementOffset ← Guarded.mul arrayByteSize resolvedSlice.arraySlice.toNat
  let offset ← Guarded.add mipLayout.byteOffset elementOffset
  let columns ← divideUp resolvedSlice.width formatLayout.blockWidth
  let mappedBlocksX := max columns 1
  let rows ← divideUp resolvedSlice.height formatLayout.blockHeight
  let mappedBlocksY := max rows 1
  let lastSlice ← Guarded.sub resolvedSlice.depth 1
  let slices ← Guarded.mul lastSlice mipLayout.slicePitch
  let lastRow ← Guarded.sub mappedBlocksY 1
  let rows ← Guarded.mul lastRow mipLayout.rowPitch
  let columns ← Guarded.mul mappedBlocksX formatLayout.bytesPerBlock
  let spanned ← Guarded.add slices rows
  let rangeSize ← Guarded.add spanned columns
  let sliceOffset ← Guarded.mul resolvedSlice.z mipLayout.slicePitch
  let rowOffset ← Guarded.mul (resolvedSlice.y / formatLayout.blockHeight) mipLayout.rowPitch
  let columnOffset ←
    Guarded.mul (resolvedSlice.x / formatLayout.blockWidth) formatLayout.bytesPerBlock
  let inner ← Guarded.add sliceOffset rowOffset
  let inner ← Guarded.add inner columnOffset
  let offset ← Guarded.add offset inner
  return {
    offset
    rowPitch := mipLayout.rowPitch
    bufferRowLength := mipLayout.bufferRowLength
    bufferImageHeight := mipLayout.bufferImageHeight
    rangeSize }

/-- The size of the staging buffer, as `createStagingTexture` computes it from the layout. -/
def stagingTotalSize (desc : TextureDesc) (formatLayout : TextureFormatBlockLayout) :
    Guarded (Option (ℕ × ℕ × List StagingTextureMipLayout)) := do
  match ← buildStagingTextureLayout desc formatLayout with
  | none => .ok none
  | some (arrayByteSize, mipLayouts) =>
    if arrayByteSize ≠ 0 ∧ desc.arraySize.toNat > u64Max / arrayByteSize then .ok none
    else
    let totalSize ← Guarded.mul arrayByteSize desc.arraySize.toNat
    .ok (some (totalSize, arrayByteSize, mipLayouts))

end NwbLot.Textures
