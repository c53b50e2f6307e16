import NwbLot.Volume.VolumeTypes

/-!
# Volume bytes

`volume_io.cpp`: transfers of logical byte ranges, chunk by chunk over the segment files, the
creation of segments, capacities, the overlapping move and the trimming of segments.

A reading returns its bytes, or nothing when it fails; every other operation returns whether it
succeeded.  The state it leaves is returned in both cases.
-/

namespace NwbLot.Volume

open SegmentFiles

namespace VolumeState

/-! ## Segment chunks -/

/-- The chunk loop of `ForEachSegmentChunk`; every chunk has a byte, so the count of bytes bounds
the turns. -/
def forEachChunk {σ : Type} (segmentSize : ℕ) (chunkFunc : ℕ → ℕ → ℕ → σ → Bool × σ) :
    ℕ → ℕ → ℕ → σ → Bool × σ
  | 0, _, _, state => (true, state)
  | turns + 1, currentOffset, remainingBytes, state =>
      if remainingBytes = 0 then (true, state)
      else
        let segmentOffset := currentOffset % segmentSize
        let chunkBytes := min remainingBytes (segmentSize - segmentOffset)
        if segmentOffset > streamMax || chunkBytes > streamMax then (false, state)
        else
          let transferred := chunkFunc (currentOffset / segmentSize) segmentOffset chunkBytes state
          if transferred.1 then
            forEachChunk segmentSize chunkFunc turns (currentOffset + chunkBytes)
              (remainingBytes - chunkBytes) transferred.2
          else (false, transferred.2)

/-- `ForEachSegmentChunk`. -/
def forEachSegmentChunk {σ : Type} (segmentSize segmentCount offset byteCount : ℕ)
    (chunkFunc : ℕ → ℕ → ℕ → σ → Bool × σ) (state : σ) : Bool × σ :=
  if segmentSize = 0 then (false, state)
  else
    match addNoOverflow offset byteCount with
    | none => (false, state)
    | some endOffset =>
        if segmentCount > u64Max / segmentSize then (false, state)
        else if endOffset > segmentCount * segmentSize then (false, state)
        else forEachChunk segmentSize chunkFunc byteCount offset byteCount state

/-- `ReadSegmentBytes`: the bytes are appended to those already read. -/
def readSegmentBytes (segmentIndex streamOffset chunkBytes : ℕ)
    (state : List UInt8 × VolumeState) : Bool × List UInt8 × VolumeState :=
  match state.2.outcome, state.2.disk.fileAt segmentIndex with
  | .done, some file =>
      let chunk := (file.drop streamOffset).take chunkBytes
      if chunk.length = chunkBytes then (true, state.1 ++ chunk, state.2.afterIo)
      else (false, state.1, state.2.afterIo)
  | _, _ => (false, state.1, state.2.afterIo)

/-- `WriteSegmentBytes`: the bytes are taken from those still to be written. -/
def writeSegmentBytes (segmentIndex streamOffset chunkBytes : ℕ)
    (state : List UInt8 × VolumeState) : Bool × List UInt8 × VolumeState :=
  match state.2.disk.fileAt segmentIndex with
  | none => (false, state.1, state.2.afterIo)
  | some file =>
      let written (byteCount : ℕ) : VolumeState :=
        { state.2.afterIo with
          disk := state.2.disk.setFile segmentIndex
            (some (overwrite file streamOffset (state.1.take byteCount))) }
      match state.2.outcome with
      | .done => (true, state.1.drop chunkBytes, written chunkBytes)
      | .notOpened => (false, state.1, state.2.afterIo)
      | .stopped byteCount => (false, state.1, written (min byteCount chunkBytes))

/-- `readBytesLocked`. -/
def readBytesLocked (offset byteCount : ℕ) (volume : VolumeState) :
    Option (List UInt8) × VolumeState :=
  if byteCount = 0 then (some [], volume)
  else
    let transferred := forEachSegmentChunk volume.fs.segmentSize volume.fs.segmentCount offset
      byteCount readSegmentBytes ([], volume)
    (if transferred.1 then some transferred.2.1 else none, transferred.2.2)

/-! ## Segments and capacities -/

/-- `createSegmentLocked`; the file is made by writing its last byte. -/
def createSegmentLocked (segmentIndex : ℕ) (volume : VolumeState) : Bool × VolumeState :=
  if volume.fs.maxSegments ≠ 0 ∧ segmentIndex ≥ volume.fs.maxSegments then (false, volume)
  else if volume.fs.segmentSize = 0 then (false, volume)
  else
    let created (byteCount : ℕ) : VolumeState :=
      { volume.afterIo with
        disk := volume.disk.setFile segmentIndex (some (List.replicate byteCount 0)) }
    if volume.outcome = .notOpened then (false, volume.afterIo)
    else if volume.fs.segmentSize - 1 > streamMax then (false, created 0)
    else
      match volume.outcome with
      | .done =>
          if segmentIndex = volume.fs.segmentCount then
            (true, { created volume.fs.segmentSize with
              fs := { volume.fs with segmentCount := volume.fs.segmentCount + 1 } })
          else if segmentIndex < volume.fs.segmentCount then (true, created volume.fs.segmentSize)
          else (false, created volume.fs.segmentSize)
      | .notOpened => (false, volume.afterIo)
      | .stopped byteCount => (false, created (min byteCount volume.fs.segmentSize))

/-- `computeLogicalCapacityLocked`. -/
def computeLogicalCapacityLocked (fs : VolumeFileSystem) : Option ℕ :=
  if fs.segmentSize = 0 then none
  else if fs.segmentCount > u64Max / fs.segmentSize then none
  else some (fs.segmentCount * fs.segmentSize)

/-- The growth loop of `ensureCapacityLocked`: every turn adds a segment of at least one byte. -/
def growSegments (requiredBytes : ℕ) : ℕ → VolumeState → Bool × VolumeState
  | 0, volume => (false, volume)
  | turns + 1, volume =>
      match computeLogicalCapacityLocked volume.fs with
      | none => (false, volume)
      | some capacity =>
          if requiredBytes ≤ capacity then (true, volume)
          else if !volume.fs.writable then (false, volume)
          else
            let created := createSegmentLocked volume.fs.segmentCount volume
            if created.1 then growSegments requiredBytes turns created.2
            else (false, created.2)

/-- `ensureCapacityLocked`. -/
def ensureCapacityLocked (requiredBytes : ℕ) (volume : VolumeState) : Bool × VolumeState :=
  if volume.fs.segmentSize = 0 then (false, volume)
  else growSegments requiredBytes (requiredBytes + 1) volume

/-- `FileSize` of a segment file. -/
def fileSize (segmentIndex : ℕ) (volume : VolumeState) : Option ℕ × VolumeState :=
  match volume.outcome with
  | .done => ((volume.disk.fileAt segmentIndex).map List.length, volume.afterIo)
  | _ => (none, volume.afterIo)

/-- `computePhysicalCapacityLocked`. -/
def computePhysicalCapacityLocked (volume : VolumeState) : Option ℕ × VolumeState :=
  if volume.fs.segmentCount = 0 ∨ volume.fs.segmentSize = 0 then (none, volume)
  else
    let fullSegmentCount := volume.fs.segmentCount - 1
    if fullSegmentCount > u64Max / volume.fs.segmentSize then (none, volume)
    else
      let sized := fileSize fullSegmentCount volume
      match sized.1 with
      | none => (none, sized.2)
      | some lastSegmentBytes =>
          if lastSegmentBytes = 0 ∨ lastSegmentBytes > volume.fs.segmentSize then (none, sized.2)
          else
            (addNoOverflow (fullSegmentCount * volume.fs.segmentSize) lastSegmentBytes, sized.2)

/-- `writeBytesLocked`. -/
def writeBytesLocked (offset : ℕ) (bytes : List UInt8) (volume : VolumeState) :
    Bool × VolumeState :=
  if bytes.length = 0 then (true, volume)
  else
    match addNoOverflow offset bytes.length with
    | none => (false, volume)
    | some endOffset =>
        let ensured := ensureCapacityLocked endOffset volume
        if ensured.1 then
          let transferred := forEachSegmentChunk ensured.2.fs.segmentSize
            ensured.2.fs.segmentCount offset bytes.length writeSegmentBytes (bytes, ensured.2)
          (transferred.1, transferred.2.2)
        else (false, ensured.2)

/-! ## Moving bytes -/

/-- One chunk through the move buffer. -/
def moveChunk (readOffset writeOffset copyBytes : ℕ) (volume : VolumeState) :
    Bool × VolumeState :=
  let read := readBytesLocked readOffset copyBytes volume
  match read.1 with
  | none => (false, read.2)
  | some moveBuffer => writeBytesLocked writeOffset moveBuffer read.2

/-- The loop towards the end of the range; a chunk has at least one byte. -/
def moveForward (moveChunkBytes destinationOffset sourceOffset byteCount : ℕ) :
    ℕ → ℕ → VolumeState → Bool × VolumeState
  | 0, _, volume => (true, volume)
  | turns + 1, movedBytes, volume =>
      if movedBytes < byteCount then
        let copyBytes := min (byteCount - movedBytes) moveChunkBytes
        let moved := moveChunk (sourceOffset + movedBytes) (destinationOffset + movedBytes)
          copyBytes volume
        if moved.1 then
          moveForward moveChunkBytes destinationOffset sourceOffset byteCount turns
            (movedBytes + copyBytes) moved.2
        else (false, moved.2)
      else (true, volume)

/-- The loop towards the beginning of the range. -/
def moveBackward (moveChunkBytes destinationOffset sourceOffset : ℕ) :
    ℕ → ℕ → VolumeState → Bool × VolumeState
  | 0, _, volume => (true, volume)
  | turns + 1, remainingBytes, volume =>
      if 0 < remainingBytes then
        let copyBytes := min remainingBytes moveChunkBytes
        let chunkBegin := remainingBytes - copyBytes
        let moved := moveChunk (sourceOffset + chunkBegin) (destinationOffset + chunkBegin)
          copyBytes volume
        if moved.1 then
          moveBackward moveChunkBytes destinationOffset sourceOffset turns
            (remainingBytes - copyBytes) moved.2
        else (false, moved.2)
      else (true, volume)

/-- `moveBytesLocked`, for any size of the chunks it moves at most. -/
def moveBytesLockedBy (volumeMoveChunkBytes destinationOffset sourceOffset byteCount : ℕ)
    (volume : VolumeState) : Bool × VolumeState :=
  if byteCount = 0 ∨ destinationOffset = sourceOffset then (true, volume)
  else if volume.fs.segmentSize = 0 then (false, volume)
  else
    match addNoOverflow sourceOffset byteCount with
    | none => (false, volume)
    | some sourceEndOffset =>
        match computeLogicalCapacityLocked volume.fs with
        | none => (false, volume)
        | some capacityBytes =>
            if sourceEndOffset > capacityBytes then (false, volume)
            else
              match addNoOverflow destinationOffset byteCount with
              | none => (false, volume)
              | some destinationEndOffset =>
                  let ensured := ensureCapacityLocked destinationEndOffset volume
                  let moveChunkBytes := min volumeMoveChunkBytes volume.fs.segmentSize
                  if !ensured.1 then (false, ensured.2)
                  else if moveChunkBytes = 0 ∨ moveChunkBytes > u64Max then (false, ensured.2)
                  else if destinationOffset < sourceOffset then
                    moveForward moveChunkBytes destinationOffset sourceOffset byteCount byteCount 0
                      ensured.2
                  else
                    moveBackward moveChunkBytes destinationOffset sourceOffset byteCount byteCount
                      ensured.2

/-- `moveBytesLocked`. -/
def moveBytesLocked (destinationOffset sourceOffset byteCount : ℕ) (volume : VolumeState) :
    Bool × VolumeState :=
  moveBytesLockedBy volumeMoveChunkBytes destinationOffset sourceOffset byteCount volume

/-! ## Trimming -/

/-- `DivideUp`. -/
def divideUp (value divisor : ℕ) : ℕ :=
  if value = 0 ∨ divisor = 0 then 0 else 1 + (value - 1) / divisor

/-- The removal loop: `surplus` segments are removed from the back. -/
def removeSegments : ℕ → VolumeState → Bool × VolumeState
  | 0, volume => (true, volume)
  | surplus + 1, volume =>
      match volume.outcome, volume.disk.fileAt (volume.fs.segmentCount - 1) with
      | .done, some _ =>
          removeSegments surplus
            { volume.afterIo with
              fs := { volume.fs with segmentCount := volume.fs.segmentCount - 1 }
              disk := volume.disk.setFile (volume.fs.segmentCount - 1) none }
      | _, _ => (false, volume.afterIo)

/-- `ResizeFile` of a segment file. -/
def resizeFile (segmentIndex byteCount : ℕ) (volume : VolumeState) : Bool × VolumeState :=
  if byteCount > streamMax then (false, volume)
  else
    match volume.outcome, volume.disk.fileAt segmentIndex with
    | .done, some file =>
        (true, { volume.afterIo with
          disk := volume.disk.setFile segmentIndex
            (some (file.take byteCount ++ List.replicate (byteCount - file.length) 0)) })
    | _, _ => (false, volume.afterIo)

/-- `trimSegmentsForNextFreeOffsetLocked`. -/
def trimSegmentsForNextFreeOffsetLocked (volume : VolumeState) : Bool × VolumeState :=
  if !volume.fs.writable ∨ volume.fs.segmentSize = 0 then (false, volume)
  else if volume.fs.segmentCount = 0 then (false, volume)
  else
    let requiredBytes := max volume.fs.nextFreeOffset volume.fs.metadataBytes
    let requiredSegments :=
      if divideUp requiredBytes volume.fs.segmentSize = 0 then 1
      else divideUp requiredBytes volume.fs.segmentSize
    if requiredSegments > volume.fs.segmentCount then (false, volume)
    else
      let removed := removeSegments (volume.fs.segmentCount - requiredSegments) volume
      if !removed.1 then (false, removed.2)
      else
        let requiredLastSegmentBytes :=
          if requiredBytes % volume.fs.segmentSize = 0 then volume.fs.segmentSize
          else requiredBytes % volume.fs.segmentSize
        let sized := fileSize (removed.2.fs.segmentCount - 1) removed.2
        match sized.1 with
        | none => (false, sized.2)
        | some currentLastSegmentBytes =>
            if currentLastSegmentBytes = requiredLastSegmentBytes then (true, sized.2)
            else resizeFile (removed.2.fs.segmentCount - 1) requiredLastSegmentBytes sized.2

end VolumeState

/-! ## Volume metadata

`volume_metadata.cpp`: the header and the index at the beginning of a volume. -/

/-- The size of an index. -/
def computeVolumeIndexBytes (fileCount : ℕ) : Option ℕ :=
  if fileCount > u64Max / volumeIndexEntryCodec.size then none
  else some (fileCount * volumeIndexEntryCodec.size)

/-- The size of the header and the index. -/
def computeVolumeMetadataRequirement (fileCount : ℕ) : Option ℕ :=
  (computeVolumeIndexBytes fileCount).bind (addNoOverflow volumeHeaderCodec.size)

namespace VolumeState

/-! ## Loading -/

/-- The entry loop of `loadMetadataLocked`: the count of entries to come and the bytes behind the
cursor. -/
def loadEntries (header : VolumeHeaderDisk) :
    ℕ → List UInt8 → FileMap → Option (FileMap × List UInt8)
  | 0, rest, loadedFiles => some (loadedFiles, rest)
  | remaining + 1, rest, loadedFiles =>
      if rest.length < volumeIndexEntryCodec.size then none
      else
        let entry := volumeIndexEntryCodec.decode (rest.take volumeIndexEntryCodec.size)
        match addNoOverflow entry.offset.toNat entry.size.toNat with
        | none => none
        | some endOffset =>
            if entry.offset < header.metadataBytes then none
            else if endOffset > header.nextFreeOffset.toNat then none
            else if (loadedFiles.find entry.hash).isSome then none
            else loadEntries header remaining (rest.drop volumeIndexEntryCodec.size)
              (loadedFiles.insertOrAssign entry.hash
                { offset := entry.offset, size := entry.size })

/-- The checks of the header that precede the reading of the index. -/
def headerFits (fs : VolumeFileSystem) (header : VolumeHeaderDisk) : Bool :=
  header.magic == volumeMagic && header.segmentSize.toNat == fs.segmentSize
    && decide (volumeHeaderCodec.size < header.metadataBytes.toNat)
    && decide (header.metadataBytes.toNat < fs.segmentSize)
    && (addNoOverflow volumeHeaderCodec.size header.indexBytes.toNat).any
      (fun headerTotalBytes => decide (headerTotalBytes ≤ header.metadataBytes.toNat))
    && decide (header.metadataBytes ≤ header.nextFreeOffset)
    && (computeLogicalCapacityLocked fs).any
      fun maxVolumeBytes => decide (header.nextFreeOffset.toNat ≤ maxVolumeBytes)

/-- `loadMetadataLocked`. -/
def loadMetadataLocked (volume : VolumeState) : Bool × VolumeState :=
  let read := readBytesLocked 0 volumeHeaderCodec.size volume
  match read.1 with
  | none => (false, read.2)
  | some headerBytes =>
      let header := volumeHeaderCodec.decode headerBytes
      if !headerFits read.2.fs header then (false, read.2)
      else
        let physical := computePhysicalCapacityLocked read.2
        match physical.1 with
        | none => (false, physical.2)
        | some physicalCapacityBytes =>
            if header.nextFreeOffset.toNat > physicalCapacityBytes then (false, physical.2)
            else if header.indexBytes.toNat > u64Max then (false, physical.2)
            else if computeVolumeIndexBytes header.fileCount.toNat
                ≠ some header.indexBytes.toNat then (false, physical.2)
            else
              let index := readBytesLocked volumeHeaderCodec.size header.indexBytes.toNat
                physical.2
              match index.1 with
              | none => (false, index.2)
              | some indexData =>
                  match loadEntries header header.fileCount.toNat indexData [] with
                  | none => (false, index.2)
                  | some (loadedFiles, rest) =>
                      if rest ≠ [] then (false, index.2)
                      else
                        (true, { index.2 with
                          fs := { index.2.fs with
                            metadataBytes := header.metadataBytes.toNat
                            nextFreeOffset := header.nextFreeOffset.toNat
                            files := loadedFiles } })

/-! ## Flushing -/

/-- The index of the file map. -/
def indexBytes (files : FileMap) : List UInt8 :=
  (List.sortByKey files).flatMap fun entry =>
    volumeIndexEntryCodec.encode ⟨entry.1, entry.2.offset, entry.2.size⟩

/-- The header of a file system. -/
def volumeHeader (fs : VolumeFileSystem) : VolumeHeaderDisk where
  magic := volumeMagic
  segmentSize := .ofNat fs.segmentSize
  metadataBytes := .ofNat fs.metadataBytes
  fileCount := .ofNat fs.files.length
  indexBytes := .ofNat (indexBytes fs.files).length
  nextFreeOffset := .ofNat fs.nextFreeOffset

/-- The header, the index and zeros up to the end of the metadata area. -/
def metadataBuffer (fs : VolumeFileSystem) : List UInt8 :=
  let written := volumeHeaderCodec.encode (volumeHeader fs) ++ indexBytes fs.files
  written ++ List.replicate (fs.metadataBytes - written.length) 0

/-- `flushMetadataLocked`. -/
def flushMetadataLocked (volume : VolumeState) : Bool × VolumeState :=
  if volume.fs.segmentCount = 0 then (false, volume)
  else if volume.fs.nextFreeOffset < volume.fs.metadataBytes then (false, volume)
  else
    match computeLogicalCapacityLocked volume.fs with
    | none => (false, volume)
    | some maxVolumeBytes =>
        if volume.fs.nextFreeOffset > maxVolumeBytes then (false, volume)
        else
          match computeVolumeIndexBytes volume.fs.files.length with
          | none => (false, volume)
          | some expectedIndexBytes =>
              if expectedIndexBytes > u64Max then (false, volume)
              else if (indexBytes volume.fs.files).length ≠ expectedIndexBytes then (false, volume)
              else
                match addNoOverflow volumeHeaderCodec.size (indexBytes volume.fs.files).length with
                | none => (false, volume)
                | some totalMetaBytes =>
                    if totalMetaBytes > volume.fs.metadataBytes then (false, volume)
                    else writeBytesLocked 0 (metadataBuffer volume.fs) volume

end VolumeState

/-- `canFitMetadataForFileCountLocked`. -/
def canFitMetadataForFileCountLocked (fs : VolumeFileSystem) (fileCount : ℕ) : Bool :=
  match computeVolumeMetadataRequirement fileCount with
  | none => false
  | some metadataBytes => decide (metadataBytes ≤ fs.metadataBytes)

end NwbLot.Volume
