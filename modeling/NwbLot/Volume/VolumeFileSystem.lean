import NwbLot.Library.Runs
import NwbLot.Volume.VolumeIo

/-!
# Volume operations

`VolumeFileSystem` of `volume_file_system.cpp`: mounting, writing, removing, reading and compaction,
each under the mutex of the file system, so that a run is a sequence of them.
-/

namespace NwbLot.Volume
namespace VolumeState

/-! ## Mounting -/

/-- `unmountLocked`. -/
def unmountLocked (volume : VolumeState) : VolumeState := { volume with fs := {} }

/-- `scanSegmentsLocked`: the files up to the first that is missing. -/
def scanSegmentsLocked (volume : VolumeState) : Bool × VolumeState :=
  match volume.outcome with
  | .done =>
      (true, { volume.afterIo with
        fs := { volume.fs with segmentCount := (volume.disk.takeWhile Option.isSome).length } })
  | _ => (false, { volume.afterIo with fs := { volume.fs with segmentCount := 0 } })

/-- The size loop of `mount` over the segments from an index on. -/
def checkSegmentSizes : ℕ → ℕ → VolumeState → Bool × VolumeState
  | 0, _, volume => (true, volume)
  | remaining + 1, segmentIndex, volume =>
      let sized := fileSize segmentIndex volume
      match sized.1 with
      | none => (false, sized.2)
      | some segmentFileSize =>
          if segmentFileSize = 0 then (false, sized.2)
          else if remaining ≠ 0 ∧ segmentFileSize ≠ volume.fs.segmentSize then (false, sized.2)
          else if remaining = 0 ∧ segmentFileSize > volume.fs.segmentSize then (false, sized.2)
          else checkSegmentSizes remaining (segmentIndex + 1) sized.2

/-- The first segment of a new volume. -/
def createFirstSegment (desc : VolumeMountDesc) (volume : VolumeState) : Bool × VolumeState :=
  if !desc.createIfMissing || !volume.fs.writable || desc.segmentSize == 0 then (false, volume)
  else
    let segmentSize := desc.segmentSize.toNat
    let metadataBytes :=
      if desc.metadataSize = 0 then defaultMetadataBytes segmentSize else desc.metadataSize.toNat
    let sized : VolumeState := { volume with fs := { volume.fs with segmentSize, metadataBytes } }
    if metadataBytes ≤ volumeHeaderCodec.size ∨ metadataBytes ≥ segmentSize then (false, sized)
    else
      createSegmentLocked 0 { sized with fs := { sized.fs with nextFreeOffset := metadataBytes } }

/-- The branch of `mount` without segments. -/
def createVolume (desc : VolumeMountDesc) (volume : VolumeState) : Bool × VolumeState :=
  let created := createFirstSegment desc volume
  if created.1 then flushMetadataLocked created.2 else (false, created.2)

/-- The branch of `mount` with segments, once the segment size has been discovered. -/
def openSegments (desc : VolumeMountDesc) (discoveredSegmentSize : UInt64)
    (volume : VolumeState) : Bool × VolumeState :=
  let checked := checkSegmentSizes volume.fs.segmentCount 0 volume
  if !checked.1 then (false, checked.2)
  else
    let first := fileSize 0 checked.2
    match first.1 with
    | none => (false, first.2)
    | some firstSegmentFileSize =>
        if firstSegmentFileSize < volumeHeaderCodec.size then (false, first.2)
        else if desc.segmentSize ≠ 0 ∧ desc.segmentSize ≠ discoveredSegmentSize then
          (false, first.2)
        else
          let loaded := loadMetadataLocked first.2
          if !loaded.1 then (false, loaded.2)
          else if desc.metadataSize ≠ 0 ∧ desc.metadataSize.toNat ≠ loaded.2.fs.metadataBytes then
            (false, loaded.2)
          else (true, loaded.2)

/-- The branch of `mount` with segments. -/
def openVolume (desc : VolumeMountDesc) (volume : VolumeState) : Bool × VolumeState :=
  match volume.outcome, volume.disk.fileAt 0 with
  | .done, some file =>
      if file.length < volumeHeaderCodec.size then (false, volume.afterIo)
      else
        let discoveredHeader := volumeHeaderCodec.decode (file.take volumeHeaderCodec.size)
        if discoveredHeader.magic ≠ volumeMagic then (false, volume.afterIo)
        else if discoveredHeader.segmentSize = 0 then (false, volume.afterIo)
        else
          openSegments desc discoveredHeader.segmentSize { volume.afterIo with
            fs := { volume.fs with segmentSize := discoveredHeader.segmentSize.toNat } }
  | _, _ => (false, volume.afterIo)

/-- The beginning of `mount`: the directory and the scan. -/
def scanMountDirectory (desc : VolumeMountDesc) (volume : VolumeState) : Bool × VolumeState :=
  let closed := volume.unmountLocked
  if !desc.validVolumeName then (false, closed)
  else
    let described : VolumeState := { closed with
      fs := { closed.fs with
        writable := desc.usage != .runtimeReadOnly, maxSegments := desc.maxSegments } }
    let scan (found : VolumeState) : Bool × VolumeState :=
      let scanned := scanSegmentsLocked found
      if scanned.1 then (true, scanned.2) else (false, scanned.2.unmountLocked)
    match described.mountDirectory with
    | .missing =>
        if !desc.createIfMissing || !described.fs.writable then (false, described)
        else
          match described.outcome with
          | .done => scan { described.afterIo with mountDirectory := .directory }
          | _ => (false, described.afterIo)
    | .other => (false, described)
    | .directory => scan described

/-- `mount`. -/
def mount (desc : VolumeMountDesc) (volume : VolumeState) : Bool × VolumeState :=
  let scanned := scanMountDirectory desc volume
  if !scanned.1 then (false, scanned.2)
  else
    let opened :=
      if scanned.2.fs.segmentCount = 0 then createVolume desc scanned.2
      else openVolume desc scanned.2
    if !opened.1 then (false, opened.2.unmountLocked)
    else if opened.2.fs.maxSegments ≠ 0 ∧ opened.2.fs.segmentCount > opened.2.fs.maxSegments then
      (false, opened.2.unmountLocked)
    else (true, { opened.2 with fs := { opened.2.fs with mounted := true } })

/-! ## Files -/

/-- `writeFileLocked` up to the flush: the payload is written and the record set. -/
def recordFileLocked (virtualPath : NameHash) (bytes : List UInt8) (volume : VolumeState) :
    Bool × VolumeState :=
  if !volume.fs.mounted || !volume.fs.writable then (false, volume)
  else if !virtualPath.isSet then (false, volume)
  else
    let existing := volume.fs.files.find virtualPath
    let fileCountAfterWrite :=
      if existing.isSome then volume.fs.files.length else volume.fs.files.length + 1
    if existing.isNone && volume.fs.files.length == u64Max then (false, volume)
    else if !canFitMetadataForFileCountLocked volume.fs fileCountAfterWrite then (false, volume)
    else
      match addNoOverflow volume.fs.nextFreeOffset bytes.length with
      | none => (false, volume)
      | some newFileEnd =>
          let ensured := ensureCapacityLocked newFileEnd volume
          if !ensured.1 then (false, ensured.2)
          else
            let written := writeBytesLocked volume.fs.nextFreeOffset bytes ensured.2
            if !written.1 then (false, written.2)
            else
              (true, { written.2 with
                fs := { written.2.fs with
                  files := written.2.fs.files.insertOrAssign virtualPath
                    { offset := .ofNat volume.fs.nextFreeOffset, size := .ofNat bytes.length }
                  nextFreeOffset := newFileEnd } })

/-- The record of a file is as it was. -/
def restoreRecord (files : FileMap) (virtualPath : NameHash) (previous : Option FileRecord) :
    FileMap :=
  match previous with
  | some previousRecord => files.insertOrAssign virtualPath previousRecord
  | none => files.erase virtualPath

/-- `writeFileLocked`; `immediate` is its flush mode. -/
def writeFileLocked (virtualPath : NameHash) (bytes : List UInt8) (immediate : Bool)
    (volume : VolumeState) : Bool × VolumeState :=
  let recorded := recordFileLocked virtualPath bytes volume
  if !recorded.1 then (false, recorded.2)
  else if !immediate then (true, recorded.2)
  else
    let flushed := flushMetadataLocked recorded.2
    if flushed.1 then (true, flushed.2)
    else
      (false, { flushed.2 with
        fs := { flushed.2.fs with
          files := restoreRecord flushed.2.fs.files virtualPath (volume.fs.files.find virtualPath)
          nextFreeOffset := volume.fs.nextFreeOffset } })

/-- A file is written, and the metadata flushed. -/
def writeFile (virtualPath : NameHash) (bytes : List UInt8) (volume : VolumeState) :
    Bool × VolumeState :=
  writeFileLocked virtualPath bytes true volume

/-- A file is written, the metadata later. -/
def writeFileDeferred (virtualPath : NameHash) (bytes : List UInt8) (volume : VolumeState) :
    Bool × VolumeState :=
  writeFileLocked virtualPath bytes false volume

/-- The metadata of a writable volume is written. -/
def flushMetadata (volume : VolumeState) : Bool × VolumeState :=
  if !volume.fs.mounted || !volume.fs.writable then (false, volume)
  else flushMetadataLocked volume

/-- `readFileRecordLocked`. -/
def readFileRecordLocked (virtualPath : NameHash) (volume : VolumeState) : Option FileRecord :=
  if !volume.fs.mounted || !virtualPath.isSet then none else volume.fs.files.find virtualPath

/-- `readFile`. -/
def readFile (virtualPath : NameHash) (volume : VolumeState) : Option (List UInt8) × VolumeState :=
  match readFileRecordLocked virtualPath volume with
  | none => (none, volume)
  | some record => readBytesLocked record.offset.toNat record.size.toNat volume

/-- `removeFile` up to the flush. -/
def eraseFileLocked (virtualPath : NameHash) (volume : VolumeState) : Option VolumeState :=
  if !volume.fs.mounted || !volume.fs.writable || !virtualPath.isSet
      || (volume.fs.files.find virtualPath).isNone then none
  else some { volume with fs := { volume.fs with files := volume.fs.files.erase virtualPath } }

/-- `removeFile`. -/
def removeFile (virtualPath : NameHash) (volume : VolumeState) : Bool × VolumeState :=
  match eraseFileLocked virtualPath volume with
  | none => (false, volume)
  | some erased =>
      let flushed := flushMetadataLocked erased
      if flushed.1 then (true, flushed.2)
      else
        (false, { flushed.2 with
          fs := { flushed.2.fs with
            files := restoreRecord flushed.2.fs.files virtualPath
              (volume.fs.files.find virtualPath) } })

/-! ## Compaction -/

/-- Where a file moves in a compaction. -/
structure FileLayout where
  path : NameHash
  sourceOffset : ℕ
  destinationOffset : ℕ := 0
  size : ℕ
  deriving DecidableEq

/-- The layouts of the files, if every record is inside the payload area. -/
def fileLayouts (fs : VolumeFileSystem) : Option (List FileLayout) :=
  fs.files.mapM fun (path, record) =>
    match addNoOverflow record.offset.toNat record.size.toNat with
    | none => none
    | some endOffset =>
        if record.offset.toNat < fs.metadataBytes then none
        else if endOffset > fs.nextFreeOffset then none
        else some { path, sourceOffset := record.offset.toNat, size := record.size.toNat }

/-- `Sort` by the source offsets; records of one offset stay in the order of iteration. -/
def sortLayouts (layouts : List FileLayout) : List FileLayout :=
  layouts.insertionSort fun lhs rhs => lhs.sourceOffset ≤ rhs.sourceOffset

/-- The destinations of the layouts and the end of the last of them, if no extent begins before the
previous one ends. -/
def planLayouts : List FileLayout → (compactedWriteOffset previousSourceEnd : ℕ) →
    Option (List FileLayout × ℕ)
  | [], compactedWriteOffset, _ => some ([], compactedWriteOffset)
  | layout :: rest, compactedWriteOffset, previousSourceEnd =>
      if layout.sourceOffset < previousSourceEnd then none
      else
        match addNoOverflow layout.sourceOffset layout.size,
            addNoOverflow compactedWriteOffset layout.size with
        | some sourceEnd, some writeEnd =>
            (planLayouts rest writeEnd sourceEnd).map fun planned =>
              ({ layout with destinationOffset := compactedWriteOffset } :: planned.1, planned.2)
        | _, _ => none

/-- The move loop. -/
def moveLayouts : List FileLayout → VolumeState → Bool × VolumeState
  | [], volume => (true, volume)
  | layout :: rest, volume =>
      if layout.size = 0 ∨ layout.destinationOffset = layout.sourceOffset then
        moveLayouts rest volume
      else
        let moved := moveBytesLocked layout.destinationOffset layout.sourceOffset layout.size volume
        if moved.1 then moveLayouts rest moved.2 else (false, moved.2)

/-- The records of moved layouts. -/
def recordLayouts (files : FileMap) (layouts : List FileLayout) : FileMap :=
  layouts.foldl (fun files layout => files.insertOrAssign layout.path
    { offset := .ofNat layout.destinationOffset, size := .ofNat layout.size }) files

/-- The plan of `compact` and the end of the last destination. -/
def planFiles (fs : VolumeFileSystem) : Option (List FileLayout × ℕ) :=
  (fileLayouts fs).bind fun layouts =>
    planLayouts (sortLayouts layouts) fs.metadataBytes fs.metadataBytes

/-- `compact` up to the flush: the files are moved and their records set. -/
def packFilesLocked (volume : VolumeState) : Bool × VolumeState :=
  if !volume.fs.mounted || !volume.fs.writable then (false, volume)
  else
    match planFiles volume.fs with
    | none => (false, volume)
    | some (layouts, compactedWriteOffset) =>
        let moved := moveLayouts layouts volume
        if !moved.1 then (false, moved.2)
        else
          (true, { moved.2 with
            fs := { moved.2.fs with
              files := recordLayouts moved.2.fs.files layouts
              nextFreeOffset := compactedWriteOffset } })

/-- `compact`. -/
def compact (shrinkSegments : Bool) (volume : VolumeState) : Bool × VolumeState :=
  let packed := packFilesLocked volume
  if !packed.1 then (false, packed.2)
  else
    let flushed := flushMetadataLocked packed.2
    if !flushed.1 then
      (false, { flushed.2 with
        fs := { flushed.2.fs with
          files := volume.fs.files, nextFreeOffset := volume.fs.nextFreeOffset } })
    else if !shrinkSegments then (true, flushed.2)
    else trimSegmentsForNextFreeOffsetLocked flushed.2

end VolumeState

/-! ## Runs -/

/-- The bytes of a write; no object has more of them than a pointer difference can count. -/
structure FileData where
  bytes : List UInt8
  bounded : bytes.length ≤ streamMax

/-- The operations, each under the mutex. -/
inductive VolumeOperation
  | mount (desc : VolumeMountDesc)
  | unmount
  | writeFile (virtualPath : NameHash) (data : FileData)
  | writeFileDeferred (virtualPath : NameHash) (data : FileData)
  | flushMetadata
  | readFile (virtualPath : NameHash)
  | removeFile (virtualPath : NameHash)
  | compact (shrinkSegments : Bool)

namespace VolumeOperation

open VolumeState

/-- What an operation returns and leaves. -/
def run : VolumeOperation → VolumeState → Bool × VolumeState
  | .mount desc, volume => volume.mount desc
  | .unmount, volume => (true, volume.unmountLocked)
  | .writeFile virtualPath data, volume => volume.writeFile virtualPath data.bytes
  | .writeFileDeferred virtualPath data, volume => volume.writeFileDeferred virtualPath data.bytes
  | .flushMetadata, volume => volume.flushMetadata
  | .readFile virtualPath, volume =>
      ((volume.readFile virtualPath).1.isSome, (volume.readFile virtualPath).2)
  | .removeFile virtualPath, volume => volume.removeFile virtualPath
  | .compact shrinkSegments, volume => volume.compact shrinkSegments

/-- The state whose metadata an operation flushes, if it comes to its flush. -/
def flushRequest : VolumeOperation → VolumeState → Option VolumeState
  | .mount desc, volume =>
      let scanned := volume.scanMountDirectory desc
      let created := scanned.2.createFirstSegment desc
      if scanned.1 ∧ scanned.2.fs.segmentCount = 0 ∧ created.1 then some created.2 else none
  | .writeFile virtualPath data, volume =>
      let recorded := volume.recordFileLocked virtualPath data.bytes
      if recorded.1 then some recorded.2 else none
  | .flushMetadata, volume =>
      if volume.fs.mounted && volume.fs.writable then some volume else none
  | .removeFile virtualPath, volume => volume.eraseFileLocked virtualPath
  | .compact _, volume =>
      let packed := volume.packFilesLocked
      if packed.1 then some packed.2 else none
  | .unmount, _ | .writeFileDeferred _ _, _ | .readFile _, _ => none

end VolumeOperation

/-- What happens to a volume: an operation, or a new order of iteration over the file map. -/
inductive VolumeEvent
  | operation (operation : VolumeOperation)
  | rehash (files : FileMap)

/-- A new order of iteration lists the same entries. -/
def step (volume : VolumeState) : VolumeEvent → Option VolumeState
  | .operation operation => some (operation.run volume).2
  | .rehash files =>
      if files.Perm volume.fs.files then some { volume with fs := { volume.fs with files } }
      else none

end NwbLot.Volume
