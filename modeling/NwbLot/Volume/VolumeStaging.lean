import NwbLot.Library.DirectoryTree
import NwbLot.Volume.VolumeTypes

/-!
# Publishing a staged volume

`PromoteStagedVolume` of `volume_staging.cpp` with its helpers: the segments of the volume in the
output directory are renamed into a backup directory, the staged segments are renamed into the
output directory, and a failure on the way renames the old ones back.
-/

namespace NwbLot.Volume

open DirectoryTree

/-! ## Segment file names -/

/-- A file name, in bytes. -/
structure FileName where
  bytes : List UInt8
  deriving DecidableEq

/-- The hash of nothing. -/
def fnv64OffsetBasis : UInt64 := 14695981039346656037

/-- The factor of each step. -/
def fnv64Prime : UInt64 := 1099511628211

/-- The hash after more bytes. -/
def updateFnv64 (hash : UInt64) (bytes : List UInt8) : UInt64 :=
  bytes.foldl (fun hash byte => (hash ^^^ byte.toUInt64) * fnv64Prime) hash

/-- The decimal digits of a number. -/
def formatDecimal (value : ℕ) : List UInt8 :=
  (Nat.toDigits 10 value).map fun digit => digit.toNat.toUInt8

/-- The text `_` and the text `.vol`. -/
def segmentNameSeparator : List UInt8 := [95]

/-- `.vol`. -/
def segmentNameExtension : List UInt8 := [46, 118, 111, 108]

/-- The hash that names a segment. -/
def hashVolumeSegmentFileName (volumeName : List UInt8) (segmentIndex : ℕ) : UInt64 :=
  updateFnv64
    (updateFnv64
      (updateFnv64 (updateFnv64 fnv64OffsetBasis volumeName) segmentNameSeparator)
      (formatDecimal segmentIndex))
    segmentNameExtension

/-- A hexadecimal digit. -/
def hexDigit (nibble : ℕ) : UInt8 :=
  if nibble < 10 then (48 + nibble).toUInt8 else (97 + (nibble - 10)).toUInt8

/-- `AppendHexU64` to an empty text. -/
def hexU64 (value : UInt64) : List UInt8 :=
  (List.range 16).map fun nibbleIndex =>
    hexDigit (value.toNat / 2 ^ ((15 - nibbleIndex) * 4) % 16)

/-- `MakeVolumeSegmentFileName`. -/
def makeVolumeSegmentFileName (volumeName : List UInt8) (segmentIndex : ℕ) : FileName :=
  ⟨hexU64 (hashVolumeSegmentFileName volumeName segmentIndex) ++ segmentNameExtension⟩

/-- The names of the first segments. -/
def segmentFileNames (volumeName : List UInt8) (segmentCount : ℕ) : List FileName :=
  (List.range segmentCount).map (makeVolumeSegmentFileName volumeName)

/-! ## File operations -/

/-- Which operations fail. -/
structure IoFaults (δ : Type*) where
  queryDirectory : δ → Bool
  queryFile : Place δ FileName → Bool
  makeDirectories : δ → Bool
  rename : Place δ FileName → Place δ FileName → Bool
  removeFile : Place δ FileName → Bool
  removeAll : δ → Bool

/-- Where a volume is staged, and where the old one is kept. -/
structure StagedDirectoryPaths (δ : Type*) where
  stageDirectory : δ
  backupDirectory : δ

section Operations

variable {δ κ : Type*} [DecidableEq δ] (faults : IoFaults δ) (fs : Tree δ FileName κ)

/-- `FileExists` of a segment; nothing when the query fails. -/
def fileExists (place : Place δ FileName) : Option Bool :=
  if faults.queryFile place then none else some (read fs place).isSome

/-- The directory exists, or the call fails. -/
def ensureDirectories (directory : δ) : Option (Tree δ FileName κ) :=
  if faults.makeDirectories directory then none else make fs directory

/-- The file moves, or the call fails. -/
def renamePath (source destination : Place δ FileName) : Option (Tree δ FileName κ) :=
  if faults.rename source destination then none else rename fs source destination

/-- The file is removed, if the call succeeds. -/
def removeFile (place : Place δ FileName) : Tree δ FileName κ :=
  if faults.removeFile place || (read fs place).isNone then fs else put fs place none

/-- The directory is removed, if the call succeeds. -/
def cleanupStagedDirectoryBestEffort (directory : δ) : Tree δ FileName κ :=
  if faults.removeAll directory then fs else drop fs directory

end Operations

/-! ## Backup and rollback -/

section Backup

variable {δ κ : Type*} [DecidableEq δ] (faults : IoFaults δ)

/-- The loop of `RestoreVolumeSegments`. -/
def restoreFiles (fromDirectory toDirectory : δ) :
    List FileName → Tree δ FileName κ → Tree δ FileName κ × Bool
  | [], fs => (fs, true)
  | fileName :: rest, fs =>
    match renamePath faults fs ⟨fromDirectory, fileName⟩ ⟨toDirectory, fileName⟩ with
    | none => (fs, false)
    | some fs => restoreFiles fromDirectory toDirectory rest fs

/-- The segments move back. -/
def restoreVolumeSegments (fromDirectory toDirectory : δ) (fileNames : List FileName)
    (fs : Tree δ FileName κ) : Tree δ FileName κ × Bool :=
  if fileNames.isEmpty then (fs, true)
  else match ensureDirectories faults fs toDirectory with
  | none => (fs, false)
  | some fs => restoreFiles faults fromDirectory toDirectory fileNames fs

/-- `rollbackMovedFiles`: the files and the names that are still in the backup. -/
def rollbackMovedFiles (fromDirectory toDirectory : δ) (movedFileNames : List FileName)
    (fs : Tree δ FileName κ) : Tree δ FileName κ × List FileName :=
  if movedFileNames.isEmpty then (fs, movedFileNames)
  else match restoreVolumeSegments faults toDirectory fromDirectory movedFileNames fs with
  | (fs, false) => (fs, movedFileNames)
  | (fs, true) => (cleanupStagedDirectoryBestEffort faults fs toDirectory, [])

/-- What a backup leaves: the files, whether it succeeded, and the moved names. -/
structure BackupResult (δ κ : Type*) where
  fs : Tree δ FileName κ
  succeeded : Bool
  movedFileNames : List FileName

/-- A failed backup after its rollback. -/
def rolledBack (fromDirectory toDirectory : δ) (movedFileNames : List FileName)
    (fs : Tree δ FileName κ) : BackupResult δ κ :=
  let rollback := rollbackMovedFiles faults fromDirectory toDirectory movedFileNames fs
  { fs := rollback.1, succeeded := false, movedFileNames := rollback.2 }

variable (fromDirectory toDirectory : δ) (volumeName : List UInt8)

/-- The loop of `MoveExistingVolumeSegments`, for at most as many segments as there are indices;
`destinationCreated` says whether the backup directory was made. -/
def backUpSegments : ℕ → ℕ → Bool → List FileName → Tree δ FileName κ → BackupResult δ κ
  | 0, _, _, movedFileNames, fs => { fs, succeeded := false, movedFileNames }
  | remaining + 1, segmentIndex, destinationCreated, movedFileNames, fs =>
    let fileName := makeVolumeSegmentFileName volumeName segmentIndex
    match fileExists faults fs ⟨fromDirectory, fileName⟩ with
    | none => rolledBack faults fromDirectory toDirectory movedFileNames fs
    | some false => { fs, succeeded := true, movedFileNames }
    | some true =>
      match (if destinationCreated then some fs else ensureDirectories faults fs toDirectory) with
      | none => { fs, succeeded := false, movedFileNames }
      | some fs =>
        match renamePath faults fs ⟨fromDirectory, fileName⟩ ⟨toDirectory, fileName⟩ with
        | none => rolledBack faults fromDirectory toDirectory movedFileNames fs
        | some fs =>
          let movedFileNames := movedFileNames ++ [fileName]
          if segmentIndex = u64Max then
            rolledBack faults fromDirectory toDirectory movedFileNames fs
          else backUpSegments remaining (segmentIndex + 1) true movedFileNames fs

/-- The segments of the old volume move away. -/
def moveExistingVolumeSegments (fs : Tree δ FileName κ) : BackupResult δ κ :=
  if faults.queryDirectory fromDirectory then { fs, succeeded := false, movedFileNames := [] }
  else match fs fromDirectory with
  | none => { fs, succeeded := true, movedFileNames := [] }
  | some .file => { fs, succeeded := false, movedFileNames := [] }
  | some (.directory _) =>
    backUpSegments faults fromDirectory toDirectory volumeName (u64Max + 1) 0 false [] fs

end Backup

/-! ## Promotion -/

section Promotion

variable {δ κ : Type*} [DecidableEq δ] (faults : IoFaults δ)

/-- The files, whether all segments were promoted, and how many were. -/
structure PromotionResult (δ κ : Type*) where
  fs : Tree δ FileName κ
  succeeded : Bool
  movedCount : ℕ

variable (fromDirectory toDirectory : δ) (volumeName : List UInt8)

/-- The loop of `MoveStagedVolumeSegments`. -/
def promoteSegments : ℕ → ℕ → Tree δ FileName κ → PromotionResult δ κ
  | 0, segmentIndex, fs => { fs, succeeded := true, movedCount := segmentIndex }
  | remaining + 1, segmentIndex, fs =>
    let fileName := makeVolumeSegmentFileName volumeName segmentIndex
    match renamePath faults fs ⟨fromDirectory, fileName⟩ ⟨toDirectory, fileName⟩ with
    | none => { fs, succeeded := false, movedCount := segmentIndex }
    | some fs => promoteSegments remaining (segmentIndex + 1) fs

/-- The staged segments move into place. -/
def moveStagedVolumeSegments (segmentCount : ℕ) (fs : Tree δ FileName κ) : PromotionResult δ κ :=
  if segmentCount = 0 then { fs, succeeded := false, movedCount := 0 }
  else match ensureDirectories faults fs toDirectory with
  | none => { fs, succeeded := false, movedCount := 0 }
  | some fs => promoteSegments faults fromDirectory toDirectory volumeName segmentCount 0 fs

/-- The segments that were moved into place are removed. -/
def removePromotedVolumeSegmentsBestEffort (outputDirectory : δ) (segmentCount : ℕ)
    (fs : Tree δ FileName κ) : Tree δ FileName κ :=
  (segmentFileNames volumeName segmentCount).foldl
    (fun fs fileName => removeFile faults fs ⟨outputDirectory, fileName⟩) fs

variable (stagedPaths : StagedDirectoryPaths δ) (outputDirectory : δ)

/-- The cleanup of both staging directories. -/
def cleanupStaging (fs : Tree δ FileName κ) : Tree δ FileName κ :=
  cleanupStagedDirectoryBestEffort faults
    (cleanupStagedDirectoryBestEffort faults fs stagedPaths.backupDirectory)
    stagedPaths.stageDirectory

/-- `PromoteStagedVolume`: the files afterwards and its answer. -/
def promoteStagedVolume (segmentCount : ℕ) (fs : Tree δ FileName κ) : Tree δ FileName κ × Bool :=
  let backup := moveExistingVolumeSegments faults outputDirectory stagedPaths.backupDirectory
    volumeName fs
  if !backup.succeeded then (backup.fs, false)
  else
    let promotion := moveStagedVolumeSegments faults stagedPaths.stageDirectory outputDirectory
      volumeName segmentCount backup.fs
    if !promotion.succeeded then
      let removed := removePromotedVolumeSegmentsBestEffort faults volumeName outputDirectory
        promotion.movedCount promotion.fs
      match restoreVolumeSegments faults stagedPaths.backupDirectory outputDirectory
          backup.movedFileNames removed with
      | (fs, true) => (cleanupStaging faults stagedPaths fs, false)
      | (fs, false) => (fs, false)
    else (cleanupStaging faults stagedPaths promotion.fs, true)

end Promotion

end NwbLot.Volume
