import Mathlib.Data.List.Lex
import Mathlib.Data.List.OfFn
import Mathlib.Order.Lattice
import NwbLot.Library.KeyedEntries
import NwbLot.Library.PodCodec

/-!
# Volumes

The data of `volume_types.h`, `volume_storage_detail.h` and `volume_file_system.h`: names and file
records, the two records of the metadata on disk, and a mounted file system with the segment files
under it.

A segment file is the bytes it holds.  Every operation on a segment file takes its outcome from a
list, so that a run with any failures is a value; an exhausted list means that nothing fails any
more.
-/

namespace NwbLot
namespace Volume

/-- `Limit<u64>::s_Max`, also the greatest `usize`. -/
def u64Max : ℕ := 2 ^ 64 - 1

/-- The greatest stream offset and stream size. -/
def streamMax : ℕ := 2 ^ 63 - 1

def volumeDefaultMetadataBytes : ℕ := 512 * 1024
def volumeMinMetadataBytes : ℕ := 4 * 1024
def volumeMoveChunkBytes : ℕ := 1024 * 1024
def volumeFallbackMetadataDivisor : ℕ := 8

/-- A sum that fits 64 bits. -/
def addNoOverflow (lhs rhs : ℕ) : Option ℕ :=
  if lhs > u64Max - rhs then none else some (lhs + rhs)

lemma addNoOverflow_value {lhs rhs sum : ℕ} (h : addNoOverflow lhs rhs = some sum) :
    sum = lhs + rhs := by
  rw [addNoOverflow] at h
  split at h
  · cases h
  · exact (Option.some.inj h).symm

lemma addNoOverflow_eq_some {lhs rhs sum : ℕ} (hrhs : rhs ≤ u64Max)
    (h : addNoOverflow lhs rhs = some sum) : sum = lhs + rhs ∧ lhs + rhs ≤ u64Max := by
  rw [addNoOverflow] at h
  split at h
  · cases h
  · cases h
    exact ⟨rfl, by omega⟩

/-! ## Names and records -/

/-- The eight lanes of a name; a `Name` is identified by them. -/
def NameHash : Type := Fin 8 → UInt64

namespace NameHash

instance : DecidableEq NameHash := inferInstanceAs (DecidableEq (Fin 8 → UInt64))

/-- The lanes as numbers. -/
def lanes (hash : NameHash) : List ℕ := List.ofFn fun lane => (hash lane).toNat

lemma lanes_injective : Function.Injective lanes := fun _ _ h =>
  funext fun lane => UInt64.toNat_inj.1 (congrFun (List.ofFn_injective h) lane)

/-- `LessNameHash` compares the lanes in turn. -/
instance : LinearOrder NameHash := LinearOrder.lift' lanes lanes_injective

/-- `Name::operator bool`. -/
def isSet (hash : NameHash) : Bool := hash.lanes.any (· ≠ 0)

end NameHash

/-- Where a file lies. -/
structure FileRecord where
  offset : UInt64 := 0
  size : UInt64 := 0
  deriving DecidableEq, Repr, Inhabited

/-- The entries of `m_files` in the order of iteration. -/
abbrev FileMap := List (NameHash × FileRecord)

namespace FileMap

/-- The record of a path. -/
def find (files : FileMap) (path : NameHash) : Option FileRecord :=
  (List.find? (·.1 = path) files).map Prod.snd

/-- `insert_or_assign`: an entry that is there keeps its place. -/
def insertOrAssign (files : FileMap) (path : NameHash) (record : FileRecord) : FileMap :=
  if List.any files (·.1 = path) then
    List.map (fun entry => if entry.1 = path then (path, record) else entry) files
  else files ++ [(path, record)]

/-- The map without a path. -/
def erase (files : FileMap) (path : NameHash) : FileMap :=
  List.filter (·.1 ≠ path) files

/-- One entry for each name. -/
def Unique (files : FileMap) : Prop := (List.map Prod.fst files).Nodup

end FileMap

/-! ## The metadata on disk -/

/-- What the first segment begins with. -/
structure VolumeHeaderDisk where
  magic : Fin 8 → UInt8
  segmentSize : UInt64
  metadataBytes : UInt64
  fileCount : UInt64
  indexBytes : UInt64
  nextFreeOffset : UInt64
  deriving DecidableEq

/-- A file in the index. -/
structure VolumeIndexEntryDisk where
  hash : NameHash
  offset : UInt64
  size : UInt64
  deriving DecidableEq

/-- "NWBVOL1" and its terminator. -/
def volumeMagic : Fin 8 → UInt8 := ![78, 87, 66, 86, 79, 76, 49, 0]

/-- The bytes of a header. -/
def volumeHeaderCodec : PodCodec VolumeHeaderDisk :=
  ((PodCodec.u8.array 8).prod (PodCodec.u64.prod (PodCodec.u64.prod
    (PodCodec.u64.prod (PodCodec.u64.prod PodCodec.u64))))).ofEquiv
    { toFun := fun header => (header.magic, header.segmentSize, header.metadataBytes,
        header.fileCount, header.indexBytes, header.nextFreeOffset)
      invFun := fun ⟨magic, segmentSize, metadataBytes, fileCount, indexBytes, nextFreeOffset⟩ =>
        ⟨magic, segmentSize, metadataBytes, fileCount, indexBytes, nextFreeOffset⟩
      left_inv := fun _ => rfl
      right_inv := fun _ => rfl }

/-- The bytes of a path's hash. -/
def nameHashCodec : PodCodec NameHash := PodCodec.u64.array 8

/-- The bytes of an index entry. -/
def volumeIndexEntryCodec : PodCodec VolumeIndexEntryDisk :=
  (nameHashCodec.prod (PodCodec.u64.prod PodCodec.u64)).ofEquiv
    { toFun := fun entry => (entry.hash, entry.offset, entry.size)
      invFun := fun ⟨hash, offset, size⟩ => ⟨hash, offset, size⟩
      left_inv := fun _ => rfl
      right_inv := fun _ => rfl }

/-- The metadata size of a new volume. -/
def defaultMetadataBytes (segmentSize : ℕ) : ℕ :=
  let output := if volumeDefaultMetadataBytes ≥ segmentSize then
      segmentSize / volumeFallbackMetadataDivisor
    else volumeDefaultMetadataBytes
  if output < volumeMinMetadataBytes then volumeMinMetadataBytes else output

/-! ## Segment files -/

/-- The outcome of one operation on a segment file: it fails before the file is opened, or after
some of its bytes. -/
inductive IoOutcome
  | done
  | notOpened
  | stopped (byteCount : ℕ)
  deriving DecidableEq, Repr

/-- The segment files of one volume by their index; a file may be missing. -/
abbrev SegmentFiles := List (Option (List UInt8))

namespace SegmentFiles

/-- The file of a segment. -/
def fileAt (disk : SegmentFiles) (index : ℕ) : Option (List UInt8) := disk[index]?.join

/-- A segment's file is replaced. -/
def setFile (disk : SegmentFiles) (index : ℕ) (file : Option (List UInt8)) : SegmentFiles :=
  (disk ++ List.replicate (index + 1 - disk.length) none).set index file

lemma fileAt_setFile (disk : SegmentFiles) (index other : ℕ) (file : Option (List UInt8)) :
    (disk.setFile index file).fileAt other = if other = index then file else disk.fileAt other := by
  rw [setFile, fileAt]
  by_cases hother : other = index
  · have hlength : index < (disk ++ List.replicate (index + 1 - disk.length) none).length := by
      rw [List.length_append, List.length_replicate]
      omega
    rw [hother, if_pos rfl, List.getElem?_set_self hlength]
    rfl
  · rw [if_neg hother, List.getElem?_set_ne (Ne.symm hother), List.getElem?_append, fileAt]
    split
    · rfl
    · next hlength =>
        rw [List.getElem?_replicate, List.getElem?_eq_none (by omega)]
        split
        · rfl
        · rfl

/-- Bytes written at an offset of a file; a gap before them is filled with zeros. -/
def overwrite (file : List UInt8) (offset : ℕ) (bytes : List UInt8) : List UInt8 :=
  if bytes = [] then file
  else file.take offset ++ List.replicate (offset - file.length) 0 ++ bytes
    ++ file.drop (offset + bytes.length)

end SegmentFiles

/-! ## The file system -/

/-- What a volume is mounted for. -/
inductive VolumeUsage
  | runtimeReadOnly
  | runtimeReadWrite
  | cookWrite
  deriving DecidableEq, Repr

/-- What is found at the path of the mount directory. -/
inductive MountDirectory
  | missing
  | directory
  | other
  deriving DecidableEq, Repr

/-- `VolumeMountDesc`; the name is here whether it is a valid one, since the segment files of one
name in one directory are what a state holds. -/
structure VolumeMountDesc where
  validVolumeName : Bool := true
  segmentSize : UInt64 := 0
  metadataSize : UInt64 := 0
  maxSegments : ℕ := 0
  createIfMissing : Bool := false
  usage : VolumeUsage := .runtimeReadOnly
  deriving DecidableEq, Repr

/-- `VolumeFileSystem`: a mounted segment path is the path of its index, so the paths are their
number. -/
structure VolumeFileSystem where
  mounted : Bool := false
  writable : Bool := false
  segmentSize : ℕ := 0
  metadataBytes : ℕ := 0
  nextFreeOffset : ℕ := 0
  maxSegments : ℕ := 0
  segmentCount : ℕ := 0
  files : FileMap := []

/-- The file system, the segment files under it and the outcomes of the operations to come. -/
structure VolumeState where
  fs : VolumeFileSystem := {}
  mountDirectory : MountDirectory := .missing
  disk : SegmentFiles := []
  outcomes : List IoOutcome := []

namespace VolumeState

/-- The outcome of the operation at hand. -/
def outcome (volume : VolumeState) : IoOutcome := volume.outcomes.headD .done

/-- The state after an operation on a segment file has taken its outcome. -/
def afterIo (volume : VolumeState) : VolumeState :=
  { volume with outcomes := volume.outcomes.tail }

/-- No operation fails any more. -/
def NoIoError (volume : VolumeState) : Prop := ∀ outcome ∈ volume.outcomes, outcome = .done

end VolumeState

end Volume
end NwbLot

/-! ## File maps

How the lookups and the entries of a file map change with its operations. -/

namespace NwbLot
namespace Volume
namespace FileMap

variable {files : FileMap} {path other : NameHash} {record : FileRecord}

lemma mem_of_find (h : files.find path = some record) : (path, record) ∈ files := by
  obtain ⟨entry, hfound, rfl⟩ := Option.map_eq_some_iff.1 h
  have hpath : entry.1 = path := by simpa using List.find?_some hfound
  rw [← hpath]
  exact List.mem_of_find?_eq_some hfound

lemma find_eq_none_iff : files.find path = none ↔ ∀ entry ∈ files, entry.1 ≠ path := by
  rw [find, Option.map_eq_none_iff, List.find?_eq_none]
  simp

lemma Unique.find (hunique : files.Unique) (h : (path, record) ∈ files) :
    files.find path = some record := by
  cases hfind : files.find path with
  | none => exact absurd rfl (find_eq_none_iff.1 hfind (path, record) h)
  | some found =>
    have hmem := mem_of_find hfind
    have hsame : ((path, found) : NameHash × FileRecord) = (path, record) :=
      List.inj_on_of_nodup_map hunique hmem h rfl
    exact congrArg some (Prod.ext_iff.1 hsame).2

lemma Unique.find_eq_some_iff (hunique : files.Unique) :
    files.find path = some record ↔ (path, record) ∈ files :=
  ⟨mem_of_find, hunique.find⟩

/-! ## Insertion -/

lemma insertOrAssign_of_find_none (h : files.find path = none) (record : FileRecord) :
    files.insertOrAssign path record = files ++ [(path, record)] := by
  rw [insertOrAssign, if_neg]
  intro hany
  obtain ⟨entry, hmem, hpath⟩ := List.any_eq_true.1 hany
  exact find_eq_none_iff.1 h entry hmem (of_decide_eq_true hpath)

lemma insertOrAssign_of_find_some {previous : FileRecord} (h : files.find path = some previous)
    (record : FileRecord) : files.insertOrAssign path record
      = List.map (fun entry => if entry.1 = path then (path, record) else entry) files := by
  rw [insertOrAssign, if_pos]
  exact List.any_eq_true.2 ⟨_, mem_of_find h, by simp⟩

/-- An assignment keeps the names. -/
lemma map_fst_assign (files : FileMap) (path : NameHash) (record : FileRecord) :
    List.map Prod.fst (List.map
      (fun entry => if entry.1 = path then (path, record) else entry) files)
        = List.map Prod.fst files := by
  rw [List.map_map]
  refine List.map_congr_left fun entry _ => ?_
  rw [Function.comp_apply]
  split
  · next hpath => exact hpath.symm
  · rfl

lemma Unique.insertOrAssign (hunique : files.Unique) (path : NameHash) (record : FileRecord) :
    (files.insertOrAssign path record).Unique := by
  cases hfind : files.find path with
  | none =>
    rw [insertOrAssign_of_find_none hfind, Unique, List.map_append, List.nodup_append]
    refine ⟨hunique, List.nodup_singleton _, ?_⟩
    intro left hleft right hright
    obtain ⟨entry, hentry, rfl⟩ := List.mem_map.1 hleft
    rw [List.map_singleton, List.mem_singleton] at hright
    rw [hright]
    exact find_eq_none_iff.1 hfind entry hentry
  | some previous =>
    rw [insertOrAssign_of_find_some hfind, Unique, map_fst_assign]
    exact hunique

lemma mem_insertOrAssign {entry : NameHash × FileRecord}
    (h : entry ∈ files.insertOrAssign path record) :
    entry = (path, record) ∨ (entry ∈ files ∧ entry.1 ≠ path) := by
  cases hfind : files.find path with
  | none =>
    rw [insertOrAssign_of_find_none hfind] at h
    rcases List.mem_append.1 h with hold | hnew
    · exact Or.inr ⟨hold, find_eq_none_iff.1 hfind entry hold⟩
    · exact Or.inl (List.mem_singleton.1 hnew)
  | some previous =>
    rw [insertOrAssign_of_find_some hfind] at h
    obtain ⟨before, hmem, rfl⟩ := List.mem_map.1 h
    split
    · exact Or.inl rfl
    · next hpath => exact Or.inr ⟨hmem, hpath⟩

lemma self_mem_insertOrAssign (files : FileMap) (path : NameHash) (record : FileRecord) :
    (path, record) ∈ files.insertOrAssign path record := by
  cases hfind : files.find path with
  | none =>
    rw [insertOrAssign_of_find_none hfind]
    exact List.mem_append_right _ (List.mem_singleton_self _)
  | some previous =>
    rw [insertOrAssign_of_find_some hfind]
    exact List.mem_map.2 ⟨_, mem_of_find hfind, if_pos rfl⟩

lemma mem_insertOrAssign_of_ne {entry : NameHash × FileRecord} (h : entry ∈ files)
    (hne : entry.1 ≠ path) : entry ∈ files.insertOrAssign path record := by
  cases hfind : files.find path with
  | none =>
    rw [insertOrAssign_of_find_none hfind]
    exact List.mem_append_left _ h
  | some previous =>
    rw [insertOrAssign_of_find_some hfind]
    exact List.mem_map.2 ⟨entry, h, if_neg hne⟩

lemma find_insertOrAssign_self (hunique : files.Unique) (path : NameHash) (record : FileRecord) :
    (files.insertOrAssign path record).find path = some record :=
  (hunique.insertOrAssign path record).find (self_mem_insertOrAssign files path record)

lemma find_insertOrAssign_of_ne (hunique : files.Unique) (hne : other ≠ path) :
    (files.insertOrAssign path record).find other = files.find other := by
  refine Option.ext fun found => ?_
  rw [(hunique.insertOrAssign path record).find_eq_some_iff, hunique.find_eq_some_iff]
  constructor
  · intro h
    rcases mem_insertOrAssign h with heq | ⟨hmem, -⟩
    · exact absurd (Prod.ext_iff.1 heq).1 hne
    · exact hmem
  · exact fun h => mem_insertOrAssign_of_ne h hne

lemma length_insertOrAssign (files : FileMap) (path : NameHash) (record : FileRecord) :
    List.length (files.insertOrAssign path record) =
      if (files.find path).isSome then List.length files else List.length files + 1 := by
  cases hfind : files.find path with
  | none =>
    rw [insertOrAssign_of_find_none hfind, List.length_append]
    rfl
  | some previous =>
    rw [insertOrAssign_of_find_some hfind, List.length_map]
    rfl

/-! ## Removal -/

lemma mem_erase {entry : NameHash × FileRecord} :
    entry ∈ files.erase path ↔ entry ∈ files ∧ entry.1 ≠ path := by
  rw [erase, List.mem_filter, decide_eq_true_eq]

lemma Unique.erase (hunique : files.Unique) (path : NameHash) : (files.erase path).Unique :=
  List.Nodup.sublist (List.filter_sublist.map Prod.fst) hunique

lemma length_erase_le (files : FileMap) (path : NameHash) :
    List.length (files.erase path) ≤ List.length files :=
  List.length_filter_le _ _

end FileMap
end Volume
end NwbLot
