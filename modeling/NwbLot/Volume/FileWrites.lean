import NwbLot.Volume.SoundVolumes
import NwbLot.Volume.VolumeFileSystem

/-!
# Writing and erasing files

What a write does before its flush, and the records that a failed flush leaves.

`Recorded` and `Erased` say how a write and a removal leave the volume; when the flush fails, the
records and the cursor are put back.
-/

namespace NwbLot.Volume

namespace VolumeState

variable {before after volume : VolumeState} {virtualPath : NameHash} {bytes : List UInt8}

/-! ## Recording -/

lemma canFitMetadataForFileCountLocked_iff {fs : VolumeFileSystem}
    (hmetadata : fs.metadataBytes ≤ u64Max) {fileCount : ℕ} :
    canFitMetadataForFileCountLocked fs fileCount = true ↔
      volumeHeaderCodec.size + fileCount * volumeIndexEntryCodec.size ≤ fs.metadataBytes := by
  have hsize : 0 < volumeIndexEntryCodec.size := by decide
  rw [canFitMetadataForFileCountLocked, computeVolumeMetadataRequirement, computeVolumeIndexBytes]
  split
  · next requirement hrequirement =>
      refine iff_of_false Bool.false_ne_true fun hle => ?_
      have hcount : fileCount ≤ u64Max / volumeIndexEntryCodec.size :=
        (Nat.le_div_iff_mul_le hsize).2 (by omega)
      rw [if_neg (not_lt.2 hcount), Option.bind_some, addNoOverflow_eq (by omega)] at hrequirement
      cases hrequirement
  · next requirement hrequirement =>
      obtain ⟨indexBytes, hindex, hsum⟩ := Option.bind_eq_some_iff.1 hrequirement
      split at hindex
      · cases hindex
      · cases hindex
        rw [addNoOverflow_value hsum, decide_eq_true_iff]

/-- The record of a written file. -/
def writtenRecord (fs : VolumeFileSystem) (bytes : List UInt8) : FileRecord where
  offset := .ofNat fs.nextFreeOffset
  size := .ofNat bytes.length

/-- What can be asked of a write before its bytes are written. -/
structure WriteRequest (fs : VolumeFileSystem) (virtualPath : NameHash) (bytes : List UInt8) :
    Prop where
  mounted : fs.mounted = true
  writable : fs.writable = true
  path : virtualPath.isSet = true
  represented : fs.nextFreeOffset + bytes.length ≤ u64Max
  index : volumeHeaderCodec.size
    + List.length (fs.files.insertOrAssign virtualPath (writtenRecord fs bytes))
      * volumeIndexEntryCodec.size ≤ fs.metadataBytes

/-- The bytes of a file are written behind the payload area and its record is set. -/
structure Recorded (virtualPath : NameHash) (bytes : List UInt8) (before after : VolumeState) :
    Prop where
  request : WriteRequest before.fs virtualPath bytes
  written : ∃ written, Wrote before.fs.nextFreeOffset bytes before written ∧
    Covers written.fs (before.fs.nextFreeOffset + bytes.length) ∧
    after = written.withRecords
      (before.fs.files.insertOrAssign virtualPath (writtenRecord before.fs bytes))
      (before.fs.nextFreeOffset + bytes.length)

lemma recordFileLocked_ends (virtualPath : NameHash) (hmetadata : before.fs.metadataBytes ≤ u64Max)
    (hbytes : bytes.length ≤ u64Max) :
    Ends (recordFileLocked virtualPath bytes before)
      (Recorded virtualPath bytes before)
      (Touched before.fs.nextFreeOffset (before.fs.nextFreeOffset + bytes.length) before) := by
  have hrefused : Touched before.fs.nextFreeOffset (before.fs.nextFreeOffset + bytes.length)
      before before := (SameBytes.refl before).touched _ _
  rw [recordFileLocked]
  split
  · exact Or.inr ⟨rfl, hrefused⟩
  · next hmounted =>
      have hmodes : before.fs.mounted = true ∧ before.fs.writable = true := by simpa using hmounted
      split
      · exact Or.inr ⟨rfl, hrefused⟩
      · next hpath =>
          dsimp only
          rw [← FileMap.length_insertOrAssign before.fs.files virtualPath
            (writtenRecord before.fs bytes)]
          split
          · exact Or.inr ⟨rfl, hrefused⟩
          · split
            · exact Or.inr ⟨rfl, hrefused⟩
            · next hfit =>
                have hindex := (canFitMetadataForFileCountLocked_iff hmetadata).1
                  (by simpa using hfit)
                cases hend : addNoOverflow before.fs.nextFreeOffset bytes.length with
                | none => exact Or.inr ⟨rfl, hrefused⟩
                | some newFileEnd =>
                  obtain ⟨rfl, hle⟩ := addNoOverflow_eq_some hbytes hend
                  have hrequest : WriteRequest before.fs virtualPath bytes :=
                    ⟨hmodes.1, hmodes.2, by simpa using hpath, hle, hindex⟩
                  dsimp only
                  rcases ensureCapacityLocked_ends (before.fs.nextFreeOffset + bytes.length) before
                    with ⟨hok, hsame, hcovers⟩ | ⟨hfailed, hsame⟩
                  · rw [hok]
                    generalize (ensureCapacityLocked (before.fs.nextFreeOffset + bytes.length)
                      before).2 = ensured at hsame hcovers ⊢
                    rcases writeBytesLocked_ends ensured before.fs.nextFreeOffset hbytes with
                      ⟨hwritten, hwrote, hfs⟩ | ⟨hstopped, hpartly, -⟩
                    · rw [hwritten]
                      have hwrote' := hwrote.of_sameBytes hsame
                      refine Or.inl ⟨rfl, hrequest, _, hwrote', ?_, ?_⟩
                      · rw [hfs hcovers]
                        exact hcovers
                      · simp only [Bool.not_true, Bool.false_eq_true, if_false]
                        have hfiles : (writeBytesLocked before.fs.nextFreeOffset bytes
                            ensured).2.fs.files = before.fs.files := by rw [hwrote'.fs]
                        rw [hfiles]
                        rfl
                    · rw [hstopped]
                      exact Or.inr ⟨rfl, (hsame.touched _ _).trans hpartly.toTouched⟩
                  · rw [hfailed]
                    exact Or.inr ⟨rfl, hsame.touched _ _⟩

lemma toNat_writtenRecord_offset (h : WriteRequest before.fs virtualPath bytes) :
    (writtenRecord before.fs bytes).offset.toNat = before.fs.nextFreeOffset :=
  toNat_ofNat_of_le ((Nat.le_add_right _ _).trans h.represented)

lemma toNat_writtenRecord_size (h : WriteRequest before.fs virtualPath bytes) :
    (writtenRecord before.fs bytes).size.toNat = bytes.length :=
  toNat_ofNat_of_le ((Nat.le_add_left _ _).trans h.represented)

lemma endOffset_writtenRecord (h : WriteRequest before.fs virtualPath bytes) :
    (writtenRecord before.fs bytes).endOffset = before.fs.nextFreeOffset + bytes.length := by
  rw [FileRecord.endOffset, toNat_writtenRecord_offset h, toNat_writtenRecord_size h]

/-- A file that is written lies behind all the others. -/
lemma Recorded.sound (h : Recorded virtualPath bytes before after) (hsound : VolumeSound before) :
    VolumeSound after := by
  obtain ⟨written, hwrote, hcovers, rfl⟩ := h.written
  have hend := endOffset_writtenRecord h.request
  have hmetadata := hsound.metadata.insert virtualPath
    (toNat_writtenRecord_offset h.request) (hend.trans_le h.request.represented) h.request.index
  rw [hend] at hmetadata
  have hgrown := hsound.grown hwrote.toGrown
  have hfs := hwrote.fs
  refine ⟨hgrown.represented, ?_, hgrown.laid, fun i hi => ?_⟩
  · have hsame := hmetadata
    rw [withRecords, hfs]
    exact ⟨hsame.header, hsame.segment, hsame.payload, hsame.index, hsame.records, hsame.unique⟩
  · change i < before.fs.nextFreeOffset + bytes.length at hi
    by_cases hold : i < before.fs.nextFreeOffset
    · exact hwrote.present _ (hsound.present i hold)
    · have hbyte := hwrote.written (i - before.fs.nextFreeOffset) (by omega)
      rw [List.getElem?_eq_getElem (by omega), Nat.add_sub_cancel' (by omega)] at hbyte
      rw [Nat.zero_add]
      exact Option.isSome_iff_exists.2 ⟨_, hbyte⟩

/-! ## Restoring -/

lemma restoreRecord_insertOrAssign {files : FileMap} (hunique : files.Unique)
    (record : FileRecord) : restoreRecord (files.insertOrAssign virtualPath record) virtualPath
      (files.find virtualPath) = files := by
  cases hfind : files.find virtualPath with
  | none =>
    rw [FileMap.insertOrAssign_of_find_none hfind, restoreRecord, FileMap.erase, List.filter_append,
      List.filter_eq_self.2 fun entry hentry =>
        decide_eq_true (FileMap.find_eq_none_iff.1 hfind entry hentry)]
    simp
  | some previous =>
    have hfound := FileMap.find_insertOrAssign_self hunique virtualPath record
    rw [restoreRecord, FileMap.insertOrAssign_of_find_some hfound,
      FileMap.insertOrAssign_of_find_some hfind, List.map_map]
    refine (List.map_congr_left fun entry hentry => ?_).trans (List.map_id files)
    by_cases hpath : entry.1 = virtualPath
    · have hsome : files.find entry.1 = some entry.2 := hunique.find hentry
      rw [hpath, hfind, Option.some.injEq] at hsome
      simp only [Function.comp_apply, hpath, if_true, hsome, id]
      rw [← hpath]
    · simp only [Function.comp_apply, hpath, if_false, id]

lemma restoreRecord_erase (virtualPath : NameHash) {files : FileMap} (hunique : files.Unique) :
    (restoreRecord (files.erase virtualPath) virtualPath (files.find virtualPath)).Perm files := by
  have herased := hunique.erase virtualPath
  cases hfind : files.find virtualPath with
  | none =>
    have hne := FileMap.find_eq_none_iff.1 hfind
    rw [restoreRecord, FileMap.erase, FileMap.erase, List.filter_filter,
      List.filter_eq_self.2 fun entry hentry => by simp [hne entry hentry]]
  | some previous =>
    have hmem := FileMap.mem_of_find hfind
    have hrestored := herased.insertOrAssign virtualPath previous
    refine (List.perm_ext_iff_of_nodup (.of_map _ hrestored) (.of_map _ hunique)).2 fun entry => ?_
    constructor
    · intro hentry
      rcases FileMap.mem_insertOrAssign hentry with rfl | ⟨herase, -⟩
      · exact hmem
      · exact (FileMap.mem_erase.1 herase).1
    · intro hentry
      by_cases hpath : entry.1 = virtualPath
      · have hsome := hunique.find hentry
        rw [hpath, hfind, Option.some.injEq] at hsome
        rw [show entry = (virtualPath, previous) from Prod.ext hpath hsome.symm]
        exact FileMap.self_mem_insertOrAssign _ _ _
      · exact FileMap.mem_insertOrAssign_of_ne (FileMap.mem_erase.2 ⟨hentry, hpath⟩) hpath

/-! ## Writing -/

/-- How a write ends: before its record is set, with its record set, with the record flushed, or
with the record taken back after a flush that has failed. -/
lemma writeFileLocked_cases (virtualPath : NameHash) (hsound : VolumeSound before)
    (hbytes : bytes.length ≤ u64Max) (immediate : Bool) :
    ((writeFileLocked virtualPath bytes immediate before).1 = false ∧
      (recordFileLocked virtualPath bytes before).1 = false ∧
      Touched before.fs.nextFreeOffset (before.fs.nextFreeOffset + bytes.length) before
        (writeFileLocked virtualPath bytes immediate before).2) ∨
    ∃ recorded, recordFileLocked virtualPath bytes before = (true, recorded) ∧
      Recorded virtualPath bytes before recorded ∧
      ((immediate = false ∧
          writeFileLocked virtualPath bytes immediate before = (true, recorded)) ∨
        (immediate = true ∧ (flushMetadataLocked recorded).1 = true ∧
          writeFileLocked virtualPath bytes immediate before
            = (true, (flushMetadataLocked recorded).2)) ∨
        (immediate = true ∧ (flushMetadataLocked recorded).1 = false ∧
          writeFileLocked virtualPath bytes immediate before
            = (false, rolledBack recorded before.fs.files before.fs.nextFreeOffset))) := by
  have hends := recordFileLocked_ends virtualPath hsound.metadataBytes_le hbytes
  rw [writeFileLocked]
  dsimp only
  rcases hends with ⟨hok, hrecorded⟩ | ⟨hfailed, htouched⟩
  · refine Or.inr ⟨(recordFileLocked virtualPath bytes before).2, Prod.ext hok rfl, hrecorded, ?_⟩
    rw [hok]
    generalize (recordFileLocked virtualPath bytes before).2 = recorded at hrecorded ⊢
    cases immediate with
    | false => exact Or.inl ⟨rfl, rfl⟩
    | true =>
      refine Or.inr ?_
      cases hflush : (flushMetadataLocked recorded).1 with
      | true => exact Or.inl ⟨rfl, rfl, rfl⟩
      | false =>
        refine Or.inr ⟨rfl, rfl, ?_⟩
        have hgrown := (flushMetadataLocked_touched (hrecorded.sound hsound).metadata).toGrown
        have hfiles : (flushMetadataLocked recorded).2.fs.files
            = before.fs.files.insertOrAssign virtualPath (writtenRecord before.fs bytes) := by
          obtain ⟨written, -, -, heq⟩ := hrecorded.written
          rw [hgrown.fs, heq]
          rfl
        simp only [Bool.not_true, Bool.false_eq_true, if_false]
        rw [hfiles, restoreRecord_insertOrAssign hsound.metadata.unique]
        rfl
  · rw [hfailed]
    exact Or.inl ⟨rfl, rfl, htouched⟩

/-- Under the records of before, the volume has only grown. -/
lemma Recorded.grown (h : Recorded virtualPath bytes before after) :
    Grown before (after.withRecords before.fs.files before.fs.nextFreeOffset) := by
  obtain ⟨written, hwrote, -, rfl⟩ := h.written
  rw [withRecords_withRecords, hwrote.toGrown.withRecords_eq]
  exact hwrote.toGrown

lemma writeFileLocked_sound (hsound : VolumeSound before) (hbytes : bytes.length ≤ u64Max)
    (immediate : Bool) :
    VolumeSound (writeFileLocked virtualPath bytes immediate before).2 := by
  rcases writeFileLocked_cases virtualPath hsound hbytes immediate with
    ⟨-, -, htouched⟩ | ⟨recorded, -, hrecorded, ⟨-, heq⟩ | ⟨-, -, heq⟩ | ⟨-, -, heq⟩⟩
  · exact hsound.grown htouched.toGrown
  · rw [heq]
    exact hrecorded.sound hsound
  · have hsound' := hrecorded.sound hsound
    rw [heq]
    exact hsound'.grown (flushMetadataLocked_touched hsound'.metadata).toGrown
  · rw [heq]
    exact hsound.grown (grown_rolledBack hrecorded.grown (hrecorded.sound hsound).metadata)

/-! ## Erasing -/

/-- What `removeFile` asks before it erases the record. -/
structure Erased (virtualPath : NameHash) (before after : VolumeState) : Prop where
  mounted : before.fs.mounted = true
  writable : before.fs.writable = true
  path : virtualPath.isSet = true
  there : (before.fs.files.find virtualPath).isSome
  eq : after = before.withRecords (before.fs.files.erase virtualPath) before.fs.nextFreeOffset

lemma eraseFileLocked_eq_some {erased : VolumeState}
    (h : eraseFileLocked virtualPath before = some erased) : Erased virtualPath before erased := by
  rw [eraseFileLocked] at h
  split at h
  · cases h
  · next hasked =>
      simp only [Bool.or_eq_true, Bool.not_eq_true', not_or, Bool.not_eq_false,
        Option.isNone_iff_eq_none] at hasked
      obtain ⟨⟨⟨hmounted, hwritable⟩, hpath⟩, hthere⟩ := hasked
      exact ⟨hmounted, hwritable, hpath, Option.isSome_iff_ne_none.2 hthere,
        (Option.some.inj h).symm⟩

lemma Erased.sound (h : Erased virtualPath before after) (hsound : VolumeSound before) :
    VolumeSound after := by
  rw [h.eq]
  exact hsound.withMetadata (hsound.metadata.erase virtualPath) le_rfl

/-- How a removal ends: refused, with the erased record flushed, or with the record put back. -/
lemma removeFile_cases (virtualPath : NameHash) (hsound : VolumeSound before) :
    (eraseFileLocked virtualPath before = none ∧ removeFile virtualPath before = (false, before)) ∨
    ∃ erased, eraseFileLocked virtualPath before = some erased ∧
      Erased virtualPath before erased ∧
      (((flushMetadataLocked erased).1 = true ∧
          removeFile virtualPath before = (true, (flushMetadataLocked erased).2)) ∨
        ((flushMetadataLocked erased).1 = false ∧ ∃ files, files.Perm before.fs.files ∧
          removeFile virtualPath before
            = (false, rolledBack erased files before.fs.nextFreeOffset))) := by
  rw [removeFile]
  cases herase : eraseFileLocked virtualPath before with
  | none => exact Or.inl ⟨rfl, rfl⟩
  | some erased =>
    have herased := eraseFileLocked_eq_some herase
    refine Or.inr ⟨erased, rfl, herased, ?_⟩
    dsimp only
    cases hflush : (flushMetadataLocked erased).1 with
    | true => exact Or.inl ⟨rfl, rfl⟩
    | false =>
      have hgrown := (flushMetadataLocked_touched (herased.sound hsound).metadata).toGrown
      have hfiles : (flushMetadataLocked erased).2.fs.files
          = before.fs.files.erase virtualPath := by
        rw [hgrown.fs, herased.eq]
        rfl
      have hnext : (flushMetadataLocked erased).2.fs.nextFreeOffset
          = before.fs.nextFreeOffset := by
        rw [hgrown.fs, herased.eq]
        rfl
      refine Or.inr ⟨rfl, _, restoreRecord_erase virtualPath hsound.metadata.unique, ?_⟩
      rw [rolledBack, ← hnext, hfiles]
      rfl

lemma Erased.grown (h : Erased virtualPath before after) (files : FileMap) :
    Grown (before.withRecords files before.fs.nextFreeOffset)
      (after.withRecords files before.fs.nextFreeOffset) := by
  rw [h.eq, withRecords_withRecords]
  exact .refl _

lemma removeFile_sound (hsound : VolumeSound before) :
    VolumeSound (removeFile virtualPath before).2 := by
  rcases removeFile_cases virtualPath hsound with
    ⟨-, heq⟩ | ⟨erased, -, herased, ⟨-, heq⟩ | ⟨-, files, hperm, heq⟩⟩
  · rw [heq]
    exact hsound
  · have hsound' := herased.sound hsound
    rw [heq]
    exact hsound'.grown (flushMetadataLocked_touched hsound'.metadata).toGrown
  · rw [heq]
    have hrolledBack : Grown (before.withRecords files before.fs.nextFreeOffset)
        (rolledBack erased files before.fs.nextFreeOffset) :=
      grown_rolledBack (herased.grown files) (herased.sound hsound).metadata
    exact (hsound.perm hperm).grown hrolledBack

end VolumeState
end NwbLot.Volume
