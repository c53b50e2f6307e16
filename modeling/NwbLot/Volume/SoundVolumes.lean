import NwbLot.Volume.MetadataRoundTrip
import NwbLot.Volume.MoveBytes

/-!
# Sound volumes

What holds of a mounted volume between its operations, and what keeps it.

`MetadataSound` speaks of the file map and the cursor, `VolumeSound` also of the segments under
them.  Setting records and growing the volume keep both.
-/

namespace NwbLot.Volume

/-- The end of a record. -/
def FileRecord.endOffset (record : FileRecord) : ℕ := record.offset.toNat + record.size.toNat

/-! ## Sound metadata -/

variable {fs : VolumeFileSystem} {files : FileMap} {path : NameHash} {record : FileRecord}

lemma MetadataSound.perm (h : MetadataSound fs) (hperm : files.Perm fs.files) :
    MetadataSound { fs with files } where
  header := h.header
  segment := h.segment
  payload := h.payload
  index := hperm.length_eq ▸ h.index
  records entry hentry := h.records entry (hperm.mem_iff.1 hentry)
  unique := (hperm.map Prod.fst).nodup_iff.2 h.unique

lemma MetadataSound.erase (h : MetadataSound fs) (path : NameHash) :
    MetadataSound { fs with files := fs.files.erase path } where
  header := h.header
  segment := h.segment
  payload := h.payload
  index := by
    have hle := Nat.mul_le_mul_right volumeIndexEntryCodec.size
      (FileMap.length_erase_le fs.files path)
    have hindex := h.index
    dsimp only
    omega
  records entry hentry := h.records entry (FileMap.mem_erase.1 hentry).1
  unique := h.unique.erase path

/-- A record behind the payload area. -/
lemma MetadataSound.insert (h : MetadataSound fs) (path : NameHash)
    (hoffset : record.offset.toNat = fs.nextFreeOffset) (hmax : record.endOffset ≤ u64Max)
    (hindex : volumeHeaderCodec.size + List.length (fs.files.insertOrAssign path record)
      * volumeIndexEntryCodec.size ≤ fs.metadataBytes) :
    MetadataSound { fs with
      files := fs.files.insertOrAssign path record, nextFreeOffset := record.endOffset } where
  header := h.header
  segment := h.segment
  payload := by
    have hpayload := h.payload
    rw [FileRecord.endOffset]
    dsimp only
    omega
  index := hindex
  records entry hentry := by
    rcases FileMap.mem_insertOrAssign hentry with rfl | ⟨hold, -⟩
    · exact ⟨hoffset ▸ h.payload, hmax, le_rfl⟩
    · obtain ⟨hbegin, hend, hinside⟩ := h.records entry hold
      refine ⟨hbegin, hend, hinside.trans ?_⟩
      rw [FileRecord.endOffset, hoffset]
      exact Nat.le_add_right _ _
  unique := h.unique.insertOrAssign path record

/-! ## Sound volumes -/

namespace VolumeState

variable {before middle after volume : VolumeState}

/-- The metadata of the volume is sound, its segments are there, and so is the payload area. -/
structure VolumeSound (volume : VolumeState) : Prop where
  represented : volume.fs.segmentSize ≤ u64Max
  metadata : MetadataSound volume.fs
  laid : volume.Laid
  present : volume.Present 0 volume.fs.nextFreeOffset

lemma VolumeSound.segment_pos (h : VolumeSound volume) : 0 < volume.fs.segmentSize :=
  (Nat.zero_le _).trans_lt h.metadata.segment

lemma VolumeSound.metadataBytes_le (h : VolumeSound volume) : volume.fs.metadataBytes ≤ u64Max :=
  h.metadata.segment.le.trans h.represented

lemma VolumeSound.nextFree_pos (h : VolumeSound volume) : 0 < volume.fs.nextFreeOffset := by
  have hheader := h.metadata.header
  have hpayload := h.metadata.payload
  omega

/-- The last byte of the payload area. -/
lemma VolumeSound.last (h : VolumeSound volume) :
    (volume.byteAt (volume.fs.nextFreeOffset - 1)).isSome := by
  have hlast := h.present (volume.fs.nextFreeOffset - 1) (Nat.sub_lt h.nextFree_pos Nat.one_pos)
  rwa [Nat.zero_add] at hlast

lemma VolumeSound.nextFree_le (h : VolumeSound volume) :
    volume.fs.nextFreeOffset ≤ volume.fs.segmentCount * volume.fs.segmentSize := by
  have hlast := lt_capacity_of_byteAt h.segment_pos h.last
  have hpos := h.nextFree_pos
  omega

lemma VolumeSound.count_pos (h : VolumeSound volume) : 0 < volume.fs.segmentCount := by
  have hle := h.nextFree_le
  have hpos := h.nextFree_pos
  rcases Nat.eq_zero_or_pos volume.fs.segmentCount with hzero | hcount
  · rw [hzero, Nat.zero_mul] at hle
    omega
  · exact hcount

/-- A transfer of bytes keeps a sound volume. -/
lemma VolumeSound.grown (h : VolumeSound before) (hgrown : Grown before after) :
    VolumeSound after := by
  have hfs := hgrown.fs
  refine ⟨hgrown.segmentSize.trans_le h.represented, ?_, hgrown.laid h.laid, ?_⟩
  · rw [hfs]
    exact ⟨h.metadata.header, h.metadata.segment, h.metadata.payload, h.metadata.index,
      h.metadata.records, h.metadata.unique⟩
  · rw [hfs]
    exact h.present.grown hgrown

/-! ## Records -/

/-- The same bytes under other records. -/
def withRecords (volume : VolumeState) (files : FileMap) (nextFreeOffset : ℕ) : VolumeState :=
  { volume with fs := { volume.fs with files, nextFreeOffset } }

@[simp] lemma withRecords_withRecords (volume : VolumeState) (files files' : FileMap)
    (nextFreeOffset nextFreeOffset' : ℕ) :
    (volume.withRecords files nextFreeOffset).withRecords files' nextFreeOffset'
      = volume.withRecords files' nextFreeOffset' := rfl

/-- A transfer of bytes does not look at the records. -/
lemma Grown.withRecords (h : Grown before after) (files : FileMap) (nextFreeOffset : ℕ) :
    Grown (before.withRecords files nextFreeOffset) (after.withRecords files nextFreeOffset) where
  fs := by
    rw [VolumeState.withRecords, VolumeState.withRecords, h.fs]
  count := h.count
  laid := h.laid
  present := h.present
  full := h.full
  created := h.created
  noIoError := h.noIoError

/-- The records are those of before the transfer. -/
lemma Grown.withRecords_eq (h : Grown before after) :
    after.withRecords before.fs.files before.fs.nextFreeOffset = after := by
  have hfiles : before.fs.files = after.fs.files := by rw [h.fs]
  have hnext : before.fs.nextFreeOffset = after.fs.nextFreeOffset := by rw [h.fs]
  rw [hfiles, hnext]
  rfl

/-- Another order of iteration keeps a sound volume. -/
lemma VolumeSound.perm (h : VolumeSound volume) {files : FileMap}
    (hperm : files.Perm volume.fs.files) :
    VolumeSound (volume.withRecords files volume.fs.nextFreeOffset) :=
  ⟨h.represented, h.metadata.perm hperm, h.laid, h.present⟩

/-- Sound metadata whose payload area is not greater. -/
lemma VolumeSound.withMetadata (h : VolumeSound volume) {files : FileMap} {nextFreeOffset : ℕ}
    (hmetadata : MetadataSound { volume.fs with files, nextFreeOffset })
    (hle : nextFreeOffset ≤ volume.fs.nextFreeOffset) :
    VolumeSound (volume.withRecords files nextFreeOffset) :=
  ⟨h.represented, hmetadata, h.laid, fun i hi => h.present i (hi.trans_le hle)⟩

/-! ## Flushes -/

/-- A flush keeps a sound volume, and every byte of the payload area. -/
lemma flushMetadataLocked_touched (h : MetadataSound volume.fs) :
    Touched 0 volume.fs.metadataBytes volume (flushMetadataLocked volume).2 := by
  rcases flushMetadataLocked_ends volume h.segment.le with
    ⟨-, hflushable, hwrote, -⟩ | ⟨-, htouched, -⟩
  · have htouched := hwrote.toTouched
    rwa [length_metadataBuffer hflushable.index, Nat.zero_add] at htouched
  · exact htouched

/-- The state after a flush that has failed, with other records and another cursor. -/
def rolledBack (volume : VolumeState) (files : FileMap) (nextFreeOffset : ℕ) : VolumeState :=
  (flushMetadataLocked volume).2.withRecords files nextFreeOffset

/-- Rolling back returns to the records of before, in a volume that has grown. -/
lemma grown_rolledBack
    (hgrown : Grown before (volume.withRecords before.fs.files before.fs.nextFreeOffset))
    (hmetadata : MetadataSound volume.fs) :
    Grown before (rolledBack volume before.fs.files before.fs.nextFreeOffset) :=
  hgrown.trans ((flushMetadataLocked_touched hmetadata).toGrown.withRecords _ _)

end VolumeState
end NwbLot.Volume
