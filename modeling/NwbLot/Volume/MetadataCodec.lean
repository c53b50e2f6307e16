import NwbLot.Volume.VolumeTypes
import NwbLot.Volume.SegmentTransfers
import NwbLot.Volume.VolumeIo

/-!
# The metadata codec

What a loaded image satisfies, whatever bytes it is made of, and that the image of a flush is one
that loads, as the file map and the cursor that were flushed.
-/

namespace NwbLot.Volume

open MemoryMoves

/-! ## Accepted images -/

/-- The record lies in the payload area and its end does not wrap. -/
def RecordInside (metadataBytes nextFreeOffset : ℕ) (record : FileRecord) : Prop :=
  metadataBytes ≤ record.offset.toNat ∧
    record.offset.toNat + record.size.toNat ≤ u64Max ∧
    record.offset.toNat + record.size.toNat ≤ nextFreeOffset

/-- What a loaded or a flushed volume satisfies: the metadata area is behind the header and inside
the first segment, and it is large enough for the index; the payload area lies inside the capacity;
every record lies in it and every name is recorded once. -/
structure MetadataSound (fs : VolumeFileSystem) : Prop where
  header : volumeHeaderCodec.size < fs.metadataBytes
  segment : fs.metadataBytes < fs.segmentSize
  payload : fs.metadataBytes ≤ fs.nextFreeOffset
  index : volumeHeaderCodec.size + fs.files.length * volumeIndexEntryCodec.size ≤ fs.metadataBytes
  records : ∀ entry ∈ fs.files, RecordInside fs.metadataBytes fs.nextFreeOffset entry.2
  unique : fs.files.Unique

lemma toNat_le_u64Max (word : UInt64) : word.toNat ≤ u64Max := by
  have := word.toNat_lt
  rw [u64Max]
  omega

namespace VolumeState

/-- What the entry loop keeps. -/
lemma loadEntries_spec {header : VolumeHeaderDisk} (count : ℕ) {rest behind : List UInt8}
    {files loaded : FileMap} (h : loadEntries header count rest files = some (loaded, behind))
    (hrecords : ∀ entry ∈ files, RecordInside header.metadataBytes.toNat
      header.nextFreeOffset.toNat entry.2) (hunique : files.Unique) :
    (∀ entry ∈ loaded, RecordInside header.metadataBytes.toNat header.nextFreeOffset.toNat
      entry.2) ∧ loaded.Unique ∧ List.length loaded = List.length files + count := by
  induction count generalizing rest files with
  | zero =>
    cases h
    exact ⟨hrecords, hunique, rfl⟩
  | succ count ih =>
    rw [loadEntries] at h
    split at h
    · cases h
    · dsimp only at h
      generalize volumeIndexEntryCodec.decode _ = entry at h
      cases hend : addNoOverflow entry.offset.toNat entry.size.toNat with
      | none =>
        rw [hend] at h
        cases h
      | some endOffset =>
        rw [hend] at h
        obtain ⟨rfl, hle⟩ := addNoOverflow_eq_some (toNat_le_u64Max _) hend
        dsimp only at h
        split_ifs at h with hmetadata hnext hfound
        have hfresh : files.find entry.hash = none := by simpa using hfound
        have hinserted : ∀ other ∈ files.insertOrAssign entry.hash ⟨entry.offset, entry.size⟩,
            RecordInside header.metadataBytes.toNat header.nextFreeOffset.toNat other.2 := by
          intro other hother
          rcases FileMap.mem_insertOrAssign hother with rfl | ⟨hmem, -⟩
          · exact ⟨UInt64.le_iff_toNat_le.1 (UInt64.not_lt.1 hmetadata), hle,
              Nat.le_of_not_lt hnext⟩
          · exact hrecords other hmem
        obtain ⟨hrecords', hunique', hlength⟩ := ih h hinserted (hunique.insertOrAssign _ _)
        refine ⟨hrecords', hunique', ?_⟩
        rw [hlength, FileMap.length_insertOrAssign, hfresh]
        simp only [Option.isSome_none, Bool.false_eq_true, if_false]
        omega

lemma fileSize_onlyIo (index : ℕ) (volume : VolumeState) :
    OnlyIo volume (fileSize index volume).2 := by
  rw [fileSize]
  split
  · exact onlyIo_afterIo volume
  · exact onlyIo_afterIo volume

variable {volume : VolumeState}

lemma fileSize_eq_some {index size : ℕ} (h : (fileSize index volume).1 = some size) :
    ∃ file, volume.disk.fileAt index = some file ∧ file.length = size := by
  rw [fileSize] at h
  split at h
  · exact Option.map_eq_some_iff.1 h
  · cases h

lemma fileSize_eq {index : ℕ} (hio : volume.NoIoError) {file : List UInt8}
    (hfile : volume.disk.fileAt index = some file) :
    (fileSize index volume).1 = some file.length := by
  rw [fileSize, hio.outcome]
  exact Option.map_eq_some_iff.2 ⟨file, hfile, rfl⟩

/-- The last segment's file ends at the physical capacity. -/
structure PhysicalEnd (volume : VolumeState) (capacity : ℕ) : Prop where
  count : 0 < volume.fs.segmentCount
  segment : 0 < volume.fs.segmentSize
  last : ∃ file, volume.disk.fileAt (volume.fs.segmentCount - 1) = some file ∧
    0 < file.length ∧ file.length ≤ volume.fs.segmentSize ∧
    capacity = (volume.fs.segmentCount - 1) * volume.fs.segmentSize + file.length

variable {capacity : ℕ}

lemma PhysicalEnd.of_onlyIo {before after : VolumeState} (h : PhysicalEnd after capacity)
    (hio : OnlyIo before after) : PhysicalEnd before capacity := by
  obtain ⟨hcount, hsegment, file, hfile, hlength⟩ := h
  rw [hio.fs] at hcount hsegment hlength
  rw [hio.fs, hio.disk] at hfile
  exact ⟨hcount, hsegment, file, hfile, hlength⟩

lemma computePhysicalCapacityLocked_onlyIo (volume : VolumeState) :
    OnlyIo volume (computePhysicalCapacityLocked volume).2 := by
  rw [computePhysicalCapacityLocked]
  split
  · exact .refl volume
  · dsimp only
    split
    · exact .refl volume
    · split
      · exact fileSize_onlyIo _ volume
      · split
        · exact fileSize_onlyIo _ volume
        · exact fileSize_onlyIo _ volume

lemma computePhysicalCapacityLocked_eq_some
    (h : (computePhysicalCapacityLocked volume).1 = some capacity) :
    PhysicalEnd volume capacity := by
  rw [computePhysicalCapacityLocked] at h
  split_ifs at h with hempty
  dsimp only at h
  split_ifs at h with hlarge
  cases hsize : (fileSize (volume.fs.segmentCount - 1) volume).1 with
  | none =>
    rw [hsize] at h
    cases h
  | some lastSegmentBytes =>
    obtain ⟨file, hfile, rfl⟩ := fileSize_eq_some hsize
    rw [hsize] at h
    dsimp only at h
    split_ifs at h with hbounds
    exact ⟨by omega, by omega, file, hfile, by omega, by omega, addNoOverflow_value h⟩

variable {fs : VolumeFileSystem}

/-- The checks of the header. -/
lemma headerFits_iff {header : VolumeHeaderDisk} :
    headerFits fs header = true ↔
      header.magic = volumeMagic ∧ header.segmentSize.toNat = fs.segmentSize ∧
        volumeHeaderCodec.size < header.metadataBytes.toNat ∧
        header.metadataBytes.toNat < fs.segmentSize ∧
        volumeHeaderCodec.size + header.indexBytes.toNat ≤ header.metadataBytes.toNat ∧
        header.metadataBytes.toNat ≤ header.nextFreeOffset.toNat ∧
        fs.segmentCount ≤ u64Max / fs.segmentSize ∧
        header.nextFreeOffset.toNat ≤ fs.segmentCount * fs.segmentSize := by
  have hindex : (addNoOverflow volumeHeaderCodec.size header.indexBytes.toNat).any
      (fun headerTotalBytes => decide (headerTotalBytes ≤ header.metadataBytes.toNat)) = true ↔
      volumeHeaderCodec.size + header.indexBytes.toNat ≤ header.metadataBytes.toNat := by
    have hmetadata := toNat_le_u64Max header.metadataBytes
    cases hsum : addNoOverflow volumeHeaderCodec.size header.indexBytes.toNat with
    | none =>
      refine iff_of_false nofun fun hle => ?_
      rw [addNoOverflow_eq (hle.trans hmetadata)] at hsum
      cases hsum
    | some total =>
      rw [addNoOverflow_value hsum]
      exact decide_eq_true_iff
  have hcapacity : 0 < fs.segmentSize → ((computeLogicalCapacityLocked fs).any
      (fun maxVolumeBytes => decide (header.nextFreeOffset.toNat ≤ maxVolumeBytes)) = true ↔
      fs.segmentCount ≤ u64Max / fs.segmentSize ∧
        header.nextFreeOffset.toNat ≤ fs.segmentCount * fs.segmentSize) := by
    intro hpos
    cases hlogical : computeLogicalCapacityLocked fs with
    | none =>
      refine iff_of_false nofun fun hcount => ?_
      rw [computeLogicalCapacityLocked_eq hpos hcount.1] at hlogical
      cases hlogical
    | some capacity =>
      obtain ⟨-, hcount, rfl⟩ := computeLogicalCapacityLocked_eq_some hlogical
      exact ⟨fun h => ⟨hcount, of_decide_eq_true h⟩, fun h => decide_eq_true h.2⟩
  simp only [headerFits, Bool.and_eq_true, beq_iff_eq, decide_eq_true_eq, hindex,
    UInt64.le_iff_toNat_le, and_assoc]
  refine and_congr_right fun _ => and_congr_right fun _ => and_congr_right fun _ =>
    and_congr_right fun hsegment => ?_
  rw [hcapacity (by omega)]

/-- What loading does: it takes outcomes, and when it succeeds it sets what the header and the
index say. -/
lemma loadMetadataLocked_spec (volume : VolumeState) :
    ((loadMetadataLocked volume).1 = false ∧ OnlyIo volume (loadMetadataLocked volume).2) ∨
    ((loadMetadataLocked volume).1 = true ∧ ∃ header read files capacity,
      header = volumeHeaderCodec.decode (valuesAt volume.logicalByte 0 volumeHeaderCodec.size) ∧
      headerFits volume.fs header = true ∧ PhysicalEnd volume capacity ∧
      header.nextFreeOffset.toNat ≤ capacity ∧
      computeVolumeIndexBytes header.fileCount.toNat = some header.indexBytes.toNat ∧
      loadEntries header header.fileCount.toNat
        (valuesAt volume.logicalByte volumeHeaderCodec.size header.indexBytes.toNat) []
          = some (files, []) ∧
      OnlyIo volume read ∧
      (loadMetadataLocked volume).2 = { read with fs := { read.fs with
        metadataBytes := header.metadataBytes.toNat
        nextFreeOffset := header.nextFreeOffset.toNat
        files := files } }) := by
  have hheader : volumeHeaderCodec.size ≤ u64Max := by decide
  obtain ⟨hio, hread⟩ := readBytesLocked_ends volume 0 hheader
  rw [loadMetadataLocked]
  dsimp only
  rcases hread with ⟨hread, -⟩ | ⟨hread, -⟩
  · rw [hread]
    dsimp only
    generalize volumeHeaderCodec.decode
      (valuesAt volume.logicalByte 0 volumeHeaderCodec.size) = header
    generalize (readBytesLocked 0 volumeHeaderCodec.size volume).2 = read at hio ⊢
    have hphysicalIo := hio.trans (computePhysicalCapacityLocked_onlyIo read)
    split
    · exact Or.inl ⟨rfl, hio⟩
    · next hfits =>
        cases hphysical : (computePhysicalCapacityLocked read).1 with
        | none => exact Or.inl ⟨rfl, hphysicalIo⟩
        | some capacity =>
          dsimp only
          split
          · exact Or.inl ⟨rfl, hphysicalIo⟩
          · next hcapacity =>
              split
              · exact Or.inl ⟨rfl, hphysicalIo⟩
              · split
                · exact Or.inl ⟨rfl, hphysicalIo⟩
                · next hindexBytes =>
                    have hcount : computeVolumeIndexBytes header.fileCount.toNat
                        = some header.indexBytes.toNat := not_not.1 hindexBytes
                    generalize (computePhysicalCapacityLocked read).2 = sized at hphysicalIo ⊢
                    obtain ⟨hindexIo, hindex⟩ := readBytesLocked_ends sized
                      volumeHeaderCodec.size (toNat_le_u64Max header.indexBytes)
                    have hallIo := hphysicalIo.trans hindexIo
                    rw [funext hphysicalIo.sameBytes.bytes] at hindex
                    rcases hindex with ⟨hindex, -⟩ | ⟨hindex, -⟩
                    · rw [hindex]
                      dsimp only
                      split
                      · exact Or.inl ⟨rfl, hallIo⟩
                      · next loadedFiles rest hloaded =>
                          split
                          · exact Or.inl ⟨rfl, hallIo⟩
                          · next hrest =>
                              obtain rfl : rest = [] := not_not.1 hrest
                              have hend := computePhysicalCapacityLocked_eq_some hphysical
                              refine Or.inr ⟨rfl, header, _, loadedFiles, capacity, rfl, ?_,
                                hend.of_onlyIo hio, Nat.le_of_not_lt hcapacity, hcount, hloaded,
                                hallIo, rfl⟩
                              rw [← hio.fs]
                              simpa using hfits
                    · rw [hindex]
                      exact Or.inl ⟨rfl, hallIo⟩
  · rw [hread]
    exact Or.inl ⟨rfl, hio⟩

/-- Every image that is accepted is sound. -/
lemma loadMetadataLocked_sound (h : (loadMetadataLocked volume).1 = true) :
    MetadataSound (loadMetadataLocked volume).2.fs ∧
      (loadMetadataLocked volume).2.fs.nextFreeOffset
        ≤ volume.fs.segmentCount * volume.fs.segmentSize ∧
      ∃ capacity, PhysicalEnd volume capacity ∧
        (loadMetadataLocked volume).2.fs.nextFreeOffset ≤ capacity := by
  rcases loadMetadataLocked_spec volume with ⟨hfailed, -⟩ | ⟨-, header, read, files, capacity,
    -, hfits, hend, hcapacity, hindexBytes, hloaded, hio, heq⟩
  · rw [hfailed] at h
    cases h
  obtain ⟨-, -, hheader, hsegment, hindex, hpayload, -, hinside⟩ := headerFits_iff.1 hfits
  obtain ⟨hrecords, hunique, hlength⟩ := loadEntries_spec header.fileCount.toNat hloaded
    (by simp) (by simp [FileMap.Unique])
  have hsize : header.indexBytes.toNat = header.fileCount.toNat * volumeIndexEntryCodec.size := by
    rw [computeVolumeIndexBytes] at hindexBytes
    split at hindexBytes
    · cases hindexBytes
    · exact (Option.some.inj hindexBytes).symm
  rw [heq]
  refine ⟨⟨hheader, ?_, hpayload, ?_, hrecords, hunique⟩, hinside, capacity, hend, hcapacity⟩
  · show header.metadataBytes.toNat < read.fs.segmentSize
    rw [hio.fs]
    exact hsegment
  · show volumeHeaderCodec.size + List.length files * volumeIndexEntryCodec.size
      ≤ header.metadataBytes.toNat
    rw [hlength, List.length_nil, Nat.zero_add, ← hsize]
    exact hindex

/-! ## Flushed images -/

/-- What `flushMetadataLocked` checks. -/
structure Flushable (fs : VolumeFileSystem) : Prop where
  count : 0 < fs.segmentCount
  segment : 0 < fs.segmentSize
  payload : fs.metadataBytes ≤ fs.nextFreeOffset
  capacity : fs.segmentCount ≤ u64Max / fs.segmentSize
  inside : fs.nextFreeOffset ≤ fs.segmentCount * fs.segmentSize
  files : fs.files.length ≤ u64Max / volumeIndexEntryCodec.size
  index : volumeHeaderCodec.size + fs.files.length * volumeIndexEntryCodec.size ≤ fs.metadataBytes

lemma Flushable.capacity_le (h : Flushable fs) :
    fs.segmentCount * fs.segmentSize ≤ u64Max :=
  (Nat.mul_le_mul_right _ h.capacity).trans (Nat.div_mul_le_self _ _)

lemma Flushable.covers (h : Flushable fs) : Covers fs fs.metadataBytes :=
  ⟨h.segment, h.capacity, h.payload.trans h.inside⟩

lemma length_indexBytes (files : FileMap) :
    (indexBytes files).length = files.length * volumeIndexEntryCodec.size := by
  rw [indexBytes, List.length_flatMap]
  simp

lemma length_metadataBuffer
    (h : volumeHeaderCodec.size + fs.files.length * volumeIndexEntryCodec.size
      ≤ fs.metadataBytes) : (metadataBuffer fs).length = fs.metadataBytes := by
  rw [metadataBuffer]
  simp only [List.length_append, List.length_replicate, PodCodec.length_encode, length_indexBytes]
  omega

/-- A range inside the first segment that is written at its beginning is one chunk. -/
lemma length_le_streamMax {bytes : List UInt8} (hpos : 0 < bytes.length)
    (hbytes : bytes.length ≤ u64Max) (hsegment : bytes.length ≤ volume.fs.segmentSize)
    (h : (writeBytesLocked 0 bytes volume).1 = true) : bytes.length ≤ streamMax := by
  rw [writeBytesLocked, if_neg hpos.ne', addNoOverflow_eq (by omega), Nat.zero_add] at h
  dsimp only at h
  have hsize : (ensureCapacityLocked bytes.length volume).2.fs.segmentSize
      = volume.fs.segmentSize := by
    rcases ensureCapacityLocked_ends bytes.length volume with ⟨-, hsame, -⟩ | ⟨-, hsame⟩
    · exact hsame.segmentSize
    · exact hsame.segmentSize
  split at h
  · generalize ensureCapacityLocked bytes.length volume = ensured at h hsize
    obtain ⟨turns, hturns⟩ := Nat.exists_eq_succ_of_ne_zero hpos.ne'
    rw [← hsize] at hsegment
    rw [forEachSegmentChunk, if_neg (by omega), addNoOverflow_eq (by omega), Nat.zero_add] at h
    dsimp only at h
    split_ifs at h with hcount hinside
    -- The first chunk has all the bytes.
    rw [show forEachChunk ensured.2.fs.segmentSize writeSegmentBytes bytes.length 0 bytes.length
        (bytes, ensured.2) = forEachChunk ensured.2.fs.segmentSize writeSegmentBytes (turns + 1) 0
          bytes.length (bytes, ensured.2) by rw [hturns], forEachChunk, if_neg hpos.ne',
      Nat.zero_mod] at h
    dsimp only at h
    rw [Nat.sub_zero, Nat.min_eq_left hsegment] at h
    by_contra hlong
    rw [if_pos (by simpa using hlong)] at h
    cases h
  · cases h

/-- A flush writes the metadata area and nothing else. -/
lemma flushMetadataLocked_ends (volume : VolumeState)
    (hsegment : volume.fs.metadataBytes ≤ volume.fs.segmentSize) :
    Ends (flushMetadataLocked volume)
      (fun state => Flushable volume.fs ∧ Wrote 0 (metadataBuffer volume.fs) volume state ∧
        state.fs = volume.fs ∧ volume.fs.metadataBytes ≤ streamMax)
      (fun state => Touched 0 volume.fs.metadataBytes volume state ∧
        (volume.NoIoError → volume.fs.metadataBytes ≤ streamMax → Flushable volume.fs →
          ¬volume.Laid)) := by
  have hrefused : ¬Flushable volume.fs → Ends ((false, volume) : Bool × VolumeState)
      (fun state => Flushable volume.fs ∧ Wrote 0 (metadataBuffer volume.fs) volume state ∧
        state.fs = volume.fs ∧ volume.fs.metadataBytes ≤ streamMax)
      (fun state => Touched 0 volume.fs.metadataBytes volume state ∧
        (volume.NoIoError → volume.fs.metadataBytes ≤ streamMax → Flushable volume.fs →
          ¬volume.Laid)) := fun hnot =>
    Or.inr ⟨rfl, (SameBytes.refl volume).touched _ _, fun _ _ h => absurd h hnot⟩
  rw [flushMetadataLocked]
  split
  · next hcount => exact hrefused fun h => h.count.ne' hcount
  · next hcount =>
      split
      · next hpayload => exact hrefused fun h => absurd h.payload (not_le.2 hpayload)
      · next hpayload =>
          cases hcapacity : computeLogicalCapacityLocked volume.fs with
          | none =>
            refine hrefused fun h => ?_
            rw [computeLogicalCapacityLocked_eq h.segment h.capacity] at hcapacity
            cases hcapacity
          | some capacity =>
            obtain ⟨hpos, hsegments, rfl⟩ := computeLogicalCapacityLocked_eq_some hcapacity
            dsimp only
            split
            · next hinside => exact hrefused fun h => absurd h.inside (not_le.2 hinside)
            · next hinside =>
                cases hfiles : computeVolumeIndexBytes volume.fs.files.length with
                | none =>
                  refine hrefused fun h => ?_
                  rw [computeVolumeIndexBytes, if_neg (not_lt.2 h.files)] at hfiles
                  cases hfiles
                | some expectedIndexBytes =>
                  have hexpected : volume.fs.files.length
                      ≤ u64Max / volumeIndexEntryCodec.size ∧
                      expectedIndexBytes
                        = volume.fs.files.length * volumeIndexEntryCodec.size := by
                    rw [computeVolumeIndexBytes] at hfiles
                    split at hfiles
                    · cases hfiles
                    · exact ⟨by omega, (Option.some.inj hfiles).symm⟩
                  obtain ⟨hfileCount, rfl⟩ := hexpected
                  have hindexMax : volume.fs.files.length * volumeIndexEntryCodec.size ≤ u64Max :=
                    (Nat.mul_le_mul_right _ hfileCount).trans (Nat.div_mul_le_self _ _)
                  dsimp only
                  rw [if_neg (not_lt.2 hindexMax), length_indexBytes, if_neg (by simp)]
                  cases htotal : addNoOverflow volumeHeaderCodec.size
                      (volume.fs.files.length * volumeIndexEntryCodec.size) with
                  | none =>
                    refine hrefused fun h => ?_
                    have hcapacityMax := h.capacity_le
                    have hmetadata := h.covers.2.2
                    rw [addNoOverflow_eq ((h.index.trans hmetadata).trans hcapacityMax)] at htotal
                    cases htotal
                  | some totalMetaBytes =>
                    obtain rfl := addNoOverflow_value htotal
                    dsimp only
                    split
                    · next hlarge => exact hrefused fun h => absurd h.index (not_le.2 hlarge)
                    · next hfits =>
                        have hflushable : Flushable volume.fs :=
                          ⟨Nat.pos_of_ne_zero hcount, hpos, by omega, hsegments, by omega,
                            hfileCount, by omega⟩
                        have hlength := length_metadataBuffer hflushable.index
                        have hcovers := hflushable.covers
                        have hmetadataMax : volume.fs.metadataBytes ≤ u64Max :=
                          hcovers.2.2.trans hflushable.capacity_le
                        have hends := writeBytesLocked_ends volume 0
                          (by omega : (metadataBuffer volume.fs).length ≤ u64Max)
                        rw [hlength, Nat.zero_add] at hends
                        rcases hends with ⟨hok, hwrote, hfs⟩ | ⟨hfailed, hpartly, hreason⟩
                        · refine Or.inl ⟨hok, hflushable, hwrote, hfs hcovers, ?_⟩
                          rw [← hlength]
                          have hheader : 0 < volumeHeaderCodec.size := by decide
                          exact length_le_streamMax (by omega) (by omega) (by omega) hok
                        · refine Or.inr ⟨hfailed, hpartly.toTouched, fun hio hstream _ hlaid => ?_⟩
                          exact hreason hio (Or.inr (Or.inl hstream)) hcovers hmetadataMax hlaid

end VolumeState
end NwbLot.Volume
