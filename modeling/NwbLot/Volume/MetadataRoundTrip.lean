import NwbLot.Volume.MetadataCodec

/-!
# The metadata round trip

A volume that begins with the metadata of a sound file system loads as that file system, in any
state of memory that has the segment size and the segments.
-/

namespace NwbLot.Volume

open MemoryMoves

namespace VolumeState

variable {volume : VolumeState} {image : VolumeFileSystem}

/-- The first segment file begins with the metadata of a sound file system. -/
structure Imaged (image : VolumeFileSystem) (disk : SegmentFiles) : Prop where
  sound : MetadataSound image
  flushable : Flushable image
  represented : image.metadataBytes ≤ streamMax
  file : ∃ file, disk.fileAt 0 = some file ∧ metadataBuffer image <+: file

/-! ## The index -/

lemma loadEntries_flatMap {header : VolumeHeaderDisk} (entries : FileMap) {loaded : FileMap}
    (hinside : ∀ entry ∈ entries, RecordInside header.metadataBytes.toNat
      header.nextFreeOffset.toNat entry.2)
    (hunique : FileMap.Unique (loaded ++ entries)) :
    loadEntries header (List.length entries) (entries.flatMap fun entry =>
        volumeIndexEntryCodec.encode ⟨entry.1, entry.2.offset, entry.2.size⟩) loaded
      = some (loaded ++ entries, []) := by
  induction entries generalizing loaded with
  | nil => simp [loadEntries]
  | cons entry entries ih =>
    obtain ⟨hmetadata, hmax, hnext⟩ := hinside entry List.mem_cons_self
    have hfresh : loaded.find entry.1 = none := by
      refine FileMap.find_eq_none_iff.2 fun other hother heq => ?_
      rw [FileMap.Unique, List.map_append, List.nodup_append] at hunique
      exact hunique.2.2 _ (List.mem_map_of_mem hother) _
        (List.mem_map_of_mem List.mem_cons_self) heq
    have hlength := volumeIndexEntryCodec.length_encode ⟨entry.1, entry.2.offset, entry.2.size⟩
    have hbehind : loaded ++ entry :: entries = (loaded ++ [entry]) ++ entries := by
      rw [List.append_assoc, List.singleton_append]
    rw [List.length_cons, List.flatMap_cons, loadEntries, if_neg (by
        rw [List.length_append, hlength]
        omega), List.take_left' hlength, List.drop_left' hlength, PodCodec.decode_encode]
    dsimp only
    rw [addNoOverflow_eq hmax]
    dsimp only
    rw [if_neg (by rwa [UInt64.lt_iff_toNat_lt, not_lt]), if_neg (not_lt.2 hnext),
      if_neg (by rw [hfresh]; decide), FileMap.insertOrAssign_of_find_none hfresh, hbehind]
    rw [hbehind] at hunique
    exact ih (fun other hother => hinside other (List.mem_cons_of_mem _ hother)) hunique

/-! ## Reading the image -/

lemma present_of_byteAt {offset : ℕ} {bytes : List UInt8}
    (hbytes : ∀ i < bytes.length, volume.byteAt (offset + i) = bytes[i]?) :
    volume.Present offset bytes.length := by
  intro i hi
  rw [hbytes i hi, List.getElem?_eq_getElem hi]
  rfl

lemma valuesAt_of_byteAt {offset : ℕ} {bytes : List UInt8}
    (hbytes : ∀ i < bytes.length, volume.byteAt (offset + i) = bytes[i]?) :
    valuesAt volume.logicalByte offset bytes.length = bytes := by
  refine List.ext_getElem? fun i => ?_
  by_cases hi : i < bytes.length
  · have hbyte := hbytes i hi
    rw [getElem?_valuesAt hi]
    rw [List.getElem?_eq_getElem hi] at hbyte ⊢
    rw [logicalByte_eq hbyte]
  · rw [List.getElem?_eq_none (by rw [length_valuesAt]; omega), List.getElem?_eq_none (by omega)]

/-- Bytes that are there are read. -/
lemma readBytesLocked_eq {offset byteCount : ℕ} (hio : volume.NoIoError)
    (hpresent : volume.Present offset byteCount)
    (hstream : Streams volume.fs.segmentSize byteCount (offset + byteCount))
    (hcapacity : InCapacity volume.fs.segmentSize volume.fs.segmentCount offset byteCount) :
    (readBytesLocked offset byteCount volume).1
      = some (valuesAt volume.logicalByte offset byteCount) := by
  have hmax : byteCount ≤ u64Max := (Nat.le_add_left _ _).trans hcapacity.2.2.1
  obtain ⟨-, ⟨hread, -⟩ | ⟨-, hmissing⟩⟩ := readBytesLocked_ends volume offset hmax
  · exact hread
  · exact absurd hpresent (hmissing hio hstream hcapacity)

/-- The last segment reaches beyond every byte that is there. -/
lemma computePhysicalCapacityLocked_eq (hio : volume.NoIoError) (hlaid : volume.Laid)
    (hpos : 0 < volume.fs.segmentSize)
    (hcapacity : volume.fs.segmentCount ≤ u64Max / volume.fs.segmentSize) {offset : ℕ}
    (hthere : (volume.byteAt offset).isSome) :
    ∃ capacity, (computePhysicalCapacityLocked volume).1 = some capacity ∧ offset < capacity := by
  have hcount : offset / volume.fs.segmentSize < volume.fs.segmentCount := by
    by_contra hnot
    rw [byteAt, if_neg hnot] at hthere
    cases hthere
  have hcountPos : 0 < volume.fs.segmentCount := (Nat.zero_le _).trans_lt hcount
  obtain ⟨file, hfile, hlength, hle⟩ := hlaid (volume.fs.segmentCount - 1) (by omega)
  have hmax := (Nat.mul_le_mul_right volume.fs.segmentSize hcapacity).trans
    (Nat.div_mul_le_self _ _)
  have hlast : (volume.fs.segmentCount - 1) * volume.fs.segmentSize + volume.fs.segmentSize
      = volume.fs.segmentCount * volume.fs.segmentSize := by
    rw [← Nat.succ_mul, Nat.succ_eq_add_one, Nat.sub_add_cancel (by omega)]
  have hmod := Nat.mod_lt offset hpos
  have hdiv := Nat.div_add_mod offset volume.fs.segmentSize
  rw [Nat.mul_comm] at hdiv
  refine ⟨(volume.fs.segmentCount - 1) * volume.fs.segmentSize + file.length, ?_, ?_⟩
  · rw [computePhysicalCapacityLocked, if_neg (by omega)]
    dsimp only
    rw [if_neg (by omega), fileSize_eq hio hfile]
    dsimp only
    rw [if_neg (by omega), addNoOverflow_eq (by omega)]
  · by_cases hindex : offset / volume.fs.segmentSize = volume.fs.segmentCount - 1
    · rw [byteAt, if_pos hcount, hindex, hfile] at hthere
      have hlt : offset % volume.fs.segmentSize < file.length := by
        by_contra hnot
        rw [Option.bind_some, List.getElem?_eq_none (by omega)] at hthere
        cases hthere
      rw [hindex] at hdiv
      omega
    · have hnext : offset / volume.fs.segmentSize + 1 ≤ volume.fs.segmentCount - 1 := by
        clear hdiv
        omega
      have hbelow := Nat.mul_le_mul_right volume.fs.segmentSize hnext
      rw [Nat.succ_mul] at hbelow
      generalize offset / volume.fs.segmentSize * volume.fs.segmentSize = start at hbelow hdiv
      omega

/-! ## Loading the image -/

lemma Flushable.segmentSize_le (h : Flushable image) : image.segmentSize ≤ u64Max :=
  (Nat.le_mul_of_pos_left _ h.count).trans h.capacity_le

lemma toNat_ofNat_of_le {n : ℕ} (h : n ≤ u64Max) : (UInt64.ofNat n).toNat = n := by
  rw [UInt64.toNat_ofNat', Nat.mod_eq_of_lt]
  rw [u64Max] at h
  omega

/-- The first bytes of the volume are those of the image. -/
lemma Imaged.byteAt (h : Imaged image volume.disk) (hcount : 0 < volume.fs.segmentCount)
    (hsize : volume.fs.segmentSize = image.segmentSize) {i : ℕ} (hi : i < image.metadataBytes) :
    volume.byteAt i = (metadataBuffer image)[i]? := by
  obtain ⟨file, hfile, rest, rfl⟩ := h.file
  have hsegment := h.sound.segment
  have hlt : i < volume.fs.segmentSize := by omega
  rw [VolumeState.byteAt, Nat.div_eq_of_lt hlt, Nat.mod_eq_of_lt hlt, if_pos hcount, hfile,
    Option.bind_some]
  have hlength : i < (metadataBuffer image).length := by
    rw [length_metadataBuffer h.sound.index]
    exact hi
  exact List.getElem?_append_left hlength

/-- A volume whose first bytes are those of the image. -/
lemma imaged_of_byteAt (hsound : MetadataSound image) (hflushable : Flushable image)
    (hrepresented : image.metadataBytes ≤ streamMax)
    (hsize : volume.fs.segmentSize = image.segmentSize)
    (hbytes : ∀ i < image.metadataBytes, volume.byteAt i = (metadataBuffer image)[i]?) :
    Imaged image volume.disk := by
  have hlength := length_metadataBuffer hsound.index
  have hheader := hsound.header
  have hsegment := hsound.segment
  have hfile : ∀ i < (metadataBuffer image).length, ∃ file,
      volume.disk.fileAt 0 = some file ∧ file[i]? = (metadataBuffer image)[i]? := by
    intro i hi
    have hbyte := hbytes i (by omega)
    have hlt : i < volume.fs.segmentSize := by omega
    rw [VolumeState.byteAt, Nat.div_eq_of_lt hlt, Nat.mod_eq_of_lt hlt,
      List.getElem?_eq_getElem hi] at hbyte
    split at hbyte
    · obtain ⟨file, hfile, hvalue⟩ := Option.bind_eq_some_iff.1 hbyte
      exact ⟨file, hfile, hvalue.trans (List.getElem?_eq_getElem hi).symm⟩
    · cases hbyte
  obtain ⟨file, hthere, -⟩ := hfile 0 (by omega)
  refine ⟨hsound, hflushable, hrepresented, file, hthere,
    List.prefix_iff_getElem?.2 fun i hi => ?_⟩
  obtain ⟨file', hfile', hvalue⟩ := hfile i hi
  obtain rfl : file = file' := Option.some.inj (hthere.symm.trans hfile')
  rw [hvalue, List.getElem?_eq_getElem hi]

lemma Imaged.header_bytes (h : Imaged image volume.disk) (hcount : 0 < volume.fs.segmentCount)
    (hsize : volume.fs.segmentSize = image.segmentSize) :
    ∀ i < (volumeHeaderCodec.encode (volumeHeader image)).length,
      volume.byteAt (0 + i) = (volumeHeaderCodec.encode (volumeHeader image))[i]? := by
  intro i hi
  have hheader := h.sound.header
  rw [PodCodec.length_encode] at hi
  rw [Nat.zero_add, h.byteAt hcount hsize (by omega), metadataBuffer,
    List.getElem?_append_left (by
      rw [List.length_append, PodCodec.length_encode]
      omega),
    List.getElem?_append_left (by rwa [PodCodec.length_encode])]

lemma Imaged.index_bytes (h : Imaged image volume.disk) (hcount : 0 < volume.fs.segmentCount)
    (hsize : volume.fs.segmentSize = image.segmentSize) :
    ∀ i < (indexBytes image.files).length,
      volume.byteAt (volumeHeaderCodec.size + i) = (indexBytes image.files)[i]? := by
  intro i hi
  have hindex := h.sound.index
  rw [← length_indexBytes] at hindex
  have hheader := volumeHeaderCodec.length_encode (volumeHeader image)
  rw [h.byteAt hcount hsize (by omega), metadataBuffer,
    List.getElem?_append_left (by
      rw [List.length_append, hheader]
      omega),
    List.getElem?_append_right (by omega), hheader, Nat.add_sub_cancel_left]

/-- The words of the header are the numbers they are made of. -/
structure HeaderOf (image : VolumeFileSystem) (header : VolumeHeaderDisk) : Prop where
  magic : header.magic = volumeMagic
  segmentSize : header.segmentSize.toNat = image.segmentSize
  metadataBytes : header.metadataBytes.toNat = image.metadataBytes
  fileCount : header.fileCount.toNat = image.files.length
  indexBytes : header.indexBytes.toNat = (indexBytes image.files).length
  nextFreeOffset : header.nextFreeOffset.toNat = image.nextFreeOffset

lemma Imaged.headerOf {disk : SegmentFiles} (h : Imaged image disk) :
    HeaderOf image (volumeHeader image) := by
  have hsegment := h.flushable.segmentSize_le
  have hmetadata := h.sound.segment
  have hindex := h.sound.index
  have hfiles : image.files.length ≤ image.files.length * volumeIndexEntryCodec.size :=
    Nat.le_mul_of_pos_right _ (by decide)
  have hnext := h.flushable.inside.trans h.flushable.capacity_le
  exact ⟨rfl, toNat_ofNat_of_le hsegment, toNat_ofNat_of_le (by omega),
    toNat_ofNat_of_le (by omega), toNat_ofNat_of_le (by rw [length_indexBytes]; omega),
    toNat_ofNat_of_le hnext⟩

/-- The entries of the index, in the order of their names. -/
lemma Imaged.loadEntries {disk : SegmentFiles} (h : Imaged image disk) :
    loadEntries (volumeHeader image) (volumeHeader image).fileCount.toNat
      (indexBytes image.files) [] = some (List.sortByKey image.files, []) := by
  have hheader := h.headerOf
  have hperm := List.perm_sortByKey image.files
  rw [hheader.fileCount, ← List.length_sortByKey image.files]
  refine loadEntries_flatMap _ (fun entry hentry => ?_) ?_
  · rw [hheader.metadataBytes, hheader.nextFreeOffset]
    exact h.sound.records entry (List.mem_sortByKey.1 hentry)
  · exact (hperm.map Prod.fst).nodup_iff.2 h.sound.unique

/-- The memory of a file system with the metadata of an image. -/
def withImage (volume : VolumeState) (image : VolumeFileSystem) : VolumeState :=
  { volume with fs := { volume.fs with
    metadataBytes := image.metadataBytes
    nextFreeOffset := image.nextFreeOffset
    files := List.sortByKey image.files } }

/-- An image that loads does so as the file system it is of, up to the order of iteration. -/
lemma Imaged.eq_of_load (h : Imaged image volume.disk)
    (hsize : volume.fs.segmentSize = image.segmentSize)
    (hload : (loadMetadataLocked volume).1 = true) :
    OnlyIo (volume.withImage image) (loadMetadataLocked volume).2 := by
  have hof := h.headerOf
  rcases loadMetadataLocked_spec volume with ⟨hfailed, -⟩ | ⟨-, header, read, files, capacity,
    hheader, -, hend, -, -, hloaded, hio, heq⟩
  · exact absurd (hload.symm.trans hfailed) nofun
  · have hfirst := valuesAt_of_byteAt (h.header_bytes hend.count hsize)
    have hindex := valuesAt_of_byteAt (h.index_bytes hend.count hsize)
    rw [PodCodec.length_encode] at hfirst
    rw [hfirst, PodCodec.decode_encode] at hheader
    subst hheader
    rw [hof.indexBytes, hindex, h.loadEntries, Option.some.injEq, Prod.mk.injEq] at hloaded
    obtain ⟨rfl, -⟩ := hloaded
    rw [heq, hof.metadataBytes, hof.nextFreeOffset]
    refine ⟨?_, hio.noIoError⟩
    rw [hio.eq]
    rfl

/-- What is there of a volume is inside the capacity of its segments. -/
lemma lt_capacity_of_byteAt {offset : ℕ} (hpos : 0 < volume.fs.segmentSize)
    (h : (volume.byteAt offset).isSome) :
    offset < volume.fs.segmentCount * volume.fs.segmentSize := by
  rw [VolumeState.byteAt] at h
  split at h
  · next hcount => exact (Nat.div_lt_iff_lt_mul hpos).1 hcount
  · cases h

/-- An image whose payload area is there loads. -/
lemma Imaged.load (h : Imaged image volume.disk) (hio : volume.NoIoError) (hlaid : volume.Laid)
    (hsize : volume.fs.segmentSize = image.segmentSize)
    (hcapacity : volume.fs.segmentCount ≤ u64Max / volume.fs.segmentSize)
    (hpayload : (volume.byteAt (image.nextFreeOffset - 1)).isSome) :
    (loadMetadataLocked volume).1 = true := by
  have hheader := h.headerOf
  have hsegment := h.sound.segment
  have hmetadata := h.sound.header
  have hpayloadBegin := h.sound.payload
  have hindexSize := h.sound.index
  rw [← length_indexBytes] at hindexSize
  have hpos : 0 < volume.fs.segmentSize := by omega
  have hinside := lt_capacity_of_byteAt hpos hpayload
  have hmax : volume.fs.segmentCount * volume.fs.segmentSize ≤ u64Max :=
    (Nat.mul_le_mul_right _ hcapacity).trans (Nat.div_mul_le_self _ _)
  have hcount : 0 < volume.fs.segmentCount := by
    rcases Nat.eq_zero_or_pos volume.fs.segmentCount with hzero | hsome
    · rw [hzero, Nat.zero_mul] at hinside
      omega
    · exact hsome
  have hstream := h.represented
  have hrange : ∀ {state : VolumeState}, OnlyIo volume state → ∀ {offset count : ℕ},
      offset + count ≤ image.metadataBytes →
        Streams state.fs.segmentSize count (offset + count) ∧
          InCapacity state.fs.segmentSize state.fs.segmentCount offset count := by
    intro state hstate offset count hle
    rw [hstate.fs]
    exact ⟨Or.inr (Or.inl (by omega)), hpos, hcapacity, by omega, by omega⟩
  -- the header
  have hheaderBytes := h.header_bytes hcount hsize
  have hheaderLength := volumeHeaderCodec.length_encode (volumeHeader image)
  have hread : (readBytesLocked 0 volumeHeaderCodec.size volume).1
      = some (volumeHeaderCodec.encode (volumeHeader image)) := by
    obtain ⟨hreadStream, hreadCapacity⟩ :=
      hrange (.refl volume) (by omega : 0 + volumeHeaderCodec.size ≤ image.metadataBytes)
    rw [← hheaderLength] at hreadStream hreadCapacity ⊢
    rw [readBytesLocked_eq hio (present_of_byteAt hheaderBytes) hreadStream hreadCapacity,
      valuesAt_of_byteAt hheaderBytes]
  obtain ⟨hreadIo, -⟩ := readBytesLocked_ends volume 0
    (show volumeHeaderCodec.size ≤ u64Max by decide)
  rw [loadMetadataLocked]
  dsimp only
  rw [hread]
  dsimp only
  rw [PodCodec.decode_encode]
  generalize (readBytesLocked 0 volumeHeaderCodec.size volume).2 = read at hreadIo ⊢
  have hfits : headerFits read.fs (volumeHeader image) = true := by
    rw [headerFits_iff, hreadIo.fs, hheader.segmentSize, hheader.metadataBytes, hheader.indexBytes,
      hheader.nextFreeOffset]
    exact ⟨rfl, hsize.symm, hmetadata, by omega, hindexSize, hpayloadBegin, hcapacity, by omega⟩
  rw [hfits, Bool.not_true, if_neg Bool.false_ne_true]
  -- the physical capacity
  have hthere : (read.byteAt (image.nextFreeOffset - 1)).isSome := by
    rw [hreadIo.byteAt]
    exact hpayload
  obtain ⟨capacity, hphysical, hlt⟩ := computePhysicalCapacityLocked_eq (hreadIo.noIoError hio)
    (hreadIo.sameBytes.laid hlaid) (by rwa [hreadIo.fs]) (by rwa [hreadIo.fs]) hthere
  rw [hphysical]
  dsimp only
  rw [if_neg (by rw [hheader.nextFreeOffset]; omega), if_neg (not_lt.2 (toNat_le_u64Max _)),
    if_neg (by
      rw [not_not, computeVolumeIndexBytes, hheader.fileCount, hheader.indexBytes,
        length_indexBytes, if_neg (not_lt.2 h.flushable.files)])]
  have hphysicalIo := hreadIo.trans (computePhysicalCapacityLocked_onlyIo read)
  generalize (computePhysicalCapacityLocked read).2 = sized at hphysicalIo ⊢
  -- the index
  have hindexBytes : ∀ i < (indexBytes image.files).length,
      sized.byteAt (volumeHeaderCodec.size + i) = (indexBytes image.files)[i]? := by
    intro i hi
    rw [hphysicalIo.byteAt]
    exact h.index_bytes hcount hsize i hi
  have hindex : (readBytesLocked volumeHeaderCodec.size (volumeHeader image).indexBytes.toNat
      sized).1 = some (indexBytes image.files) := by
    obtain ⟨hreadStream, hreadCapacity⟩ := hrange hphysicalIo hindexSize
    rw [hheader.indexBytes, readBytesLocked_eq (hphysicalIo.noIoError hio)
      (present_of_byteAt hindexBytes) hreadStream hreadCapacity, valuesAt_of_byteAt hindexBytes]
  rw [hindex]
  dsimp only
  rw [h.loadEntries]
  dsimp only
  rw [if_neg (by simp)]

/-! ## Flushed images -/

/-- A flush that is accepted leaves the image of the file system. -/
lemma imaged_of_flush (hsound : MetadataSound volume.fs)
    (hflush : (flushMetadataLocked volume).1 = true) :
    Imaged volume.fs (flushMetadataLocked volume).2.disk := by
  rcases flushMetadataLocked_ends volume hsound.segment.le with
    ⟨-, hflushable, hwrote, hfs, hrepresented⟩ | ⟨hfailed, -⟩
  · refine imaged_of_byteAt hsound hflushable hrepresented (by rw [hfs]) fun i hi => ?_
    rw [← length_metadataBuffer hsound.index] at hi
    have hwritten := hwrote.written i hi
    rwa [Nat.zero_add] at hwritten
  · exact absurd (hflush.symm.trans hfailed) nofun

end VolumeState
end NwbLot.Volume
