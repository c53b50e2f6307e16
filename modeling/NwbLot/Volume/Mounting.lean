import NwbLot.Volume.Trimming

/-!
# Mounting

What a mounted volume has been checked for, when it is new and when its segments were found.

`Mounting` lists how a mount ends: closed, with a new volume, or with the segments that were
found, which may hold any bytes and are mounted only when `VolumeSound` holds of them.
-/

namespace NwbLot.Volume

open SegmentFiles

namespace VolumeState

variable {before after volume : VolumeState} {desc : VolumeMountDesc}

/-! ## Scanning -/

/-- The segments that are found. -/
def foundSegments (disk : SegmentFiles) : ℕ := (disk.takeWhile Option.isSome).length

/-- The state after the scan. -/
structure Scanned (desc : VolumeMountDesc) (before after : VolumeState) : Prop where
  fs : after.fs = {
    writable := desc.usage != .runtimeReadOnly
    maxSegments := desc.maxSegments
    segmentCount := foundSegments before.disk }
  disk : after.disk = before.disk
  directory : after.mountDirectory = .directory
  noIoError : before.NoIoError → after.NoIoError

/-- Nothing is mounted and no file has changed. -/
structure Closed (before after : VolumeState) : Prop where
  mounted : after.fs.mounted = false
  disk : after.disk = before.disk
  noIoError : before.NoIoError → after.NoIoError

lemma scanSegmentsLocked_ends (volume : VolumeState) :
    Ends (scanSegmentsLocked volume)
      (fun state => state = { volume.afterIo with
        fs := { volume.fs with segmentCount := foundSegments volume.disk } })
      (fun state => state = { volume.afterIo with fs := { volume.fs with segmentCount := 0 } } ∧
        ¬volume.NoIoError) := by
  rw [scanSegmentsLocked]
  split
  · exact Or.inl ⟨rfl, rfl⟩
  · next hfailed => exact Or.inr ⟨rfl, rfl, fun hio => hfailed hio.outcome⟩

lemma unmountLocked_closed (volume : VolumeState) : Closed volume volume.unmountLocked :=
  ⟨rfl, rfl, id⟩

lemma scanMountDirectory_ends (desc : VolumeMountDesc) (volume : VolumeState) :
    Ends (scanMountDirectory desc volume) (Scanned desc volume) (Closed volume) := by
  have hscan : ∀ found : VolumeState, found.disk = volume.disk →
      found.fs = { writable := desc.usage != .runtimeReadOnly, maxSegments := desc.maxSegments } →
      found.mountDirectory = .directory → (volume.NoIoError → found.NoIoError) →
      Ends (if (scanSegmentsLocked found).1 = true then (true, (scanSegmentsLocked found).2)
          else (false, (scanSegmentsLocked found).2.unmountLocked))
        (Scanned desc volume) (Closed volume) := by
    intro found hdisk hfs hdirectory hio
    rcases scanSegmentsLocked_ends found with ⟨hok, heq⟩ | ⟨hfailed, heq, -⟩
    · rw [if_pos hok]
      refine Or.inl ⟨rfl, ?_⟩
      rw [heq]
      refine ⟨?_, hdisk, hdirectory, fun hclean => (hio hclean).afterIo⟩
      rw [hfs, hdisk]
    · rw [if_neg (by rw [hfailed]; decide)]
      refine Or.inr ⟨rfl, rfl, ?_, fun hclean => ?_⟩
      · rw [heq]
        exact hdisk
      · rw [heq]
        exact (hio hclean).afterIo
  rw [scanMountDirectory]
  dsimp only
  split
  · exact Or.inr ⟨rfl, unmountLocked_closed volume⟩
  · split
    · split
      · exact Or.inr ⟨rfl, rfl, rfl, id⟩
      · split
        · exact hscan _ rfl rfl rfl NoIoError.afterIo
        · exact Or.inr ⟨rfl, rfl, rfl, NoIoError.afterIo⟩
    · exact Or.inr ⟨rfl, rfl, rfl, id⟩
    · next hdirectory => exact hscan _ rfl rfl hdirectory id

/-! ## New volumes -/

/-- A new volume before its metadata is written: one segment of zeros. -/
structure Created (desc : VolumeMountDesc) (before after : VolumeState) : Prop where
  createIfMissing : desc.createIfMissing = true
  sound : VolumeSound after
  fs : after.fs = { before.fs with
    segmentSize := desc.segmentSize.toNat
    metadataBytes := after.fs.metadataBytes
    nextFreeOffset := after.fs.metadataBytes
    segmentCount := 1 }
  writable : before.fs.writable = true
  metadataSize : desc.metadataSize ≠ 0 → desc.metadataSize.toNat = after.fs.metadataBytes
  segment : desc.segmentSize.toNat ≤ streamMax + 1
  disk : ∀ index, after.disk.fileAt index = if index = 0 then
    some (List.replicate desc.segmentSize.toNat 0) else before.disk.fileAt index
  directory : after.mountDirectory = before.mountDirectory
  noIoError : before.NoIoError → after.NoIoError

/-- At most a first segment without a header has been made. -/
structure NotCreated (before after : VolumeState) : Prop where
  mounted : after.fs.mounted = before.fs.mounted
  first : after.disk.fileAt 0 = before.disk.fileAt 0 ∨
    ∃ byteCount, after.disk.fileAt 0 = some (List.replicate byteCount 0)
  rest : ∀ index ≠ 0, after.disk.fileAt index = before.disk.fileAt index
  noIoError : before.NoIoError → after.NoIoError

/-- A segment that is made is a file of zeros, also when that fails half way. -/
lemma fileAt_createSegmentLocked (segmentIndex : ℕ) (volume : VolumeState) :
    ((createSegmentLocked segmentIndex volume).2.disk.fileAt segmentIndex
        = volume.disk.fileAt segmentIndex ∨
      ∃ byteCount, (createSegmentLocked segmentIndex volume).2.disk.fileAt segmentIndex
        = some (List.replicate byteCount 0)) ∧
    ∀ index ≠ segmentIndex, (createSegmentLocked segmentIndex volume).2.disk.fileAt index
      = volume.disk.fileAt index := by
  have hmade : ∀ (state : VolumeState) byteCount, state.disk
      = volume.disk.setFile segmentIndex (some (List.replicate byteCount 0)) →
      (state.disk.fileAt segmentIndex = volume.disk.fileAt segmentIndex ∨
        ∃ byteCount, state.disk.fileAt segmentIndex = some (List.replicate byteCount 0)) ∧
      ∀ index ≠ segmentIndex, state.disk.fileAt index = volume.disk.fileAt index := by
    intro state byteCount hdisk
    refine ⟨Or.inr ⟨byteCount, ?_⟩, fun index hindex => ?_⟩
    · rw [hdisk, fileAt_setFile, if_pos rfl]
    · rw [hdisk, fileAt_setFile, if_neg hindex]
  rw [createSegmentLocked]
  split
  · exact ⟨Or.inl rfl, fun _ _ => rfl⟩
  · split
    · exact ⟨Or.inl rfl, fun _ _ => rfl⟩
    · dsimp only
      split
      · exact ⟨Or.inl rfl, fun _ _ => rfl⟩
      · split
        · exact hmade _ 0 rfl
        · split
          · split
            · exact hmade _ _ rfl
            · split
              · exact hmade _ _ rfl
              · exact hmade _ _ rfl
          · exact ⟨Or.inl rfl, fun _ _ => rfl⟩
          · exact hmade _ _ rfl

/-- What is asked of the description of a new volume. -/
structure NewVolume (desc : VolumeMountDesc) (fs : VolumeFileSystem) (metadataBytes : ℕ) :
    Prop where
  createIfMissing : desc.createIfMissing = true
  writable : fs.writable = true
  segment : desc.segmentSize ≠ 0
  metadata : metadataBytes = if desc.metadataSize = 0 then
    defaultMetadataBytes desc.segmentSize.toNat else desc.metadataSize.toNat
  header : volumeHeaderCodec.size < metadataBytes
  inside : metadataBytes < desc.segmentSize.toNat

lemma createFirstSegment_ends (desc : VolumeMountDesc) {before : VolumeState}
    (hcount : before.fs.segmentCount = 0) (hfiles : before.fs.files = []) :
    Ends (createFirstSegment desc before) (Created desc before)
      (fun state => NotCreated before state ∧ (before.NoIoError → ∀ metadataBytes,
        NewVolume desc before.fs metadataBytes → ¬desc.segmentSize.toNat ≤ streamMax + 1)) := by
  rw [createFirstSegment]
  split
  · next hrefused =>
      refine Or.inr ⟨rfl, ⟨rfl, Or.inl rfl, fun _ _ => rfl, id⟩, fun _ metadataBytes hnew => ?_⟩
      simp only [Bool.or_eq_true, Bool.not_eq_true', beq_iff_eq] at hrefused
      rcases hrefused with (hmissing | hwritable) | hzero
      · exact absurd (hnew.createIfMissing.symm.trans hmissing) nofun
      · exact absurd (hnew.writable.symm.trans hwritable) nofun
      · exact absurd hzero hnew.segment
  · next hasked =>
      simp only [Bool.or_eq_true, Bool.not_eq_true', beq_iff_eq, not_or, Bool.not_eq_false]
        at hasked
      obtain ⟨⟨hmissing, hwritable⟩, hsegment⟩ := hasked
      dsimp only
      generalize hmetadata : (if desc.metadataSize = 0 then
        defaultMetadataBytes desc.segmentSize.toNat else desc.metadataSize.toNat) = metadataBytes
      split
      · next hbounds =>
          refine Or.inr ⟨rfl, ⟨rfl, Or.inl rfl, fun _ _ => rfl, id⟩, ?_⟩
          intro _ metadataBytes' hnew
          have hheader := hnew.header
          have hinside := hnew.inside
          rw [hnew.metadata, hmetadata] at hheader hinside
          omega
      · next hbounds =>
          generalize hsized : ({ before with fs := { before.fs with
            segmentSize := desc.segmentSize.toNat, metadataBytes := metadataBytes
            nextFreeOffset := metadataBytes } } : VolumeState) = sized
          have hfs : sized.fs = { before.fs with
              segmentSize := desc.segmentSize.toNat, metadataBytes := metadataBytes
              nextFreeOffset := metadataBytes } := by rw [← hsized]
          have hdisk : sized.disk = before.disk := by rw [← hsized]
          have hio : before.NoIoError → sized.NoIoError := by
            rw [← hsized]
            exact id
          have hsizedCount : sized.fs.segmentCount = 0 := by rw [hfs, hcount]
          have hends := createSegmentLocked_ends sized
          rw [hsizedCount] at hends
          have hsegmentPos : 0 < desc.segmentSize.toNat := by omega
          rcases hends with ⟨hok, heq, haccepted⟩ | ⟨hfailed, hsame, hfs', hreason⟩
          · have hafter : sized.withSegment.fs = { before.fs with
                segmentSize := desc.segmentSize.toNat, metadataBytes := metadataBytes
                nextFreeOffset := metadataBytes, segmentCount := 1 } := by
              rw [withSegment, hfs, hcount]
            have hfirst : ∀ index, sized.withSegment.disk.fileAt index = if index = 0 then
                some (List.replicate desc.segmentSize.toNat 0) else before.disk.fileAt index := by
              intro index
              rw [fileAt_withSegment, hsizedCount, hdisk, hfs]
            refine Or.inl ⟨hok, ?_⟩
            rw [heq]
            refine ⟨hmissing, ⟨?_, ?_, ?_, ?_⟩, ?_, hwritable, ?_, ?_, hfirst, ?_, ?_⟩
            · rw [hafter]
              exact toNat_le_u64Max _
            · have hheader : volumeHeaderCodec.size < metadataBytes := by omega
              have hinside : metadataBytes < desc.segmentSize.toNat := by omega
              rw [hafter]
              refine ⟨hheader, hinside, le_rfl, ?_, ?_, ?_⟩
              · rw [hfiles, List.length_nil, Nat.zero_mul, Nat.add_zero]
                exact hheader.le
              · rw [hfiles]
                exact fun _ h => absurd h List.not_mem_nil
              · rw [hfiles]
                exact List.nodup_nil
            · intro index hindex
              rw [hafter] at hindex ⊢
              obtain rfl : index = 0 := Nat.lt_one_iff.1 hindex
              exact ⟨_, (hfirst 0).trans (if_pos rfl), by rwa [List.length_replicate],
                by rw [List.length_replicate]⟩
            · intro i hi
              rw [hafter] at hi
              have hlt : i < sized.withSegment.fs.segmentSize := by
                rw [hafter]
                dsimp only at hi ⊢
                omega
              rw [Nat.zero_add, VolumeState.byteAt, Nat.div_eq_of_lt hlt, Nat.mod_eq_of_lt hlt,
                hfirst, if_pos rfl, if_pos (by rw [hafter]; exact Nat.one_pos), Option.bind_some]
              rw [hafter] at hlt
              rw [List.getElem?_replicate, if_pos hlt]
              rfl
            · rw [hafter]
            · intro hgiven
              rw [hafter]
              rwa [if_neg hgiven] at hmetadata
            · rw [SegmentRefused, hfs] at haccepted
              dsimp only at haccepted
              omega
            · rw [← hsized]
              rfl
            · have hpos : 0 < sized.fs.segmentSize := by
                rw [hfs]
                exact hsegmentPos
              exact fun hclean => (sameBytes_withSegment hpos).noIoError (hio hclean)
          · obtain ⟨hfirst, hrest⟩ := fileAt_createSegmentLocked 0 sized
            rw [hdisk] at hfirst
            refine Or.inr ⟨hfailed, ⟨?_, hfirst, fun index hindex => ?_, ?_⟩, ?_⟩
            · rw [hfs', hfs]
            · rw [hrest index hindex, hdisk]
            · exact fun hclean => hsame.noIoError (hio hclean)
            · intro hclean _ _ hle
              rcases hreason (hio hclean) with ⟨hlimit, hfull⟩ | hzero | hlong
              · omega
              · rw [hfs] at hzero
                exact hsegmentPos.ne' hzero
              · rw [hfs] at hlong
                dsimp only at hlong
                omega

/-! ## Found volumes -/

/-- The segments are files of at least one byte, all of them full but the last. -/
def SegmentsFit (disk : SegmentFiles) (segmentCount segmentSize : ℕ) : Prop :=
  ∀ index < segmentCount, ∃ file, disk.fileAt index = some file ∧ 0 < file.length ∧
    file.length ≤ segmentSize ∧ (index + 1 < segmentCount → file.length = segmentSize)

lemma checkSegmentSizes_onlyIo (remaining segmentIndex : ℕ) (volume : VolumeState) :
    OnlyIo volume (checkSegmentSizes remaining segmentIndex volume).2 := by
  induction remaining generalizing segmentIndex volume with
  | zero => exact .refl volume
  | succ remaining ih =>
    have hsized := fileSize_onlyIo segmentIndex volume
    rw [checkSegmentSizes]
    split
    · exact hsized
    · split
      · exact hsized
      · split
        · exact hsized
        · split
          · exact hsized
          · exact hsized.trans (ih _ _)

lemma checkSegmentSizes_spec {remaining segmentIndex : ℕ} {volume : VolumeState}
    (h : (checkSegmentSizes remaining segmentIndex volume).1 = true) :
    ∀ index, segmentIndex ≤ index → index < segmentIndex + remaining →
      ∃ file, volume.disk.fileAt index = some file ∧ 0 < file.length ∧
        file.length ≤ volume.fs.segmentSize ∧
        (index + 1 < segmentIndex + remaining → file.length = volume.fs.segmentSize) := by
  induction remaining generalizing segmentIndex volume with
  | zero => exact fun index hle hlt => by omega
  | succ remaining ih =>
    have hsized := fileSize_onlyIo segmentIndex volume
    rw [checkSegmentSizes] at h
    cases hsize : (fileSize segmentIndex volume).1 with
    | none =>
      rw [hsize] at h
      cases h
    | some size =>
      obtain ⟨file, hfile, rfl⟩ := fileSize_eq_some hsize
      rw [hsize] at h
      dsimp only at h
      split_ifs at h with hzero hinner hlast
      intro index hle hlt
      by_cases hfirst : index = segmentIndex
      · subst hfirst
        refine ⟨file, hfile, by omega, by omega, by omega⟩
      · obtain ⟨file', hfile', hbounds⟩ := ih h index (by omega) (by omega)
        rw [hsized.disk] at hfile'
        rw [hsized.fs, Nat.add_assoc, Nat.add_comm 1 remaining] at hbounds
        exact ⟨file', hfile', hbounds⟩

/-- The segments that were found have been checked and loaded. -/
structure Opened (desc : VolumeMountDesc) (before after : VolumeState) : Prop where
  segmentSize : desc.segmentSize = 0 ∨ desc.segmentSize.toNat = before.fs.segmentSize
  metadataSize : desc.metadataSize = 0 ∨ desc.metadataSize.toNat = after.fs.metadataBytes
  fit : SegmentsFit before.disk before.fs.segmentCount before.fs.segmentSize
  loaded : ∃ state, OnlyIo before state ∧ loadMetadataLocked state = (true, after)

lemma OnlyIo.closed (h : OnlyIo before after) (hmounted : before.fs.mounted = false) :
    Closed before after :=
  ⟨by rw [h.fs, hmounted], h.disk, h.noIoError⟩

lemma loadMetadataLocked_closed (volume : VolumeState) :
    (loadMetadataLocked volume).2.fs.mounted = volume.fs.mounted ∧
      (loadMetadataLocked volume).2.disk = volume.disk ∧
      (volume.NoIoError → (loadMetadataLocked volume).2.NoIoError) := by
  rcases loadMetadataLocked_spec volume with ⟨-, hio⟩ | ⟨-, header, read, files, capacity, -, -, -,
    -, -, -, hio, heq⟩
  · exact ⟨by rw [hio.fs], hio.disk, hio.noIoError⟩
  · rw [heq]
    exact ⟨by rw [← hio.fs], hio.disk, hio.noIoError⟩

lemma openSegments_ends (desc : VolumeMountDesc) (size : UInt64) (before : VolumeState)
    (hmounted : before.fs.mounted = false) (hsize : before.fs.segmentSize = size.toNat) :
    Ends (openSegments desc size before) (Opened desc before) (Closed before) := by
  have hchecked := checkSegmentSizes_onlyIo before.fs.segmentCount 0 before
  rw [openSegments]
  dsimp only
  cases hcheck : (checkSegmentSizes before.fs.segmentCount 0 before).1 with
  | false => exact Or.inr ⟨rfl, hchecked.closed hmounted⟩
  | true =>
    have hfit : SegmentsFit before.disk before.fs.segmentCount before.fs.segmentSize := by
      intro index hindex
      have hspec := checkSegmentSizes_spec hcheck index (Nat.zero_le _) (by omega)
      rwa [Nat.zero_add] at hspec
    have hfirst := hchecked.trans (fileSize_onlyIo 0 _)
    simp only [Bool.not_true, Bool.false_eq_true, if_false]
    generalize (checkSegmentSizes before.fs.segmentCount 0 before).2 = checked at hfirst ⊢
    cases hsized : (fileSize 0 checked).1 with
    | none => exact Or.inr ⟨rfl, hfirst.closed hmounted⟩
    | some firstSegmentFileSize =>
      dsimp only
      generalize (fileSize 0 checked).2 = first at hfirst ⊢
      split
      · exact Or.inr ⟨rfl, hfirst.closed hmounted⟩
      · split
        · exact Or.inr ⟨rfl, hfirst.closed hmounted⟩
        · next hgiven =>
            have hsegment : desc.segmentSize = 0 ∨ desc.segmentSize.toNat
                = before.fs.segmentSize := by
              by_cases hzero : desc.segmentSize = 0
              · exact Or.inl hzero
              · have heq : desc.segmentSize = size := by
                  by_contra hne
                  exact hgiven ⟨hzero, hne⟩
                exact Or.inr (by rw [heq, hsize])
            obtain ⟨hloadMounted, hloadDisk, hloadIo⟩ := loadMetadataLocked_closed first
            have hclosed : Closed before (loadMetadataLocked first).2 :=
              ⟨by rw [hloadMounted, hfirst.fs, hmounted], by rw [hloadDisk, hfirst.disk],
                fun hclean => hloadIo (hfirst.noIoError hclean)⟩
            cases hload : (loadMetadataLocked first).1 with
            | false => exact Or.inr ⟨rfl, hclosed⟩
            | true =>
              simp only [Bool.not_true, Bool.false_eq_true, if_false]
              split
              · exact Or.inr ⟨rfl, hclosed⟩
              · next hmetadata =>
                  refine Or.inl ⟨rfl, hsegment, ?_, hfit, first, hfirst, Prod.ext hload rfl⟩
                  by_cases hzero : desc.metadataSize = 0
                  · exact Or.inl hzero
                  · refine Or.inr ?_
                    by_contra hne
                    exact hmetadata ⟨hzero, hne⟩

/-- A volume whose segments were found. -/
lemma openVolume_ends (desc : VolumeMountDesc) {before : VolumeState}
    (hmounted : before.fs.mounted = false) :
    Ends (openVolume desc before)
      (fun state => ∃ file, before.disk.fileAt 0 = some file ∧ ∃ header,
        volumeHeaderCodec.decode (file.take volumeHeaderCodec.size) = header ∧
        header.magic = volumeMagic ∧
        Opened desc { before.afterIo with fs := { before.fs with
          segmentSize := header.segmentSize.toNat } } state)
      (Closed before) := by
  have hafterIo : Closed before before.afterIo := ⟨hmounted, rfl, NoIoError.afterIo⟩
  rw [openVolume]
  split
  · next file houtcome hfile =>
      split
      · exact Or.inr ⟨rfl, hafterIo⟩
      · dsimp only
        split
        · exact Or.inr ⟨rfl, hafterIo⟩
        · next hmagic =>
            split
            · exact Or.inr ⟨rfl, hafterIo⟩
            · rcases openSegments_ends desc
                (volumeHeaderCodec.decode (file.take volumeHeaderCodec.size)).segmentSize
                { before.afterIo with fs := { before.fs with
                  segmentSize := (volumeHeaderCodec.decode
                    (file.take volumeHeaderCodec.size)).segmentSize.toNat } } hmounted rfl with
                ⟨hok, hopened⟩ | ⟨hfailed, hclosed⟩
              · exact Or.inl ⟨hok, file, hfile, _, rfl, not_not.1 hmagic, hopened⟩
              · exact Or.inr ⟨hfailed, hclosed.mounted, hclosed.disk,
                  fun hclean => hclosed.noIoError hclean.afterIo⟩
  · exact Or.inr ⟨rfl, hafterIo⟩

/-! ## Mounted volumes -/

/-- Loading sets the metadata and nothing else. -/
lemma loadMetadataLocked_fs {state : VolumeState} (h : loadMetadataLocked state = (true, after)) :
    after.fs = { state.fs with
      metadataBytes := after.fs.metadataBytes
      nextFreeOffset := after.fs.nextFreeOffset
      files := after.fs.files } ∧
    after.disk = state.disk ∧ after.mountDirectory = state.mountDirectory ∧
    (state.NoIoError → after.NoIoError) := by
  rcases loadMetadataLocked_spec state with ⟨hfailed, -⟩ | ⟨-, header, read, files, capacity, -, -,
    -, -, -, -, hio, heq⟩
  · rw [h] at hfailed
    cases hfailed
  · rw [h] at heq
    dsimp only at heq
    rw [heq]
    refine ⟨by rw [hio.fs], hio.disk, ?_, hio.noIoError⟩
    rw [hio.eq]

lemma Opened.fs (h : Opened desc before after) :
    after.fs = { before.fs with
      metadataBytes := after.fs.metadataBytes
      nextFreeOffset := after.fs.nextFreeOffset
      files := after.fs.files } ∧
    after.disk = before.disk ∧ after.mountDirectory = before.mountDirectory ∧
    (before.NoIoError → after.NoIoError) := by
  obtain ⟨state, hio, hload⟩ := h.loaded
  obtain ⟨hfs, hdisk, hdirectory, hclean⟩ := loadMetadataLocked_fs hload
  rw [hio.fs] at hfs
  refine ⟨hfs, hdisk.trans hio.disk, ?_, fun hbefore => hclean (hio.noIoError hbefore)⟩
  rw [hdirectory, hio.eq]

/-- What was found is sound: every byte of the payload area is in the files. -/
lemma Opened.sound (h : Opened desc before after) (hmax : before.fs.segmentSize ≤ u64Max) :
    VolumeSound after := by
  obtain ⟨state, hio, hload⟩ := h.loaded
  have hsound := loadMetadataLocked_sound (by rw [hload] : (loadMetadataLocked state).1 = true)
  rw [hload] at hsound
  obtain ⟨hmetadata, -, capacity, hend, hnext⟩ := hsound
  dsimp only at hmetadata hnext
  obtain ⟨hfs, hdisk, -⟩ := h.fs
  have hsize : after.fs.segmentSize = before.fs.segmentSize := by rw [hfs]
  have hcount : after.fs.segmentCount = before.fs.segmentCount := by rw [hfs]
  have hlaid : after.Laid := by
    intro index hindex
    rw [hcount] at hindex
    obtain ⟨file, hfile, hpos, hle, -⟩ := h.fit index hindex
    exact ⟨file, by rw [hdisk, hfile], hpos, by rw [hsize]; exact hle⟩
  refine ⟨hsize.trans_le hmax, hmetadata, hlaid, fun i hi => ?_⟩
  obtain ⟨hcountPos, hsegment, last, hlast, -, hlastLe, rfl⟩ := hend
  rw [hio.fs, hio.disk] at hlast
  rw [hio.fs] at hcountPos hsegment hlastLe hnext
  have hdiv := Nat.div_add_mod i before.fs.segmentSize
  have hmod := Nat.mod_lt i hsegment
  rw [Nat.mul_comm] at hdiv
  have hindex : i / before.fs.segmentSize < before.fs.segmentCount := by
    rw [Nat.div_lt_iff_lt_mul hsegment]
    have hsplit := Nat.succ_mul (before.fs.segmentCount - 1) before.fs.segmentSize
    rw [Nat.succ_eq_add_one, Nat.sub_add_cancel hcountPos] at hsplit
    omega
  obtain ⟨file, hfile, -, hle, hfull⟩ := h.fit _ hindex
  have hlt : i % before.fs.segmentSize < file.length := by
    by_cases hinner : i / before.fs.segmentSize + 1 < before.fs.segmentCount
    · rw [hfull hinner]
      exact hmod
    · have heq : i / before.fs.segmentSize = before.fs.segmentCount - 1 := by omega
      rw [heq] at hfile hdiv
      obtain rfl : file = last := Option.some.inj (hfile.symm.trans hlast)
      omega
  rw [Nat.zero_add, VolumeState.byteAt, hsize, hcount, if_pos hindex, hdisk, hfile,
    Option.bind_some, List.getElem?_eq_getElem hlt]
  rfl

/-- The last line of `mount`. -/
def withMounted (volume : VolumeState) : VolumeState :=
  { volume with fs := { volume.fs with mounted := true } }

lemma VolumeSound.withMounted (h : VolumeSound volume) : VolumeSound volume.withMounted :=
  ⟨h.represented, ⟨h.metadata.header, h.metadata.segment, h.metadata.payload, h.metadata.index,
    h.metadata.records, h.metadata.unique⟩, h.laid, h.present⟩

/-- How `mount` ends. -/
inductive Mounting (desc : VolumeMountDesc) (before : VolumeState) : Bool × VolumeState → Prop
  /-- It fails and changes no file. -/
  | closed {after : VolumeState} (closed : Closed before after) :
      Mounting desc before (false, after)
  /-- The first segment of a new volume cannot be made. -/
  | notCreated {scanned after : VolumeState} (scan : Scanned desc before scanned)
      (count : scanned.fs.segmentCount = 0) (notCreated : NotCreated scanned after) :
      Mounting desc before (false, after.unmountLocked)
  /-- The metadata of a new volume cannot be written. -/
  | notFlushed {scanned created : VolumeState} (scan : Scanned desc before scanned)
      (count : scanned.fs.segmentCount = 0) (create : Created desc scanned created)
      (request : (VolumeOperation.mount desc).flushRequest before = some created)
      (flush : (flushMetadataLocked created).1 = false) :
      Mounting desc before (false, (flushMetadataLocked created).2.unmountLocked)
  /-- A new volume is mounted. -/
  | created {scanned created : VolumeState} (scan : Scanned desc before scanned)
      (count : scanned.fs.segmentCount = 0) (create : Created desc scanned created)
      (request : (VolumeOperation.mount desc).flushRequest before = some created)
      (flush : (flushMetadataLocked created).1 = true) :
      Mounting desc before (true, (flushMetadataLocked created).2.withMounted)
  /-- Segments that were found are mounted. -/
  | opened {scanned after : VolumeState} {file : List UInt8} {header : VolumeHeaderDisk}
      (scan : Scanned desc before scanned) (count : 0 < scanned.fs.segmentCount)
      (first : before.disk.fileAt 0 = some file)
      (decoded : volumeHeaderCodec.decode (file.take volumeHeaderCodec.size) = header)
      (magic : header.magic = volumeMagic)
      (opened : Opened desc { scanned.afterIo with fs := { scanned.fs with
        segmentSize := header.segmentSize.toNat } } after)
      (limit : desc.maxSegments = 0 ∨ scanned.fs.segmentCount ≤ desc.maxSegments) :
      Mounting desc before (true, after.withMounted)

lemma Closed.trans {middle : VolumeState} (h : Closed before middle) (hnext : Closed middle after) :
    Closed before after :=
  ⟨hnext.mounted, hnext.disk.trans h.disk, fun hio => hnext.noIoError (h.noIoError hio)⟩

lemma mount_mounting (desc : VolumeMountDesc) (before : VolumeState) :
    Mounting desc before (mount desc before) := by
  rw [mount]
  dsimp only
  rcases scanMountDirectory_ends desc before with ⟨hscanned, hscan⟩ | ⟨hfailed, hclosed⟩
  · have hrequest : ∀ created, (scanMountDirectory desc before).2.fs.segmentCount = 0 →
        createFirstSegment desc (scanMountDirectory desc before).2 = (true, created) →
        (VolumeOperation.mount desc).flushRequest before = some created := by
      intro created hcount hcreated
      rw [VolumeOperation.flushRequest, hcreated]
      exact if_pos ⟨hscanned, hcount, rfl⟩
    rw [hscanned]
    generalize (scanMountDirectory desc before).2 = scanned at hscan hrequest ⊢
    simp only [Bool.not_true, Bool.false_eq_true, if_false]
    have hmounted : scanned.fs.mounted = false := by rw [hscan.fs]
    have hscanClosed : Closed before scanned := ⟨hmounted, hscan.disk, hscan.noIoError⟩
    by_cases hcount : scanned.fs.segmentCount = 0
    · rw [if_pos hcount, createVolume]
      rcases createFirstSegment_ends desc hcount (by rw [hscan.fs]) with
        ⟨hcreated, hcreate⟩ | ⟨hfailed, hnotCreated, -⟩
      · obtain ⟨created, hresult⟩ : ∃ created, createFirstSegment desc scanned = (true, created) :=
          ⟨_, Prod.ext hcreated rfl⟩
        have hasked := hrequest created hcount hresult
        rw [hresult] at hcreate ⊢
        dsimp only at hcreate ⊢
        rw [if_pos rfl]
        cases hflush : (flushMetadataLocked created).1 with
        | false => exact .notFlushed hscan hcount hcreate hasked hflush
        | true =>
          have hfs : (flushMetadataLocked created).2.fs.segmentCount = 1 := by
            rcases flushMetadataLocked_ends created hcreate.sound.metadata.segment.le with
              ⟨-, -, -, hsame, -⟩ | ⟨hfailed, -⟩
            · rw [hsame, hcreate.fs]
            · exact absurd (hflush.symm.trans hfailed) nofun
          rw [if_neg (by decide), if_neg (by rw [hfs]; omega)]
          exact .created hscan hcount hcreate hasked hflush
      · rw [hfailed]
        exact .notCreated hscan hcount hnotCreated
    · rw [if_neg hcount]
      rcases openVolume_ends desc hmounted with
        ⟨hok, file, hfile, header, hdecoded, hmagic, hopened⟩ | ⟨hfailed, hclosed⟩
      · rw [hok]
        simp only [Bool.not_true, Bool.false_eq_true, if_false]
        have hfs := hopened.fs
        split
        · exact .closed ⟨rfl, hfs.2.1.trans hscan.disk,
            fun hio => hfs.2.2.2 (hscan.noIoError hio).afterIo⟩
        · next hlimit =>
            refine .opened hscan (Nat.pos_of_ne_zero hcount) (hscan.disk ▸ hfile) hdecoded hmagic
              hopened ?_
            rw [hfs.1] at hlimit
            dsimp only at hlimit
            rw [hscan.fs] at hlimit ⊢
            dsimp only at hlimit ⊢
            omega
      · rw [hfailed]
        exact .closed (hscanClosed.trans (hclosed.trans (unmountLocked_closed _)))
  · rw [hfailed]
    exact .closed hclosed

end VolumeState
end NwbLot.Volume
