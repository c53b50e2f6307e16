import NwbLot.Volume.Mounting

/-!
# Runs of a volume

Whatever segment files a run starts from and whatever operations on them fail, a mounted volume is
sound, and so is what an operation flushes; a flush that is accepted loads again as what was
flushed.
-/

namespace NwbLot.Volume

open Runs VolumeState

variable {before after volume : VolumeState}

/-! ## Operations on a volume that is not mounted -/

lemma recordFileLocked_of_unmounted (h : before.fs.mounted = false) (virtualPath : NameHash)
    (bytes : List UInt8) : recordFileLocked virtualPath bytes before = (false, before) := by
  rw [recordFileLocked, h]
  rfl

lemma eraseFileLocked_of_unmounted (h : before.fs.mounted = false) (virtualPath : NameHash) :
    eraseFileLocked virtualPath before = none := by
  rw [eraseFileLocked, h]
  rfl

lemma packFilesLocked_of_unmounted (h : before.fs.mounted = false) :
    packFilesLocked before = (false, before) := by
  rw [packFilesLocked, h]
  rfl

/-- Only `mount` does anything then. -/
lemma run_of_unmounted (h : before.fs.mounted = false) (operation : VolumeOperation)
    (hmount : ∀ desc, operation ≠ .mount desc) :
    (operation.run before).2.fs.mounted = false := by
  cases operation with
  | mount desc => exact absurd rfl (hmount desc)
  | unmount => rfl
  | writeFile virtualPath data =>
    rw [VolumeOperation.run, VolumeState.writeFile, writeFileLocked,
      recordFileLocked_of_unmounted h]
    exact h
  | writeFileDeferred virtualPath data =>
    rw [VolumeOperation.run, VolumeState.writeFileDeferred, writeFileLocked,
      recordFileLocked_of_unmounted h]
    exact h
  | flushMetadata =>
    rw [VolumeOperation.run, VolumeState.flushMetadata, h]
    exact h
  | readFile virtualPath =>
    rw [VolumeOperation.run, VolumeState.readFile, readFileRecordLocked, h]
    exact h
  | removeFile virtualPath =>
    rw [VolumeOperation.run, VolumeState.removeFile, eraseFileLocked_of_unmounted h]
    exact h
  | compact shrinkSegments =>
    rw [VolumeOperation.run, VolumeState.compact, packFilesLocked_of_unmounted h]
    exact h

/-! ## Soundness -/

/-- A volume that is mounted is sound. -/
def MountedSound (volume : VolumeState) : Prop :=
  volume.fs.mounted = true → VolumeSound volume

lemma FileData.length_le (data : FileData) : data.bytes.length ≤ u64Max :=
  data.bounded.trans (by decide)

lemma mount_sound (desc : VolumeMountDesc) (before : VolumeState) :
    MountedSound (before.mount desc).2 := by
  have hmounting := mount_mounting desc before
  generalize before.mount desc = result at hmounting
  intro hmounted
  cases hmounting with
  | closed hclosed => exact absurd (hmounted.symm.trans hclosed.mounted) nofun
  | notCreated => exact absurd hmounted nofun
  | notFlushed => exact absurd hmounted nofun
  | created scan count create request flush =>
    have hgrown := (flushMetadataLocked_touched create.sound.metadata).toGrown
    exact (create.sound.grown hgrown).withMounted
  | opened scan count first decoded magic opened limit =>
    exact (opened.sound (toNat_le_u64Max _)).withMounted

lemma flushMetadata_sound (h : VolumeSound before) : VolumeSound (before.flushMetadata).2 := by
  rw [VolumeState.flushMetadata]
  split
  · exact h
  · exact h.grown (flushMetadataLocked_touched h.metadata).toGrown

lemma readFile_onlyIo (virtualPath : NameHash) (before : VolumeState) :
    OnlyIo before (before.readFile virtualPath).2 := by
  rw [VolumeState.readFile]
  split
  · exact .refl before
  · exact (readBytesLocked_ends before _ (toNat_le_u64Max _)).1

/-- An operation keeps a mounted volume sound. -/
lemma run_sound (operation : VolumeOperation) (h : MountedSound before) :
    MountedSound (operation.run before).2 := by
  cases hmounted : before.fs.mounted with
  | false =>
    cases operation with
    | mount desc => exact mount_sound desc before
    | _ => exact fun h => absurd (h.symm.trans (run_of_unmounted hmounted _ nofun)) nofun
  | true =>
    have hsound := h hmounted
    cases operation with
    | mount desc => exact mount_sound desc before
    | unmount => exact fun h => absurd h nofun
    | writeFile virtualPath data => exact fun _ => writeFileLocked_sound hsound data.length_le true
    | writeFileDeferred virtualPath data =>
      exact fun _ => writeFileLocked_sound hsound data.length_le false
    | flushMetadata => exact fun _ => flushMetadata_sound hsound
    | readFile virtualPath =>
      exact fun _ => hsound.grown (readFile_onlyIo virtualPath before).sameBytes.toGrown
    | removeFile virtualPath => exact fun _ => removeFile_sound hsound
    | compact shrinkSegments => exact fun _ => compact_sound shrinkSegments hsound

lemma step_sound {event : VolumeEvent} (hstep : step before event = some after)
    (h : MountedSound before) : MountedSound after := by
  cases event with
  | operation operation =>
    obtain rfl := Option.some.inj hstep
    exact run_sound operation h
  | rehash files =>
    rw [step] at hstep
    split at hstep
    · next hperm =>
        obtain rfl := Option.some.inj hstep
        exact fun hmounted => (h hmounted).perm hperm
    · cases hstep

/-- In every run a mounted volume is sound, whatever files the run starts from. -/
lemma mountedSound_of_run {start : VolumeState} {events : List VolumeEvent}
    (hstart : start.fs.mounted = false) (hrun : FreeRun step start events volume) :
    MountedSound volume :=
  hrun.invariant (fun h => absurd (h.symm.trans hstart) nofun) fun _ _ _ _ => step_sound

/-- What an operation flushes is sound. -/
lemma flushRequest_sound {operation : VolumeOperation} {request : VolumeState}
    (h : MountedSound before) (hrequest : operation.flushRequest before = some request) :
    VolumeSound request := by
  cases operation with
  | mount desc =>
    rw [VolumeOperation.flushRequest] at hrequest
    split at hrequest
    · next hasked =>
        obtain rfl := Option.some.inj hrequest
        rcases scanMountDirectory_ends desc before with ⟨-, hscan⟩ | ⟨hfailed, -⟩
        · rcases createFirstSegment_ends desc hasked.2.1 (by rw [hscan.fs]) with
            ⟨-, hcreate⟩ | ⟨hfailed, -⟩
          · exact hcreate.sound
          · exact absurd (hfailed.symm.trans hasked.2.2) Bool.false_ne_true
        · exact absurd (hfailed.symm.trans hasked.1) Bool.false_ne_true
    · cases hrequest
  | writeFile virtualPath data =>
    rw [VolumeOperation.flushRequest] at hrequest
    split at hrequest
    · next hok =>
        obtain rfl := Option.some.inj hrequest
        cases hmounted : before.fs.mounted with
        | false =>
          rw [recordFileLocked_of_unmounted hmounted] at hok
          cases hok
        | true =>
          have hsound := h hmounted
          rcases recordFileLocked_ends virtualPath hsound.metadataBytes_le data.length_le with
            ⟨-, hrecorded⟩ | ⟨hfailed, -⟩
          · exact hrecorded.sound hsound
          · exact absurd (hfailed.symm.trans hok) Bool.false_ne_true
    · cases hrequest
  | flushMetadata =>
    rw [VolumeOperation.flushRequest] at hrequest
    split at hrequest
    · next hmodes =>
        obtain rfl := Option.some.inj hrequest
        rw [Bool.and_eq_true] at hmodes
        exact h hmodes.1
    · cases hrequest
  | removeFile virtualPath =>
    have herased := eraseFileLocked_eq_some hrequest
    exact herased.sound (h herased.mounted)
  | compact shrinkSegments =>
    rw [VolumeOperation.flushRequest] at hrequest
    split at hrequest
    · next hok =>
        obtain rfl := Option.some.inj hrequest
        cases hmounted : before.fs.mounted with
        | false =>
          rw [packFilesLocked_of_unmounted hmounted] at hok
          cases hok
        | true =>
          have hsound := h hmounted
          rcases packFilesLocked_ends hsound with ⟨-, hpacked⟩ | ⟨hfailed, -⟩
          · exact hpacked.sound hsound
          · exact absurd (hfailed.symm.trans hok) Bool.false_ne_true
    · cases hrequest
  | unmount => cases hrequest
  | writeFileDeferred virtualPath data => cases hrequest
  | readFile virtualPath => cases hrequest

/-! ## The metadata codec -/

/-- A memory over the files and segments of a volume, whose metadata has not been loaded. -/
def readerOf (written : VolumeState) (metadataBytes nextFreeOffset : ℕ) (files : FileMap)
    (outcomes : List IoOutcome) : VolumeState :=
  { written with fs := { written.fs with metadataBytes, nextFreeOffset, files }, outcomes }

/-- What a flush has written loads again. -/
lemma load_of_flush {request : VolumeState} (hsound : VolumeSound request)
    (hflush : (flushMetadataLocked request).1 = true) (metadataBytes nextFreeOffset : ℕ)
    (files : FileMap) (outcomes : List IoOutcome) :
    let reader :=
      readerOf (flushMetadataLocked request).2 metadataBytes nextFreeOffset files outcomes
    (reader.NoIoError → (loadMetadataLocked reader).1 = true) ∧
      ((loadMetadataLocked reader).1 = true →
        OnlyIo (reader.withImage request.fs) (loadMetadataLocked reader).2) := by
  intro reader
  have himaged : Imaged request.fs reader.disk := imaged_of_flush hsound.metadata hflush
  have hflushed := hsound.grown (flushMetadataLocked_touched hsound.metadata).toGrown
  have hfs : (flushMetadataLocked request).2.fs = request.fs := by
    rcases flushMetadataLocked_ends request hsound.metadata.segment.le with
      ⟨-, -, -, hsame, -⟩ | ⟨hfailed, -⟩
    · exact hsame
    · exact absurd (hflush.symm.trans hfailed) nofun
  have hsize : reader.fs.segmentSize = request.fs.segmentSize := by rw [← hfs]; rfl
  have hcount : reader.fs.segmentCount = request.fs.segmentCount := by rw [← hfs]; rfl
  have hlast := hflushed.last
  rw [hfs] at hlast
  refine ⟨fun hio => ?_, fun hload =>
    himaged.eq_of_load hsize hload⟩
  refine himaged.load hio hflushed.laid hsize ?_ hlast
  rw [hcount, hsize]
  exact himaged.flushable.capacity

/-- The metadata codec.  Whatever operation of whatever run flushes, if the flush is accepted then
loading, over the same segments, restores the map, the cursor and the metadata size that were
flushed, and fails at most by an I/O error.  And whatever image is accepted, its records end without
overflow inside the payload area, which is inside the capacity, and every name is recorded once. -/
theorem metadataCodec_contract :
    (∀ (start : VolumeState) (events : List VolumeEvent) (volume : VolumeState),
      start.fs = {} → FreeRun step start events volume →
      ∀ operation request, VolumeOperation.flushRequest operation volume = some request →
      (flushMetadataLocked request).1 = true →
      ∀ metadataBytes nextFreeOffset files outcomes,
        let reader :=
          readerOf (flushMetadataLocked request).2 metadataBytes nextFreeOffset files outcomes
        (reader.NoIoError → (loadMetadataLocked reader).1 = true) ∧
        ((loadMetadataLocked reader).1 = true →
          (loadMetadataLocked reader).2.fs.files.Perm request.fs.files ∧
          (loadMetadataLocked reader).2.fs.nextFreeOffset = request.fs.nextFreeOffset ∧
          (loadMetadataLocked reader).2.fs.metadataBytes = request.fs.metadataBytes)) ∧
    ∀ volume : VolumeState, (loadMetadataLocked volume).1 = true →
      let loaded := (loadMetadataLocked volume).2.fs
      (∀ entry ∈ loaded.files, entry.2.offset.toNat + entry.2.size.toNat < 2 ^ 64 ∧
        loaded.metadataBytes ≤ entry.2.offset.toNat ∧
        entry.2.offset.toNat + entry.2.size.toNat ≤ loaded.nextFreeOffset) ∧
      loaded.metadataBytes ≤ loaded.nextFreeOffset ∧
      loaded.nextFreeOffset ≤ loaded.segmentCount * loaded.segmentSize ∧
      (∃ capacity, PhysicalEnd volume capacity ∧ loaded.nextFreeOffset ≤ capacity) ∧
      (List.map Prod.fst loaded.files).Nodup := by
  refine ⟨?_, ?_⟩
  · intro start events volume hstart hrun operation request hrequest hflush metadataBytes
      nextFreeOffset files outcomes reader
    have hsound := flushRequest_sound (mountedSound_of_run (by rw [hstart]) hrun) hrequest
    obtain ⟨hload, hrestored⟩ :=
      load_of_flush hsound hflush metadataBytes nextFreeOffset files outcomes
    refine ⟨hload, fun hok => ?_⟩
    rw [(hrestored hok).fs]
    exact ⟨List.perm_sortByKey request.fs.files, rfl, rfl⟩
  · intro volume hload loaded
    obtain ⟨hsound, hinside, hphysical⟩ := loadMetadataLocked_sound hload
    have hfs := (loadMetadataLocked_fs (Prod.ext hload rfl :
      loadMetadataLocked volume = (true, _))).1
    have hcapacity : loaded.segmentCount * loaded.segmentSize
        = volume.fs.segmentCount * volume.fs.segmentSize := by
      change (loadMetadataLocked volume).2.fs.segmentCount
        * (loadMetadataLocked volume).2.fs.segmentSize = _
      rw [hfs]
    refine ⟨fun entry hentry => ?_, hsound.payload, hcapacity ▸ hinside, hphysical,
      hsound.unique⟩
    obtain ⟨hbegin, hmax, hend⟩ := hsound.records entry hentry
    refine ⟨?_, hbegin, hend⟩
    rw [u64Max] at hmax
    omega

/-- A name that is set. -/
def exampleName : NameHash := fun _ => 1

/-- A description with segments that are large enough for one file. -/
def exampleDesc : VolumeMountDesc where
  segmentSize := 150
  metadataSize := 128
  createIfMissing := true
  usage := .runtimeReadWrite

theorem metadataCodec_contract_newVolume :
    ∃ request, (VolumeOperation.writeFile exampleName ⟨[7, 8, 9], by decide⟩).flushRequest
        ((VolumeOperation.mount exampleDesc).run { mountDirectory := .directory }).2
          = some request ∧
      (loadMetadataLocked (readerOf (flushMetadataLocked request).2 0 0 [] [])).2.fs.files.Perm
        [(exampleName, ⟨128, 3⟩)] := by
  let start : VolumeState := { mountDirectory := .directory }
  let mounted := ((VolumeOperation.mount exampleDesc).run start).2
  let written := recordFileLocked exampleName [7, 8, 9] mounted
  have hrun : FreeRun step start [.operation (.mount exampleDesc)] mounted :=
    .snoc .refl trivial rfl
  have hrequest : (VolumeOperation.writeFile exampleName ⟨[7, 8, 9], by decide⟩).flushRequest
      mounted = some written.2 := if_pos (by decide +kernel)
  have hflush : (flushMetadataLocked written.2).1 = true := by decide +kernel
  have hfiles : written.2.fs.files = [(exampleName, ⟨128, 3⟩)] := by decide +kernel
  obtain ⟨hload, hrestored⟩ := metadataCodec_contract.1 start _ mounted rfl hrun _ written.2
    hrequest hflush 0 0 [] []
  refine ⟨written.2, hrequest, ?_⟩
  rw [← hfiles]
  exact (hrestored (hload fun _ h => absurd h List.not_mem_nil)).1

end NwbLot.Volume
