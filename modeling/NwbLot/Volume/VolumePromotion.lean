import NwbLot.Volume.VolumeStaging

/-!
# Promotion is all or nothing

Whatever renames of a promotion fail, as long as those of the rollback succeed, the output directory
ends with the staged segments or as it was.
-/

namespace NwbLot.Volume

open DirectoryTree

variable {δ κ : Type*} [DecidableEq δ]

/-! ## Segments and faults -/

/-- The segments of a volume in a directory: the files of the first names, each segment its own, and
no file of a later name. -/
structure SegmentsIn (fs : Tree δ FileName κ) (directory : δ) (volumeName : List UInt8)
    (segmentCount : ℕ) : Prop where
  nodup : (segmentFileNames volumeName segmentCount).Nodup
  found : ∀ fileName ∈ segmentFileNames volumeName segmentCount,
    (read fs ⟨directory, fileName⟩).isSome = true
  only : ∀ segmentIndex,
    (read fs ⟨directory, makeVolumeSegmentFileName volumeName segmentIndex⟩).isSome = true →
    makeVolumeSegmentFileName volumeName segmentIndex ∈ segmentFileNames volumeName segmentCount

/-- The staging directories and the output directory are three. -/
structure StagedDirectoryPaths.Apart (stagedPaths : StagedDirectoryPaths δ) (outputDirectory : δ) :
    Prop where
  stage_ne_backup : stagedPaths.stageDirectory ≠ stagedPaths.backupDirectory
  stage_ne_output : stagedPaths.stageDirectory ≠ outputDirectory
  backup_ne_output : stagedPaths.backupDirectory ≠ outputDirectory

/-- Nothing but renames fails, and no rename out of the backup does. -/
structure IoFaults.OnlyForwardRenames (faults : IoFaults δ) (backupDirectory : δ) : Prop where
  queryDirectory : ∀ directory, faults.queryDirectory directory = false
  queryFile : ∀ place, faults.queryFile place = false
  makeDirectories : ∀ directory, faults.makeDirectories directory = false
  removeFile : ∀ place, faults.removeFile place = false
  removeAll : ∀ directory, faults.removeAll directory = false
  rollback : ∀ source destination, source.directory = backupDirectory →
    faults.rename source destination = false

lemma mem_segmentFileNames {volumeName : List UInt8} {fileName : FileName} {segmentCount : ℕ} :
    fileName ∈ segmentFileNames volumeName segmentCount ↔
      ∃ i < segmentCount, makeVolumeSegmentFileName volumeName i = fileName := by
  simp [segmentFileNames]

lemma segmentFileNames_succ (volumeName : List UInt8) (segmentCount : ℕ) :
    segmentFileNames volumeName (segmentCount + 1)
      = segmentFileNames volumeName segmentCount
        ++ [makeVolumeSegmentFileName volumeName segmentCount] := by
  simp [segmentFileNames, List.range_succ]

/-! ## Restoring -/

section Restore

variable {faults : IoFaults δ} {fromDirectory toDirectory : δ} {before fs fs' : Tree δ FileName κ}

/-- The loop moves all the files when none of its renames fails. -/
lemma restoreFiles_moved (hfaults : ∀ fileName,
      faults.rename ⟨fromDirectory, fileName⟩ ⟨toDirectory, fileName⟩ = false)
    (hapart : fromDirectory ≠ toDirectory) {restored fileNames : List FileName}
    (hnodup : (restored ++ fileNames).Nodup)
    (hfound : ∀ fileName ∈ fileNames, (read before ⟨fromDirectory, fileName⟩).isSome = true)
    (hdirectory : isDirectory fs toDirectory = true)
    (hmoved : Moved restored fromDirectory toDirectory before fs) :
    ∃ fs', restoreFiles faults fromDirectory toDirectory fileNames fs = (fs', true) ∧
      Moved (restored ++ fileNames) fromDirectory toDirectory before fs' := by
  induction fileNames generalizing restored fs with
  | nil => exact ⟨fs, rfl, by simpa using hmoved⟩
  | cons fileName rest ih =>
    have hfresh : fileName ∉ restored := by
      intro hmem
      exact (List.nodup_append.1 hnodup).2.2 fileName hmem fileName List.mem_cons_self rfl
    obtain ⟨next, hnext⟩ :=
      hmoved.rename_isSome hfresh (hfound fileName List.mem_cons_self) hdirectory
    obtain ⟨hstep, -⟩ := hmoved.snoc hapart hnext
    have happend : restored ++ fileName :: rest = (restored ++ [fileName]) ++ rest := by simp
    rw [happend] at hnodup ⊢
    obtain ⟨fs', hrest, hall⟩ := ih hnodup
      (fun name hname => hfound name (List.mem_cons_of_mem _ hname))
      ((rename_eq_some hnext).2.2.1 toDirectory ▸ hdirectory) hstep
    refine ⟨fs', ?_, hall⟩
    rw [restoreFiles, renamePath, hfaults, if_neg Bool.false_ne_true, hnext]
    exact hrest

/-- Files that are kept in another directory are restored. -/
lemma restoreVolumeSegments_back (hmake : ∀ directory, faults.makeDirectories directory = false)
    (hfaults : ∀ fileName,
      faults.rename ⟨toDirectory, fileName⟩ ⟨fromDirectory, fileName⟩ = false)
    (hapart : fromDirectory ≠ toDirectory) {fileNames : List FileName} (hnodup : fileNames.Nodup)
    (hfound : ∀ fileName ∈ fileNames, (read before ⟨fromDirectory, fileName⟩).isSome = true)
    (hgone : ∀ fileName, read fs ⟨fromDirectory, fileName⟩
      = if fileName ∈ fileNames then none else read before ⟨fromDirectory, fileName⟩)
    (hkept : ∀ fileName ∈ fileNames,
      read fs ⟨toDirectory, fileName⟩ = read before ⟨fromDirectory, fileName⟩)
    (hdirectories : ∀ directory, isDirectory before directory = true →
      isDirectory fs directory = true) :
    ∃ fs', restoreVolumeSegments faults toDirectory fromDirectory fileNames fs = (fs', true) ∧
      ∀ fileName, read fs' ⟨fromDirectory, fileName⟩ = read before ⟨fromDirectory, fileName⟩ := by
  unfold restoreVolumeSegments
  split
  · next hempty =>
    rw [List.isEmpty_iff] at hempty
    subst hempty
    exact ⟨fs, rfl, fun fileName => by simpa using hgone fileName⟩
  · next hnonempty =>
    -- The directory the files came from is still there.
    obtain ⟨first, hfirst⟩ := List.exists_mem_of_ne_nil fileNames (by simpa using hnonempty)
    obtain ⟨contents, hcontents⟩ := Option.isSome_iff_exists.1 (hfound first hfirst)
    have hdirectory := hdirectories _ (isDirectory_of_read hcontents)
    have hnode : fs fromDirectory ≠ some .file := by
      intro hfile
      simp [isDirectory, hfile] at hdirectory
    obtain ⟨made, hmade⟩ := make_isSome hnode
    obtain ⟨hmadeDirectory, hread, -, -⟩ := make_eq_some hmade
    obtain ⟨fs', hrestored, hback⟩ := @restoreFiles_moved _ _ _ faults toDirectory fromDirectory
      made made hfaults hapart.symm [] fileNames (by simpa using hnodup) (by
        intro fileName hmem
        rw [hread, hkept fileName hmem]
        exact hfound fileName hmem) hmadeDirectory (Moved.nil _ _ _)
    refine ⟨fs', ?_, fun fileName => ?_⟩
    · rw [ensureDirectories, hmake, if_neg Bool.false_ne_true, hmade]
      exact hrestored
    · rw [hback.at_destination, List.nil_append, hread, hread, hgone]
      split
      · next hmem => exact hkept fileName hmem
      · rfl

end Restore

/-! ## Backing up -/

section Backup

variable {faults : IoFaults δ} {outputDirectory backupDirectory : δ} {volumeName : List UInt8}
  {before fs : Tree δ FileName κ} {previousCount : ℕ}

lemma read_cleanup (directory : δ) {place : Place δ FileName}
    (hapart : place.directory ≠ directory) :
    read (cleanupStagedDirectoryBestEffort faults fs directory) place = read fs place := by
  unfold cleanupStagedDirectoryBestEffort
  split
  · rfl
  · rw [read_drop, if_neg hapart]

/-- A rolled back backup leaves the output directory as it was. -/
lemma rolledBack_output (hfaults : faults.OnlyForwardRenames backupDirectory)
    (hapart : outputDirectory ≠ backupDirectory) {movedFileNames : List FileName}
    (hnodup : movedFileNames.Nodup)
    (hfound : ∀ fileName ∈ movedFileNames, (read before ⟨outputDirectory, fileName⟩).isSome = true)
    (hmoved : Moved movedFileNames outputDirectory backupDirectory before fs) :
    (rolledBack faults outputDirectory backupDirectory movedFileNames fs).succeeded = false ∧
      ∀ fileName, read (rolledBack faults outputDirectory backupDirectory movedFileNames fs).fs
        ⟨outputDirectory, fileName⟩ = read before ⟨outputDirectory, fileName⟩ := by
  refine ⟨rfl, fun fileName => ?_⟩
  unfold rolledBack rollbackMovedFiles
  simp only
  split
  · next hempty =>
    rw [List.isEmpty_iff] at hempty
    subst hempty
    simpa using hmoved.at_source fileName
  · obtain ⟨restored, hrestored, hread⟩ := restoreVolumeSegments_back hfaults.makeDirectories
      (fun name => hfaults.rollback ⟨backupDirectory, name⟩ ⟨outputDirectory, name⟩ rfl) hapart
      hnodup hfound hmoved.at_source
      (fun name hname => by rw [hmoved.at_destination, if_pos hname]) hmoved.directories
    rw [hrestored]
    simp only
    rw [read_cleanup _ hapart, hread]

/-- What is known when the loop comes to a segment. -/
structure BackedUp (outputDirectory backupDirectory : δ) (volumeName : List UInt8)
    (segmentIndex : ℕ) (destinationCreated : Bool) (before fs : Tree δ FileName κ) : Prop where
  moved : Moved (segmentFileNames volumeName segmentIndex) outputDirectory backupDirectory before fs
  created : destinationCreated = true → isDirectory fs backupDirectory = true
  creatable : destinationCreated = false → fs backupDirectory ≠ some .file

/-- The backup directory is there before the first rename. -/
lemma BackedUp.destination (hfaults : faults.OnlyForwardRenames backupDirectory) {segmentIndex : ℕ}
    {destinationCreated : Bool}
    (h : BackedUp outputDirectory backupDirectory volumeName segmentIndex destinationCreated before
      fs) :
    ∃ fs', (if destinationCreated then some fs else ensureDirectories faults fs backupDirectory)
        = some fs' ∧
      Moved (segmentFileNames volumeName segmentIndex) outputDirectory backupDirectory before fs' ∧
      isDirectory fs' backupDirectory = true := by
  cases destinationCreated with
  | true => exact ⟨fs, rfl, h.moved, h.created rfl⟩
  | false =>
    obtain ⟨made, hmade⟩ := make_isSome (h.creatable rfl)
    obtain ⟨hmoved, hdirectory⟩ := h.moved.make hmade
    refine ⟨made, ?_, hmoved, hdirectory⟩
    rw [if_neg Bool.false_ne_true, ensureDirectories, hfaults.makeDirectories,
      if_neg Bool.false_ne_true, hmade]

lemma mem_names_of_le {segmentIndex : ℕ} (h : segmentIndex ≤ previousCount)
    {fileName : FileName} (hmem : fileName ∈ segmentFileNames volumeName segmentIndex) :
    fileName ∈ segmentFileNames volumeName previousCount := by
  obtain ⟨i, hi, rfl⟩ := mem_segmentFileNames.1 hmem
  exact mem_segmentFileNames.2 ⟨i, by omega, rfl⟩

lemma nodup_firstNames {segmentIndex : ℕ} (h : segmentIndex ≤ previousCount)
    (hnodup : (segmentFileNames volumeName previousCount).Nodup) :
    (segmentFileNames volumeName segmentIndex).Nodup := by
  exact List.Nodup.sublist (List.Sublist.map _ (List.range_sublist.2 h)) hnodup

/-- A segment that has not been moved is not among the moved ones. -/
lemma not_mem_firstNames {segmentIndex : ℕ} (h : segmentIndex < previousCount)
    (hnodup : (segmentFileNames volumeName previousCount).Nodup) :
    makeVolumeSegmentFileName volumeName segmentIndex
      ∉ segmentFileNames volumeName segmentIndex := by
  have hnext := nodup_firstNames h hnodup
  rw [segmentFileNames_succ] at hnext
  intro hmem
  exact (List.nodup_append.1 hnext).2.2 _ hmem _ (List.mem_singleton_self _) rfl

/-- The backup moves every segment away when none of its renames fails, and leaves the output
directory as it was when one of them does. -/
lemma backUpSegments_spec (hfaults : faults.OnlyForwardRenames backupDirectory)
    (hapart : outputDirectory ≠ backupDirectory)
    (hprevious : SegmentsIn before outputDirectory volumeName previousCount)
    (hcount : previousCount ≤ u64Max) {remaining segmentIndex : ℕ} {destinationCreated : Bool}
    (hremaining : previousCount < segmentIndex + remaining) (hindex : segmentIndex ≤ previousCount)
    (h : BackedUp outputDirectory backupDirectory volumeName segmentIndex destinationCreated before
      fs) {result : BackupResult δ κ}
    (hresult : backUpSegments faults outputDirectory backupDirectory volumeName remaining
      segmentIndex destinationCreated (segmentFileNames volumeName segmentIndex) fs = result) :
    (result.succeeded = true →
      result.movedFileNames = segmentFileNames volumeName previousCount ∧
        Moved (segmentFileNames volumeName previousCount) outputDirectory backupDirectory before
          result.fs) ∧
    (result.succeeded = false → ∀ fileName,
      read result.fs ⟨outputDirectory, fileName⟩ = read before ⟨outputDirectory, fileName⟩) ∧
    (result.succeeded = true ↔ ∀ i, segmentIndex ≤ i → i < previousCount →
      faults.rename ⟨outputDirectory, makeVolumeSegmentFileName volumeName i⟩
        ⟨backupDirectory, makeVolumeSegmentFileName volumeName i⟩ = false) := by
  induction remaining generalizing segmentIndex destinationCreated fs with
  | zero => omega
  | succ remaining ih =>
    unfold backUpSegments at hresult
    simp only [fileExists, hfaults.queryFile, Bool.false_eq_true, if_false] at hresult
    rcases Nat.lt_or_eq_of_le hindex with hlt | heq
    · have hfresh := not_mem_firstNames hlt hprevious.nodup
      have hfound := hprevious.found _ (mem_segmentFileNames.2 ⟨segmentIndex, hlt, rfl⟩)
      have hexists : (read fs ⟨outputDirectory,
          makeVolumeSegmentFileName volumeName segmentIndex⟩).isSome = true := by
        rw [h.moved.at_source, if_neg hfresh]
        exact hfound
      obtain ⟨fs', hdestination, hmoved, hdirectory⟩ := h.destination hfaults
      simp only [hexists, hdestination] at hresult
      cases hfault : faults.rename
          ⟨outputDirectory, makeVolumeSegmentFileName volumeName segmentIndex⟩
          ⟨backupDirectory, makeVolumeSegmentFileName volumeName segmentIndex⟩ with
      | true =>
        simp only [renamePath, hfault, if_true] at hresult
        obtain ⟨hfailed, hread⟩ := rolledBack_output hfaults hapart
          (nodup_firstNames hindex hprevious.nodup)
          (fun name hname => hprevious.found name (mem_names_of_le hindex hname)) hmoved
        rw [hresult] at hfailed hread
        refine ⟨fun htrue => ?_, fun _ => hread, fun htrue => ?_, fun hall => ?_⟩
        · rw [hfailed] at htrue
          cases htrue
        · rw [hfailed] at htrue
          cases htrue
        · rw [hall segmentIndex (Nat.le_refl _) hlt] at hfault
          cases hfault
      | false =>
        obtain ⟨next, hnext⟩ := hmoved.rename_isSome hfresh hfound hdirectory
        obtain ⟨hstep, -⟩ := hmoved.snoc hapart hnext
        rw [← segmentFileNames_succ] at hstep
        have hlast : segmentIndex ≠ u64Max := by omega
        simp only [renamePath, hfault, Bool.false_eq_true, if_false, hnext, hlast,
          ← segmentFileNames_succ] at hresult
        obtain ⟨hsucceeded, hfailed, hiff⟩ := ih (by omega) hlt
          ⟨hstep, fun _ => (rename_eq_some hnext).2.2.1 _ ▸ hdirectory, fun hnot => by cases hnot⟩
          hresult
        refine ⟨hsucceeded, hfailed, hiff.trans ⟨fun hall i hle hi => ?_, fun hall i hle hi =>
          hall i (by omega) hi⟩⟩
        rcases Nat.lt_or_eq_of_le hle with hgt | rfl
        · exact hall i hgt hi
        · exact hfault
    · -- No segment of this index: a file of its name would be one of those moved before.
      subst heq
      have hnone : (read fs ⟨outputDirectory,
          makeVolumeSegmentFileName volumeName segmentIndex⟩).isSome = false := by
        rw [h.moved.at_source]
        split
        · rfl
        · next hfresh =>
          rw [Bool.eq_false_iff]
          intro hsome
          exact hfresh (hprevious.only segmentIndex hsome)
      simp only [hnone] at hresult
      subst hresult
      refine ⟨fun _ => ⟨rfl, h.moved⟩, ?_, ?_⟩
      · intro hfalse
        cases hfalse
      · refine ⟨fun _ i hle hi => ?_, fun _ => rfl⟩
        omega

end Backup

/-! ## Promoting -/

section Promotion

variable {faults : IoFaults δ} {stageDirectory outputDirectory : δ} {volumeName : List UInt8}
  {before fs : Tree δ FileName κ} {segmentCount : ℕ}

/-- The loop promotes every staged segment when none of its renames fails, and those before the
first failure otherwise. -/
lemma promoteSegments_spec (hapart : stageDirectory ≠ outputDirectory)
    (hnodup : (segmentFileNames volumeName segmentCount).Nodup)
    (hfound : ∀ fileName ∈ segmentFileNames volumeName segmentCount,
      (read before ⟨stageDirectory, fileName⟩).isSome = true)
    {remaining segmentIndex : ℕ} (hcount : segmentIndex + remaining = segmentCount)
    (hmoved : Moved (segmentFileNames volumeName segmentIndex) stageDirectory outputDirectory before
      fs)
    (hdirectory : isDirectory fs outputDirectory = true) {result : PromotionResult δ κ}
    (hresult : promoteSegments faults stageDirectory outputDirectory volumeName remaining
      segmentIndex fs = result) :
    Moved (segmentFileNames volumeName result.movedCount) stageDirectory outputDirectory before
      result.fs ∧
    (result.succeeded = true → result.movedCount = segmentCount) ∧
    (result.succeeded = true ↔ ∀ i, segmentIndex ≤ i → i < segmentCount →
      faults.rename ⟨stageDirectory, makeVolumeSegmentFileName volumeName i⟩
        ⟨outputDirectory, makeVolumeSegmentFileName volumeName i⟩ = false) := by
  induction remaining generalizing segmentIndex fs with
  | zero =>
    subst hresult
    refine ⟨hmoved, fun _ => hcount, fun _ i hle hi => ?_, fun _ => rfl⟩
    omega
  | succ remaining ih =>
    have hlt : segmentIndex < segmentCount := by omega
    unfold promoteSegments at hresult
    simp only [renamePath] at hresult
    cases hfault : faults.rename
        ⟨stageDirectory, makeVolumeSegmentFileName volumeName segmentIndex⟩
        ⟨outputDirectory, makeVolumeSegmentFileName volumeName segmentIndex⟩ with
    | true =>
      simp only [hfault, if_true] at hresult
      subst hresult
      refine ⟨hmoved, ?_, ?_, fun hall => ?_⟩
      · intro hfalse
        cases hfalse
      · intro hfalse
        cases hfalse
      · rw [hall segmentIndex (Nat.le_refl _) hlt] at hfault
        cases hfault
    | false =>
      obtain ⟨next, hnext⟩ := hmoved.rename_isSome (not_mem_firstNames hlt hnodup)
        (hfound _ (mem_segmentFileNames.2 ⟨segmentIndex, hlt, rfl⟩)) hdirectory
      obtain ⟨hstep, -⟩ := hmoved.snoc hapart hnext
      rw [← segmentFileNames_succ] at hstep
      simp only [hfault, Bool.false_eq_true, if_false, hnext] at hresult
      obtain ⟨hmovedAll, hsucceeded, hiff⟩ := ih (by omega) hstep
        ((rename_eq_some hnext).2.2.1 _ ▸ hdirectory) hresult
      refine ⟨hmovedAll, hsucceeded, hiff.trans ⟨fun hall i hle hi => ?_, fun hall i hle hi =>
        hall i (by omega) hi⟩⟩
      rcases Nat.lt_or_eq_of_le hle with hgt | rfl
      · exact hall i hgt hi
      · exact hfault

/-- The promoted segments are gone, and nothing else. -/
lemma removeFiles_spec (hremove : ∀ place, faults.removeFile place = false)
    (fileNames : List FileName) (fs : Tree δ FileName κ) :
    (∀ place, read (fileNames.foldl
        (fun fs fileName => removeFile faults fs ⟨outputDirectory, fileName⟩) fs) place
      = if place.directory = outputDirectory ∧ place.name ∈ fileNames then none
        else read fs place) ∧
    ∀ directory, isDirectory (fileNames.foldl
        (fun fs fileName => removeFile faults fs ⟨outputDirectory, fileName⟩) fs) directory
      = isDirectory fs directory := by
  induction fileNames generalizing fs with
  | nil => simp
  | cons fileName rest ih =>
    have hstep : (∀ place, read (removeFile faults fs ⟨outputDirectory, fileName⟩) place
        = if place = ⟨outputDirectory, fileName⟩ then none else read fs place) ∧
        ∀ directory, isDirectory (removeFile faults fs ⟨outputDirectory, fileName⟩) directory
          = isDirectory fs directory := by
      unfold removeFile
      rw [hremove, Bool.false_or]
      cases hcontents : read fs ⟨outputDirectory, fileName⟩ with
      | none =>
        refine ⟨fun place => ?_, fun _ => rfl⟩
        by_cases hsame : place = ⟨outputDirectory, fileName⟩
        · simp [hsame, hcontents]
        · simp [hsame]
      | some contents =>
        refine ⟨fun place => ?_, fun directory => ?_⟩
        · simp [read_put _ _ _ (isDirectory_of_read hcontents)]
        · simp
    obtain ⟨hread, hdirectories⟩ := ih (removeFile faults fs ⟨outputDirectory, fileName⟩)
    rw [List.foldl_cons]
    refine ⟨fun place => ?_, fun directory => by rw [hdirectories, hstep.2]⟩
    rw [hread, hstep.1]
    obtain ⟨directory, name⟩ := place
    by_cases hdirectory : directory = outputDirectory
    · by_cases hname : name = fileName
      · simp [hdirectory, hname]
      · simp [hdirectory, hname]
    · simp [hdirectory]

end Promotion

/-! ## The whole promotion -/

section Whole

variable {faults : IoFaults δ} {stagedPaths : StagedDirectoryPaths δ} {outputDirectory : δ}
  {volumeName : List UInt8} {fs : Tree δ FileName κ} {previousCount segmentCount : ℕ}

/-- The backup of the output directory, whether or not the directory is there. -/
lemma moveExistingVolumeSegments_spec {backupDirectory : δ}
    (hfaults : faults.OnlyForwardRenames backupDirectory)
    (hapart : outputDirectory ≠ backupDirectory)
    (hprevious : SegmentsIn fs outputDirectory volumeName previousCount)
    (hcount : previousCount ≤ u64Max) (houtput : fs outputDirectory ≠ some .file)
    (hbackup : fs backupDirectory ≠ some .file) {result : BackupResult δ κ}
    (hresult : moveExistingVolumeSegments faults outputDirectory backupDirectory volumeName fs
      = result) :
    (result.succeeded = true →
      result.movedFileNames = segmentFileNames volumeName previousCount ∧
        Moved (segmentFileNames volumeName previousCount) outputDirectory backupDirectory fs
          result.fs) ∧
    (result.succeeded = false → ∀ fileName,
      read result.fs ⟨outputDirectory, fileName⟩ = read fs ⟨outputDirectory, fileName⟩) ∧
    (result.succeeded = true ↔ ∀ i < previousCount,
      faults.rename ⟨outputDirectory, makeVolumeSegmentFileName volumeName i⟩
        ⟨backupDirectory, makeVolumeSegmentFileName volumeName i⟩ = false) := by
  unfold moveExistingVolumeSegments at hresult
  rw [hfaults.queryDirectory, if_neg Bool.false_ne_true] at hresult
  split at hresult
  · next hmissing =>
    -- A directory that is not there holds no segment.
    have hzero : previousCount = 0 := by
      by_contra hne
      have hfound := hprevious.found _ (mem_segmentFileNames.2 ⟨0, by omega, rfl⟩)
      simp [DirectoryTree.read, hmissing] at hfound
    subst hresult hzero
    refine ⟨fun _ => ⟨rfl, Moved.nil _ _ _⟩, ?_, ?_⟩
    · intro hfalse
      cases hfalse
    · exact ⟨fun _ i hi => absurd hi (Nat.not_lt_zero i), fun _ => rfl⟩
  · next hfile => exact absurd hfile houtput
  · obtain ⟨hsucceeded, hfailed, hiff⟩ := backUpSegments_spec hfaults hapart hprevious hcount
      (by omega) (Nat.zero_le _)
      ⟨Moved.nil _ _ _, fun hcreated => absurd hcreated Bool.false_ne_true, fun _ => hbackup⟩
      hresult
    exact ⟨hsucceeded, hfailed, hiff.trans ⟨fun hall i hi => hall i (Nat.zero_le _) hi,
      fun hall i _ hi => hall i hi⟩⟩

/-- A failed promotion is undone. -/
lemma restored_output (hapart : stagedPaths.Apart outputDirectory)
    (hfaults : faults.OnlyForwardRenames stagedPaths.backupDirectory)
    (hprevious : SegmentsIn fs outputDirectory volumeName previousCount)
    {backedUp promoted : Tree δ FileName κ} {movedCount : ℕ}
    (hbackup : Moved (segmentFileNames volumeName previousCount) outputDirectory
      stagedPaths.backupDirectory fs backedUp)
    (hpromotion : Moved (segmentFileNames volumeName movedCount) stagedPaths.stageDirectory
      outputDirectory backedUp promoted) :
    ∃ restored, restoreVolumeSegments faults stagedPaths.backupDirectory outputDirectory
        (segmentFileNames volumeName previousCount)
        (removePromotedVolumeSegmentsBestEffort faults volumeName outputDirectory movedCount
          promoted) = (restored, true) ∧
      ∀ fileName, read restored ⟨outputDirectory, fileName⟩
        = read fs ⟨outputDirectory, fileName⟩ := by
  obtain ⟨hread, hdirectories⟩ := removeFiles_spec hfaults.removeFile
    (segmentFileNames volumeName movedCount) promoted
  apply restoreVolumeSegments_back hfaults.makeDirectories
    (fun name => hfaults.rollback ⟨stagedPaths.backupDirectory, name⟩ ⟨outputDirectory, name⟩ rfl)
    hapart.backup_ne_output.symm hprevious.nodup hprevious.found
  · intro fileName
    rw [removePromotedVolumeSegmentsBestEffort, hread, hpromotion.at_destination,
      hbackup.at_source]
    by_cases hmem : fileName ∈ segmentFileNames volumeName movedCount
    · -- Every segment of the volume had been moved away before.
      have hnone : fileName ∉ segmentFileNames volumeName previousCount →
          read fs ⟨outputDirectory, fileName⟩ = none := by
        intro hnot
        obtain ⟨i, -, rfl⟩ := mem_segmentFileNames.1 hmem
        cases hcontents : read fs ⟨outputDirectory, makeVolumeSegmentFileName volumeName i⟩ with
        | none => rfl
        | some contents => exact absurd (hprevious.only i (by rw [hcontents]; rfl)) hnot
      by_cases hold : fileName ∈ segmentFileNames volumeName previousCount
      · simp [hmem, hold]
      · simp [hmem, hold, hnone hold]
    · simp [hmem]
  · intro fileName hmem
    rw [removePromotedVolumeSegmentsBestEffort, hread,
      if_neg (fun h => hapart.backup_ne_output h.1),
      hpromotion.elsewhere _ hapart.stage_ne_backup.symm hapart.backup_ne_output,
      hbackup.at_destination, if_pos hmem]
  · intro directory hdirectory
    rw [removePromotedVolumeSegmentsBestEffort, hdirectories]
    exact hpromotion.directories _ (hbackup.directories _ hdirectory)

lemma read_cleanupStaging (hapart : stagedPaths.Apart outputDirectory) (fileName : FileName) :
    read (cleanupStaging faults stagedPaths fs) ⟨outputDirectory, fileName⟩
      = read fs ⟨outputDirectory, fileName⟩ := by
  rw [cleanupStaging, read_cleanup _ hapart.stage_ne_output.symm,
    read_cleanup _ hapart.backup_ne_output.symm]

/-- Where renames alone can fail, and none of the rollback does: the promotion succeeds exactly when
no rename fails; then the output directory holds the staged segments in the place of the previous
ones, and otherwise everything in it is as it was. -/
theorem promoteStagedVolume_allOrNothing (faults : IoFaults δ)
    (stagedPaths : StagedDirectoryPaths δ) (outputDirectory : δ) (volumeName : List UInt8)
    (fs : Tree δ FileName κ) (previousCount segmentCount : ℕ)
    (hapart : stagedPaths.Apart outputDirectory)
    (houtput : fs outputDirectory ≠ some .file)
    (hbackup : fs stagedPaths.backupDirectory ≠ some .file)
    (hprevious : SegmentsIn fs outputDirectory volumeName previousCount)
    (hcount : previousCount ≤ u64Max)
    (hstaged : SegmentsIn fs stagedPaths.stageDirectory volumeName segmentCount)
    (hsegments : 0 < segmentCount)
    (hfaults : faults.OnlyForwardRenames stagedPaths.backupDirectory)
    (result : Tree δ FileName κ × Bool)
    (hresult : promoteStagedVolume faults volumeName stagedPaths outputDirectory segmentCount fs
      = result) :
    (result.2 = true ↔
      (∀ i < previousCount,
        faults.rename ⟨outputDirectory, makeVolumeSegmentFileName volumeName i⟩
          ⟨stagedPaths.backupDirectory, makeVolumeSegmentFileName volumeName i⟩ = false) ∧
      ∀ i < segmentCount,
        faults.rename ⟨stagedPaths.stageDirectory, makeVolumeSegmentFileName volumeName i⟩
          ⟨outputDirectory, makeVolumeSegmentFileName volumeName i⟩ = false) ∧
    (result.2 = true → ∀ fileName, read result.1 ⟨outputDirectory, fileName⟩
      = if fileName ∈ segmentFileNames volumeName segmentCount then
          read fs ⟨stagedPaths.stageDirectory, fileName⟩
        else if fileName ∈ segmentFileNames volumeName previousCount then none
        else read fs ⟨outputDirectory, fileName⟩) ∧
    (result.2 = false → ∀ fileName, read result.1 ⟨outputDirectory, fileName⟩
      = read fs ⟨outputDirectory, fileName⟩) := by
  unfold promoteStagedVolume at hresult
  obtain ⟨hmoved, hrolledBack, hbackedUp⟩ := moveExistingVolumeSegments_spec hfaults
    hapart.backup_ne_output.symm hprevious hcount houtput hbackup rfl
  generalize moveExistingVolumeSegments faults outputDirectory stagedPaths.backupDirectory
    volumeName fs = backup at hresult hmoved hrolledBack hbackedUp
  cases hsucceeded : backup.succeeded with
  | false =>
    simp only [hsucceeded, Bool.not_false, if_true] at hresult
    subst hresult
    refine ⟨⟨?_, ?_⟩, ?_, fun _ => hrolledBack hsucceeded⟩
    · intro hfalse
      cases hfalse
    · rintro ⟨hall, -⟩
      rw [hbackedUp.2 hall] at hsucceeded
      cases hsucceeded
    · intro hfalse
      cases hfalse
  | true =>
    obtain ⟨hnames, hbackupMoved⟩ := hmoved hsucceeded
    simp only [hsucceeded, Bool.not_true, Bool.false_eq_true, if_false] at hresult
    -- The output directory is there, or can be made.
    obtain ⟨made, hmade⟩ := make_isSome (hbackupMoved.files _ houtput)
    obtain ⟨hmadeMoved, hmadeDirectory⟩ := hbackupMoved.make hmade
    have hstagedFound : ∀ fileName ∈ segmentFileNames volumeName segmentCount,
        (read made ⟨stagedPaths.stageDirectory, fileName⟩).isSome = true := by
      intro fileName hmem
      rw [hmadeMoved.elsewhere _ hapart.stage_ne_output hapart.stage_ne_backup]
      exact hstaged.found fileName hmem
    simp only [moveStagedVolumeSegments, hsegments.ne', if_false, ensureDirectories,
      hfaults.makeDirectories, Bool.false_eq_true, hmade] at hresult
    obtain ⟨hpromoted, hall, hiff⟩ := promoteSegments_spec hapart.stage_ne_output hstaged.nodup
      hstagedFound (Nat.zero_add segmentCount) (Moved.nil _ _ made) hmadeDirectory rfl
    generalize promoteSegments faults stagedPaths.stageDirectory outputDirectory volumeName
      segmentCount 0 made = promotion at hresult hpromoted hall hiff
    have hforward : promotion.succeeded = true ↔
        (∀ i < previousCount,
          faults.rename ⟨outputDirectory, makeVolumeSegmentFileName volumeName i⟩
            ⟨stagedPaths.backupDirectory, makeVolumeSegmentFileName volumeName i⟩ = false) ∧
        ∀ i < segmentCount,
          faults.rename ⟨stagedPaths.stageDirectory, makeVolumeSegmentFileName volumeName i⟩
            ⟨outputDirectory, makeVolumeSegmentFileName volumeName i⟩ = false :=
      hiff.trans ⟨fun h => ⟨hbackedUp.1 hsucceeded, fun i hi => h i (Nat.zero_le _) hi⟩,
        fun h i _ hi => h.2 i hi⟩
    rw [← hforward]
    cases hpromotionSucceeded : promotion.succeeded with
    | true =>
      simp only [hpromotionSucceeded, Bool.not_true, Bool.false_eq_true, if_false] at hresult
      subst hresult
      refine ⟨by simp, fun _ fileName => ?_, ?_⟩
      · rw [read_cleanupStaging hapart, hpromoted.at_destination, hall hpromotionSucceeded,
          hmadeMoved.at_source,
          hmadeMoved.elsewhere _ hapart.stage_ne_output hapart.stage_ne_backup]
      · intro hfalse
        cases hfalse
    | false =>
      simp only [hpromotionSucceeded, Bool.not_false, if_true, hnames] at hresult
      obtain ⟨restored, hrestored, hread⟩ :=
        restored_output hapart hfaults hprevious hmadeMoved hpromoted
      simp only [hrestored] at hresult
      subst hresult
      refine ⟨by simp, ?_, fun _ fileName => ?_⟩
      · intro hfalse
        cases hfalse
      · rw [read_cleanupStaging hapart, hread]

end Whole

/-! ## Examples of promotions -/

inductive VolumeDirectory
  | output
  | stage
  | backup
  deriving DecidableEq, Repr

/-- The directories of a volume. -/
def volumeDirectories : StagedDirectoryPaths VolumeDirectory where
  stageDirectory := .stage
  backupDirectory := .backup

/-- The name `v`. -/
def exampleVolumeName : List UInt8 := [118]

/-- Numbered segments with their contents. -/
def segmentListing (segments : List (ℕ × ℕ)) : Node FileName ℕ :=
  .directory fun fileName =>
    (segments.find? fun segment =>
      makeVolumeSegmentFileName exampleVolumeName segment.1 = fileName).map (·.2)

/-- Segments in the output and the stage directory, and no backup directory. -/
def stagedTree (previous staged : List (ℕ × ℕ)) : Tree VolumeDirectory FileName ℕ
  | .output => some (segmentListing previous)
  | .stage => some (segmentListing staged)
  | .backup => none

/-- The renames between some places fail, and nothing else. -/
def renameFaults (fails : VolumeDirectory → VolumeDirectory → FileName → Bool) :
    IoFaults VolumeDirectory where
  queryDirectory _ := false
  queryFile _ := false
  makeDirectories _ := false
  rename source destination := fails source.directory destination.directory source.name
  removeFile _ := false
  removeAll _ := false

/-- The promotion of some staged segments over previous ones. -/
def promoteExample (fails : VolumeDirectory → VolumeDirectory → FileName → Bool)
    (previous staged : List (ℕ × ℕ)) (segmentCount : ℕ) :
    Tree VolumeDirectory FileName ℕ × Bool :=
  promoteStagedVolume (renameFaults fails) exampleVolumeName volumeDirectories .output segmentCount
    (stagedTree previous staged)

/-- The contents of a segment in the output directory. -/
def outputSegment (result : Tree VolumeDirectory FileName ℕ × Bool) (segmentIndex : ℕ) : Option ℕ :=
  read result.1 ⟨.output, makeVolumeSegmentFileName exampleVolumeName segmentIndex⟩

/-- A listing of the first indices holds the segments of the volume. -/
lemma segmentsIn_listing {fs : Tree VolumeDirectory FileName ℕ} {directory : VolumeDirectory}
    {segments : List (ℕ × ℕ)} (h : fs directory = some (segmentListing segments))
    (hindices : segments.map (·.1) = List.range segments.length)
    (hnodup : (segmentFileNames exampleVolumeName segments.length).Nodup) :
    SegmentsIn fs directory exampleVolumeName segments.length := by
  have hread : ∀ fileName, (read fs ⟨directory, fileName⟩).isSome = true ↔
      ∃ segment ∈ segments, makeVolumeSegmentFileName exampleVolumeName segment.1 = fileName := by
    intro fileName
    simp [DirectoryTree.read, h, segmentListing]
  have hindex : ∀ i, (∃ segment ∈ segments, segment.1 = i) ↔ i < segments.length := by
    intro i
    rw [← List.mem_range, ← hindices, List.mem_map]
  refine ⟨hnodup, ?_, ?_⟩
  · intro fileName hmem
    obtain ⟨i, hi, rfl⟩ := mem_segmentFileNames.1 hmem
    obtain ⟨segment, hsegment, rfl⟩ := (hindex i).2 hi
    exact (hread _).2 ⟨segment, hsegment, rfl⟩
  · intro segmentIndex hsome
    obtain ⟨segment, hsegment, hname⟩ := (hread _).1 hsome
    exact mem_segmentFileNames.2 ⟨segment.1, (hindex _).1 ⟨segment, hsegment, rfl⟩, hname⟩

/-- The rename of one staged segment. -/
def secondStagedFails (source _destination : VolumeDirectory) (fileName : FileName) : Bool :=
  source = .stage && fileName = makeVolumeSegmentFileName exampleVolumeName 1

/-- One segment stays when the second of two staged ones cannot be promoted. -/
theorem promoteStagedVolume_allOrNothing_secondFails :
    (promoteExample secondStagedFails [(0, 10)] [(0, 20), (1, 21)] 2).2 = false ∧
      outputSegment (promoteExample secondStagedFails [(0, 10)] [(0, 20), (1, 21)] 2) 0
        = some 10 := by
  have hfailed : (promoteExample secondStagedFails [(0, 10)] [(0, 20), (1, 21)] 2).2 = false := by
    decide +kernel
  have hfaults : (renameFaults secondStagedFails).OnlyForwardRenames
      volumeDirectories.backupDirectory :=
    ⟨fun _ => rfl, fun _ => rfl, fun _ => rfl, fun _ => rfl, fun _ => rfl, by
      intro source destination hbackup
      simp [renameFaults, secondStagedFails, hbackup, volumeDirectories]⟩
  have hpromotion := promoteStagedVolume_allOrNothing (renameFaults secondStagedFails)
    volumeDirectories .output exampleVolumeName (stagedTree [(0, 10)] [(0, 20), (1, 21)]) 1 2
    ⟨by decide, by decide, by decide⟩ (by simp [stagedTree, segmentListing])
    (by simp [stagedTree, volumeDirectories])
    (@segmentsIn_listing _ _ [(0, 10)] rfl rfl (by decide +kernel)) (by decide)
    (@segmentsIn_listing _ _ [(0, 20), (1, 21)] rfl rfl (by decide +kernel)) (by decide) hfaults _
    rfl
  refine ⟨hfailed, ?_⟩
  have hkept := hpromotion.2.2 hfailed (makeVolumeSegmentFileName exampleVolumeName 0)
  exact hkept.trans (by decide +kernel)

/-- Without a rename that fails, an empty set of staged segments leaves the previous segment, and a
previous segment behind a gap stays beside the staged one; such a segment is lost when a promotion
over it is undone. -/
theorem promoteStagedVolume_not_allOrNothing :
    (promoteExample (fun _ _ _ => false) [(0, 10)] [] 0).2 = false ∧
    outputSegment (promoteExample (fun _ _ _ => false) [(0, 10)] [] 0) 0 = some 10 ∧
    (promoteExample (fun _ _ _ => false) [(0, 10), (2, 12)] [(0, 20)] 1).2 = true ∧
    outputSegment (promoteExample (fun _ _ _ => false) [(0, 10), (2, 12)] [(0, 20)] 1) 2
      = some 12 ∧
    outputSegment (promoteExample
        (fun source _ fileName => source = .stage
          && fileName = makeVolumeSegmentFileName exampleVolumeName 3)
        [(0, 10), (2, 12)] [(0, 20), (1, 21), (2, 22), (3, 23)] 4) 2 = none := by
  decide +kernel

end NwbLot.Volume
