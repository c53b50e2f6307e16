import NwbLot.Crash.ArchiveReading

/-!
# The contract of the crash archive

Extracting what was archived, and what an extraction of any bytes can write.

`Contained` holds of the package tree whatever bytes are extracted: nothing is written but below
the package directory.  `Holds` says that a tree has the files that were archived.
-/

namespace NwbLot.Crash

open Guarded

/-! ## Containment -/

/-- Everything below the package directory is named by proper components. -/
def PackageTree.Proper (tree : PackageTree) : Prop :=
  ∀ path, tree path ≠ none → ∀ component ∈ path, ProperComponent component

/-- A path below a directory: the directory, at most one separator, and a safe path. -/
def WrittenBelow (platform : Platform) (packageDirectory path : Text) : Prop :=
  ∃ relativePath, (path = packageDirectory ++ relativePath ∨
      path = packageDirectory ++ [preferredSeparator platform] ++ relativePath) ∧
    (∀ part ∈ relativePath.splitOnP isArchivePathSeparator, ProperComponent part) ∧
    ∀ part ∈ relativePath.splitOnP (isSeparator platform), ProperComponent part

variable {platform : Platform} {relativePath : Text}

lemma writtenBelow_join (packageDirectory : Text)
    (h : isSafeArchiveRelativePath relativePath = true) :
    WrittenBelow platform packageDirectory (Text.join platform packageDirectory relativePath) :=
  ⟨relativePath, join_eq packageDirectory h, (isSafeArchiveRelativePath_iff.1 h).2,
    fun _ hpart => properComponent_of_mem_splitOnP h hpart⟩

lemma properComponent_of_mem_components (h : isSafeArchiveRelativePath relativePath = true)
    {component : Text} (hcomponent : component ∈ components platform relativePath) :
    ProperComponent component := by
  rw [components_eq h] at hcomponent
  exact properComponent_of_mem_splitOnP h hcomponent

variable {tree : PackageTree}

/-- Writing a file below safe components keeps everything proper. -/
lemma proper_writeExtractedFile {tree' : PackageTree} {bytes : Text}
    (hsafe : isSafeArchiveRelativePath relativePath = true) (hproper : tree.Proper)
    (h : tree.writeExtractedFile platform relativePath bytes = some tree') : tree'.Proper := by
  obtain ⟨tree₁, hcreate, hwrite⟩ := Option.bind_eq_some_iff.1 h
  rw [PackageTree.writeBinaryFile] at hwrite
  split_ifs at hwrite
  obtain rfl := Option.some.inj hwrite
  have hall : ∀ component ∈ components platform relativePath, ProperComponent component :=
    fun _ => properComponent_of_mem_components hsafe
  intro path hpath component hcomponent
  by_cases hfile : path = components platform relativePath
  · exact hall component (hfile ▸ hcomponent)
  rw [Function.update_of_ne hfile] at hpath
  rcases PackageTree.createDirectories_apply hcreate path with hsame | ⟨-, -, init, -, hinit, rfl⟩
  · exact hproper path (hsame ▸ hpath) component hcomponent
  · exact hall component (List.dropLast_subset _ (hinit.subset hcomponent))

/-- What holds of an extraction and of the state of its loop. -/
structure Contained (platform : Platform) (packageDirectory : Text) (tree : PackageTree)
    (written : List Text) : Prop where
  tree : tree.Proper
  written : ∀ path ∈ written, WrittenBelow platform packageDirectory path

lemma contained_empty (platform : Platform) (packageDirectory : Text) :
    Contained platform packageDirectory .empty [] where
  tree := fun _ hpath => absurd rfl hpath
  written := fun _ hpath => absurd hpath List.not_mem_nil

lemma Contained.append {platform : Platform} {packageDirectory : Text} {tree : PackageTree}
    {written : List Text} (h : Contained platform packageDirectory tree written)
    {relativePath : Text} (hsafe : isSafeArchiveRelativePath relativePath = true) :
    Contained platform packageDirectory tree
      (written ++ [Text.join platform packageDirectory relativePath]) := by
  refine ⟨h.tree, fun path hpath => ?_⟩
  rcases List.mem_append.1 hpath with hold | hnew
  · exact h.written path hold
  · rw [List.mem_singleton.1 hnew]
    exact writtenBelow_join packageDirectory hsafe

/-- The loop ends without a fault when it has a round for each byte that is left, and stays below
the package directory. -/
lemma extractFiles_satisfies (platform : Platform) (packageDirectory : Text) (archive : ByteView)
    (rounds : ℕ) {cursor fileCount : ℕ} {written : List Text} (hcursor : cursor ≤ archive.size)
    (hrounds : archive.size < rounds + cursor)
    (hcontained : Contained platform packageDirectory tree written) :
    Satisfies (extractFiles platform packageDirectory archive rounds cursor fileCount tree written)
      fun extracted => ∃ extraction, extracted = some extraction ∧
        Contained platform packageDirectory extraction.tree extraction.written := by
  induction rounds generalizing cursor fileCount tree written with
  | zero => omega
  | succ rounds ih =>
    -- an error ends the loop where it stands
    have hstop : ∀ {tree : PackageTree} {written : List Text} (error : Option String),
        Contained platform packageDirectory tree written →
        Satisfies (.ok (some ⟨error, tree, written⟩) : Guarded (Option Extraction)) fun extracted =>
          ∃ extraction, extracted = some extraction ∧
            Contained platform packageDirectory extraction.tree extraction.written :=
      fun _ h => satisfies_ok ⟨_, rfl, h⟩
    rw [extractFiles]
    refine satisfies_ite (fun _ => ?_) fun _ => ?_
    · refine Satisfies.bind (nextLfByteLine_satisfies archive cursor) fun read hread => ?_
      rcases read with _ | ⟨line, behind⟩
      · exact hstop _ hcontained
      obtain ⟨-, hmoved, hbehind⟩ := hread line behind rfl
      dsimp only
      split
      · exact hstop _ hcontained
      next relativePath fileSize hheader =>
      have hsafe := isSafe_of_parseFileHeader hheader
      have hwritten := hcontained.append hsafe
      refine satisfies_ite (fun _ => hstop _ hcontained) fun _ => ?_
      refine Satisfies.bind ⟨_, sub_eq hbehind, rfl⟩ fun remaining hremaining => ?_
      refine satisfies_ite (fun _ => hstop _ hcontained) fun hsize => ?_
      have hinside : behind + fileSize ≤ archive.size := by omega
      refine Satisfies.bind ⟨_, ByteView.slice_eq hinside, rfl⟩ fun fileBytes _ => ?_
      split
      · exact hstop _ hwritten
      next tree' hwrite =>
      have hcontained' : Contained platform packageDirectory tree' _ :=
        ⟨proper_writeExtractedFile hsafe hcontained.tree hwrite, hwritten.written⟩
      have hword := archive.size_lt
      refine Satisfies.bind ⟨_, add_eq (by omega), rfl⟩ fun payloadEnd hpayloadEnd => ?_
      refine Satisfies.bind (nextLfByteLine_satisfies archive payloadEnd) fun read hread => ?_
      rcases read with _ | ⟨separator, afterSeparator⟩
      · exact hstop _ hcontained'
      obtain ⟨-, hseparator, -⟩ := hread separator afterSeparator rfl
      refine satisfies_ite (fun _ => hstop _ hcontained') fun _ => ?_
      refine Satisfies.bind (nextLfByteLine_satisfies archive afterSeparator) fun read hread => ?_
      rcases read with _ | ⟨endMarker, afterMarker⟩
      · exact hstop _ hcontained'
      obtain ⟨-, hmarker, hinside'⟩ := hread endMarker afterMarker rfl
      refine satisfies_ite (fun _ => hstop _ hcontained') fun _ => ?_
      exact ih hinside' (by omega) hcontained'
    · exact satisfies_ite (fun _ => hstop _ hcontained) fun _ => hstop _ hcontained

/-! ## Extracting an archive -/

/-- The tree holds exactly some files, with the directories above them. -/
structure Holds (platform : Platform) (tree : PackageTree) (files : List (Text × Text)) : Prop where
  file : ∀ path bytes, tree path = some (.file bytes) ↔
    ∃ name, (name, bytes) ∈ files ∧ components platform name = path
  directory : ∀ path, tree path = some .directory →
    ∃ file ∈ files, path <+: components platform file.1 ∧ path ≠ components platform file.1

lemma holds_empty (platform : Platform) : Holds platform .empty [] where
  file _ _ := by
    refine iff_of_false (fun h => nomatch h) ?_
    rintro ⟨name, hname, -⟩
    exact absurd hname List.not_mem_nil
  directory _ h := nomatch h

/-- One more file, which no other file is in the way of. -/
lemma Holds.write {files : List (Text × Text)} (h : Holds platform tree files) {name bytes : Text}
    (hname : components platform name ≠ [])
    (hfree : ∀ file ∈ files, ¬components platform file.1 <+: components platform name ∧
      ¬components platform name <+: components platform file.1) :
    ∃ tree', tree.writeExtractedFile platform name bytes = some tree' ∧
      Holds platform tree' (files ++ [(name, bytes)]) := by
  have hlonger : ∀ init, init <+: (components platform name).dropLast →
      init ≠ components platform name := by
    rintro init hinit rfl
    have hlength := hinit.length_le
    have hpos := List.length_pos_iff.2 hname
    rw [List.length_dropLast] at hlength
    omega
  have hunblocked : ∀ init, init ≠ [] → init <+: (components platform name).dropLast →
      ∀ other, tree ([] ++ init) ≠ some (.file other) := by
    intro init _ hinit other hother
    obtain ⟨existing, hexisting, heq⟩ := (h.file _ _).1 hother
    refine (hfree _ hexisting).1 ?_
    rw [heq]
    exact hinit.trans (List.dropLast_prefix _)
  obtain ⟨tree₁, hcreate, hdirectories⟩ :=
    PackageTree.exists_createDirectories (decide_eq_true (.inl rfl)) hunblocked
  have happly := PackageTree.createDirectories_apply hcreate
  have hkept : tree₁ (components platform name) = tree (components platform name) := by
    rcases happly (components platform name) with hsame | ⟨-, -, init, -, hinit, heq⟩
    · exact hsame
    · exact absurd heq.symm (hlonger init hinit)
  have hnodirectory : tree₁.isDirectory (components platform name) = false := by
    refine decide_eq_false ?_
    rintro (hnil | hdirectory)
    · exact hname hnil
    · rw [hkept] at hdirectory
      obtain ⟨file, hfile, hpre, -⟩ := h.directory _ hdirectory
      exact (hfree file hfile).2 hpre
  have hparent : tree₁.isDirectory (components platform name).dropLast = true :=
    hdirectories _ (List.prefix_refl _)
  refine ⟨Function.update tree₁ (components platform name) (some (.file bytes)), ?_, ?_, ?_⟩
  · rw [PackageTree.writeExtractedFile, hcreate]
    dsimp only [Option.bind_some]
    rw [PackageTree.writeBinaryFile, if_neg]
    rw [hnodirectory, hparent]
    decide
  · intro path other
    have hmem : (∃ file, (file, other) ∈ files ++ [(name, bytes)] ∧
        components platform file = path) ↔
        (∃ file, (file, other) ∈ files ∧ components platform file = path) ∨
          other = bytes ∧ components platform name = path := by
      constructor
      · rintro ⟨file, hfile, heq⟩
        rcases List.mem_append.1 hfile with hold | hnew
        · exact .inl ⟨file, hold, heq⟩
        · obtain ⟨rfl, rfl⟩ := Prod.mk.inj (List.mem_singleton.1 hnew)
          exact .inr ⟨rfl, heq⟩
      · rintro (⟨file, hfile, heq⟩ | ⟨rfl, heq⟩)
        · exact ⟨file, List.mem_append_left _ hfile, heq⟩
        · exact ⟨name, List.mem_append_right _ (List.mem_singleton_self _), heq⟩
    rw [hmem]
    by_cases hpath : path = components platform name
    · subst hpath
      rw [Function.update_self]
      constructor
      · intro hfile
        exact .inr ⟨(PackageNode.file.inj (Option.some.inj hfile)).symm, rfl⟩
      · rintro (⟨file, hfile, heq⟩ | ⟨rfl, -⟩)
        · refine absurd ?_ (hfree _ hfile).1
          rw [heq]
        · rfl
    · rw [Function.update_of_ne hpath, or_iff_left fun hnew => hpath hnew.2.symm, ← h.file]
      rcases happly path with hsame | ⟨hmade, hnone, -⟩
      · rw [hsame]
      · rw [hmade, hnone]
        exact iff_of_false (fun h => nomatch h) fun h => nomatch h
  · intro path hdirectory
    have hpath : path ≠ components platform name := by
      rintro rfl
      rw [Function.update_self] at hdirectory
      exact nomatch hdirectory
    rw [Function.update_of_ne hpath] at hdirectory
    rcases happly path with hsame | ⟨-, -, init, -, hinit, rfl⟩
    · rw [hsame] at hdirectory
      obtain ⟨file, hfile, hpre⟩ := h.directory path hdirectory
      exact ⟨file, List.mem_append_left _ hfile, hpre⟩
    · refine ⟨(name, bytes), List.mem_append_right _ (List.mem_singleton_self _), ?_, hpath⟩
      exact hinit.trans (List.dropLast_prefix _)

/-- No file of a package is in the way of another. -/
def Unnested (platform : Platform) (files : List (Text × Text)) : Prop :=
  files.Pairwise fun left right =>
    ¬components platform left.1 <+: components platform right.1 ∧
      ¬components platform right.1 <+: components platform left.1

lemma archiveEntry_eq (pathText fileBytes : Text) :
    archiveEntry pathText fileBytes =
      fileHeaderLine pathText fileBytes.length ++
        charLf :: (fileBytes ++ ([] ++ charLf :: (archiveEntryEndLine ++ charLf :: []))) := by
  have hend : archiveEntryEndText = [] ++ charLf :: (archiveEntryEndLine ++ charLf :: []) := rfl
  have hspace : ascii " " = [charSpace] := rfl
  have hlf : ascii "\n" = [charLf] := rfl
  rw [archiveEntry, fileHeaderLine, hend, hspace, hlf]
  simp only [List.append_assoc, List.cons_append, List.nil_append]

/-- The archived files, one entry behind the other. -/
def entriesBytes (files : List (Text × Text)) : Text :=
  files.flatMap fun file => archiveEntry file.1 file.2

lemma length_le_length_entriesBytes (files : List (Text × Text)) :
    files.length ≤ (entriesBytes files).length := by
  induction files with
  | nil => exact Nat.le_refl 0
  | cons file files ih =>
    have hentry : 1 ≤ (archiveEntry file.1 file.2).length := by
      rw [archiveEntry_eq, List.length_append, List.length_cons]
      omega
    show files.length + 1 ≤ (archiveEntry file.1 file.2 ++ entriesBytes files).length
    rw [List.length_append]
    omega

/-- One round of the loop, over an entry whose file can be written. -/
lemma extractFiles_entry (packageDirectory : Text) {archive : ByteView}
    {before after name fileBytes : Text}
    (hbytes : archive.bytes = before ++ (archiveEntry name fileBytes ++ after))
    (hname : isSafeArchiveRelativePath name = true) {tree' : PackageTree}
    (hwrite : tree.writeExtractedFile platform name fileBytes = some tree') (rounds fileCount : ℕ)
    (written : List Text) :
    extractFiles platform packageDirectory archive (rounds + 1) before.length fileCount tree
        written =
      extractFiles platform packageDirectory archive rounds
        (before ++ archiveEntry name fileBytes).length (fileCount + 1) tree'
        (written ++ [Text.join platform packageDirectory name]) := by
  obtain ⟨header, hheader⟩ : ∃ header, header = fileHeaderLine name fileBytes.length := ⟨_, rfl⟩
  rw [archiveEntry_eq, ← hheader] at hbytes ⊢
  simp only [List.append_assoc, List.cons_append, List.nil_append] at hbytes
  have hword := archive.size_lt
  have hsize : archive.size = before.length + (header.length + (fileBytes.length +
      (archiveEntryEndLine.length + (after.length + 1) + 1) + 1)) := by
    rw [ByteView.size, hbytes]
    simp only [List.length_append, List.length_cons]
  have hcursor : (before ++ (header ++ charLf :: (fileBytes ++ ([] ++ charLf ::
      (archiveEntryEndLine ++ [charLf]))))).length = before.length + header.length + 1 +
        fileBytes.length + 1 + archiveEntryEndLine.length + 1 := by
    simp only [List.length_append, List.length_cons, List.length_nil]
    omega
  have hparse : parseFileHeader header = some (name, fileBytes.length) := by
    rw [hheader]
    exact parseFileHeader_fileHeaderLine hname (by omega)
  have hline : nextLfByteLine archive before.length =
      .ok (some (⟨before.length, header⟩, before.length + header.length + 1)) := by
    refine nextLfByteLine_append ?_ ?_ hbytes
    · rw [hheader]
      exact charLf_notMem_fileHeaderLine hname
    · rw [hheader]
      exact getLast?_fileHeaderLine name fileBytes.length
  -- the rest of the entry, piece by piece
  have hpayload : archive.bytes = (before ++ (header ++ [charLf])) ++ (fileBytes ++
      charLf :: (archiveEntryEndLine ++ charLf :: after)) := by
    rw [hbytes]
    simp only [List.append_assoc, List.cons_append, List.nil_append]
  have hlength : (before ++ (header ++ [charLf])).length = before.length + header.length + 1 := by
    rw [List.length_append, List.length_append, List.length_singleton, Nat.add_assoc]
  have hslice : archive.slice (before.length + header.length + 1) fileBytes.length =
      .ok fileBytes := by
    rw [ByteView.slice_eq (by omega), hpayload, List.drop_left' hlength, List.take_left]
  have hseparator : nextLfByteLine archive
      (before.length + header.length + 1 + fileBytes.length) =
      .ok (some (⟨before.length + header.length + 1 + fileBytes.length, []⟩,
        before.length + header.length + 1 + fileBytes.length + 1)) := by
    have hsplit : archive.bytes = ((before ++ (header ++ [charLf])) ++ fileBytes) ++
        ([] ++ charLf :: (archiveEntryEndLine ++ charLf :: after)) := by
      rw [hpayload]
      simp only [List.append_assoc, List.cons_append, List.nil_append]
    have hread := nextLfByteLine_append List.not_mem_nil (Option.some_ne_none charCr).symm hsplit
    rwa [List.length_append, hlength, List.length_nil, Nat.add_zero] at hread
  have hmarker : nextLfByteLine archive
      (before.length + header.length + 1 + fileBytes.length + 1) =
      .ok (some (⟨before.length + header.length + 1 + fileBytes.length + 1,
        archiveEntryEndLine⟩, before.length + header.length + 1 + fileBytes.length + 1 +
          archiveEntryEndLine.length + 1)) := by
    have hsplit : archive.bytes = ((before ++ (header ++ [charLf])) ++ (fileBytes ++ [charLf])) ++
        (archiveEntryEndLine ++ charLf :: after) := by
      rw [hpayload]
      simp only [List.append_assoc, List.cons_append, List.nil_append]
    have hread := nextLfByteLine_append (by decide) (by decide) hsplit
    rwa [List.length_append, hlength, List.length_append, List.length_singleton,
      ← Nat.add_assoc] at hread
  rw [extractFiles, if_pos (by omega)]
  simp only [bind, Except.bind, hline, hparse]
  rw [if_neg (by omega), sub_eq (by omega)]
  dsimp only
  rw [if_neg (by omega), hslice]
  simp only [hwrite]
  rw [add_eq (by omega)]
  dsimp only
  rw [hseparator]
  dsimp only
  rw [if_neg (not_not.2 rfl), hmarker]
  dsimp only
  rw [if_neg (not_not.2 rfl), hcursor]

/-- The loop over the entries of files that fit to those already written. -/
lemma extractFiles_entries (packageDirectory : Text) {archive : ByteView}
    {files done : List (Text × Text)} {before : Text}
    (hbytes : archive.bytes = before ++ entriesBytes files)
    (hsafe : ∀ file ∈ files, isSafeArchiveRelativePath file.1 = true)
    (hunnested : Unnested platform (done ++ files)) (hholds : Holds platform tree done)
    {fileCount : ℕ} (hcount : fileCount + files.length ≠ 0) (rounds : ℕ) (written : List Text) :
    ∃ tree', extractFiles platform packageDirectory archive (files.length + 1 + rounds)
        before.length fileCount tree written = .ok (some ⟨none, tree', written ++
          files.map fun file => Text.join platform packageDirectory file.1⟩) ∧
      Holds platform tree' (done ++ files) := by
  induction files generalizing done before tree fileCount written with
  | nil =>
    have hsize : archive.size = before.length := by
      rw [ByteView.size, hbytes]
      exact congrArg List.length (List.append_nil before)
    refine ⟨tree, ?_, by rw [List.append_nil]; exact hholds⟩
    rw [List.length_nil, Nat.zero_add, Nat.add_comm, extractFiles, if_neg (by omega),
      if_neg (by rwa [List.length_nil, Nat.add_zero] at hcount), List.map_nil, List.append_nil]
    rfl
  | cons file files ih =>
    obtain ⟨name, fileBytes⟩ := file
    have hname : isSafeArchiveRelativePath name = true :=
      hsafe (name, fileBytes) List.mem_cons_self
    have hrest : archive.bytes = (before ++ archiveEntry name fileBytes) ++ entriesBytes files := by
      rw [hbytes, List.append_assoc]
      rfl
    rw [Unnested, List.pairwise_append] at hunnested
    obtain ⟨hdone, hfiles, hacross⟩ := hunnested
    have hcomponents : components platform name ≠ [] := by
      rw [components_eq hname]
      exact List.splitOnP_ne_nil _ _
    have hfree : ∀ other ∈ done, ¬components platform other.1 <+: components platform name ∧
        ¬components platform name <+: components platform other.1 :=
      fun other hother => hacross other hother (name, fileBytes) List.mem_cons_self
    obtain ⟨tree', hwrite, hholds'⟩ :
        ∃ tree', tree.writeExtractedFile platform name fileBytes = some tree' ∧
          Holds platform tree' (done ++ [(name, fileBytes)]) := hholds.write hcomponents hfree
    have hunnested' : Unnested platform ((done ++ [(name, fileBytes)]) ++ files) := by
      rw [List.append_assoc, Unnested, List.singleton_append, List.pairwise_append]
      exact ⟨hdone, hfiles, hacross⟩
    have hcount' : fileCount + 1 + files.length ≠ 0 := by omega
    obtain ⟨tree'', hloop, hholds''⟩ := ih hrest
      (fun other hother => hsafe other (List.mem_cons_of_mem _ hother)) hunnested' hholds' hcount'
      (written ++ [Text.join platform packageDirectory name])
    rw [List.append_assoc, List.singleton_append] at hholds''
    refine ⟨tree'', ?_, hholds''⟩
    have hrounds : ((name, fileBytes) :: files).length + 1 + rounds =
        files.length + 1 + rounds + 1 := by
      rw [List.length_cons]
      omega
    rw [hrounds, extractFiles_entry packageDirectory hbytes hname hwrite, hloop, List.map_cons,
      List.append_assoc]
    rfl

/-! ## The contract -/

/-- The regular files of an enumerated directory, by their generic names. -/
def filesOf (directory : List DirectoryEntry) : List (Text × Text) :=
  directory.filterMap fun entry =>
    entry.regularFile.map fun fileBytes => (pathToGenericString entry.relativePath, fileBytes)

lemma appendEntries_eq (directory : List DirectoryEntry) (outArchive : Text) (wroteFile : Bool) :
    appendEntries outArchive wroteFile directory =
      (wroteFile || decide (filesOf directory ≠ []),
        outArchive ++ entriesBytes (filesOf directory)) := by
  induction directory generalizing outArchive wroteFile with
  | nil =>
    rw [appendEntries]
    show _ = (wroteFile || false, outArchive ++ [])
    rw [Bool.or_false, List.append_nil]
  | cons entry directory ih =>
    rw [appendEntries]
    cases hfile : entry.regularFile with
    | none =>
      have hfiles : filesOf (entry :: directory) = filesOf directory := by
        rw [filesOf, List.filterMap_cons, hfile]
        rfl
      dsimp only
      rw [ih, hfiles]
    | some fileBytes =>
      have hfiles : filesOf (entry :: directory) =
          (pathToGenericString entry.relativePath, fileBytes) :: filesOf directory := by
        rw [filesOf, List.filterMap_cons, hfile]
        rfl
      dsimp only
      rw [ih, hfiles, List.append_assoc, Bool.true_or,
        decide_eq_true (List.cons_ne_nil _ _), Bool.or_true]
      rfl

lemma charBackslash_notMem_pathToGenericString (path : Text) :
    charBackslash ∉ pathToGenericString path := by
  intro h
  obtain ⟨ch, -, hch⟩ := List.mem_map.1 h
  split_ifs at hch with hslash
  · exact absurd hch (by decide)
  · exact hslash hch

/-- Files with different names, none of them the name of a directory above another. -/
lemma unnested_filesOf {directory : List DirectoryEntry}
    (hsafe : ∀ file ∈ filesOf directory, isSafeArchiveRelativePath file.1 = true)
    (hnames : ((filesOf directory).map Prod.fst).Nodup)
    (hplain : ∀ left ∈ filesOf directory, ∀ right ∈ filesOf directory,
      ¬left.1 ++ [charSlash] <+: right.1) : Unnested platform (filesOf directory) := by
  have hgeneric : ∀ file ∈ filesOf directory, charBackslash ∉ file.1 := by
    intro file hfile
    obtain ⟨entry, -, hentry⟩ := List.mem_filterMap.1 hfile
    obtain ⟨fileBytes, -, rfl⟩ := Option.map_eq_some_iff.1 hentry
    exact charBackslash_notMem_pathToGenericString _
  have hapart : ∀ left ∈ filesOf directory, ∀ right ∈ filesOf directory, left.1 ≠ right.1 →
      ¬components platform left.1 <+: components platform right.1 := by
    intro left hleft right hright hne hpre
    rcases eq_or_prefix_of_components (hsafe left hleft) (hsafe right hright)
      (hgeneric left hleft) (hgeneric right hright) hpre with hsame | hbelow
    · exact hne hsame
    · exact hplain left hleft right hright hbelow
  rw [List.Nodup, List.pairwise_map] at hnames
  refine List.Pairwise.imp_of_mem ?_ hnames
  intro left right hleft hright hne
  exact ⟨hapart left hleft right hright hne, hapart right hright left hleft (Ne.symm hne)⟩

/-- For every package directory, in whatever order it is enumerated, the archive is extracted to
exactly its files; and an extraction of any bytes ends, reads only inside them and writes only
below the package directory, through proper components. -/
theorem crashArchive_contract (platform : Platform) (packageDirectory : Text) :
    (∀ directory : List DirectoryEntry, filesOf directory ≠ [] →
      (∀ file ∈ filesOf directory, isSafeArchiveRelativePath file.1 = true) →
      ((filesOf directory).map Prod.fst).Nodup →
      (∀ left ∈ filesOf directory, ∀ right ∈ filesOf directory,
        ¬left.1 ++ [charSlash] <+: right.1) →
      (buildPackageArchive directory).1 = true ∧
        ∀ archive : ByteView, archive.bytes = (buildPackageArchive directory).2 →
          ∃ extraction, extractCrashArchive platform packageDirectory archive =
              .ok (some extraction) ∧ extraction.error = none ∧
            extraction.written =
              (filesOf directory).map (fun file => Text.join platform packageDirectory file.1) ∧
            ∀ path bytes, extraction.tree path = some (.file bytes) ↔
              ∃ name, (name, bytes) ∈ filesOf directory ∧ components platform name = path) ∧
    ∀ archive : ByteView, ∃ extraction,
      extractCrashArchive platform packageDirectory archive = .ok (some extraction) ∧
        (∀ path ∈ extraction.written, WrittenBelow platform packageDirectory path) ∧
        ∀ path, extraction.tree path ≠ none →
          ∀ component ∈ path, ProperComponent component := by
  refine ⟨fun directory hsome hsafe hnames hplain => ?_, fun archive => ?_⟩
  · have hbuild : buildPackageArchive directory =
        (true, archiveHeaderText ++ entriesBytes (filesOf directory)) := by
      rw [buildPackageArchive, appendEntries_eq, Bool.false_or, decide_eq_true hsome]
    rw [hbuild]
    refine ⟨rfl, fun archive hbytes => ?_⟩
    have hheaderText : archiveHeaderText = archiveHeaderLine ++ [charLf] := by decide
    have hline : nextLfByteLine archive 0 =
        .ok (some (⟨0, archiveHeaderLine⟩, archiveHeaderText.length)) := by
      have hsplit : archive.bytes =
          [] ++ (archiveHeaderLine ++ charLf :: entriesBytes (filesOf directory)) := by
        rw [hbytes, hheaderText, List.append_assoc]
        rfl
      have hread := nextLfByteLine_append (by decide) (by decide) hsplit
      rw [List.length_nil, Nat.zero_add] at hread
      rw [hread, hheaderText, List.length_append, List.length_singleton]
    have hsize : archive.size = archiveHeaderText.length +
        (entriesBytes (filesOf directory)).length := by
      rw [ByteView.size, hbytes, List.length_append]
    have hcount := length_le_length_entriesBytes (filesOf directory)
    have hrounds : archive.size + 1 = (filesOf directory).length + 1 +
        (archive.size - (filesOf directory).length) := by
      omega
    have hunnested : Unnested platform ([] ++ filesOf directory) :=
      unnested_filesOf hsafe hnames hplain
    have hcount' : 0 + (filesOf directory).length ≠ 0 := by
      rw [Nat.zero_add]
      exact fun h => hsome (List.length_eq_zero_iff.1 h)
    obtain ⟨tree, hextract, hholds⟩ := extractFiles_entries packageDirectory hbytes hsafe hunnested
      (holds_empty platform) hcount' (archive.size - (filesOf directory).length) []
    rw [List.nil_append] at hextract hholds
    refine ⟨⟨none, tree, (filesOf directory).map fun file =>
      Text.join platform packageDirectory file.1⟩, ?_, rfl, rfl, hholds.file⟩
    rw [extractCrashArchive, hline]
    simp only [bind, Except.bind]
    rw [if_neg (not_not.2 rfl), hrounds, hextract]
  · have hcontained : Satisfies (extractCrashArchive platform packageDirectory archive)
        fun extracted => ∃ extraction, extracted = some extraction ∧
          Contained platform packageDirectory extraction.tree extraction.written := by
      have hempty := contained_empty platform packageDirectory
      unfold extractCrashArchive
      refine Satisfies.bind (nextLfByteLine_satisfies archive 0) fun read hread => ?_
      rcases read with _ | ⟨line, behind⟩
      · exact satisfies_ok ⟨_, rfl, hempty⟩
      obtain ⟨-, -, hbehind⟩ := hread line behind rfl
      refine satisfies_ite (fun _ => satisfies_ok ⟨_, rfl, hempty⟩) fun _ => ?_
      exact extractFiles_satisfies platform packageDirectory archive _ hbehind (by omega) hempty
    obtain ⟨extracted, hextract, extraction, rfl, hextraction⟩ := hcontained
    exact ⟨extraction, hextract, hextraction.written, hextraction.tree⟩

/-- A package whose names hold spaces and whose files hold the marks of the format. -/
theorem crashArchive_contract_markedFiles :
    ∃ archive extraction, archive.bytes = (buildPackageArchive
        [⟨ascii "logs", none⟩, ⟨ascii "logs\\a 12", some (ascii "\nEND\nFILE b 3\n")⟩,
          ⟨ascii "b c", some []⟩]).2 ∧
      extractCrashArchive .windows (ascii "C:") archive = .ok (some extraction) ∧
      extraction.tree [ascii "logs", ascii "a 12"] =
        some (.file (ascii "\nEND\nFILE b 3\n")) := by
  let directory : List DirectoryEntry := [⟨ascii "logs", none⟩,
    ⟨ascii "logs\\a 12", some (ascii "\nEND\nFILE b 3\n")⟩, ⟨ascii "b c", some []⟩]
  have hsize : (buildPackageArchive directory).2.length < 2 ^ 64 := by decide +kernel
  obtain ⟨-, hextract⟩ := (crashArchive_contract .windows (ascii "C:")).1 directory
    (by decide +kernel) (by decide +kernel) (by decide +kernel) (by decide +kernel)
  obtain ⟨extraction, hresult, -, -, hfiles⟩ :=
    hextract ⟨(buildPackageArchive directory).2, hsize⟩ rfl
  refine ⟨⟨(buildPackageArchive directory).2, hsize⟩, extraction, rfl, hresult, ?_⟩
  refine (hfiles _ _).2 ⟨ascii "logs/a 12", ?_, ?_⟩
  · decide +kernel
  · decide +kernel

end NwbLot.Crash
