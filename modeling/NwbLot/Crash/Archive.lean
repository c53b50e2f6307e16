import Mathlib.Data.Nat.Digits.Defs
import Mathlib.Logic.Function.Basic
import NwbLot.Library.PodCodec
import NwbLot.Crash.ArchivePaths

/-!
# The files below a package directory

Creating directories and writing files below a directory that has just been emptied.  Storage is
taken to be granted: an operation fails only when a file is in the place of a directory or a
directory in the place of a file.
-/

namespace NwbLot.Crash

/-- A file or a directory. -/
inductive PackageNode
  | directory
  | file (bytes : Text)
  deriving DecidableEq, Repr

/-- What the paths below the package directory hold, by their components. -/
abbrev PackageTree := List Text → Option PackageNode

namespace PackageTree

/-- No files. -/
def empty : PackageTree := fun _ => none

/-- `IsDirectory`; the package directory itself is one. -/
def isDirectory (tree : PackageTree) (path : List Text) : Bool :=
  decide (path = [] ∨ tree path = some .directory)

/-- The loop of `CreateDirectories`, behind a path: an existing file is passed over, and nothing
can be created below it. -/
def createDirectories (tree : PackageTree) : List Text → List Text → Option PackageTree
  | _, [] => some tree
  | current, component :: rest =>
    let path := current ++ [component]
    if tree.isDirectory path then createDirectories tree path rest
    else if tree.isDirectory current = false then none
    else
      match tree path with
      | some _ => createDirectories tree path rest
      | none => createDirectories (Function.update tree path (some .directory)) path rest

/-- `WriteBinaryFile`, which replaces a file that exists. -/
def writeBinaryFile (tree : PackageTree) (path : List Text) (bytes : Text) :
    Option PackageTree :=
  if tree.isDirectory path ∨ tree.isDirectory path.dropLast = false then none
  else some (Function.update tree path (some (.file bytes)))

/-- `WriteExtractedFile`: the directories above the file, then the file. -/
def writeExtractedFile (tree : PackageTree) (platform : Platform) (relativePath bytes : Text) :
    Option PackageTree :=
  let path := components platform relativePath
  (tree.createDirectories [] path.dropLast).bind fun tree => tree.writeBinaryFile path bytes

/-! ## Nodes that are there -/

/-- Creating directories changes nothing but paths below the given one, to directories. -/
lemma createDirectories_apply {tree tree' : PackageTree} {current rest : List Text}
    (h : tree.createDirectories current rest = some tree') (path : List Text) :
    tree' path = tree path ∨
      tree' path = some .directory ∧ tree path = none ∧
        ∃ init, init ≠ [] ∧ init <+: rest ∧ path = current ++ init := by
  induction rest generalizing tree current with
  | nil => exact .inl (congrFun (Option.some.inj h).symm path)
  | cons component rest ih =>
    have hbelow : (∃ init, init ≠ [] ∧ init <+: rest ∧ path = current ++ [component] ++ init) →
        ∃ init, init ≠ [] ∧ init <+: component :: rest ∧ path = current ++ init := by
      rintro ⟨init, -, hpre, rfl⟩
      refine ⟨component :: init, List.cons_ne_nil _ _, ?_, by rw [List.append_assoc]; rfl⟩
      exact (List.prefix_cons_inj component).2 hpre
    rw [createDirectories] at h
    split_ifs at h with hdirectory hparent
    · exact (ih h).imp_right fun h => ⟨h.1, h.2.1, hbelow h.2.2⟩
    · split at h
      · exact (ih h).imp_right fun h => ⟨h.1, h.2.1, hbelow h.2.2⟩
      · next habsent =>
        rcases ih h with hsame | ⟨hnew, hold, hinit⟩
        · by_cases hpath : path = current ++ [component]
          · subst hpath
            refine .inr ⟨hsame.trans (Function.update_self _ _ _), habsent,
              [component], List.cons_ne_nil _ _, ?_, rfl⟩
            exact (List.prefix_cons_inj component).2 List.nil_prefix
          · exact .inl (hsame.trans (Function.update_of_ne hpath _ _))
        · by_cases hpath : path = current ++ [component]
          · subst hpath
            rw [Function.update_self] at hold
            exact nomatch hold
          · rw [Function.update_of_ne hpath] at hold
            exact .inr ⟨hnew, hold, hbelow hinit⟩

/-- Directories are created when no file is in the way. -/
lemma exists_createDirectories {tree : PackageTree} {current rest : List Text}
    (hcurrent : tree.isDirectory current = true)
    (hfree : ∀ init, init ≠ [] → init <+: rest → ∀ bytes,
      tree (current ++ init) ≠ some (.file bytes)) :
    ∃ tree', tree.createDirectories current rest = some tree' ∧
      ∀ init, init <+: rest → tree'.isDirectory (current ++ init) = true := by
  induction rest generalizing tree current with
  | nil =>
    refine ⟨tree, rfl, fun init hinit => ?_⟩
    rw [List.prefix_nil.1 hinit, List.append_nil]
    exact hcurrent
  | cons component rest ih =>
    have hpath : ∀ bytes, tree (current ++ [component]) ≠ some (.file bytes) :=
      hfree [component] (List.cons_ne_nil _ _)
        ((List.prefix_cons_inj component).2 List.nil_prefix)
    have hrest : ∀ init, init ≠ [] → init <+: rest → ∀ bytes,
        tree (current ++ [component] ++ init) ≠ some (.file bytes) := by
      intro init _ hpre
      rw [List.append_assoc]
      exact hfree (component :: init) (List.cons_ne_nil _ _)
        ((List.prefix_cons_inj component).2 hpre)
    -- the directories below the new one, and the one above
    have hall : ∀ tree₀ : PackageTree, tree₀.isDirectory (current ++ [component]) = true →
        (∀ path, path ≠ current ++ [component] → tree₀ path = tree path) →
        ∃ tree', tree₀.createDirectories (current ++ [component]) rest = some tree' ∧
          ∀ init, init <+: component :: rest → tree'.isDirectory (current ++ init) = true := by
      intro tree₀ hdirectory hsame
      obtain ⟨tree', hcreate, hdirectories⟩ := ih hdirectory (by
        intro init hinit hpre bytes
        rw [hsame _ (by simpa using hinit)]
        exact hrest init hinit hpre bytes)
      refine ⟨tree', hcreate, fun init hinit => ?_⟩
      rcases List.prefix_cons_iff.1 hinit with rfl | ⟨init, rfl, hpre⟩
      · rw [List.append_nil]
        rw [isDirectory, decide_eq_true_iff] at hcurrent ⊢
        refine hcurrent.imp_right fun hcurrent => ?_
        rcases createDirectories_apply hcreate current with hkept | hmade
        · rw [hkept, hsame _ (by simp), hcurrent]
        · exact hmade.1
      · have hbelow := hdirectories init hpre
        rwa [List.append_assoc] at hbelow
    rw [createDirectories]
    split_ifs with hdirectory hparent
    · exact hall tree hdirectory fun _ _ => rfl
    · exact absurd (hcurrent.symm.trans hparent) (by decide)
    · split
      · next node hnode =>
        cases node with
        | directory =>
          exact absurd (decide_eq_true (.inr hnode)) hdirectory
        | file bytes => exact absurd hnode (hpath bytes)
      · refine hall _ (decide_eq_true (.inr (Function.update_self _ _ _))) fun path hne => ?_
        exact Function.update_of_ne hne _ _

end PackageTree

/-! ## The crash archive

`BuildPackageArchive` of the crashed program and `ExtractCrashArchive` of the log server: lines of
text, and the bytes of each file behind its header line. -/

/-- The first line of an archive. -/
def archiveHeaderLine : Text := ascii "NWBCRASHPKG 1"
/-- The first line with its end. -/
def archiveHeaderText : Text := ascii "NWBCRASHPKG 1\n"
/-- What a file's header begins with. -/
def archiveFileHeaderPrefix : Text := ascii "FILE "
/-- The line behind a file. -/
def archiveEntryEndLine : Text := ascii "END"
/-- What is written behind a file. -/
def archiveEntryEndText : Text := ascii "\nEND\n"

/-! ## Writing -/

/-- An entry of the directory: its path below the package directory, and its bytes when it is a
regular file. -/
structure DirectoryEntry where
  relativePath : Text
  regularFile : Option Text
  deriving DecidableEq, Repr

/-- `PathToGenericString`. -/
def pathToGenericString (path : Text) : Text :=
  path.map fun ch => if ch = charBackslash then charSlash else ch

/-- `AppendUnsignedToFixedBuffer`: the digits of the loop, from the lowest, and their reversal. -/
def unsignedText (value : ℕ) : Text :=
  if value = 0 then ascii "0"
  else ((Nat.digits 10 value).map fun digit => UInt8.ofNat (48 + digit)).reverse

/-- A file in the archive. -/
def archiveEntry (pathText fileBytes : Text) : Text :=
  archiveFileHeaderPrefix ++ pathText ++ ascii " " ++ unsignedText fileBytes.length ++
    ascii "\n" ++ fileBytes ++ archiveEntryEndText

/-- The loop of `BuildPackageArchive` over the enumerated directory. -/
def appendEntries (outArchive : Text) (wroteFile : Bool) : List DirectoryEntry → Bool × Text
  | [] => (wroteFile, outArchive)
  | entry :: directory =>
    match entry.regularFile with
    | none => appendEntries outArchive wroteFile directory
    | some fileBytes =>
      appendEntries
        (outArchive ++ archiveEntry (pathToGenericString entry.relativePath) fileBytes) true
        directory

/-- `BuildPackageArchive`: whether a file was written, and the archive. -/
def buildPackageArchive (directory : List DirectoryEntry) : Bool × Text :=
  appendEntries archiveHeaderText false directory

/-! ## Reading -/

/-- The place of the next line feed, among so many bytes. -/
def findLf (bytes : ByteView) : ℕ → ℕ → Guarded (Option ℕ)
  | 0, _ => .ok none
  | remaining + 1, position => do
    let byte ← bytes.byteAt position
    if byte ≠ charLf then findLf bytes remaining (position + 1) else return some position

/-- The end of a line before its line feed: a carriage return there belongs to the ending. -/
def lineEndBefore (bytes : ByteView) (first lf : ℕ) : Guarded ℕ :=
  if lf > first then do
    let last ← bytes.byteAt (lf - 1)
    return if last = charCr then lf - 1 else lf
  else .ok lf

/-- `NextLfByteLine`: the line at the cursor without its ending, and the cursor behind it. -/
def nextLfByteLine (bytes : ByteView) (cursor : ℕ) : Guarded (Option (CopiedRange × ℕ)) :=
  if cursor ≥ bytes.size then .ok none
  else do
    match ← findLf bytes (bytes.size - cursor) cursor with
    | none => return none
    | some lf =>
      let behind ← Guarded.add lf 1
      let lineEnd ← lineEndBefore bytes cursor lf
      let length ← Guarded.sub lineEnd cursor
      let line ← bytes.copyRange cursor length
      return some (line, behind)

/-- `ParseU64`: decimal digits only, of a value that fits. -/
def parseU64 (text : Text) : Option ℕ :=
  if text = [] ∨ ∃ ch ∈ text, ch < 48 ∨ 57 < ch then none
  else
    let value := Nat.ofDigits 10 (text.reverse.map fun ch => ch.toNat - 48)
    if value < 2 ^ 64 then some value else none

/-- `ParseFileHeader`: the relative path and the size of the file. -/
def parseFileHeader (line : Text) : Option (Text × ℕ) :=
  if line.length ≤ archiveFileHeaderPrefix.length ∨
      line.take archiveFileHeaderPrefix.length ≠ archiveFileHeaderPrefix then none
  else
    let body := line.drop archiveFileHeaderPrefix.length
    match body.lastIndexBelow charSpace body.length with
    | none => none
    | some split =>
      if split = 0 ∨ split + 1 ≥ body.length then none
      else
        match parseU64 (body.drop (split + 1)) with
        | none => none
        | some fileSize =>
          let relativePath := body.take split
          if isSafeArchiveRelativePath relativePath then some (relativePath, fileSize) else none

/-- What an extraction leaves: its error, the files, and the paths that were written to. -/
structure Extraction where
  error : Option String
  tree : PackageTree
  written : List Text

/-- The loop of `ExtractCrashArchive`, for at most so many rounds. -/
def extractFiles (platform : Platform) (packageDirectory : Text) (archive : ByteView) :
    ℕ → ℕ → ℕ → PackageTree → List Text → Guarded (Option Extraction)
  | 0, _, _, _, _ => .ok none
  | rounds + 1, cursor, fileCount, tree, written => do
    if cursor < archive.size then
      match ← nextLfByteLine archive cursor with
      | none => return some ⟨some "truncated crash archive file header", tree, written⟩
      | some (line, cursor) =>
        match parseFileHeader line.bytes with
        | none => return some ⟨some "malformed crash archive file header", tree, written⟩
        | some (relativePath, fileSize) =>
          if cursor > archive.size then
            return some ⟨some "truncated crash archive file payload", tree, written⟩
          else
            let remaining ← Guarded.sub archive.size cursor
            if fileSize > remaining then
              return some ⟨some "truncated crash archive file payload", tree, written⟩
            else
              let fileBytes ← archive.slice cursor fileSize
              let written := written ++ [Text.join platform packageDirectory relativePath]
              match tree.writeExtractedFile platform relativePath fileBytes with
              | none =>
                return some
                  ⟨some "failed to write extracted crash package file", tree, written⟩
              | some tree =>
                let cursor ← Guarded.add cursor fileSize
                match ← nextLfByteLine archive cursor with
                | none => return some ⟨some "malformed crash archive file footer", tree, written⟩
                | some (separator, cursor) =>
                  if separator.bytes ≠ [] then
                    return some ⟨some "malformed crash archive file footer", tree, written⟩
                  else
                    match ← nextLfByteLine archive cursor with
                    | none =>
                      return some ⟨some "malformed crash archive file footer", tree, written⟩
                    | some (endMarker, cursor) =>
                      if endMarker.bytes ≠ archiveEntryEndLine then
                        return some ⟨some "malformed crash archive file footer", tree, written⟩
                      else
                        extractFiles platform packageDirectory archive rounds cursor
                          (fileCount + 1) tree written
    else if fileCount = 0 then
      return some ⟨some "crash archive contained no files", tree, written⟩
    else return some ⟨none, tree, written⟩

/-- `ExtractCrashArchive`, into a package directory that it empties first. -/
def extractCrashArchive (platform : Platform) (packageDirectory : Text) (archive : ByteView) :
    Guarded (Option Extraction) := do
  match ← nextLfByteLine archive 0 with
  | none => return some ⟨some "invalid crash archive header", .empty, []⟩
  | some (line, cursor) =>
    if line.bytes ≠ archiveHeaderLine then
      return some ⟨some "invalid crash archive header", .empty, []⟩
    else
      extractFiles platform packageDirectory archive (archive.size + 1) cursor 0 .empty []

end NwbLot.Crash
