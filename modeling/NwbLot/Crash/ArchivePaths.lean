import NwbLot.Library.TextSegments
import Mathlib.Data.UInt

/-!
# Paths of a crash archive

`IsSafeArchiveRelativePath`, and the paths below a directory that a relative path names.

Text is a list of bytes, as it stands in the archive.  On Windows the source holds paths in 16-bit
units.  Its operations on paths copy units and compare them with each other and with ASCII
characters, and do nothing else with them, so that the width of a unit changes no result.
-/

namespace NwbLot.Crash

/-- The units of a text, in order. -/
abbrev Text := List UInt8

/-- The bytes of a text of the source. -/
def ascii (text : String) : Text := text.toList.map fun ch => UInt8.ofNat ch.toNat

def charSlash : UInt8 := 47
def charBackslash : UInt8 := 92
def charColon : UInt8 := 58
def charSpace : UInt8 := 32
def charLf : UInt8 := 10
def charCr : UInt8 := 13

/-- The first character that is no control character. -/
def minSafeArchivePathCharacter : UInt8 := 0x20

/-- Either slash. -/
def isArchivePathSeparator (ch : UInt8) : Bool := ch == charSlash || ch == charBackslash

/-- A name that stands for an entry of its directory. -/
def ProperComponent (segment : Text) : Prop :=
  segment ≠ [] ∧ segment ≠ ascii "." ∧ segment ≠ ascii ".."

instance (segment : Text) : Decidable (ProperComponent segment) := by
  unfold ProperComponent
  infer_instance

/-- The loop of `IsSafeArchiveRelativePath`: the characters that remain, behind those of the
segment so far. -/
def safeSegments : Text → Text → Bool
  | [], segment => decide (ProperComponent segment)
  | ch :: rest, segment =>
    if ch < minSafeArchivePathCharacter ∨ ch = charColon then false
    else if isArchivePathSeparator ch = false then safeSegments rest (segment ++ [ch])
    else if ProperComponent segment then safeSegments rest []
    else false

/-- `IsSafeArchiveRelativePath`. -/
def isSafeArchiveRelativePath (pathText : Text) : Bool :=
  match pathText with
  | [] => false
  | front :: _ => if isArchivePathSeparator front then false else safeSegments pathText []

/-! ## What a safe path is made of -/

lemma safeSegments_eq_true_iff {text segment : Text} :
    safeSegments text segment = true ↔
      (∀ ch ∈ text, ¬ch < minSafeArchivePathCharacter ∧ ch ≠ charColon) ∧
        ∀ part ∈ (text.splitOnP isArchivePathSeparator).modifyHead (segment ++ ·),
          ProperComponent part := by
  induction text generalizing segment with
  | nil =>
    rw [safeSegments, decide_eq_true_iff]
    constructor
    · intro h
      refine ⟨fun ch hch => absurd hch List.not_mem_nil, fun part hpart => ?_⟩
      rw [List.mem_singleton.1 hpart]
      show ProperComponent (segment ++ [])
      rw [List.append_nil]
      exact h
    · rintro ⟨-, h⟩
      have hpart := h (segment ++ []) List.mem_cons_self
      rwa [List.append_nil] at hpart
  | cons ch rest ih =>
    have hforall : (∀ other ∈ ch :: rest,
        ¬other < minSafeArchivePathCharacter ∧ other ≠ charColon) ↔
        (¬ch < minSafeArchivePathCharacter ∧ ch ≠ charColon) ∧
          ∀ other ∈ rest, ¬other < minSafeArchivePathCharacter ∧ other ≠ charColon :=
      List.forall_mem_cons
    obtain ⟨head, tail, hsplit⟩ := List.exists_splitOnP_cons isArchivePathSeparator rest
    rw [safeSegments, hforall]
    split_ifs with hrefused hordinary hproper
    · rw [← not_or]
      exact iff_of_false not_false fun h => h.1.1 hrefused
    · rw [not_or] at hrefused
      rw [ih, List.splitOnP_cons_of_neg hordinary hsplit, hsplit]
      show _ ∧ (∀ part ∈ (segment ++ [ch] ++ head) :: tail, _) ↔
        _ ∧ ∀ part ∈ (segment ++ ch :: head) :: tail, _
      rw [List.append_assoc, List.singleton_append]
      exact ⟨fun h => ⟨⟨hrefused, h.1⟩, h.2⟩, fun h => ⟨h.1.2, h.2⟩⟩
    · rw [not_or] at hrefused
      rw [ih, List.splitOnP_cons_of_pos (Bool.not_eq_false _ ▸ hordinary), hsplit]
      show _ ∧ (∀ part ∈ ([] ++ head) :: tail, _) ↔
        _ ∧ ∀ part ∈ (segment ++ []) :: head :: tail, _
      rw [List.nil_append, List.append_nil]
      exact ⟨fun h => ⟨⟨hrefused, h.1⟩, List.forall_mem_cons.2 ⟨hproper, h.2⟩⟩,
        fun h => ⟨h.1.2, (List.forall_mem_cons.1 h.2).2⟩⟩
    · refine iff_of_false not_false fun h => hproper ?_
      rw [List.splitOnP_cons_of_pos (Bool.not_eq_false _ ▸ hordinary)] at h
      have hpart := h.2 (segment ++ []) List.mem_cons_self
      rwa [List.append_nil] at hpart

variable {pathText : Text}

/-- A safe path is a sequence of proper components of safe characters. -/
theorem isSafeArchiveRelativePath_iff :
    isSafeArchiveRelativePath pathText = true ↔
      (∀ ch ∈ pathText, ¬ch < minSafeArchivePathCharacter ∧ ch ≠ charColon) ∧
        ∀ part ∈ pathText.splitOnP isArchivePathSeparator, ProperComponent part := by
  cases pathText with
  | nil =>
    refine iff_of_false Bool.false_ne_true fun h => ?_
    exact (h.2 [] List.mem_cons_self).1 rfl
  | cons front rest =>
    obtain ⟨head, tail, hsplit⟩ :=
      List.exists_splitOnP_cons isArchivePathSeparator (front :: rest)
    rw [isSafeArchiveRelativePath]
    split_ifs with hfront
    · refine iff_of_false not_false fun h => ?_
      rw [List.splitOnP_cons_of_pos hfront] at h
      exact (h.2 [] List.mem_cons_self).1 rfl
    · rw [safeSegments_eq_true_iff, hsplit]
      exact Iff.rfl

/-! ## Paths of a platform -/

/-- Windows, or any other platform. -/
inductive Platform
  | windows | other
  deriving DecidableEq, Repr

/-- `GlobalFilesystemPathDetail::IsSeparator`. -/
def isSeparator (platform : Platform) (ch : UInt8) : Bool :=
  ch == charSlash || (platform == .windows && ch == charBackslash)

/-- `RootNameLength`. -/
def rootNameLength (platform : Platform) (text : Text) : ℕ :=
  if platform = .windows ∧ text[1]? = some charColon then 2 else 0

/-- `RootDirectoryLength`. -/
def rootDirectoryLength (platform : Platform) (text : Text) : ℕ :=
  if (text[rootNameLength platform text]?).any (isSeparator platform) then
    rootNameLength platform text + 1
  else 0

/-- `Path::is_absolute`. -/
def isAbsolute (platform : Platform) (text : Text) : Bool :=
  (platform == .windows && rootNameLength platform text != 0 &&
      decide (rootDirectoryLength platform text > rootNameLength platform text)) ||
    (text.head?).any (isSeparator platform)

/-- The separator that is written. -/
def preferredSeparator : Platform → UInt8
  | .windows => charBackslash
  | .other => charSlash

/-- `Path::appendComponent`. -/
def appendComponent (platform : Platform) (text component : Text) : Text :=
  if component = [] then text
  else if text ≠ [] ∧ (text.getLast?).any (isSeparator platform) = false then
    if platform = .windows ∧ text.length = rootNameLength platform text then text ++ component
    else text ++ [preferredSeparator platform] ++ component
  else text ++ component

/-- `Path::operator/`. -/
def Text.join (platform : Platform) (lhs rhs : Text) : Text :=
  if rhs = [] then lhs
  else if isAbsolute platform rhs then rhs
  else appendComponent platform lhs rhs

/-- The components of a relative path, as its iterator finds them. -/
def components (platform : Platform) (text : Text) : List Text :=
  (text.splitOnP (isSeparator platform)).filter (· ≠ [])

variable {platform : Platform}

/-- A safe path has the segments that a platform gives it as its components. -/
lemma properComponent_of_mem_splitOnP (h : isSafeArchiveRelativePath pathText = true) {part : Text}
    (hpart : part ∈ pathText.splitOnP (isSeparator platform)) : ProperComponent part := by
  obtain ⟨-, hparts⟩ := isSafeArchiveRelativePath_iff.1 h
  have hcoarser : ∀ ch, isSeparator platform ch = true → isArchivePathSeparator ch = true := by
    intro ch hch
    rw [isSeparator, Bool.or_eq_true, Bool.and_eq_true] at hch
    rw [isArchivePathSeparator, Bool.or_eq_true]
    exact hch.imp_right And.right
  have hfree : ∀ text : Text, text = [] ∨ text = ascii "." ∨ text = ascii ".." →
      ∀ ch ∈ text, isArchivePathSeparator ch = false := by
    have hdot : isArchivePathSeparator 46 = false := by decide
    rintro text (rfl | rfl | rfl) ch hch
    · cases hch
    · obtain rfl : ch = 46 := by simpa [ascii] using hch
      exact hdot
    · obtain rfl : ch = 46 := by simpa [ascii] using hch
      exact hdot
  by_contra himproper
  have hcases : part = [] ∨ part = ascii "." ∨ part = ascii ".." := by
    rw [ProperComponent, ← not_or, ← not_or, not_not] at himproper
    exact himproper
  exact himproper
    (hparts part (List.mem_splitOnP_of_coarser hcoarser hpart (hfree part hcases)))

lemma components_eq (h : isSafeArchiveRelativePath pathText = true) :
    components platform pathText = pathText.splitOnP (isSeparator platform) := by
  refine List.filter_eq_self.2 fun part hpart => decide_eq_true ?_
  exact (properComponent_of_mem_splitOnP h hpart).1

/-- Behind a directory, a safe path is appended, with at most a separator in between. -/
lemma join_eq (directory : Text) (h : isSafeArchiveRelativePath pathText = true) :
    Text.join platform directory pathText = directory ++ pathText ∨
      Text.join platform directory pathText =
        directory ++ [preferredSeparator platform] ++ pathText := by
  obtain ⟨hcharacters, hparts⟩ := isSafeArchiveRelativePath_iff.1 h
  have hnonempty : pathText ≠ [] := by
    rintro rfl
    exact (hparts [] List.mem_cons_self).1 rfl
  have hroot : rootNameLength platform pathText = 0 := by
    refine if_neg fun hroot => ?_
    exact (hcharacters charColon (List.mem_of_getElem? hroot.2)).2 rfl
  have hhead : (pathText.head?).any (isSeparator platform) = false := by
    cases pathText with
    | nil => rfl
    | cons front rest =>
      by_contra hfront
      have hseparator : isSeparator platform front = true := Bool.not_eq_false _ ▸ hfront
      have hmem : [] ∈ (front :: rest).splitOnP (isSeparator platform) := by
        rw [List.splitOnP_cons_of_pos hseparator]
        exact List.mem_cons_self
      exact (properComponent_of_mem_splitOnP h hmem).1 rfl
  have habsolute : isAbsolute platform pathText = false := by
    rw [isAbsolute, hroot, hhead]
    simp
  rw [Text.join, if_neg hnonempty, habsolute, if_neg Bool.false_ne_true, appendComponent,
    if_neg hnonempty]
  split_ifs
  · exact .inl rfl
  · exact .inr rfl
  · exact .inl rfl

lemma components_eq_splitOn {text : Text} (h : isSafeArchiveRelativePath text = true)
    (hgeneric : charBackslash ∉ text) :
    components platform text = text.splitOn charSlash := by
  rw [components_eq h]
  refine List.splitOnP_eq_splitOn fun ch hch => ?_
  have hne : ch ≠ charBackslash := fun heq => hgeneric (heq ▸ hch)
  rw [isSeparator, Bool.or_eq_true, Bool.and_eq_true, beq_iff_eq, beq_iff_eq]
  exact ⟨fun h => h.resolve_right fun h => hne (beq_iff_eq.1 h.2), .inl⟩

/-- Of two names without a backslash, the components of one start with those of the other only
when it is the same name or the name of a directory above. -/
lemma eq_or_prefix_of_components {left right : Text} (hleft : isSafeArchiveRelativePath left = true)
    (hright : isSafeArchiveRelativePath right = true) (hleft' : charBackslash ∉ left)
    (hright' : charBackslash ∉ right) (h : components platform left <+: components platform right) :
    left = right ∨ left ++ [charSlash] <+: right := by
  rw [components_eq_splitOn hleft hleft', components_eq_splitOn hright hright'] at h
  obtain ⟨rest, hrest⟩ := h
  have hjoin := congrArg [charSlash].intercalate hrest
  rw [List.intercalate_splitOn] at hjoin
  by_cases hnil : rest = []
  · rw [hnil, List.append_nil, List.intercalate_splitOn] at hjoin
    exact .inl hjoin
  · rw [List.intercalate_append (List.splitOn_ne_nil _ _) hnil, List.intercalate_splitOn] at hjoin
    refine .inr ⟨[charSlash].intercalate rest, ?_⟩
    rw [← hjoin, List.append_assoc]
    rfl

end NwbLot.Crash
