import NwbLot.Filesystem.LexicalPaths

/-!
# Path forms

A path as its drive, its root directory and its names.  On the text of a form the lexical
operations act on the list of names.

`Proper` forms are those that their texts show: the drive is one, no name holds a separator, and
without a drive the first name is not taken for one.
-/

namespace NwbLot.Filesystem

open Crash (Text Platform ascii charColon charSlash isSeparator preferredSeparator rootNameLength
  rootDirectoryLength isAbsolute appendComponent components)

/-! ## Names -/

/-- A component behind the root. -/
structure PathName (platform : Platform) (name : Text) : Prop where
  ne_nil : name ≠ []
  noSeparator : ∀ ch ∈ name, isSeparator platform ch = false

/-- A text that can follow a root without being taken for a drive: its first two characters are no
colons. -/
structure NoDrive (platform : Platform) (text : Text) : Prop where
  first : platform = .windows → text[0]? ≠ some charColon
  second : platform = .windows → text[1]? ≠ some charColon

instance (platform : Platform) (text : Text) : Decidable (NoDrive platform text) :=
  decidable_of_iff ((platform = .windows → text[0]? ≠ some charColon) ∧
    (platform = .windows → text[1]? ≠ some charColon))
    ⟨fun h => ⟨h.1, h.2⟩, fun h => ⟨h.first, h.second⟩⟩

/-- A name that Windows takes for no drive. -/
structure PlainName (platform : Platform) (name : Text) : Prop extends PathName platform name where
  noDrive : NoDrive platform name

lemma isSeparator_preferredSeparator (platform : Platform) :
    isSeparator platform (preferredSeparator platform) = true := by
  cases platform <;> rfl

lemma isSeparator_charColon (platform : Platform) : isSeparator platform charColon = false := by
  cases platform <;> rfl

/-- A name of dots only. -/
lemma plainName_replicate (platform : Platform) (count : ℕ) :
    PlainName platform (List.replicate (count + 1) 46) where
  ne_nil := List.cons_ne_nil _ _
  noSeparator := by
    intro ch hch
    rw [List.eq_of_mem_replicate hch]
    cases platform <;> rfl
  noDrive := by
    have hat : ∀ i : ℕ, (List.replicate (count + 1) (46 : UInt8))[i]? ≠ some charColon :=
      fun i hcolon => absurd (List.eq_of_mem_replicate (List.mem_of_getElem? hcolon)) (by decide)
    exact ⟨fun _ => hat 0, fun _ => hat 1⟩

lemma plainName_dotDot (platform : Platform) : PlainName platform dotDot :=
  plainName_replicate platform 1

lemma PathName.components_eq {platform : Platform} {name : Text} (h : PathName platform name) :
    components platform name = [name] := by
  rw [components, List.splitOnP_eq_singleton h.noSeparator, List.filter_singleton,
    decide_eq_true h.ne_nil]
  rfl

/-- A drive, a root directory and names. -/
structure PathForm where
  drive : Text
  rooted : Bool
  names : List Text

namespace PathForm

variable (platform : Platform) (form : PathForm)

/-- The text in front of the names. -/
def root : Text := form.drive ++ if form.rooted then [preferredSeparator platform] else []

/-- The text of the form. -/
def text : Text := form.root platform ++ [preferredSeparator platform].intercalate form.names

/-- The text in front of one more name. -/
def place : Text :=
  form.text platform ++ if form.names = [] then [] else [preferredSeparator platform]

/-- One more name. -/
def snoc (name : Text) : PathForm := { form with names := form.names ++ [name] }

/-- The form without its last name; a drive without a root directory goes with its only name. -/
def pop : PathForm where
  drive := if form.rooted = true ∨ form.names.length > 1 then form.drive else []
  rooted := form.rooted
  names := form.names.dropLast

variable {form} in
@[simp] lemma snoc_rooted (name : Text) : (form.snoc name).rooted = form.rooted := rfl

/-- A drive is a letter and a colon, and only Windows has any. -/
structure ProperDrive (drive : Text) : Prop where
  of_ne_nil : drive ≠ [] → platform = .windows ∧ ∃ letter, drive = [letter, charColon] ∧
    isSeparator platform letter = false

/-- A form that its text shows: what stands in front of the names is not taken for a drive. -/
structure Proper : Prop where
  drive : ProperDrive platform form.drive
  names : ∀ name ∈ form.names, PathName platform name
  noDrive : form.drive = [] → ∀ name ∈ form.names.head?, NoDrive platform name

variable {platform form}

lemma Proper.snoc (h : form.Proper platform) {name : Text} (hname : PathName platform name)
    (hfirst : form.names ≠ [] ∨ NoDrive platform name) : (form.snoc name).Proper platform where
  drive := h.drive
  names := by
    intro other hmem
    rcases List.mem_append.1 hmem with hold | hnew
    · exact h.names other hold
    · exact List.mem_singleton.1 hnew ▸ hname
  noDrive := by
    intro hdrive other hother
    rw [PathForm.snoc] at hother
    by_cases hnames : form.names = []
    · rw [hnames, List.nil_append, List.head?_singleton, Option.mem_some_iff] at hother
      exact hother ▸ hfirst.resolve_left (not_not.2 hnames)
    · rw [List.head?_append_of_ne_nil _ hnames] at hother
      exact h.noDrive hdrive other hother

lemma Proper.pop (h : form.Proper platform) : form.pop.Proper platform where
  drive := by
    refine ⟨fun hne => ?_⟩
    unfold PathForm.pop at hne ⊢
    dsimp only at hne ⊢
    split at hne
    · next hkept =>
      rw [if_pos hkept]
      exact h.drive.of_ne_nil hne
    · exact absurd rfl hne
  names := fun name hmem => h.names name (List.mem_of_mem_dropLast hmem)
  noDrive := by
    intro hdrive name hname
    unfold PathForm.pop at hdrive hname
    dsimp only at hdrive hname
    split at hdrive
    · refine h.noDrive hdrive name ?_
      cases hnames : form.names with
      | nil =>
        rw [hnames] at hname
        cases hname
      | cons first rest =>
        rw [hnames] at hname
        cases rest with
        | nil => cases hname
        | cons second rest => exact hname
    · next hlost =>
      have hshort : form.names.length ≤ 1 := Nat.le_of_not_lt fun hlt => hlost (Or.inr hlt)
      have hnil : form.names.dropLast = [] := by
        rw [List.eq_nil_iff_length_eq_zero, List.length_dropLast]
        omega
      rw [hnil] at hname
      cases hname

end PathForm

end NwbLot.Filesystem
