import Mathlib.Data.List.Chain
import NwbLot.Filesystem.Normalization

/-!
# The form of a path

Every path has a form, in which `..` stands in front of the names only; normalisation writes it out.

`Plain` is what normalisation asks of a text: on Windows no name behind the root has a colon in
its first two places.  `Reduced` is what it makes of the form, so doing it twice changes nothing.
-/

namespace NwbLot.Filesystem

open Crash (Text Platform ascii charColon charSlash isSeparator preferredSeparator rootNameLength
  rootDirectoryLength isAbsolute appendComponent components)

namespace PathForm

/-- The root of a path. -/
def start (platform : Platform) (text : Text) : PathForm where
  drive := text.take (rootNameLength platform text)
  rooted := decide (rootDirectoryLength platform text > rootNameLength platform text)
  names := []

/-- The components behind the root. -/
def namesOf (platform : Platform) (text : Text) : List Text :=
  components platform (text.drop (rootLength platform text))

end PathForm

/-- A path whose drive, where it has one, is a letter and a colon, and whose names are taken for no
drive. -/
structure Plain (platform : Platform) (text : Text) : Prop where
  drive : rootNameLength platform text ≠ 0 → (text.head?).any (isSeparator platform) = false
  names : ∀ name ∈ PathForm.namesOf platform text, NoDrive platform name

instance (platform : Platform) (text : Text) : Decidable (Plain platform text) :=
  decidable_of_iff
    ((rootNameLength platform text ≠ 0 → (text.head?).any (isSeparator platform) = false) ∧
      ∀ name ∈ PathForm.namesOf platform text, NoDrive platform name)
    ⟨fun h => ⟨h.1, h.2⟩, fun h => ⟨h.drive, h.names⟩⟩

namespace PathForm

section Start

variable {platform : Platform} {text : Text}

lemma rootNameLength_cases (platform : Platform) (text : Text) :
    rootNameLength platform text = 0 ∨
      platform = .windows ∧ rootNameLength platform text = 2 ∧
        ∃ letter rest, text = letter :: charColon :: rest := by
  rw [rootNameLength]
  split
  · next h =>
    refine Or.inr ⟨h.1, rfl, ?_⟩
    match text, h.2 with
    | letter :: second :: rest, hsecond =>
      obtain rfl : second = charColon := Option.some.inj hsecond
      exact ⟨letter, rest, rfl⟩
  · exact Or.inl rfl

end Start

/-! ## Normalisation -/

section Normal

variable {platform : Platform} {text : Text}

end Normal

/-! ## Reduced forms -/

/-- `..` stands in front only, and not behind a root directory. -/
structure Reduced (platform : Platform) (form : PathForm) : Prop where
  drive : ProperDrive platform form.drive
  plain : ∀ name ∈ form.names, PlainName platform name
  noDot : dot ∉ form.names
  front : form.names.IsChain fun left right => right = dotDot → left = dotDot
  rooted : form.rooted = true → dotDot ∉ form.names

section Reduced

variable {platform : Platform} {form : PathForm}

lemma Reduced.proper (h : form.Reduced platform) : form.Proper platform where
  drive := h.drive
  names := fun name hmem => (h.plain name hmem).toPathName
  noDrive := fun _ name hname => (h.plain name (List.mem_of_mem_head? hname)).noDrive

lemma Reduced.pop (h : form.Reduced platform) : form.pop.Reduced platform where
  drive := h.proper.pop.drive
  plain := fun name hmem => h.plain name (List.mem_of_mem_dropLast hmem)
  noDot := fun hmem => h.noDot (List.mem_of_mem_dropLast hmem)
  front := h.front.prefix (List.dropLast_prefix form.names)
  rooted := fun hrooted hmem => h.rooted hrooted (List.mem_of_mem_dropLast hmem)

lemma Reduced.snoc (h : form.Reduced platform) {name : Text} (hname : PlainName platform name)
    (hdot : name ≠ dot) (hup : name = dotDot →
      form.rooted = false ∧ ∀ last, form.names.getLast? = some last → last = dotDot) :
    (form.snoc name).Reduced platform where
  drive := h.drive
  plain := by
    intro other hmem
    rcases List.mem_append.1 hmem with hold | hnew
    · exact h.plain other hold
    · exact List.mem_singleton.1 hnew ▸ hname
  noDot := by
    intro hmem
    rcases List.mem_append.1 hmem with hold | hnew
    · exact h.noDot hold
    · exact hdot (List.mem_singleton.1 hnew).symm
  front := by
    refine List.isChain_append.2 ⟨h.front, List.isChain_singleton _, ?_⟩
    intro left hleft right hright hname'
    rw [List.head?_singleton, Option.mem_some_iff] at hright
    exact (hup (hright.trans hname')).2 left hleft
  rooted := by
    intro hrooted hmem
    rcases List.mem_append.1 hmem with hold | hnew
    · exact h.rooted hrooted hold
    · rw [snoc_rooted, (hup (List.mem_singleton.1 hnew).symm).1] at hrooted
      cases hrooted

lemma Reduced.step (h : form.Reduced platform) {component : Text}
    (hcomponent : PlainName platform component) : (form.step component).Reduced platform := by
  unfold PathForm.step
  split_ifs with hdot hup hlast hrooted
  · exact h
  · exact h.pop
  · exact h
  · refine h.snoc (plainName_dotDot platform) (by decide)
      fun _ => ⟨Bool.not_eq_true _ ▸ hrooted, fun last hlast' => ?_⟩
    by_contra hne
    refine hlast ⟨fun hnil => ?_, fun heq => hne ?_⟩
    · rw [hnil] at hlast'
      cases hlast'
    · rw [hlast'] at heq
      exact Option.some.inj heq
  · exact h.snoc hcomponent hdot fun heq => absurd heq hup

lemma Reduced.foldl (h : form.Reduced platform) {names : List Text}
    (hnames : ∀ name ∈ names, PlainName platform name) :
    (names.foldl PathForm.step form).Reduced platform := by
  induction names generalizing form with
  | nil => exact h
  | cons name names ih =>
    obtain ⟨hname, hrest⟩ := List.forall_mem_cons.1 hnames
    exact ih (h.step hname) hrest

end Reduced

end PathForm

end NwbLot.Filesystem
