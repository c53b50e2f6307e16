import NwbLot.Filesystem.ReducedForms

/-!
# Relative paths

The relative path climbs once for each component of the base that is not common and goes on with
the rest of the path; behind the base its components follow those of the base.
-/

namespace NwbLot.Filesystem

open Crash (Text Platform ascii charColon charSlash isSeparator preferredSeparator rootNameLength
  rootDirectoryLength isAbsolute appendComponent components)

/-! ## What two lists have in common -/

namespace PathForm

variable {platform : Platform} {form : PathForm}

/-! ## Written lists of components -/

/-- The components of a normal path. -/
def listed (platform : Platform) (form : PathForm) : List Text :=
  if form.text platform = [] then [dot]
  else (if form.root platform = [] then [] else [form.root platform]) ++ form.names

/-- A text that another path can be continued with. -/
structure Continues (platform : Platform) (text : Text) : Prop extends NoDrive platform text where
  ne_nil : text ≠ []
  head : (text.head?).any (isSeparator platform) = false

lemma rootNameLength_le_length (platform : Platform) (text : Text) :
    rootNameLength platform text ≤ text.length := by
  rcases rootNameLength_cases platform text with hzero | ⟨-, htwo, letter, rest, rfl⟩
  · omega
  · rw [htwo]
    simp

/-- What stands between a base and a text that is appended to it. -/
structure Between (platform : Platform) (base middle : Text) : Prop where
  cases : middle = [preferredSeparator platform] ∧
      rootNameLength platform base < base.length ∨
    middle = [] ∧ (base.length = rootNameLength platform base ∨
      (base.getLast?).any (isSeparator platform) = true)

lemma Continues.between {text : Text} (h : Continues platform text) (base : Text) :
    ∃ middle, appendComponent platform base text = base ++ (middle ++ text) ∧
      Between platform base middle := by
  have hle := rootNameLength_le_length platform base
  rw [appendComponent, if_neg h.ne_nil]
  split
  · next hopen =>
    split
    · next hdrive => exact ⟨[], rfl, ⟨Or.inr ⟨rfl, Or.inl hdrive.2⟩⟩⟩
    · next hlong =>
      refine ⟨_, List.append_assoc _ _ _, ⟨Or.inl ⟨rfl, Nat.lt_of_le_of_ne hle fun heq => ?_⟩⟩⟩
      rcases rootNameLength_cases platform base with hzero | ⟨hwindows, -, -⟩
      · exact hopen.1 (List.length_eq_zero_iff.1 (heq.symm.trans hzero))
      · exact hlong ⟨hwindows, heq.symm⟩
  · next hclosed =>
    refine ⟨[], rfl, ⟨Or.inr ⟨rfl, ?_⟩⟩⟩
    by_cases hbase : base = []
    · have hzero : base.length = 0 := List.length_eq_zero_iff.2 hbase
      exact Or.inl (by omega)
    · exact Or.inr (Bool.not_eq_false _ ▸ fun hopen => hclosed ⟨hbase, hopen⟩)

section Between

variable {text base middle : Text} (h : Continues platform text)
  (hmiddle : Between platform base middle)
include h hmiddle

/-- The second character is that of the base, or no colon. -/
lemma Continues.rootNameLength_eq :
    rootNameLength platform (base ++ (middle ++ text)) = rootNameLength platform base := by
  have hseparator := isSeparator_preferredSeparator platform
  have hsecond : platform = .windows → ((base ++ (middle ++ text))[1]? = some charColon ↔
      base[1]? = some charColon) := by
    intro hwindows
    rcases Nat.lt_or_ge 1 base.length with hlong | hshort
    · rw [List.getElem?_append_left hlong]
    rw [List.getElem?_eq_none hshort, List.getElem?_append_right hshort]
    refine iff_of_false (fun hcolon => ?_) (by simp)
    rcases hmiddle.cases with ⟨rfl, -⟩ | ⟨rfl, -⟩
    · rcases Nat.lt_or_ge (1 - base.length) 1 with hzero | hone
      · rw [Nat.lt_one_iff.1 hzero, List.cons_append, List.getElem?_cons_zero,
          Option.some.injEq] at hcolon
        rw [hcolon, isSeparator_charColon] at hseparator
        cases hseparator
      · have hindex : 1 - base.length = 0 + 1 := by omega
        rw [hindex, List.cons_append, List.getElem?_cons_succ] at hcolon
        exact h.first hwindows hcolon
    · rw [List.nil_append] at hcolon
      rcases Nat.lt_or_ge (1 - base.length) 1 with hzero | hone
      · rw [Nat.lt_one_iff.1 hzero] at hcolon
        exact h.first hwindows hcolon
      · have hindex : 1 - base.length = 1 := by omega
        rw [hindex] at hcolon
        exact h.second hwindows hcolon
  rw [rootNameLength, rootNameLength]
  by_cases hwindows : platform = .windows
  · simp only [hwindows, hsecond hwindows, true_and]
  · rw [if_neg fun hroot => hwindows hroot.1, if_neg fun hroot => hwindows hroot.1]

lemma Continues.rootDirectoryLength_eq :
    rootDirectoryLength platform (base ++ (middle ++ text))
      = rootDirectoryLength platform base := by
  rw [rootDirectoryLength, rootDirectoryLength, h.rootNameLength_eq hmiddle]
  have hle := rootNameLength_le_length platform base
  rcases Nat.lt_or_eq_of_le hle with hlt | heq
  · rw [List.getElem?_append_left hlt]
  · have hempty : middle = [] := by
      rcases hmiddle.cases with ⟨-, hlong⟩ | ⟨hempty, -⟩
      · omega
      · exact hempty
    rw [List.getElem?_append_right (Nat.le_of_eq heq.symm), heq, Nat.sub_self, hempty,
      List.nil_append, ← List.head?_eq_getElem?, h.head,
      List.getElem?_eq_none (Nat.le_refl _)]
    rfl

lemma Continues.start_eq : start platform (base ++ (middle ++ text)) = start platform base := by
  rw [start, start, h.rootNameLength_eq hmiddle, h.rootDirectoryLength_eq hmiddle,
    List.take_append_of_le_length (rootNameLength_le_length platform base)]

end Between

end PathForm

end NwbLot.Filesystem
