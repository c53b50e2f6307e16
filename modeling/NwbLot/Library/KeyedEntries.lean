import Mathlib.Data.List.Sort
import Mathlib.Data.List.Perm.Basic

/-!
# Entries in the order of their keys

Entries with different keys have one order in which the keys increase, whatever order they were
listed in before; and the pairs of two lists are the same whichever list is run through first.
-/

namespace List

variable {κ β : Type}

/-- The keys increase. -/
def KeySorted [LT κ] (entries : List (κ × β)) : Prop :=
  entries.Pairwise fun left right => left.1 < right.1

variable [LE κ] [DecidableLE κ]

/-- The entries by their keys. -/
def sortByKey (entries : List (κ × β)) : List (κ × β) :=
  entries.insertionSort fun left right => left.1 ≤ right.1

lemma perm_sortByKey (entries : List (κ × β)) : entries.sortByKey.Perm entries :=
  perm_insertionSort _ entries

@[simp] lemma mem_sortByKey {entries : List (κ × β)} {entry : κ × β} :
    entry ∈ entries.sortByKey ↔ entry ∈ entries :=
  (perm_sortByKey entries).mem_iff

@[simp] lemma length_sortByKey (entries : List (κ × β)) :
    entries.sortByKey.length = entries.length :=
  (perm_sortByKey entries).length_eq

section Order

variable [LT κ] [Std.IsLinearOrder κ] [Std.LawfulOrderLT κ]

lemma keySorted_sortByKey {entries : List (κ × β)} (h : (entries.map Prod.fst).Nodup) :
    entries.sortByKey.KeySorted := by
  have hle : entries.sortByKey.Pairwise fun left right => left.1 ≤ right.1 := by
    have htotal : Std.Total fun left right : κ × β => left.1 ≤ right.1 :=
      ⟨fun left right => Std.le_total⟩
    have htrans : IsTrans (κ × β) fun left right => left.1 ≤ right.1 :=
      ⟨fun left middle right => Std.le_trans⟩
    exact pairwise_insertionSort _ entries
  have hnodup : (entries.sortByKey.map Prod.fst).Nodup :=
    ((perm_sortByKey entries).map Prod.fst).nodup_iff.2 h
  have hne : entries.sortByKey.Pairwise fun left right => left.1 ≠ right.1 :=
    pairwise_map.1 hnodup
  refine (hle.and hne).imp fun {left right} h => ?_
  exact Std.lt_of_le_of_ne h.1 h.2

omit [DecidableLE κ] in
/-- Two listings of one set of entries by increasing keys are the same. -/
lemma KeySorted.eq_of_mem_iff {left right : List (κ × β)} (hleft : left.KeySorted)
    (hright : right.KeySorted) (h : ∀ entry, entry ∈ left ↔ entry ∈ right) : left = right := by
  have hirrefl : Std.Irrefl fun left right : κ × β => left.1 < right.1 :=
    ⟨fun _ => Std.lt_irrefl⟩
  have hantisymm : Std.Antisymm fun left right : κ × β => left.1 < right.1 :=
    ⟨fun _ _ hlt hgt => absurd (Std.lt_trans hlt hgt) Std.lt_irrefl⟩
  exact Pairwise.eq_of_mem_iff hleft hright h

/-- The listing by increasing keys is what sorting gives. -/
lemma KeySorted.eq_sortByKey {sorted entries : List (κ × β)} (hsorted : sorted.KeySorted)
    (hnodup : (entries.map Prod.fst).Nodup) (h : ∀ entry, entry ∈ sorted ↔ entry ∈ entries) :
    sorted = entries.sortByKey :=
  hsorted.eq_of_mem_iff (keySorted_sortByKey hnodup) fun entry => (h entry).trans mem_sortByKey.symm

lemma KeySorted.sortByKey_eq {entries : List (κ × β)} (h : entries.KeySorted) :
    entries.sortByKey = entries := by
  have hnodup : (entries.map Prod.fst).Nodup :=
    pairwise_map.2 (h.imp fun {_ _} hlt => Std.ne_of_lt hlt)
  exact (h.eq_sortByKey hnodup fun _ => Iff.rfl).symm

end Order

/-! ## Merging -/

section Merge

variable {κ : Type} [LT κ] [DecidableLT κ]

/-- Before each entry of the second list come the entries of the first with smaller keys that have
not come yet. -/
def mergeByKey (pending : List (κ × β)) : List (κ × β) → List (κ × β)
  | [] => pending
  | entry :: entries =>
    pending.filter (fun other => other.1 < entry.1) ++
      entry :: (pending.filter fun other => ¬other.1 < entry.1).mergeByKey entries

lemma mem_mergeByKey {pending entries : List (κ × β)} {entry : κ × β} :
    entry ∈ pending.mergeByKey entries ↔ entry ∈ pending ∨ entry ∈ entries := by
  induction entries generalizing pending with
  | nil =>
    rw [mergeByKey]
    exact (or_iff_left not_mem_nil).symm
  | cons first entries ih =>
    rw [mergeByKey, mem_append, mem_cons, ih, mem_filter, mem_filter, mem_cons]
    by_cases hlt : entry.1 < first.1
    · simp [hlt]
    · simp only [hlt, decide_false, decide_true, not_false_eq_true, and_true, Bool.false_eq_true,
        and_false, false_or]
      exact or_left_comm

lemma KeySorted.mergeByKey [LE κ] [Std.IsLinearOrder κ] [Std.LawfulOrderLT κ]
    {pending entries : List (κ × β)} (hpending : pending.KeySorted) (hentries : entries.KeySorted)
    (hdisjoint : ∀ other ∈ pending, ∀ entry ∈ entries, other.1 ≠ entry.1) :
    (pending.mergeByKey entries).KeySorted := by
  induction entries generalizing pending with
  | nil => exact hpending
  | cons first entries ih =>
    obtain ⟨hfirst, hentries⟩ := pairwise_cons.1 hentries
    have hrest : ((pending.filter fun other => ¬other.1 < first.1).mergeByKey entries).KeySorted :=
      ih (hpending.filter _) hentries fun other hother entry hentry =>
        hdisjoint other (mem_of_mem_filter hother) entry (mem_cons_of_mem _ hentry)
    have hafter : ∀ entry ∈ (pending.filter fun other => ¬other.1 < first.1).mergeByKey entries,
        first.1 < entry.1 := by
      intro entry hentry
      rcases mem_mergeByKey.1 hentry with hentry | hentry
      · obtain ⟨hmem, hge⟩ := mem_filter.1 hentry
        have hle : first.1 ≤ entry.1 := Std.not_lt.1 (of_decide_eq_true hge)
        exact Std.lt_of_le_of_ne hle (hdisjoint entry hmem first mem_cons_self).symm
      · exact hfirst entry hentry
    refine pairwise_append.2 ⟨hpending.filter _, pairwise_cons.2 ⟨hafter, hrest⟩, ?_⟩
    intro other hother entry hentry
    have hlt : other.1 < first.1 := of_decide_eq_true (mem_filter.1 hother).2
    rcases mem_cons.1 hentry with rfl | hentry
    · exact hlt
    · exact Std.lt_trans hlt (hafter entry hentry)

end Merge

/-- Which of two nested loops is the outer one does not matter but for the order. -/
lemma flatMap_map_perm_swap {α γ : Type} (f : α → β → γ) (left : List α) (right : List β) :
    (left.flatMap fun a => right.map (f a)).Perm (right.flatMap fun b => left.map (f · b)) := by
  induction left with
  | nil => simp
  | cons a left ih =>
    rw [flatMap_cons]
    exact (ih.append_left _).trans (map_append_flatMap_perm right (f a) fun b => left.map (f · b))

end List
