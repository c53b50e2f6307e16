import Mathlib.Data.Option.Basic
import Mathlib.Order.Lattice
import Mathlib.Data.List.Basic
import Mathlib.Tactic.Lemma

/-!
# Searches in lists

The search of `std::lower_bound`: the place of the first value that is not below, in a list that
has every value below in front of every other.
-/

namespace List

variable {α κ : Type*}

/-- The search among `count` places from the first on; the half that cannot hold the answer goes. -/
def lowerBoundFrom (below : ℕ → Bool) (first count : ℕ) : ℕ :=
  if h : count = 0 then first
  else if below (first + count / 2) then
    lowerBoundFrom below (first + count / 2 + 1) (count - count / 2 - 1)
  else lowerBoundFrom below first (count / 2)
termination_by count
decreasing_by all_goals omega

/-- The place of the first value that is not below. -/
def lowerBound (below : α → Bool) (values : List α) : ℕ :=
  lowerBoundFrom (fun place => values[place]?.any below) 0 values.length

/-- A place that splits a stretch into what is below and what is not. -/
structure Splits (below : ℕ → Bool) (first count place : ℕ) : Prop where
  le : first ≤ place
  le_end : place ≤ first + count
  before : ∀ i, first ≤ i → i < place → below i = true
  behind : ∀ i, place ≤ i → i < first + count → below i = false

lemma splits_lowerBoundFrom {below : ℕ → Bool} {first count : ℕ}
    (h : ∀ i j, first ≤ i → i ≤ j → j < first + count → below j = true → below i = true) :
    Splits below first count (lowerBoundFrom below first count) := by
  fun_induction lowerBoundFrom below first count with
  | case1 first =>
    exact ⟨Nat.le_refl _, Nat.le_add_right _ _, fun i hle hlt => absurd hlt (by omega),
      fun i hle hlt => absurd hlt (by omega)⟩
  | case2 first count hcount hbelow ih =>
    obtain ⟨hle, hend, hbefore, hbehind⟩ :=
      ih fun i j hi hij hj => h i j (by omega) hij (by omega)
    refine ⟨by omega, by omega, fun i hi hlt => ?_, fun i hi hlt => hbehind i hi (by omega)⟩
    rcases Nat.lt_or_ge (first + count / 2) i with hright | hleft
    · exact hbefore i (by omega) hlt
    · exact h i _ hi hleft (by omega) hbelow
  | case3 first count hcount hbelow ih =>
    obtain ⟨hle, hend, hbefore, hbehind⟩ :=
      ih fun i j hi hij hj => h i j hi hij (by omega)
    refine ⟨hle, by omega, hbefore, fun i hi hlt => ?_⟩
    rcases Nat.lt_or_ge i (first + count / 2) with hleft | hright
    · exact hbehind i hi hleft
    · refine eq_false_of_ne_true fun hyes => hbelow ?_
      exact h _ i (by omega) hright hlt hyes

variable [LinearOrder κ]

/-- In a list by increasing keys the search for a key ends where a scan for it would. -/
theorem getElem?_lowerBound_eq_find? {key : α → κ} {values : List α}
    (hsorted : values.Pairwise fun left right => key left < key right) (target : κ) :
    (values[values.lowerBound fun value => key value < target]?).filter (key · = target)
      = values.find? (key · = target) := by
  have hmono : ∀ i j, 0 ≤ i → i ≤ j → j < 0 + values.length →
      values[j]?.any (fun value => key value < target) = true →
        values[i]?.any (fun value => key value < target) = true := by
    intro i j _ hij hj hbelow
    rw [Nat.zero_add] at hj
    have hi := Nat.lt_of_le_of_lt hij hj
    rw [getElem?_eq_getElem hj, Option.any_some, decide_eq_true_eq] at hbelow
    rw [getElem?_eq_getElem hi, Option.any_some, decide_eq_true_eq]
    rcases Nat.lt_or_eq_of_le hij with hlt | rfl
    · exact (pairwise_iff_getElem.1 hsorted i j hi hj hlt).trans hbelow
    · exact hbelow
  have hsplits := splits_lowerBoundFrom hmono
  change Splits _ _ _ (values.lowerBound fun value => key value < target) at hsplits
  generalize values.lowerBound (fun value => key value < target) = place at hsplits ⊢
  cases hfind : values.find? (key · = target) with
  | none =>
    rw [find?_eq_none] at hfind
    rw [Option.filter_eq_none_iff]
    exact fun value hvalue => hfind value (mem_of_getElem? hvalue)
  | some value =>
    obtain ⟨hkey, i, hi, hvalue, -⟩ := find?_eq_some_iff_getElem.1 hfind
    rw [decide_eq_true_eq] at hkey
    have hplace : place = i := by
      rcases Nat.lt_trichotomy place i with hlt | heq | hgt
      · -- a value at an earlier place is below the target
        have hplace := Nat.lt_trans hlt hi
        have hnot := hsplits.behind place (Nat.le_refl _) (by omega)
        rw [getElem?_eq_getElem hplace, Option.any_some, decide_eq_false_iff_not] at hnot
        have hless := pairwise_iff_getElem.1 hsorted place i hplace hi hlt
        rw [hvalue, hkey] at hless
        exact absurd hless hnot
      · exact heq
      · have hyes := hsplits.before i (Nat.zero_le _) hgt
        rw [getElem?_eq_getElem hi, Option.any_some, decide_eq_true_eq, hvalue, hkey] at hyes
        exact absurd hyes (lt_irrefl _)
    rw [hplace, getElem?_eq_getElem hi, hvalue]
    exact Option.filter_some_pos (by rw [hkey]; exact decide_eq_true rfl)

end List
