import Mathlib.Algebra.BigOperators.Group.List.Basic
import Mathlib.Algebra.GroupWithZero.Nat

/-!
# Tallies of a list that changes in one place

How a count and a weighted sum over a list move when one element is modified, and what a scan for
a least element finds.
-/

namespace Tallies

variable {α β : Type*}

/-- Modifying one element of a list moves a count by that element alone. -/
lemma countP_modify {p : β → Bool} {f : β → β} {i : ℕ} {x : β} {xs : List β}
    (hx : xs[i]? = some x) :
    (xs.modify i f).countP p + (if p x then 1 else 0)
      = xs.countP p + (if p (f x) then 1 else 0) := by
  induction xs generalizing i with
  | nil => simp at hx
  | cons y rest ih =>
    cases i with
    | zero =>
      obtain rfl : y = x := by simpa using hx
      simp only [List.modify_zero_cons, List.countP_cons]
      omega
    | succ i =>
      have hrest := @ih i (by simpa using hx)
      simp only [List.modify_succ_cons, List.countP_cons]
      omega

/-- Modifying one element of the second list moves a sum over both by that place alone. -/
lemma sum_zipWith_modify {w : α → β → ℕ} {f : β → β} {i : ℕ} {a : α} {x : β} {as : List α}
    {xs : List β} (ha : as[i]? = some a) (hx : xs[i]? = some x) :
    (List.zipWith w as (xs.modify i f)).sum + w a x
      = (List.zipWith w as xs).sum + w a (f x) := by
  induction xs generalizing as i with
  | nil => simp at hx
  | cons y rest ih =>
    cases as with
    | nil => simp at ha
    | cons b as =>
      cases i with
      | zero =>
        obtain rfl : b = a := by simpa using ha
        obtain rfl : y = x := by simpa using hx
        simp only [List.modify_zero_cons, List.zipWith_cons_cons, List.sum_cons]
        omega
      | succ i =>
        have hrest := @ih i as (by simpa using ha) (by simpa using hx)
        simp only [List.modify_succ_cons, List.zipWith_cons_cons, List.sum_cons]
        omega

/-- Of distinct keys, a key selects its own weight once. -/
lemma sum_map_ite_key {κ : Type*} [DecidableEq κ] {keys : List κ} (hnodup : keys.Nodup) (k : κ)
    (weight : ℕ) :
    (keys.map fun other => if k = other then weight else 0).sum
      = if k ∈ keys then weight else 0 := by
  induction keys with
  | nil => simp
  | cons other rest ih =>
    obtain ⟨hfresh, hrest⟩ := List.nodup_cons.1 hnodup
    rw [List.map_cons, List.sum_cons, ih hrest]
    by_cases heq : k = other
    · subst heq
      simp [hfresh]
    · simp [heq]

/-- A weighted sum, split by keys that are distinct and cover the list. -/
lemma sum_map_partition {κ : Type*} [DecidableEq κ] {keys : List κ} (hnodup : keys.Nodup)
    (key : α → κ) (w : α → ℕ) {xs : List α} (hkeys : ∀ x ∈ xs, key x ∈ keys) :
    (keys.map fun k => (xs.map fun x => if key x = k then w x else 0).sum).sum
      = (xs.map w).sum := by
  induction xs with
  | nil => simp
  | cons x rest ih =>
    have hx : (keys.map fun k => if key x = k then w x else 0).sum = w x := by
      rw [sum_map_ite_key hnodup, if_pos (hkeys x List.mem_cons_self)]
    simp only [List.map_cons, List.sum_cons]
    rw [List.sum_map_add, hx, ih fun y hy => hkeys y (List.mem_cons_of_mem _ hy)]

/-- A scan that keeps the one of two elements with the smaller weight ends with a least one. -/
lemma foldl_least {choose : α → α → α} (weight : α → ℕ)
    (hchoose : ∀ best x, choose best x = best ∨ choose best x = x)
    (hleast : ∀ best x, weight (choose best x) ≤ weight best ∧ weight (choose best x) ≤ weight x)
    (xs : List α) (start : α) :
    xs.foldl choose start ∈ start :: xs ∧
      ∀ x ∈ start :: xs, weight (xs.foldl choose start) ≤ weight x := by
  induction xs generalizing start with
  | nil =>
    refine ⟨List.mem_cons_self, fun x hx => ?_⟩
    rw [List.mem_singleton.1 hx]
    exact Nat.le_refl _
  | cons next rest ih =>
    obtain ⟨hmem, hle⟩ := ih (choose start next)
    obtain ⟨hstart, hnext⟩ := hleast start next
    have hchosen := hle _ List.mem_cons_self
    rw [List.foldl_cons]
    constructor
    · rcases List.mem_cons.1 hmem with heq | hmem
      · rw [heq]
        rcases hchoose start next with heq | heq <;> rw [heq]
        · exact List.mem_cons_self
        · exact List.mem_cons_of_mem _ List.mem_cons_self
      · exact List.mem_cons_of_mem _ (List.mem_cons_of_mem _ hmem)
    · intro x hx
      rcases List.mem_cons.1 hx with rfl | hx
      · exact Nat.le_trans hchosen hstart
      · rcases List.mem_cons.1 hx with rfl | hx
        · exact Nat.le_trans hchosen hnext
        · exact hle x (List.mem_cons_of_mem _ hx)

end Tallies
