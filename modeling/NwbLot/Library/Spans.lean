import Mathlib.Algebra.GroupWithZero.Nat
import Mathlib.Data.List.Pairwise
import Mathlib.Data.List.Basic
import Mathlib.Data.List.Flatten

/-!
# Consecutive spans of a vector

Items that each name a span `(offset, count)` of a shared vector.  `Tiles` says the spans follow
one another without gap or overlap.  A lookup of an item's span then finds the item's own part of
the vector, spans of later items lie behind those of earlier ones, and the parts concatenate to
the vector.
-/

namespace Spans

variable {ι α : Type*}

/-- An entry of an extended list is an old one or the last. -/
lemma getElem?_snoc_cases {xs : List α} {x y : α} {i : ℕ} (h : (xs ++ [x])[i]? = some y) :
    (i < xs.length ∧ xs[i]? = some y) ∨ (i = xs.length ∧ y = x) := by
  rcases Nat.lt_or_ge i xs.length with hi | hi
  · rw [List.getElem?_append_left hi] at h
    exact Or.inl ⟨hi, h⟩
  · rw [List.getElem?_append_right hi, List.getElem?_singleton] at h
    split at h
    · next hzero =>
        cases h
        exact Or.inr ⟨by omega, rfl⟩
    · cases h

/-- `count` entries from `offset` on. -/
def part (values : List α) (offset count : ℕ) : List α := (values.drop offset).take count

lemma part_append_middle (xs ys zs : List α) : part (xs ++ ys ++ zs) xs.length ys.length = ys := by
  simp [part]

/-- Entries appended behind a span do not change it. -/
lemma part_append_right {values : List α} {offset count : ℕ} (h : offset + count ≤ values.length)
    (more : List α) : part (values ++ more) offset count = part values offset count := by
  unfold part
  rw [List.drop_append_of_le_length (by omega), List.take_append_of_le_length (by simp; omega)]

lemma part_add (values : List α) (offset m n : ℕ) :
    part values offset m ++ part values (offset + m) n = part values offset (m + n) := by
  unfold part
  rw [List.take_add, List.drop_drop]

lemma getElem?_part {values : List α} {offset count i : ℕ} (h : i < count) :
    (part values offset count)[i]? = values[offset + i]? := by
  rw [part, List.getElem?_take_of_lt h, List.getElem?_drop]

section Tiles

variable (offset count : ι → ℕ)

/-- The spans of the items run from `start` to `stop`. -/
def Tiles : ℕ → List ι → ℕ → Prop
  | start, [], stop => start = stop
  | start, item :: rest, stop => offset item = start ∧ Tiles (start + count item) rest stop

variable {offset count}

lemma tiles_map_iff {κ : Type*} {f : κ → ι} {start stop : ℕ} {xs : List κ} :
    Tiles offset count start (xs.map f) stop ↔ Tiles (offset ∘ f) (count ∘ f) start xs stop := by
  induction xs generalizing start with
  | nil => rfl
  | cons x rest ih => simp [Tiles, ih]

variable {start stop : ℕ} {xs : List ι}

/-- Items with the same spans tile alike. -/
lemma Tiles.congr {ys : List ι}
    (h : ys.map (fun y => (offset y, count y)) = xs.map fun x => (offset x, count x))
    (hx : Tiles offset count start xs stop) : Tiles offset count start ys stop := by
  induction xs generalizing start ys with
  | nil =>
    rw [List.map_nil, List.map_eq_nil_iff] at h
    exact h ▸ hx
  | cons x rest ih =>
    cases ys with
    | nil => simp at h
    | cons y more =>
      simp only [List.map_cons, List.cons.injEq, Prod.mk.injEq] at h
      refine ⟨h.1.1.trans hx.1, ?_⟩
      rw [h.1.2]
      exact ih h.2 hx.2

lemma tiles_append_iff {ys : List ι} :
    Tiles offset count start (xs ++ ys) stop ↔
      ∃ middle, Tiles offset count start xs middle ∧ Tiles offset count middle ys stop := by
  induction xs generalizing start with
  | nil => simp [Tiles]
  | cons x rest ih =>
    simp only [List.cons_append, Tiles, ih]
    constructor
    · rintro ⟨hx, middle, hrest, hys⟩
      exact ⟨middle, ⟨hx, hrest⟩, hys⟩
    · rintro ⟨middle, ⟨hx, hrest⟩, hys⟩
      exact ⟨hx, middle, hrest, hys⟩

lemma tiles_snoc_iff {x : ι} :
    Tiles offset count start (xs ++ [x]) stop ↔
      Tiles offset count start xs (offset x) ∧ offset x + count x = stop := by
  rw [tiles_append_iff]
  constructor
  · rintro ⟨middle, hxs, hx, hstop⟩
    cases hstop
    exact ⟨hx ▸ hxs, by rw [hx]⟩
  · rintro ⟨hxs, rfl⟩
    exact ⟨_, hxs, rfl, rfl⟩

lemma Tiles.le (h : Tiles offset count start xs stop) :
    start ≤ stop := by
  induction xs generalizing start with
  | nil => exact Nat.le_of_eq h
  | cons x rest ih =>
    have := ih h.2
    omega

/-- The spans of earlier items end before those of later items begin. -/
lemma Tiles.pairwise (h : Tiles offset count start xs stop) :
    xs.Pairwise fun x y => offset x + count x ≤ offset y := by
  induction xs generalizing start with
  | nil => exact List.Pairwise.nil
  | cons x rest ih =>
    refine List.Pairwise.cons ?_ (ih h.2)
    intro y hy
    obtain ⟨front, back, rfl⟩ := List.append_of_mem hy
    obtain ⟨middle, hfront, htail⟩ := tiles_append_iff.1 h.2
    have hle := hfront.le
    have hx : offset x = start := h.1
    have hyOffset : offset y = middle := htail.1
    omega

/-- Every span ends inside the tiled interval. -/
lemma Tiles.end_le (h : Tiles offset count start xs stop) {x : ι} (hx : x ∈ xs) :
    offset x + count x ≤ stop := by
  obtain ⟨front, back, rfl⟩ := List.append_of_mem hx
  obtain ⟨middle, -, htail⟩ := tiles_append_iff.1 h
  have hle := Tiles.le htail.2
  have hoffset : offset x = middle := htail.1
  omega

/-- The parts of all items concatenate to the tiled interval. -/
lemma Tiles.flatMap_part (h : Tiles offset count start xs stop) (values : List α) :
    (xs.flatMap fun x => part values (offset x) (count x)) = part values start (stop - start) := by
  induction xs generalizing start with
  | nil =>
    cases h
    simp [part]
  | cons x rest ih =>
    have hle := Tiles.le h.2
    rw [List.flatMap_cons, ih h.2, h.1, part_add]
    congr 1
    omega

end Tiles

end Spans
