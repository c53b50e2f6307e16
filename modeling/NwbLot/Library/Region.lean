import Mathlib.Data.List.Basic
import Mathlib.Data.List.Count

/-!
# Regions with executable differences

A region names a set of cells.  All that is assumed of a kind of region is that removing one
region from another leaves a list of regions in which every remaining cell occurs exactly once.
From this: cutting one region, or many, out of a list of regions, and clipping a list of regions
to one.

Coverage is counted (`coverCount`), so one lemma carries both that pieces cover what they should
and that no cell is covered twice.
-/

universe u v

/-- Regions of type `R` over cells of type `C`. -/
structure RegionOps (R : Type u) (C : Type v) where
  covers : R → C → Bool
  inter : R → R → Option R
  remainder : R → R → List R
  inter_covers : ∀ a b c,
    ((inter a b).any fun r => covers r c) = (covers a c && covers b c)
  remainder_count : ∀ a b c,
    (remainder a b).countP (covers · c) = if covers a c && !covers b c then 1 else 0

namespace RegionOps

variable {R : Type u} {C : Type v} (ops : RegionOps R C)

/-- How many of the listed regions cover a cell. -/
def coverCount (regions : List R) (c : C) : ℕ := regions.countP (ops.covers · c)

@[simp] lemma coverCount_nil (c : C) : ops.coverCount [] c = 0 := rfl

@[simp] lemma coverCount_append (xs ys : List R) (c : C) :
    ops.coverCount (xs ++ ys) c = ops.coverCount xs c + ops.coverCount ys c :=
  List.countP_append

lemma coverCount_cons (r : R) (rest : List R) (c : C) :
    ops.coverCount (r :: rest) c
      = (if ops.covers r c then 1 else 0) + ops.coverCount rest c := by
  simp [coverCount, List.countP_cons, Nat.add_comm]

lemma coverCount_remainder (a b : R) (c : C) :
    ops.coverCount (ops.remainder a b) c = if ops.covers a c && !ops.covers b c then 1 else 0 :=
  ops.remainder_count a b c

/-! ## Subtraction -/

/-- Remove one region from each listed region. -/
def subtract (regions : List R) (cut : R) : List R :=
  regions.flatMap fun r => ops.remainder r cut

/-- Remove every listed cut in turn. -/
def subtractAll (regions : List R) (cuts : List R) : List R :=
  cuts.foldl ops.subtract regions

lemma coverCount_subtract (regions : List R) (cut : R) (c : C) :
    ops.coverCount (ops.subtract regions cut) c
      = if ops.covers cut c then 0 else ops.coverCount regions c := by
  induction regions with
  | nil => simp [subtract]
  | cons r rest ih =>
    simp only [subtract, List.flatMap_cons, coverCount_append] at ih ⊢
    rw [ih, coverCount_remainder, coverCount_cons]
    cases hcut : ops.covers cut c <;> simp

lemma coverCount_subtractAll (regions cuts : List R) (c : C) :
    ops.coverCount (ops.subtractAll regions cuts) c
      = if cuts.any (ops.covers · c) then 0 else ops.coverCount regions c := by
  induction cuts generalizing regions with
  | nil => simp [subtractAll]
  | cons cut rest ih =>
    rw [subtractAll, List.foldl_cons, ← subtractAll, ih, coverCount_subtract, List.any_cons]
    cases ops.covers cut c <;> simp only [Bool.true_or, Bool.false_or, if_true, ite_self,
      Bool.false_eq_true, if_false]

/-! ## Clipping -/

/-- The parts of the listed regions inside `layer`. -/
def clip (regions : List R) (layer : R) : List R := regions.filterMap fun r => ops.inter r layer

lemma coverCount_clip (regions : List R) (layer : R) (c : C) :
    ops.coverCount (ops.clip regions layer) c
      = if ops.covers layer c then ops.coverCount regions c else 0 := by
  induction regions with
  | nil => simp [clip]
  | cons r rest ih =>
    have hinter := ops.inter_covers r layer c
    simp only [clip, List.filterMap_cons] at ih ⊢
    rw [coverCount_cons]
    cases hr : ops.inter r layer with
    | none =>
      simp only [hr, Option.any_none] at hinter
      rw [ih]
      cases hlayer : ops.covers layer c
      · simp
      · have houtside : ops.covers r c = false := by simpa [hlayer] using hinter.symm
        simp [houtside]
    | some piece =>
      simp only [hr, Option.any_some] at hinter
      rw [coverCount_cons, ih, hinter]
      cases hlayer : ops.covers layer c <;> simp

end RegionOps
