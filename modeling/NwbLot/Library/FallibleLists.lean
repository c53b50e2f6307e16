import Mathlib.Data.List.Forall2
import Mathlib.Data.List.Perm.Basic
import Mathlib.Data.List.Basic
import Mathlib.Data.List.Count

/-!
# Traversals that may fail

Rules for `List.mapM` and `List.foldlM` in `Option`: what a successful traversal says about its
elements, and the invariant rule of a fold.  A search that keeps the best element so far is a fold
over an `Option` too.
-/

namespace OptionList

variable {α β σ : Type*}

variable {xs : List α} {ys : List β}

lemma mapM_eq_some_iff {f : α → Option β} :
    xs.mapM f = some ys ↔ xs.map f = ys.map some := by
  induction xs generalizing ys with
  | nil => cases ys <;> simp
  | cons x rest ih =>
    simp only [List.mapM_cons, Option.pure_def, Option.bind_eq_bind, Option.bind_eq_some_iff,
      List.map_cons, Option.some.injEq]
    constructor
    · rintro ⟨y, hy, zs, hzs, rfl⟩
      simp [hy, ih.1 hzs]
    · intro h
      cases ys with
      | nil => simp at h
      | cons y zs =>
        simp only [List.map_cons, List.cons.injEq] at h
        exact ⟨y, h.1, zs, ih.2 h.2, rfl⟩

/-- Elements of the result come from elements of the input. -/
lemma exists_of_mem_mapM {f : α → Option β} (h : xs.mapM f = some ys) {y : β} (hy : y ∈ ys) :
    ∃ x ∈ xs, f x = some y := by
  have hmem : some y ∈ xs.map f := by
    rw [mapM_eq_some_iff.1 h]
    exact List.mem_map_of_mem hy
  simpa using List.mem_map.1 hmem

/-- A traversal that respects two predicates keeps the number of elements satisfying them. -/
lemma countP_of_mapM {f : α → Option β} {p : α → Bool} {q : β → Bool}
    (hf : ∀ x y, f x = some y → q y = p x) {xs : List α} {ys : List β}
    (h : xs.mapM f = some ys) : ys.countP q = xs.countP p := by
  induction xs generalizing ys with
  | nil =>
    have : ys = [] := by simpa using (mapM_eq_some_iff.1 h).symm
    simp [this]
  | cons x rest ih =>
    simp only [List.mapM_cons, Option.pure_def, Option.bind_eq_bind, Option.bind_eq_some_iff,
      Option.some.injEq] at h
    obtain ⟨y, hy, zs, hzs, rfl⟩ := h
    rw [List.countP_cons, List.countP_cons, ih hzs, hf x y hy]

/-- The search by a key without repetitions finds the entry with that key. -/
lemma find?_of_key_nodup {κ : Type*} [DecidableEq κ] {key : α → κ} (hnodup : (xs.map key).Nodup)
    {i : ℕ} {x : α} (h : xs[i]? = some x) :
    xs.find? (fun y => key y == key x) = some x := by
  induction xs generalizing i with
  | nil => simp at h
  | cons y rest ih =>
    rw [List.map_cons, List.nodup_cons] at hnodup
    cases i with
    | zero =>
      simp only [List.getElem?_cons_zero, Option.some.injEq] at h
      simp [h]
    | succ i =>
      simp only [List.getElem?_cons_succ] at h
      have hne : key y ≠ key x := fun heq =>
        hnodup.1 (heq ▸ List.mem_map_of_mem (List.mem_of_getElem? h))
      rw [List.find?_cons_of_neg (by simpa using hne)]
      exact ih hnodup.2 h

/-- Of lists tagged with keys without repetitions, filtering by a tag leaves the list of that key. -/
lemma filter_flatMap_of_key_nodup {κ : Type*} [DecidableEq κ] {key : α → κ} {tag : β → κ}
    {f : α → List β} (htag : ∀ x, ∀ y ∈ f x, tag y = key x) {xs : List α}
    (hnodup : (xs.map key).Nodup) {x : α} (h : x ∈ xs) :
    (xs.flatMap f).filter (fun y => tag y == key x) = f x := by
  have hown : (f x).filter (fun y => tag y == key x) = f x := by
    rw [List.filter_eq_self]
    intro y hy
    simp [htag x y hy]
  have hother : ∀ ys : List α, key x ∉ ys.map key →
      (ys.flatMap f).filter (fun y => tag y == key x) = [] := by
    intro ys habsent
    rw [List.filter_eq_nil_iff]
    intro y hy
    obtain ⟨z, hz, hyz⟩ := List.mem_flatMap.1 hy
    have hne : key z ≠ key x := fun heq => habsent (heq ▸ List.mem_map_of_mem hz)
    simpa [htag z y hyz] using hne
  obtain ⟨front, back, rfl⟩ := List.append_of_mem h
  rw [List.map_append, List.map_cons, List.nodup_append, List.nodup_cons] at hnodup
  obtain ⟨-, ⟨hback, -⟩, hdisjoint⟩ := hnodup
  have hfront : key x ∉ front.map key := fun hmem =>
    hdisjoint _ hmem _ List.mem_cons_self rfl
  rw [List.flatMap_append, List.flatMap_cons, List.filter_append, List.filter_append,
    hother front hfront, hown, hother back hback, List.nil_append, List.append_nil]

variable {f : σ → α → Option σ} {s s' : σ}

/-- What every successful step preserves, a successful fold preserves. -/
lemma foldlM_invariant (P : σ → Prop) (step : ∀ s a s', f s a = some s' → P s → P s')
    (h : xs.foldlM f s = some s') (hs : P s) : P s' := by
  induction xs generalizing s with
  | nil =>
    simp only [List.foldlM_nil, Option.pure_def, Option.some.injEq] at h
    exact h ▸ hs
  | cons x rest ih =>
    simp only [List.foldlM_cons, Option.bind_eq_bind, Option.bind_eq_some_iff] at h
    obtain ⟨t, hstep, hrest⟩ := h
    exact ih hrest (step s x t hstep hs)

/-- The invariant rule with the processed part of the list. -/
lemma foldlM_processed (P : List α → σ → Prop)
    (step : ∀ done s a s', f s a = some s' → P done s → P (done ++ [a]) s') {done : List α}
    (h : xs.foldlM f s = some s') (hs : P done s) :
    P (done ++ xs) s' := by
  induction xs generalizing done s with
  | nil =>
    simp only [List.foldlM_nil, Option.pure_def, Option.some.injEq] at h
    simpa using h ▸ hs
  | cons x rest ih =>
    simp only [List.foldlM_cons, Option.bind_eq_bind, Option.bind_eq_some_iff] at h
    obtain ⟨t, hstep, hrest⟩ := h
    simpa using ih hrest (step done s x t hstep hs)

/-- Total correctness: if every step from a state satisfying the invariant succeeds and keeps it, so
does the fold. -/
lemma foldlM_total (P : List α → σ → Prop)
    (step : ∀ done a rest t, xs = done ++ a :: rest → P done t →
      ∃ t', f t a = some t' ∧ P (done ++ [a]) t') (hs : P [] s) :
    ∃ s', xs.foldlM f s = some s' ∧ P xs s' := by
  suffices h : ∀ (rest done : List α) (t : σ), xs = done ++ rest → P done t →
      ∃ s', rest.foldlM f t = some s' ∧ P xs s' from h xs [] s rfl hs
  intro rest
  induction rest with
  | nil =>
    intro done t hsplit ht
    exact ⟨t, rfl, by simpa [hsplit] using ht⟩
  | cons a rest ih =>
    intro done t hsplit ht
    obtain ⟨t', hstep, ht'⟩ := step done a rest t hsplit ht
    obtain ⟨s', hrest, hs'⟩ := ih (done ++ [a]) t' (by simp [hsplit]) ht'
    refine ⟨s', ?_, hs'⟩
    rw [List.foldlM_cons, hstep]
    exact hrest

/-- What every step of a search guarantees about a newly kept result holds of the final one. -/
lemma foldl_best {op : Option β → α → Option β} {P : β → Prop} {xs : List α}
    (step : ∀ best, ∀ x ∈ xs, ∀ y, op best x = some y → best = some y ∨ P y) {y : β}
    (h : xs.foldl op none = some y) : P y := by
  refine List.foldlRecOn (motive := fun best => ∀ y, best = some y → P y) xs op ?_ ?_ y h
  · intro y hy
    cases hy
  · intro best hbest x hx y hy
    exact (step best x hx y hy).elim (hbest y) id

/-- A search ends with a winner if one of its elements beats every possible result, and no element
takes the place of a winner but another one. -/
lemma foldl_best_wins {op : Option β → α → Option β} {P W : β → Prop}
    (possible : ∀ best, (∀ y ∈ best, P y) → ∀ x ∈ xs, ∀ y ∈ op best x, P y)
    (keep : ∀ w, W w → ∀ x ∈ xs, ∃ w' ∈ op (some w) x, W w')
    (find : ∃ x ∈ xs, ∀ best, (∀ y ∈ best, P y) → ∃ w ∈ op best x, W w) :
    ∃ w ∈ xs.foldl op none, W w := by
  obtain ⟨x, hx, hfound⟩ := find
  obtain ⟨front, back, rfl⟩ := List.append_of_mem hx
  rw [List.foldl_append, List.foldl_cons]
  have hfront : ∀ y ∈ front.foldl op none, P y := by
    refine List.foldlRecOn (motive := fun best => ∀ y ∈ best, P y) front op (by simp) ?_
    intro best hbest x hx
    exact possible best hbest x (List.mem_append_left _ hx)
  refine List.foldlRecOn (motive := fun best => ∃ w ∈ best, W w) back op (hfound _ hfront) ?_
  rintro best ⟨w, hw, hwins⟩ x hx
  rw [Option.mem_def.1 hw]
  exact keep w hwins x (List.mem_append_right _ (List.mem_cons_of_mem _ hx))

end OptionList
