import Mathlib.Data.List.Range
import Mathlib.Data.List.Perm.Basic
import Mathlib.Data.List.Perm.Subperm
import Mathlib.Data.Fintype.EquivFin
import Mathlib.Logic.Function.Basic
import Mathlib.Logic.Relation
import Mathlib.Order.WellFounded

/-!
# Stable source removal

Kahn's algorithm on the vertices `0, …, n-1` of a finite edge list, always emitting the least
vertex without a pending predecessor.  The order it produces, when it produces one, lists every
vertex once and every edge forwards.  It produces one for every acyclic edge list, and edges that
already go forwards in the order leave it as it is.
-/

namespace KahnOrder

/-- The algorithm's working state. -/
structure State where
  indegree : ℕ → ℕ
  scheduled : ℕ → Bool
  order : List ℕ

variable (n : ℕ) (edges : List (ℕ × ℕ))

/-- Nothing emitted yet: every incoming edge is pending. -/
def initial : State where
  indegree v := edges.countP fun e => e.2 = v
  scheduled _ := false
  order := []

/-- The least unscheduled vertex without pending edges. -/
def next (s : State) : Option ℕ :=
  (List.range n).find? fun v => !s.scheduled v && s.indegree v == 0

/-- One pass over the edges leaving `v`. -/
def release (v : ℕ) (indegree : ℕ → ℕ) : ℕ → ℕ :=
  edges.foldl
    (fun d e => if e.1 = v then Function.update d e.2 (d e.2 - 1) else d) indegree

/-- The node is listed, and its successors wait for one less. -/
def emit (s : State) (v : ℕ) : State where
  indegree := release edges v s.indegree
  scheduled := Function.update s.scheduled v true
  order := s.order ++ [v]

/-- So many steps. -/
def run : ℕ → State → State
  | 0, s => s
  | k + 1, s =>
      match next n s with
      | none => s
      | some v => run k (emit edges s v)

/-- The emitted order, if no vertex was left over. -/
def stableOrder : Option (List ℕ) :=
  let s := run n edges n (initial edges)
  if s.order.length = n then some s.order else none

/-! ## The invariant -/

/-- What every step preserves: the emitted vertices are exactly the scheduled ones, an in-degree
counts the edges from vertices not yet emitted, and the predecessors of an emitted vertex were
emitted before it. -/
structure Inv (s : State) : Prop where
  nodup : s.order.Nodup
  mem_iff : ∀ v, s.scheduled v = true ↔ v ∈ s.order
  lt : ∀ v ∈ s.order, v < n
  indegree_eq : ∀ v, s.indegree v = edges.countP fun e => e.2 = v ∧ e.1 ∉ s.order
  closed : ∀ before v after, s.order = before ++ v :: after →
    ∀ e ∈ edges, e.2 = v → e.1 ∈ before

lemma release_apply (v w : ℕ) (indegree : ℕ → ℕ) :
    release edges v indegree w = indegree w - edges.countP fun e => e.2 = w ∧ e.1 = v := by
  unfold release
  induction edges generalizing indegree with
  | nil => simp
  | cons e rest ih =>
    rw [List.foldl_cons, ih, List.countP_cons]
    by_cases hsource : e.1 = v
    · by_cases htarget : e.2 = w
      · subst htarget
        simp [hsource]
        omega
      · simp [hsource, htarget, Function.update_of_ne (Ne.symm htarget)]
    · simp [hsource]

lemma initial_inv : Inv n edges (initial edges) where
  nodup := List.nodup_nil
  mem_iff := by simp [initial]
  lt := by simp [initial]
  indegree_eq := by simp [initial]
  closed := by simp [initial]

/-- Pending edges of `w` split into those from `v` and those from elsewhere. -/
lemma countP_pending_split (order : List ℕ) (v w : ℕ) (hv : v ∉ order) :
    (edges.countP fun e => e.2 = w ∧ e.1 ∉ order) =
      (edges.countP fun e => e.2 = w ∧ e.1 ∉ order ++ [v])
        + edges.countP fun e => e.2 = w ∧ e.1 = v := by
  induction edges with
  | nil => simp
  | cons e rest ih =>
    simp only [List.countP_cons]
    rw [ih]
    by_cases htarget : e.2 = w
    · by_cases hsource : e.1 = v
      · simp [htarget, hsource, hv]
        omega
      · by_cases hmem : e.1 ∈ order <;> simp [htarget, hsource, hmem]
        omega
    · simp [htarget]

lemma next_spec {s : State} {v : ℕ} (h : next n s = some v) :
    v < n ∧ s.scheduled v = false ∧ s.indegree v = 0 := by
  have hfound := List.find?_some h
  have hrange := List.mem_of_find?_eq_some h
  simp only [Bool.and_eq_true, Bool.not_eq_true', beq_iff_eq] at hfound
  exact ⟨List.mem_range.1 hrange, hfound.1, hfound.2⟩

lemma emit_inv {s : State} {v : ℕ} (hs : Inv n edges s) (h : next n s = some v) :
    Inv n edges (emit edges s v) := by
  obtain ⟨hlt, hunscheduled, hzero⟩ := next_spec n h
  have hfresh : v ∉ s.order := by
    intro hmem
    rw [(hs.mem_iff v).2 hmem] at hunscheduled
    exact absurd hunscheduled (by simp)
  have hready : ∀ e ∈ edges, e.2 = v → e.1 ∈ s.order := by
    intro e he htarget
    by_contra hpending
    rw [hs.indegree_eq v, List.countP_eq_zero] at hzero
    exact hzero e he (by simp [htarget, hpending])
  refine ⟨?_, ?_, ?_, ?_, ?_⟩
  · exact List.nodup_append.2 ⟨hs.nodup, by simp, by
      intro a ha b hb hab
      rw [List.mem_singleton] at hb
      exact hfresh (hb ▸ hab ▸ ha)⟩
  · intro w
    by_cases hw : w = v
    · simp [emit, hw]
    · simp [emit, hs.mem_iff w, hw]
  · intro w hw
    rcases List.mem_append.1 hw with hold | hnew
    · exact hs.lt w hold
    · exact (List.mem_singleton.1 hnew) ▸ hlt
  · intro w
    show release edges v s.indegree w = _
    rw [release_apply, hs.indegree_eq w, countP_pending_split edges s.order v w hfresh]
    simp [emit]
  · -- the last vertex of a split is either `v` itself or inside the old order
    intro before w after hsplit e he htarget
    rcases List.eq_nil_or_concat after with rfl | ⟨after', z, rfl⟩
    · obtain ⟨hbefore, hw⟩ := List.append_inj' (show s.order ++ [v] = before ++ [w] from hsplit) rfl
      rw [← hbefore]
      exact hready e he (by simpa using htarget.trans (by simpa using hw.symm))
    · have hsplit' : s.order ++ [v] = (before ++ w :: after') ++ [z] := by
        simpa [emit] using hsplit
      obtain ⟨hold, -⟩ := List.append_inj' hsplit' rfl
      exact hs.closed before w after' hold e he htarget

lemma run_inv (k : ℕ) {s : State} (hs : Inv n edges s) : Inv n edges (run n edges k s) := by
  induction k generalizing s with
  | zero => exact hs
  | succ k ih =>
    rw [run]
    cases hnext : next n s with
    | none => exact hs
    | some v => exact ih (emit_inv n edges hs hnext)

/-! ## The produced order -/

lemma stableOrder_inv {order : List ℕ} (h : stableOrder n edges = some order) :
    Inv n edges (run n edges n (initial edges)) ∧
      (run n edges n (initial edges)).order = order ∧ order.length = n := by
  simp only [stableOrder] at h
  split at h
  · next hlength =>
      cases h
      exact ⟨run_inv n edges n (initial_inv n edges), rfl, hlength⟩
  · cases h

/-- Every vertex is emitted exactly once. -/
theorem stableOrder_perm {order : List ℕ} (h : stableOrder n edges = some order) :
    order.Perm (List.range n) := by
  obtain ⟨hinv, rfl, hlength⟩ := stableOrder_inv n edges h
  refine List.Subperm.perm_of_length_le ?_ (by simp [hlength])
  exact List.subperm_of_subset hinv.nodup fun v hv => List.mem_range.2 (hinv.lt v hv)

/-- Every edge goes forwards in the produced order. -/
theorem stableOrder_closed {order : List ℕ} (h : stableOrder n edges = some order)
    {before after : List ℕ} {v : ℕ} (hsplit : order = before ++ v :: after)
    {e : ℕ × ℕ} (he : e ∈ edges) (htarget : e.2 = v) : e.1 ∈ before := by
  obtain ⟨hinv, rfl, -⟩ := stableOrder_inv n edges h
  exact hinv.closed before v after hsplit e he htarget

/-! ## Ready vertices -/

/-- Not emitted, and every predecessor emitted. -/
def Ready (order : List ℕ) (v : ℕ) : Prop :=
  v ∉ order ∧ ∀ e ∈ edges, e.2 = v → e.1 ∈ order

lemma ready_iff {s : State} (hs : Inv n edges s) (v : ℕ) :
    (!s.scheduled v && s.indegree v == 0) = true ↔ Ready edges s.order v := by
  rw [Bool.and_eq_true, Bool.not_eq_true', beq_iff_eq, hs.indegree_eq v, List.countP_eq_zero]
  refine and_congr ?_ ?_
  · rw [← hs.mem_iff v, Bool.not_eq_true]
  · simp

/-- The emitted vertex is the least ready one. -/
lemma next_eq_some_iff {s : State} (hs : Inv n edges s) {v : ℕ} :
    next n s = some v ↔
      Ready edges s.order v ∧ v < n ∧ ∀ w < v, ¬Ready edges s.order w := by
  rw [next, List.find?_range_eq_some, ready_iff n edges hs v, List.mem_range]
  refine and_congr Iff.rfl (and_congr Iff.rfl (forall₂_congr fun w _ => ?_))
  rw [← ready_iff n edges hs w, Bool.not_eq_true', Bool.not_eq_true]

lemma next_eq_none_iff {s : State} (hs : Inv n edges s) :
    next n s = none ↔ ∀ v < n, ¬Ready edges s.order v := by
  rw [next, List.find?_eq_none]
  refine forall_congr' fun v => ?_
  rw [List.mem_range, ready_iff n edges hs v]

/-! ## Acyclic edges -/

section Acyclic

open Relation

/-- No vertex is its own ancestor. -/
def Acyclic : Prop := ∀ v, ¬TransGen (fun a b => (a, b) ∈ edges) v v

variable {n edges}

/-- Among the vertices not yet emitted, one without pending ancestors is ready. -/
lemma exists_ready (hacyclic : Acyclic edges) (hsource : ∀ e ∈ edges, e.1 < n)
    {order : List ℕ} (hshort : order.length < n) : ∃ v < n, Ready edges order v := by
  let before (a b : Fin n) : Prop := TransGen (fun a b => (a, b) ∈ edges) a.1 b.1
  have : IsTrans (Fin n) before := ⟨fun _ _ _ hab hbc => hab.trans hbc⟩
  have : Std.Irrefl before := ⟨fun a => hacyclic a.1⟩
  have hwf : WellFounded before := Finite.wellFounded_of_trans_of_irrefl _
  have hpending : ∃ v < n, v ∉ order := by
    by_contra hall
    push Not at hall
    have hle := (List.subperm_of_subset List.nodup_range
      fun v hv => hall v (List.mem_range.1 hv)).length_le
    rw [List.length_range] at hle
    omega
  obtain ⟨v, hv, hfresh⟩ := hpending
  obtain ⟨least, hleast, hmin⟩ := hwf.has_min {v : Fin n | v.1 ∉ order} ⟨⟨v, hv⟩, hfresh⟩
  refine ⟨least.1, least.2, hleast, fun e he htarget => ?_⟩
  by_contra habsent
  exact hmin ⟨e.1, hsource e he⟩ habsent (TransGen.single (htarget ▸ he))

/-- Source removal never gets stuck on acyclic edges. -/
lemma length_run (hacyclic : Acyclic edges) (hsource : ∀ e ∈ edges, e.1 < n) (k : ℕ) {s : State}
    (hs : Inv n edges s) (hlength : s.order.length + k = n) :
    (run n edges k s).order.length = n := by
  induction k generalizing s with
  | zero => exact hlength
  | succ k ih =>
    rw [run]
    cases hnext : next n s with
    | none =>
      have hshort : s.order.length < n := by omega
      obtain ⟨v, hv, hready⟩ := exists_ready hacyclic hsource hshort
      exact absurd hready ((next_eq_none_iff n edges hs).1 hnext v hv)
    | some v =>
      refine ih (emit_inv n edges hs hnext) ?_
      simp only [emit, List.length_append, List.length_singleton]
      omega

/-- Acyclic edges have a stable order. -/
theorem exists_stableOrder (hacyclic : Acyclic edges) (hsource : ∀ e ∈ edges, e.1 < n) :
    ∃ order, stableOrder n edges = some order := by
  have hlength := length_run hacyclic hsource n (initial_inv n edges) (by simp [initial])
  exact ⟨_, by rw [stableOrder, if_pos hlength]⟩

/-- Edges that a stable order exists for are acyclic: every edge raises the position in the
order. -/
theorem acyclic_of_stableOrder {order : List ℕ} (h : stableOrder n edges = some order)
    (htarget : ∀ e ∈ edges, e.2 < n) : Acyclic edges := by
  have hraises : ∀ a b, (a, b) ∈ edges → order.idxOf a < order.idxOf b := by
    intro a b hedge
    have hmem : b ∈ order :=
      (stableOrder_perm n edges h).mem_iff.2 (List.mem_range.2 (htarget _ hedge))
    obtain ⟨before, after, hsplit, hfresh⟩ := List.eq_append_cons_of_mem hmem
    have hbefore : a ∈ before := stableOrder_closed n edges h hsplit hedge rfl
    rw [hsplit, List.idxOf_append_of_mem hbefore, List.idxOf_append_of_notMem hfresh]
    exact Nat.lt_add_right _ (List.idxOf_lt_length_iff.2 hbefore)
  intro v hcycle
  have hlt : TransGen (· < ·) (order.idxOf v) (order.idxOf v) :=
    hcycle.lift order.idxOf hraises
  rw [transGen_eq_self] at hlt
  exact lt_irrefl _ hlt

end Acyclic

/-! ## More edges, the same order -/

section Extend

variable {n edges} {edges' : List (ℕ × ℕ)}

lemma order_prefix_run (k : ℕ) (s : State) : s.order <+: (run n edges k s).order := by
  induction k generalizing s with
  | zero => exact List.prefix_refl _
  | succ k ih =>
    rw [run]
    cases next n s with
    | none => exact List.prefix_refl _
    | some v => exact (List.prefix_append _ _).trans (ih (emit edges s v))

/-- Two runs from the same emitted vertices stay together: with more edges fewer vertices are
ready, and the one emitted next is still ready because its new edges go forwards. -/
lemma order_run_extend (hsub : edges ⊆ edges') {order : List ℕ}
    (hforward : ∀ before v after, order = before ++ v :: after →
      ∀ e ∈ edges', e.2 = v → e.1 ∈ before) (k : ℕ) {s s' : State}
    (hs : Inv n edges s) (hs' : Inv n edges' s') (hsame : s'.order = s.order)
    (hrun : (run n edges k s).order = order) :
    (run n edges' k s').order = order := by
  induction k generalizing s s' with
  | zero => exact hsame.trans hrun
  | succ k ih =>
    have hfewer : ∀ w, Ready edges' s'.order w → Ready edges s.order w := by
      intro w hw
      rw [hsame] at hw
      exact ⟨hw.1, fun e he => hw.2 e (hsub he)⟩
    cases hnext : next n s with
    | none =>
      rw [run, hnext] at hrun
      have hnext' : next n s' = none :=
        (next_eq_none_iff n edges' hs').2 fun w hw hready =>
          (next_eq_none_iff n edges hs).1 hnext w hw (hfewer w hready)
      rw [run, hnext']
      exact hsame.trans hrun
    | some v =>
      rw [run, hnext] at hrun
      obtain ⟨hready, hlt, hleast⟩ := (next_eq_some_iff n edges hs).1 hnext
      have hprefix : (emit edges s v).order <+: (run n edges k (emit edges s v)).order :=
        order_prefix_run k _
      obtain ⟨rest, hrest⟩ := hprefix
      have hsplit : order = s.order ++ v :: rest := by
        rw [← hrun, ← hrest, emit, List.append_assoc]
        rfl
      have hready' : Ready edges' s'.order v := by
        rw [hsame]
        exact ⟨hready.1, hforward _ _ _ hsplit⟩
      have hnext' : next n s' = some v :=
        (next_eq_some_iff n edges' hs').2
          ⟨hready', hlt, fun w hw hw' => hleast w hw (hfewer w hw')⟩
      rw [run, hnext']
      refine ih (emit_inv n edges hs hnext) (emit_inv n edges' hs' hnext') ?_ hrun
      show s'.order ++ [v] = s.order ++ [v]
      rw [hsame]

/-- Adding edges that go forwards in the stable order does not change it. -/
theorem stableOrder_extend (hsub : edges ⊆ edges') {order : List ℕ}
    (h : stableOrder n edges = some order)
    (hforward : ∀ before v after, order = before ++ v :: after →
      ∀ e ∈ edges', e.2 = v → e.1 ∈ before) :
    stableOrder n edges' = some order := by
  obtain ⟨-, hrun, hlength⟩ := stableOrder_inv n edges h
  have hrun' := order_run_extend hsub hforward n (initial_inv n edges) (initial_inv n edges') rfl
    hrun
  rw [stableOrder, if_pos (by rw [hrun', hlength]), hrun']

end Extend

end KahnOrder
