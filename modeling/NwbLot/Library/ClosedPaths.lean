import Mathlib.Data.List.Chain
import Mathlib.Data.List.Nodup
import Mathlib.Data.List.Zip
import Mathlib.Logic.Relation

/-!
# Closed simple paths

A path of a relation that ends where it began and repeats nothing else.  A closed path is a cycle
of the relation, and a simple path whose last vertex is related to one it already visited ends in
one.
-/

namespace ClosedPaths

open Relation

variable {α β : Type*} {r : α → α → Prop}

/-- The path returns to its first vertex, visits no vertex twice before that, and its consecutive
vertices are related. -/
def ClosedPath (r : α → α → Prop) (path : List α) : Prop :=
  ∃ first rest, path = first :: rest ++ [first] ∧ (first :: rest).Nodup ∧ path.IsChain r

lemma transGen_of_isChain {a b : α} {middle : List α} (h : (a :: middle ++ [b]).IsChain r) :
    TransGen r a b := by
  induction middle generalizing a with
  | nil => exact TransGen.single (List.isChain_pair.1 h)
  | cons c middle ih =>
    obtain ⟨hstep, hrest⟩ := List.isChain_cons_cons.1 h
    exact TransGen.head hstep (ih hrest)

/-- A closed path is a cycle. -/
lemma ClosedPath.exists_cycle {path : List α} (h : ClosedPath r path) : ∃ a, TransGen r a a := by
  obtain ⟨first, rest, rfl, -, hchain⟩ := h
  exact ⟨first, transGen_of_isChain hchain⟩

/-- A closed path has an edge. -/
lemma ClosedPath.zip_tail_ne_nil {path : List α} (h : ClosedPath r path) :
    path.zip path.tail ≠ [] := by
  obtain ⟨first, rest, rfl, -, -⟩ := h
  cases rest with
  | nil => exact List.cons_ne_nil _ _
  | cons second rest => exact List.cons_ne_nil _ _

lemma ClosedPath.mono {s : α → α → Prop} (hstep : ∀ a b, r a b → s a b) {path : List α}
    (h : ClosedPath r path) : ClosedPath s path := by
  obtain ⟨first, rest, rfl, hnodup, hchain⟩ := h
  exact ⟨first, rest, rfl, hnodup, hchain.imp hstep⟩

/-- Walking on from the last vertex of a simple path to a vertex on it closes a simple path. -/
lemma closedPath_of_step [DecidableEq α] {path : List α} {target : α} (hnodup : path.Nodup)
    (hchain : path.IsChain r) (hstep : ∀ last ∈ path.getLast?, r last target)
    (htarget : target ∈ path) :
    ClosedPath r (path.dropWhile (· ≠ target) ++ [target]) := by
  obtain ⟨before, after, rfl, hbefore⟩ := List.eq_append_cons_of_mem htarget
  have hdrop : (before ++ target :: after).dropWhile (· ≠ target) = target :: after := by
    rw [List.dropWhile_append_of_pos]
    · simp
    · intro a ha
      simpa using fun heq : a = target => hbefore (heq ▸ ha)
  rw [hdrop]
  refine ⟨target, after, rfl, (List.nodup_append.1 hnodup).2.1, ?_⟩
  refine hchain.right_of_append.append (List.isChain_singleton target) ?_
  intro last hlast next hnext
  obtain rfl : target = next := by simpa using hnext
  refine hstep last ?_
  rw [List.getLast?_append_of_ne_nil _ (List.cons_ne_nil target after)]
  exact hlast

/-- Consecutive vertices of a path. -/
lemma rel_of_mem_zip_tail {path : List α} (h : path.IsChain r) {pair : α × α}
    (hpair : pair ∈ path.zip path.tail) : r pair.1 pair.2 := by
  induction path with
  | nil => cases hpair
  | cons a rest ih =>
    cases rest with
    | nil => cases hpair
    | cons b rest =>
      obtain ⟨hstep, hrest⟩ := List.isChain_cons_cons.1 h
      rcases List.mem_cons.1 hpair with rfl | hmem
      · exact hstep
      · exact ih hrest hmem

/-- An injective relabelling keeps closed paths. -/
lemma ClosedPath.map {s : β → β → Prop} {f : α → β} (hf : Function.Injective f)
    (hstep : ∀ a b, r a b → s (f a) (f b)) {path : List α} (h : ClosedPath r path) :
    ClosedPath s (path.map f) := by
  obtain ⟨first, rest, rfl, hnodup, hchain⟩ := h
  refine ⟨f first, rest.map f, by simp, ?_, ?_⟩
  · rw [← List.map_cons]
    exact List.Nodup.map hf hnodup
  · exact List.isChain_map_of_isChain f hstep hchain

end ClosedPaths
