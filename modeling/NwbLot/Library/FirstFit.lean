import Mathlib.Data.List.Basic
import Mathlib.Data.List.Induction
import Mathlib.Data.List.Nodup
import Mathlib.Data.List.Perm.Basic

/-!
# First-fit stages

The elements of a list sorted into stages: every stage takes, in list order, each remaining element
that conflicts with nothing the stage has taken before it.

An element stands in the first stage in which no earlier element conflicts with it
(`Assignment`).  That keeps conflicting elements apart, and it keeps their order exactly when every
element conflicts with one of each depth below the depths it conflicts with (`NoGaps`), where the
depth counts the longest chain of conflicts leading to an element.  Where it does, and elements
without a conflict commute, working through the stages in any order inside each of them is the same
as working through the list.
-/

namespace FirstFit

variable {α β : Type*}

/-! ## The order of a list -/

/-- One element stands before another. -/
def Precedes (xs : List α) (a b : α) : Prop := [a, b].Sublist xs

variable {xs : List α} {a b : α}

lemma Precedes.left (h : Precedes xs a b) : a ∈ xs :=
  h.subset List.mem_cons_self

lemma Precedes.right (h : Precedes xs a b) : b ∈ xs :=
  h.subset (by simp)

variable {ys : List α}

lemma Precedes.mono (h : Precedes xs a b) (hsub : xs.Sublist ys) :
    Precedes ys a b :=
  h.trans hsub

variable {x : α}

lemma precedes_cons (h : b ∈ xs) : Precedes (x :: xs) x b :=
  (List.singleton_sublist.2 h).cons_cons x

lemma precedes_cons_iff :
    Precedes (x :: xs) a b ↔ Precedes xs a b ∨ (a = x ∧ b ∈ xs) := by
  constructor
  · intro h
    cases h with
    | cons _ h => exact Or.inl h
    | cons_cons _ h => exact Or.inr ⟨rfl, List.singleton_sublist.1 h⟩
  · rintro (h | ⟨rfl, h⟩)
    · exact h.mono (List.sublist_cons_self x xs)
    · exact precedes_cons h

/-- Without repetitions no two elements stand before each other. -/
lemma Precedes.asymm (hnodup : xs.Nodup) (h : Precedes xs a b) :
    ¬ Precedes xs b a := by
  induction xs with
  | nil => exact absurd h.left List.not_mem_nil
  | cons x rest ih =>
    obtain ⟨hx, hrest⟩ := List.nodup_cons.1 hnodup
    intro h'
    rcases precedes_cons_iff.1 h with hab | ⟨rfl, hb⟩ <;>
      rcases precedes_cons_iff.1 h' with hba | ⟨rfl, ha⟩
    · exact ih hrest hab hba
    · exact hx hab.right
    · exact hx hba.right
    · exact hx hb

/-- Of two members one stands before the other. -/
lemma precedes_or (ha : a ∈ xs) (hb : b ∈ xs) (hne : a ≠ b) :
    Precedes xs a b ∨ Precedes xs b a := by
  induction xs with
  | nil => exact absurd ha List.not_mem_nil
  | cons x rest ih =>
    rcases List.mem_cons.1 ha with rfl | harest <;> rcases List.mem_cons.1 hb with rfl | hbrest
    · exact absurd rfl hne
    · exact Or.inl (precedes_cons hbrest)
    · exact Or.inr (precedes_cons harest)
    · exact (ih harest hbrest).imp (·.mono (List.sublist_cons_self x rest))
        (·.mono (List.sublist_cons_self x rest))

/-- A part of a list keeps the order of its members. -/
lemma Precedes.of_sublist (hnodup : ys.Nodup) (hsub : xs.Sublist ys) (h : Precedes ys a b)
    (ha : a ∈ xs) (hb : b ∈ xs) : Precedes xs a b := by
  have hne : a ≠ b := fun heq => h.asymm hnodup (heq ▸ h)
  exact (precedes_or ha hb hne).resolve_right fun hba => h.asymm hnodup (hba.mono hsub)

variable {earlier : List α} {s : α}

/-- The elements before a position are those that precede its element. -/
lemma precedes_append_iff {later : List α} {u : α} (hnodup : (earlier ++ s :: later).Nodup) :
    Precedes (earlier ++ s :: later) u s ↔ u ∈ earlier := by
  have hs : s ∉ later := (List.nodup_cons.1 (List.nodup_append.1 hnodup).2.1).1
  induction earlier with
  | nil =>
    refine iff_of_false (fun h => ?_) List.not_mem_nil
    rcases precedes_cons_iff.1 h with h | ⟨-, h⟩
    · exact hs h.right
    · exact hs h
  | cons x rest ih =>
    rw [List.cons_append] at hnodup ⊢
    have hrest : Precedes (rest ++ s :: later) u s ↔ u ∈ rest := ih (List.nodup_cons.1 hnodup).2
    rw [precedes_cons_iff, hrest, List.mem_cons]
    constructor
    · rintro (h | ⟨rfl, -⟩)
      · exact Or.inr h
      · exact Or.inl rfl
    · rintro (rfl | h)
      · exact Or.inr ⟨rfl, by simp⟩
      · exact Or.inl h

/-! ## Passes and stages -/

variable (conflicts : α → α → Bool)

/-- One pass over the remaining elements, with what the stage has taken so far: the elements it
takes and those it passes over. -/
def pass (stage : List α) : List α → List α × List α
  | [] => ([], [])
  | x :: rest =>
      if stage.any (conflicts · x) then
        ((pass stage rest).1, x :: (pass stage rest).2)
      else (x :: (pass (stage ++ [x]) rest).1, (pass (stage ++ [x]) rest).2)

/-- The stages that passes over a list produce until nothing remains. -/
inductive Stages : List α → List (List α) → Prop
  | done : Stages [] []
  | pass {x : α} {xs : List α} {stages : List (List α)}
      (rest : Stages (pass conflicts [] (x :: xs)).2 stages) :
      Stages (x :: xs) ((pass conflicts [] (x :: xs)).1 :: stages)

/-- The position of the stage that holds an element. -/
def stageIndex [DecidableEq α] (stages : List (List α)) (a : α) : ℕ :=
  stages.findIdx fun stage => decide (a ∈ stage)

/-- Every element has the first number that no earlier conflicting element has. -/
structure Assignment (xs : List α) (number : α → ℕ) : Prop where
  apart : ∀ a b, Precedes xs a b → conflicts a b = true → number a ≠ number b
  blocked : ∀ b ∈ xs, ∀ j < number b, ∃ a, Precedes xs a b ∧ conflicts a b = true ∧ number a = j

lemma pass_perm (stage xs : List α) :
    ((pass conflicts stage xs).1 ++ (pass conflicts stage xs).2).Perm xs := by
  induction xs generalizing stage with
  | nil => exact List.Perm.refl _
  | cons x rest ih =>
    rw [pass]
    split
    · exact List.perm_middle.trans ((ih stage).cons x)
    · exact (ih (stage ++ [x])).cons x

lemma pass_sublist (stage xs : List α) :
    (pass conflicts stage xs).1.Sublist xs ∧ (pass conflicts stage xs).2.Sublist xs := by
  induction xs generalizing stage with
  | nil => exact ⟨List.Sublist.refl _, List.Sublist.refl _⟩
  | cons x rest ih =>
    rw [pass]
    split
    · exact ⟨(ih stage).1.cons x, (ih stage).2.cons_cons x⟩
    · exact ⟨(ih (stage ++ [x])).1.cons_cons x, (ih (stage ++ [x])).2.cons x⟩

/-- What a pass takes conflicts neither with the stage nor with what it took before. -/
lemma pass_apart (stage xs : List α) :
    (∀ a ∈ stage, ∀ b ∈ (pass conflicts stage xs).1, conflicts a b = false)
      ∧ (pass conflicts stage xs).1.Pairwise fun a b => conflicts a b = false := by
  induction xs generalizing stage with
  | nil => simp [pass]
  | cons x rest ih =>
    rw [pass]
    split
    · exact ih stage
    · next hfree =>
        obtain ⟨hstage, hpairs⟩ := ih (stage ++ [x])
        simp only [List.any_eq_true, not_exists, not_and, Bool.not_eq_true] at hfree
        refine ⟨fun a ha b hb => ?_, List.pairwise_cons.2 ⟨fun b hb => ?_, hpairs⟩⟩
        · rcases List.mem_cons.1 hb with rfl | hb
          · exact hfree a ha
          · exact hstage a (List.mem_append_left _ ha) b hb
        · exact hstage x (by simp) b hb

/-- What a pass leaves conflicts with the stage or with something it took before. -/
lemma pass_blocked (stage xs : List α) :
    ∀ b ∈ (pass conflicts stage xs).2, (∃ a ∈ stage, conflicts a b = true)
      ∨ ∃ a ∈ (pass conflicts stage xs).1, Precedes xs a b ∧ conflicts a b = true := by
  induction xs generalizing stage with
  | nil => simp [pass]
  | cons x rest ih =>
    have hwiden : ∀ {a b : α}, Precedes rest a b → Precedes (x :: rest) a b := fun h =>
      h.mono (List.sublist_cons_self x rest)
    rw [pass]
    split
    · next hblocked =>
        intro b hb
        rcases List.mem_cons.1 hb with rfl | hb
        · exact Or.inl (List.any_eq_true.1 hblocked)
        · exact (ih stage b hb).imp_right fun ⟨a, ha, hbefore, hconflict⟩ =>
            ⟨a, ha, hwiden hbefore, hconflict⟩
    · intro b hb
      have hbrest := (pass_sublist conflicts (stage ++ [x]) rest).2.subset hb
      rcases ih (stage ++ [x]) b hb with ⟨a, ha, hconflict⟩ | ⟨a, ha, hbefore, hconflict⟩
      · rcases List.mem_append.1 ha with ha | ha
        · exact Or.inl ⟨a, ha, hconflict⟩
        · obtain rfl := List.mem_singleton.1 ha
          exact Or.inr ⟨a, List.mem_cons_self, precedes_cons hbrest, hconflict⟩
      · exact Or.inr ⟨a, List.mem_cons_of_mem _ ha, hwiden hbefore, hconflict⟩

/-- The first remaining element is always taken. -/
lemma length_pass_lt (x : α) (xs : List α) :
    (pass conflicts [] (x :: xs)).2.length ≤ xs.length := by
  rw [pass]
  simpa using (pass_sublist conflicts [x] xs).2.length_le

variable {conflicts}

namespace Stages

variable {xs : List α} {stages : List (List α)}

/-- The stages hold every element once and nothing else. -/
lemma perm (h : Stages conflicts xs stages) : stages.flatten.Perm xs := by
  induction h with
  | done => exact List.Perm.refl _
  | pass _ ih =>
    rw [List.flatten_cons]
    exact (ih.append_left _).trans (pass_perm conflicts _ _)

/-- No two elements of a stage conflict, in list order. -/
lemma apart (h : Stages conflicts xs stages) :
    ∀ stage ∈ stages, stage.Pairwise fun a b => conflicts a b = false := by
  induction h with
  | done => simp
  | pass _ ih =>
    intro stage hstage
    rcases List.mem_cons.1 hstage with rfl | hstage
    · exact (pass_apart conflicts [] _).2
    · exact ih stage hstage

variable [DecidableEq α]

variable {stage : List α} {a : α}

lemma stageIndex_cons_of_mem (h : a ∈ stage) :
    stageIndex (stage :: stages) a = 0 := by
  simp [stageIndex, List.findIdx_cons, h]

lemma stageIndex_cons_of_not_mem (h : a ∉ stage) :
    stageIndex (stage :: stages) a = stageIndex stages a + 1 := by
  simp [stageIndex, List.findIdx_cons, h]

/-- First-fit stages number the elements first-fit. -/
theorem assignment (h : Stages conflicts xs stages) (hnodup : xs.Nodup) :
    Assignment conflicts xs (stageIndex stages) := by
  induction h with
  | done => exact ⟨fun a b hab => absurd hab.left List.not_mem_nil, by simp⟩
  | @pass x xs stages rest ih =>
    have hsub := pass_sublist conflicts [] (x :: xs)
    have hsplit := pass_perm conflicts [] (x :: xs)
    have hleft : ∀ a ∈ x :: xs, a ∉ (FirstFit.pass conflicts [] (x :: xs)).1 →
        a ∈ (FirstFit.pass conflicts [] (x :: xs)).2 := fun a ha hnot =>
      (List.mem_append.1 (hsplit.mem_iff.2 ha)).resolve_left hnot
    have hdisjoint : ∀ a ∈ (FirstFit.pass conflicts [] (x :: xs)).2,
        a ∉ (FirstFit.pass conflicts [] (x :: xs)).1 := fun a hrest hstage =>
      (List.nodup_append.1 (hsplit.nodup_iff.2 hnodup)).2.2 a hstage a hrest rfl
    have hlater := ih (hnodup.sublist hsub.2)
    refine ⟨fun a b hab hconflict => ?_, fun b hb j hj => ?_⟩
    · by_cases ha : a ∈ (FirstFit.pass conflicts [] (x :: xs)).1 <;>
        by_cases hb : b ∈ (FirstFit.pass conflicts [] (x :: xs)).1
      · have hpair := List.pairwise_iff_forall_sublist.1 (pass_apart conflicts [] (x :: xs)).2
          (hab.of_sublist hnodup hsub.1 ha hb)
        rw [hconflict] at hpair
        cases hpair
      · rw [stageIndex_cons_of_mem ha, stageIndex_cons_of_not_mem hb]
        omega
      · rw [stageIndex_cons_of_not_mem ha, stageIndex_cons_of_mem hb]
        omega
      · rw [stageIndex_cons_of_not_mem ha, stageIndex_cons_of_not_mem hb]
        have := hlater.apart a b (hab.of_sublist hnodup hsub.2 (hleft a hab.left ha)
          (hleft b hab.right hb)) hconflict
        omega
    · by_cases hstage : b ∈ (FirstFit.pass conflicts [] (x :: xs)).1
      · rw [stageIndex_cons_of_mem hstage] at hj
        omega
      rw [stageIndex_cons_of_not_mem hstage] at hj
      have hrest := hleft b hb hstage
      cases j with
      | zero =>
        rcases pass_blocked conflicts [] (x :: xs) b hrest with ⟨a, ha, -⟩ | ⟨a, ha, hab, hconflict⟩
        · cases ha
        · exact ⟨a, hab, hconflict, stageIndex_cons_of_mem ha⟩
      | succ j =>
        obtain ⟨a, hab, hconflict, hindex⟩ := hlater.blocked b hrest j (by omega)
        refine ⟨a, hab.mono hsub.2, hconflict, ?_⟩
        rw [stageIndex_cons_of_not_mem (hdisjoint a hab.left), hindex]

/-- An element in an earlier stage comes first when the stages are worked through in turn. -/
lemma precedes_of_stageIndex_lt {orders : List (List α)} {b : α}
    (horders : List.Forall₂ List.Perm orders stages) (ha : a ∈ stages.flatten)
    (hb : b ∈ stages.flatten) (hlt : stageIndex stages a < stageIndex stages b) :
    Precedes orders.flatten a b := by
  induction horders with
  | nil => simp at ha
  | @cons order stage orders stages hperm horders ih =>
    by_cases hbfirst : b ∈ stage
    · rw [stageIndex_cons_of_mem hbfirst] at hlt
      omega
    have hbrest : b ∈ stages.flatten := by
      rw [List.flatten_cons, List.mem_append] at hb
      exact hb.resolve_left hbfirst
    have hflat : orders.flatten.Perm stages.flatten := List.Perm.flatten_congr horders
    rw [List.flatten_cons]
    by_cases hafirst : a ∈ stage
    · have hparts := (List.singleton_sublist.2 (hperm.mem_iff.2 hafirst)).append
        (List.singleton_sublist.2 (hflat.mem_iff.2 hbrest))
      exact hparts
    · rw [stageIndex_cons_of_not_mem hafirst, stageIndex_cons_of_not_mem hbfirst] at hlt
      rw [List.flatten_cons, List.mem_append] at ha
      exact (ih (ha.resolve_left hafirst) hbrest (by omega)).mono (List.sublist_append_right _ _)

end Stages

/-! ## Depths -/

/-- The length of the longest chain of conflicts through the earlier elements, newest first, to an
element. -/
def depthAfter (conflicts : α → α → Bool) : List α → α → ℕ
  | [], _ => 0
  | t :: older, s =>
      max (if conflicts t s then depthAfter conflicts older t + 1 else 0)
        (depthAfter conflicts older s)

/-- The depth of an element behind the earlier ones of a list. -/
def depth (conflicts : α → α → Bool) (earlier : List α) (s : α) : ℕ :=
  depthAfter conflicts earlier.reverse s

/-- Whatever conflicts with an element conflicts with earlier elements of every depth below. -/
def NoGaps (conflicts : α → α → Bool) (xs : List α) : Prop :=
  ∀ earlier s later, xs = earlier ++ s :: later →
    ∀ before t after, earlier = before ++ t :: after → conflicts t s = true →
      ∀ d < depth conflicts before t, ∃ before' u after', earlier = before' ++ u :: after'
        ∧ conflicts u s = true ∧ depth conflicts before' u = d

lemma depth_append_singleton (earlier : List α) (t s : α) :
    depth conflicts (earlier ++ [t]) s
      = max (if conflicts t s then depth conflicts earlier t + 1 else 0)
          (depth conflicts earlier s) := by
  rw [depth, List.reverse_append, List.reverse_singleton, List.singleton_append, depthAfter]
  rfl

/-- An element lies deeper than any earlier one it conflicts with. -/
lemma depth_lt {before after : List α} {t : α} (h : conflicts t s = true) :
    depth conflicts before t < depth conflicts (before ++ t :: after) s := by
  induction after using List.reverseRecOn with
  | nil =>
    rw [depth_append_singleton, if_pos h]
    omega
  | append_singleton after u ih =>
    rw [show before ++ t :: (after ++ [u]) = (before ++ t :: after) ++ [u] by simp,
      depth_append_singleton]
    omega

/-- An element is as deep as it is because of an earlier one it conflicts with. -/
lemma exists_of_lt_depth {d : ℕ} (h : d < depth conflicts earlier s) :
    ∃ before t after, earlier = before ++ t :: after ∧ conflicts t s = true
      ∧ d ≤ depth conflicts before t := by
  induction earlier using List.reverseRecOn with
  | nil => simp [depth, depthAfter] at h
  | append_singleton earlier t ih =>
    rw [depth_append_singleton] at h
    by_cases hearlier : d < depth conflicts earlier s
    · obtain ⟨before, u, after, rfl, hconflict, hle⟩ := ih hearlier
      exact ⟨before, u, after ++ [t], by simp, hconflict, hle⟩
    · split at h
      · next hconflict => exact ⟨earlier, t, [], rfl, hconflict, by omega⟩
      · omega

namespace Assignment

variable {xs : List α} {number : α → ℕ}

/-- The elements of a first-fit numbering are numbered by depth if nothing is ever passed over by
a conflicting element. -/
lemma number_eq_depth (h : Assignment conflicts xs number) (hnodup : xs.Nodup)
    (hdeep : ∀ earlier s later, xs = earlier ++ s :: later →
      ∀ before t after, earlier = before ++ t :: after → conflicts t s = true →
        (∀ before' u after', earlier = before' ++ u :: after' →
          number u = depth conflicts before' u) →
        ¬ number s ≤ number t)
    (earlier : List α) (s : α) (later : List α) (hxs : xs = earlier ++ s :: later) :
    number s = depth conflicts earlier s := by
  induction hlength : earlier.length using Nat.strongRecOn generalizing earlier s later with
  | ind n ih =>
    have hearlier : ∀ before u after, earlier = before ++ u :: after →
        number u = depth conflicts before u := by
      intro before u after hsplit
      refine ih before.length ?_ before u (after ++ s :: later) ?_ rfl
      · rw [← hlength, hsplit]
        simp
      · rw [hxs, hsplit]
        simp
    refine Nat.le_antisymm (Nat.le_of_not_lt fun hlt => ?_) (Nat.le_of_not_lt fun hlt => ?_)
    · -- the number of its depth was blocked by an earlier element, which lies deeper than it is
      have hmem : s ∈ xs := by simp [hxs]
      obtain ⟨t, hprecedes, hconflict, hnumber⟩ := h.blocked s hmem _ hlt
      rw [hxs] at hprecedes hnodup
      obtain ⟨before, after, rfl⟩ :=
        List.append_of_mem ((precedes_append_iff hnodup).1 hprecedes)
      have hdeeper : depth conflicts before t < depth conflicts (before ++ t :: after) s :=
        depth_lt hconflict
      rw [← hearlier before t after rfl, hnumber] at hdeeper
      omega
    · obtain ⟨before, t, after, hsplit, hconflict, hle⟩ := exists_of_lt_depth hlt
      rw [← hearlier before t after hsplit] at hle
      exact hdeep earlier s later hxs before t after hsplit hconflict hearlier hle

/-- A first-fit numbering keeps the order of conflicting elements exactly when there are no gaps. -/
theorem ordered_iff (h : Assignment conflicts xs number) (hnodup : xs.Nodup) :
    (∀ a b, Precedes xs a b → conflicts a b = true → number a < number b)
      ↔ NoGaps conflicts xs := by
  have hbefore : ∀ {earlier : List α} {s : α} {later before : List α} {t : α} {after : List α},
      xs = earlier ++ s :: later → earlier = before ++ t :: after → Precedes xs t s := by
    intro earlier s later before t after hxs hsplit
    rw [hxs] at hnodup ⊢
    exact (precedes_append_iff hnodup).2 (by simp [hsplit])
  constructor
  · intro hordered earlier s later hxs before t after hsplit hconflict d hd
    have hdepth := h.number_eq_depth hnodup fun earlier s later hxs before t after hsplit hconflict
        _ hle => absurd (hordered t s (hbefore hxs hsplit) hconflict) (by omega)
    have ht := hdepth before t (after ++ s :: later) (by simp [hxs, hsplit])
    have hlt := hordered t s (hbefore hxs hsplit) hconflict
    obtain ⟨u, hprecedes, hconflict', hnumber⟩ :=
      h.blocked s (hbefore hxs hsplit).right d (by omega)
    rw [hxs] at hprecedes hnodup
    obtain ⟨before', after', hsplit'⟩ :=
      List.append_of_mem ((precedes_append_iff hnodup).1 hprecedes)
    refine ⟨before', u, after', hsplit', hconflict', ?_⟩
    rw [← hdepth before' u (after' ++ s :: later) (by simp [hxs, hsplit']), hnumber]
  · intro hgaps
    have hdepth := h.number_eq_depth hnodup fun earlier s later hxs before t after hsplit hconflict
        hearlier hle => by
      rcases Nat.lt_or_eq_of_le hle with hlt | heq
      · rw [hearlier before t after hsplit] at hlt
        obtain ⟨before', u, after', hsplit', hconflict', hdepth'⟩ :=
          hgaps earlier s later hxs before t after hsplit hconflict _ hlt
        rw [← hearlier before' u after' hsplit'] at hdepth'
        exact h.apart u s (hbefore hxs hsplit') hconflict' hdepth'
      · exact h.apart t s (hbefore hxs hsplit) hconflict heq.symm
    intro a b hab hconflict
    obtain ⟨earlier, later, hxs⟩ := List.append_of_mem hab.right
    have hmem : a ∈ earlier := by
      rw [hxs] at hab hnodup
      exact (precedes_append_iff hnodup).1 hab
    obtain ⟨before, after, hsplit⟩ := List.append_of_mem hmem
    rw [hdepth earlier b later hxs,
      hdepth before a (after ++ b :: later) (by simp [hxs, hsplit]), hsplit]
    exact depth_lt hconflict

end Assignment

/-! ## Reordering -/

section Reordering

variable {step : β → α → β}

/-- An element moves to the front past elements it commutes with. -/
lemma foldl_move_front {x : α} {front : List α}
    (hcomm : ∀ y ∈ front, ∀ w, step (step w y) x = step (step w x) y) (back : List α) (w : β) :
    (front ++ x :: back).foldl step w = (x :: (front ++ back)).foldl step w := by
  induction front generalizing w with
  | nil => rfl
  | cons y rest ih =>
    have hrest := ih (fun z hz => hcomm z (List.mem_cons_of_mem y hz)) (step w y)
    rw [List.cons_append, List.foldl_cons, hrest, List.foldl_cons, List.foldl_cons,
      hcomm y List.mem_cons_self]
    rfl

/-- A permutation that keeps the order of conflicting elements has the same effect, where all other
elements commute. -/
theorem foldl_eq_of_order (conflicts : α → α → Bool) {xs ys : List α} (hnodup : xs.Nodup)
    (hperm : xs.Perm ys)
    (hcomm : ∀ a ∈ xs, ∀ b ∈ xs, a ≠ b → conflicts a b = false →
      ∀ w, step (step w a) b = step (step w b) a)
    (horder : ∀ a b, Precedes xs a b → conflicts a b = true → Precedes ys a b) (w : β) :
    ys.foldl step w = xs.foldl step w := by
  induction xs generalizing ys w with
  | nil => rw [hperm.nil_eq]
  | cons x rest ih =>
    obtain ⟨hx, hrest⟩ := List.nodup_cons.1 hnodup
    obtain ⟨front, back, rfl⟩ := List.append_of_mem (hperm.mem_iff.1 List.mem_cons_self)
    have hynodup : (front ++ x :: back).Nodup := hperm.nodup_iff.1 hnodup
    have hperm' : rest.Perm (front ++ back) := (hperm.trans List.perm_middle).cons_inv
    have hfront : ∀ y ∈ front, ∀ w, step (step w y) x = step (step w x) y := by
      intro y hy w
      have hyrest : y ∈ rest := hperm'.mem_iff.2 (List.mem_append_left _ hy)
      have hne : x ≠ y := fun heq => hx (heq ▸ hyrest)
      have hfree : conflicts x y = false := by
        by_contra hconflict
        have hafter := horder x y (precedes_cons hyrest) (by simpa using hconflict)
        exact hafter.asymm hynodup ((precedes_append_iff hynodup).2 hy)
      exact (hcomm x List.mem_cons_self y (List.mem_cons_of_mem x hyrest) hne hfree w).symm
    rw [foldl_move_front hfront, List.foldl_cons, List.foldl_cons]
    refine ih hrest hperm' (fun a ha b hb => hcomm a (List.mem_cons_of_mem x ha) b
      (List.mem_cons_of_mem x hb)) (fun a b hab hconflict => ?_) _
    exact (horder a b (hab.mono (List.sublist_cons_self x rest)) hconflict).of_sublist hynodup
      ((List.sublist_cons_self x back).append_left front) (hperm'.mem_iff.1 hab.left)
      (hperm'.mem_iff.1 hab.right)

end Reordering

end FirstFit
