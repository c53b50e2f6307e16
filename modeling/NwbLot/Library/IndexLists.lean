import Mathlib.Data.List.Basic
import Mathlib.Data.List.Nodup
import Mathlib.Data.List.Perm.Subperm
import Mathlib.Logic.Function.Basic

/-!
# Intrusive lists over one table

Nodes of one table carry the index of their successor, and several owners hold the index of a
first node.  `Owned` says that the owners' lists are the acyclic, disjoint lists that make up the
table; the moves of a node between two owners keep it.
-/

namespace IndexLists

variable {ι ο : Type*} {next next' : ι → Option ι} {stop : ι}

/-- Following `next` from the first index visits the nodes in order and ends at `stop`. -/
inductive Linked (next : ι → Option ι) (stop : ι) : ι → List ι → Prop
  | stop : Linked next stop stop []
  | cons {node after : ι} {nodes : List ι} (hne : node ≠ stop) (hnext : next node = some after)
      (rest : Linked next stop after nodes) : Linked next stop node (node :: nodes)

namespace Linked

variable {nodes : List ι}

lemma eq_nil_of_stop (h : Linked next stop stop nodes) : nodes = [] := by
  cases h with
  | stop => rfl
  | cons hne _ _ => exact absurd rfl hne

variable {start : ι}

lemma eq_cons (h : Linked next stop start nodes) (hne : start ≠ stop) :
    ∃ after rest, next start = some after ∧ nodes = start :: rest ∧
      Linked next stop after rest := by
  cases h with
  | stop => exact absurd rfl hne
  | cons _ hnext rest => exact ⟨_, _, hnext, rfl, rest⟩

variable {node : ι}

lemma start_eq (h : Linked next stop start (node :: nodes)) :
    start = node := by
  cases h
  rfl

lemma start_eq_of_nil (h : Linked next stop start []) : start = stop := by
  cases h
  rfl

lemma congr (h : Linked next stop start nodes) (hsame : ∀ node ∈ nodes, next' node = next node) :
    Linked next' stop start nodes := by
  induction h with
  | stop => exact .stop
  | cons hne hnext rest ih =>
    refine .cons hne ?_ (ih fun node hnode => hsame node (List.mem_cons_of_mem _ hnode))
    rw [hsame _ List.mem_cons_self, hnext]

lemma unique {nodes' : List ι} (h : Linked next stop start nodes)
    (h' : Linked next stop start nodes') : nodes = nodes' := by
  induction h generalizing nodes' with
  | stop => exact h'.eq_nil_of_stop.symm
  | cons hne hnext rest ih =>
    obtain ⟨after', rest', hnext', rfl, hrest'⟩ := h'.eq_cons hne
    obtain rfl : _ = after' := Option.some.inj (hnext.symm.trans hnext')
    rw [ih hrest']

lemma ne_stop (h : Linked next stop start nodes) (hnode : node ∈ nodes) : node ≠ stop := by
  induction h with
  | stop => simp at hnode
  | cons hne hnext rest ih =>
    rcases List.mem_cons.1 hnode with rfl | hmem
    · exact hne
    · exact ih hmem

lemma exists_next (h : Linked next stop start nodes) (hnode : node ∈ nodes) :
    ∃ after, next node = some after := by
  induction h with
  | stop => simp at hnode
  | cons hne hnext rest ih =>
    rcases List.mem_cons.1 hnode with rfl | hmem
    · exact ⟨_, hnext⟩
    · exact ih hmem

/-- The nodes after a part of the list are linked from the successor of that part. -/
lemma suffix {before : List ι} (h : Linked next stop start (before ++ node :: nodes)) :
    Linked next stop node (node :: nodes) := by
  induction before generalizing start with
  | nil =>
    obtain rfl := start_eq h
    exact h
  | cons first before ih =>
    cases h with
    | cons _ _ rest => exact ih rest

/-- A list that ends visits no node twice. -/
lemma nodup (h : Linked next stop start nodes) : nodes.Nodup := by
  induction nodes generalizing start with
  | nil => exact List.nodup_nil
  | cons node nodes ih =>
    cases h with
    | cons hne hnext rest =>
      refine List.nodup_cons.2 ⟨fun hmem => ?_, ih rest⟩
      obtain ⟨before, later, rfl⟩ := List.append_of_mem hmem
      have hshort := (suffix rest).unique (.cons hne hnext rest)
      have hlength := congrArg List.length hshort
      simp only [List.length_cons, List.length_append] at hlength
      omega

/-- Unlinking the node behind `prev`. -/
lemma unlink [DecidableEq ι] {prev after : ι} {before : List ι}
    (h : Linked next stop start (before ++ prev :: node :: nodes))
    (hnext : next node = some after) :
    Linked (Function.update next prev (some after)) stop start (before ++ prev :: nodes) := by
  have hnodup := h.nodup
  induction before generalizing start with
  | nil =>
    cases h with
    | cons hne _ rest =>
      cases rest with
      | cons _ hnext' rest' =>
        obtain rfl : _ = after := Option.some.inj (hnext'.symm.trans hnext)
        have hfresh : ∀ i ∈ nodes, i ≠ prev := by
          rintro i hi rfl
          exact (List.nodup_cons.1 hnodup).1 (List.mem_cons_of_mem _ hi)
        exact .cons hne (Function.update_self ..)
          (rest'.congr fun i hi => Function.update_of_ne (hfresh i hi) ..)
  | cons first before ih =>
    cases h with
    | cons hne hfirst rest =>
      have hapart : first ≠ prev := by
        rintro rfl
        exact (List.nodup_cons.1 hnodup).1 (List.mem_append_right _ List.mem_cons_self)
      refine .cons hne ?_ (ih rest (List.nodup_cons.1 hnodup).2)
      rw [Function.update_of_ne hapart, hfirst]

end Linked

/-- Every owner's list is linked from its first index, no node has two owners, and every node of
the table has one. -/
structure Owned (next : ι → Option ι) (stop : ι) (start : ο → ι) (lists : ο → List ι) : Prop where
  linked : ∀ owner, Linked next stop (start owner) (lists owner)
  disjoint : ∀ owner owner' node, node ∈ lists owner → node ∈ lists owner' → owner = owner'
  covers : ∀ node after, next node = some after → ∃ owner, node ∈ lists owner

namespace Owned

variable {start : ο → ι} {lists : ο → List ι}

lemma nodup (h : Owned next stop start lists) (owner : ο) : (lists owner).Nodup :=
  (h.linked owner).nodup

variable {owner owner' : ο} {node : ι}

lemma not_mem (h : Owned next stop start lists) (hne : owner ≠ owner')
    (hnode : node ∈ lists owner) : node ∉ lists owner' :=
  fun hnode' => hne (h.disjoint _ _ _ hnode hnode')

/-- A list is no longer than the table. -/
lemma length_le {nodes : ℕ → Option ℕ} {size stop : ℕ} {start : ο → ℕ} {lists : ο → List ℕ}
    (h : Owned nodes stop start lists) (hsize : ∀ node after, nodes node = some after → node < size)
    (owner : ο) : (lists owner).length ≤ size := by
  have hsub : lists owner ⊆ List.range size := by
    intro node hnode
    obtain ⟨after, hnext⟩ := (h.linked owner).exists_next hnode
    exact List.mem_range.2 (hsize node after hnext)
  have hlength := (List.subperm_of_subset (h.nodup owner) hsub).length_le
  rwa [List.length_range] at hlength

variable [DecidableEq ι] [DecidableEq ο]

variable {nodes : List ι} {after : ι}

/-- Moving the first node of one owner to the front of another's list. -/
theorem moveHead (h : Owned next stop start lists) (hne : owner ≠ owner')
    (hlist : lists owner = node :: nodes) (hnext : next node = some after) :
    Owned (Function.update next node (some (start owner'))) stop
      (Function.update (Function.update start owner after) owner' node)
      (Function.update (Function.update lists owner nodes) owner' (node :: lists owner')) := by
  have hmem : node ∈ lists owner := by rw [hlist]; exact List.mem_cons_self
  have hlinked : Linked next stop node (node :: nodes) := by
    have hlinked := h.linked owner
    rw [hlist] at hlinked
    rwa [hlinked.start_eq] at hlinked
  have hfresh : node ∉ nodes := (List.nodup_cons.1 (hlist ▸ h.nodup owner)).1
  have hkeep : ∀ {first : ι} {others : List ι}, Linked next stop first others → node ∉ others →
      Linked (Function.update next node (some (start owner'))) stop first others :=
    fun hothers hnot => hothers.congr fun i hi =>
      Function.update_of_ne (ne_of_mem_of_not_mem hi hnot) ..
  constructor
  · intro o
    by_cases ho' : o = owner'
    · subst ho'
      rw [Function.update_self, Function.update_self]
      exact .cons (hlinked.ne_stop List.mem_cons_self) (Function.update_self ..)
        (hkeep (h.linked o) (h.not_mem hne hmem))
    · rw [Function.update_of_ne ho', Function.update_of_ne ho']
      by_cases ho : o = owner
      · subst ho
        rw [Function.update_self, Function.update_self]
        obtain ⟨after', rest, hafter, heq, hrest⟩ :=
          hlinked.eq_cons (hlinked.ne_stop List.mem_cons_self)
        obtain rfl : after = after' := Option.some.inj (hnext.symm.trans hafter)
        obtain rfl : nodes = rest := (List.cons.inj heq).2
        exact hkeep hrest hfresh
      · rw [Function.update_of_ne ho, Function.update_of_ne ho]
        exact hkeep (h.linked o) (h.not_mem (Ne.symm ho) hmem)
  · have hwho : ∀ o i, i ∈ Function.update (Function.update lists owner nodes) owner'
        (node :: lists owner') o → (i = node ∧ o = owner') ∨ (i ≠ node ∧ i ∈ lists o) := by
      intro o i hi
      by_cases ho' : o = owner'
      · subst ho'
        rw [Function.update_self] at hi
        rcases List.mem_cons.1 hi with rfl | hi
        · exact Or.inl ⟨rfl, rfl⟩
        · exact Or.inr ⟨fun heq => h.not_mem hne hmem (heq ▸ hi), hi⟩
      · rw [Function.update_of_ne ho'] at hi
        by_cases ho : o = owner
        · subst ho
          rw [Function.update_self] at hi
          exact Or.inr ⟨fun heq => hfresh (heq ▸ hi), hlist ▸ List.mem_cons_of_mem _ hi⟩
        · rw [Function.update_of_ne ho] at hi
          exact Or.inr ⟨fun heq => h.not_mem (Ne.symm ho) hmem (heq ▸ hi), hi⟩
    intro o o' i hi hi'
    rcases hwho o i hi with ⟨hnode, ho⟩ | ⟨hnode, hio⟩ <;>
      rcases hwho o' i hi' with ⟨hnode', ho'⟩ | ⟨hnode', hio'⟩
    · rw [ho, ho']
    · exact absurd hnode hnode'
    · exact absurd hnode' hnode
    · exact h.disjoint o o' i hio hio'
  · intro i after' hi
    by_cases hnode : i = node
    · exact ⟨owner', by rw [Function.update_self, hnode]; exact List.mem_cons_self⟩
    · rw [Function.update_of_ne hnode] at hi
      obtain ⟨o, hio⟩ := h.covers i after' hi
      refine ⟨o, ?_⟩
      by_cases ho' : o = owner'
      · subst ho'
        rw [Function.update_self]
        exact List.mem_cons_of_mem _ hio
      · rw [Function.update_of_ne ho']
        by_cases ho : o = owner
        · subst ho
          rw [Function.update_self]
          rw [hlist] at hio
          exact (List.mem_cons.1 hio).resolve_left hnode
        · rwa [Function.update_of_ne ho]

/-- Adding a node that the table does not have yet. -/
theorem pushFresh (h : Owned next stop start lists) (hfresh : next node = none)
    (hstop : node ≠ stop) :
    Owned (Function.update next node (some (start owner))) stop (Function.update start owner node)
      (Function.update lists owner (node :: lists owner)) := by
  have hnot : ∀ o, node ∉ lists o := by
    intro o hmem
    obtain ⟨after, hnext⟩ := (h.linked o).exists_next hmem
    rw [hfresh] at hnext
    cases hnext
  have hkeep : ∀ o, Linked (Function.update next node (some (start owner))) stop (start o)
      (lists o) :=
    fun o => (h.linked o).congr fun i hi =>
      Function.update_of_ne (ne_of_mem_of_not_mem hi (hnot o)) ..
  have hwho : ∀ o i, i ∈ Function.update lists owner (node :: lists owner) o →
      (i = node ∧ o = owner) ∨ (i ≠ node ∧ i ∈ lists o) := by
    intro o i hi
    by_cases ho : o = owner
    · subst ho
      rw [Function.update_self] at hi
      rcases List.mem_cons.1 hi with rfl | hi
      · exact Or.inl ⟨rfl, rfl⟩
      · exact Or.inr ⟨fun heq => hnot o (heq ▸ hi), hi⟩
    · rw [Function.update_of_ne ho] at hi
      exact Or.inr ⟨fun heq => hnot o (heq ▸ hi), hi⟩
  constructor
  · intro o
    by_cases ho : o = owner
    · subst ho
      rw [Function.update_self, Function.update_self]
      exact .cons hstop (Function.update_self ..) (hkeep o)
    · rw [Function.update_of_ne ho, Function.update_of_ne ho]
      exact hkeep o
  · intro o o' i hi hi'
    rcases hwho o i hi with ⟨hnode, ho⟩ | ⟨hnode, hio⟩ <;>
      rcases hwho o' i hi' with ⟨hnode', ho'⟩ | ⟨hnode', hio'⟩
    · rw [ho, ho']
    · exact absurd hnode hnode'
    · exact absurd hnode' hnode
    · exact h.disjoint o o' i hio hio'
  · intro i after hi
    by_cases hnode : i = node
    · exact ⟨owner, by rw [Function.update_self, hnode]; exact List.mem_cons_self⟩
    · rw [Function.update_of_ne hnode] at hi
      obtain ⟨o, hio⟩ := h.covers i after hi
      refine ⟨o, ?_⟩
      by_cases ho : o = owner
      · subst ho
        rw [Function.update_self]
        exact List.mem_cons_of_mem _ hio
      · rwa [Function.update_of_ne ho]

/-- Unlinking a node behind another one brings it to the front of its list. -/
theorem toFront (h : Owned next stop start lists) {prev : ι} {before : List ι}
    (hlist : lists owner = before ++ prev :: node :: nodes) (hnext : next node = some after) :
    Owned (Function.update (Function.update next prev (some after)) node (some (start owner))) stop
      (Function.update start owner node)
      (Function.update lists owner (node :: (before ++ prev :: nodes))) := by
  have hnodup := h.nodup owner
  rw [hlist] at hnodup
  have hlinked := h.linked owner
  rw [hlist] at hlinked
  have hperm : (before ++ prev :: node :: nodes).Perm (node :: (before ++ prev :: nodes)) := by
    have hmiddle : ((before ++ [prev]) ++ node :: nodes).Perm (node :: ((before ++ [prev]) ++ nodes)) :=
      List.perm_middle
    simpa using hmiddle
  have hmem : ∀ o i, i ∈ Function.update lists owner (node :: (before ++ prev :: nodes)) o ↔
      i ∈ lists o := by
    intro o i
    by_cases ho : o = owner
    · subst ho
      rw [Function.update_self, hlist]
      exact hperm.symm.mem_iff
    · rw [Function.update_of_ne ho]
  have hfresh : node ∉ before ++ prev :: nodes :=
    (List.nodup_cons.1 (hperm.nodup hnodup)).1
  have hprev : prev ∈ lists owner := by rw [hlist]; simp
  have hnode : node ∈ lists owner := by rw [hlist]; simp
  constructor
  · intro o
    by_cases ho : o = owner
    · subst ho
      rw [Function.update_self, Function.update_self]
      refine .cons (hlinked.ne_stop (by simp)) (Function.update_self ..)
        ((hlinked.unlink hnext).congr fun i hi => Function.update_of_ne ?_ ..)
      rintro rfl
      exact hfresh hi
    · rw [Function.update_of_ne ho, Function.update_of_ne ho]
      refine (h.linked o).congr fun i hi => ?_
      rw [Function.update_of_ne (ne_of_mem_of_not_mem hi (h.not_mem (Ne.symm ho) hnode)),
        Function.update_of_ne (ne_of_mem_of_not_mem hi (h.not_mem (Ne.symm ho) hprev))]
  · intro o o' i hi hi'
    exact h.disjoint o o' i ((hmem o i).1 hi) ((hmem o' i).1 hi')
  · intro i after' hi
    have hsome : ∃ after', next i = some after' := by
      by_cases hi' : i = node
      · exact ⟨after, hi' ▸ hnext⟩
      · rw [Function.update_of_ne hi'] at hi
        by_cases hip : i = prev
        · exact hip ▸ (h.linked owner).exists_next hprev
        · rw [Function.update_of_ne hip] at hi
          exact ⟨after', hi⟩
    obtain ⟨after'', hi⟩ := hsome
    obtain ⟨o, hio⟩ := h.covers i after'' hi
    exact ⟨o, (hmem o i).2 hio⟩

/-- Moving a node from behind another one to the front of another owner's list. -/
theorem moveInner (h : Owned next stop start lists) (hne : owner ≠ owner') {prev : ι}
    {before : List ι} (hlist : lists owner = before ++ prev :: node :: nodes)
    (hnext : next node = some after) :
    Owned (Function.update (Function.update next prev (some after)) node (some (start owner'))) stop
      (Function.update start owner' node)
      (Function.update (Function.update lists owner (before ++ prev :: nodes)) owner'
        (node :: lists owner')) := by
  have hmove := (h.toFront hlist hnext).moveHead hne (Function.update_self ..)
    (Function.update_self ..)
  rw [Function.update_idem, Function.update_idem, Function.update_idem, Function.update_eq_self,
    Function.update_of_ne hne.symm, Function.update_of_ne hne.symm] at hmove
  exact hmove

end Owned
end IndexLists
