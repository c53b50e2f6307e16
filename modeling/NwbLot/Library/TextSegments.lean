import Mathlib.Data.List.DropRight
import Mathlib.Data.List.Forall2
import Mathlib.Data.List.Basic

/-!
# Segments of a text

The segments between separators, when some separators are taken for ordinary characters, and the
last place of a character.
-/

namespace List

variable {α : Type}

/-- Every text has a first segment. -/
lemma exists_splitOnP_cons (p : α → Bool) (text : List α) :
    ∃ head tail, text.splitOnP p = head :: tail :=
  exists_cons_of_ne_nil (splitOnP_ne_nil p text)

/-- The first segments of a text that starts with an ordinary character. -/
lemma splitOnP_cons_of_neg {p : α → Bool} {x : α} {text head : List α} {tail : List (List α)}
    (hx : p x = false) (h : text.splitOnP p = head :: tail) :
    (x :: text).splitOnP p = (x :: head) :: tail := by
  rw [splitOnP_cons_eq_if_modifyHead, if_neg (by rw [hx]; decide), h]
  rfl

lemma splitOnP_cons_of_pos {p : α → Bool} {x : α} {text : List α} (hx : p x = true) :
    (x :: text).splitOnP p = [] :: text.splitOnP p := by
  rw [splitOnP_cons_eq_if_modifyHead, if_pos hx]

/-- A segment without a separator of either kind is a segment for the larger kind. -/
lemma mem_splitOnP_of_coarser {p q : α → Bool} (hpq : ∀ x, p x = true → q x = true)
    {text segment : List α} (hmem : segment ∈ text.splitOnP p)
    (hsegment : ∀ x ∈ segment, q x = false) : segment ∈ text.splitOnP q := by
  -- the first segments agree when the one has no separator, and the others are found among the others
  suffices hboth : ∀ headP tailP headQ tailQ, text.splitOnP p = headP :: tailP →
      text.splitOnP q = headQ :: tailQ →
      ((∀ x ∈ headP, q x = false) → headP = headQ) ∧
        ∀ other ∈ tailP, (∀ x ∈ other, q x = false) → other ∈ tailQ by
    obtain ⟨headP, tailP, hP⟩ := exists_splitOnP_cons p text
    obtain ⟨headQ, tailQ, hQ⟩ := exists_splitOnP_cons q text
    obtain ⟨hhead, htail⟩ := hboth headP tailP headQ tailQ hP hQ
    rw [hP] at hmem
    rw [hQ]
    rcases mem_cons.1 hmem with rfl | hmem
    · rw [hhead hsegment]
      exact mem_cons_self
    · exact mem_cons_of_mem _ (htail segment hmem hsegment)
  clear hmem
  induction text with
  | nil =>
    intro headP tailP headQ tailQ hP hQ
    obtain ⟨rfl, rfl⟩ := cons.inj hP
    obtain ⟨rfl, rfl⟩ := cons.inj hQ
    exact ⟨fun _ => rfl, fun other hother => absurd hother not_mem_nil⟩
  | cons x text ih =>
    intro headP tailP headQ tailQ hP hQ
    obtain ⟨headP', tailP', hP'⟩ := exists_splitOnP_cons p text
    obtain ⟨headQ', tailQ', hQ'⟩ := exists_splitOnP_cons q text
    obtain ⟨hhead, htail⟩ := ih headP' tailP' headQ' tailQ' hP' hQ'
    by_cases hx : q x = true
    · rw [splitOnP_cons_of_pos hx, hQ'] at hQ
      obtain ⟨rfl, rfl⟩ := cons.inj hQ
      by_cases hxP : p x = true
      · rw [splitOnP_cons_of_pos hxP, hP'] at hP
        obtain ⟨rfl, rfl⟩ := cons.inj hP
        refine ⟨fun _ => rfl, fun other hother hother' => ?_⟩
        rcases mem_cons.1 hother with rfl | hother
        · rw [hhead hother']
          exact mem_cons_self
        · exact mem_cons_of_mem _ (htail other hother hother')
      · rw [splitOnP_cons_of_neg (Bool.not_eq_true _ ▸ hxP) hP'] at hP
        obtain ⟨rfl, rfl⟩ := cons.inj hP
        refine ⟨fun hfree => ?_, fun other hother hother' =>
          mem_cons_of_mem _ (htail other hother hother')⟩
        exact absurd (hfree x mem_cons_self) (by rw [hx]; decide)
    · have hxP : p x = false := Bool.eq_false_iff.2 fun h => hx (hpq x h)
      rw [splitOnP_cons_of_neg (Bool.not_eq_true _ ▸ hx) hQ'] at hQ
      rw [splitOnP_cons_of_neg hxP hP'] at hP
      obtain ⟨rfl, rfl⟩ := cons.inj hP
      obtain ⟨rfl, rfl⟩ := cons.inj hQ
      refine ⟨fun hfree => ?_, htail⟩
      rw [hhead fun y hy => hfree y (mem_cons_of_mem _ hy)]

/-- The segments of a text whose separators are all one character. -/
lemma splitOnP_eq_splitOn [DecidableEq α] {p : α → Bool} {separator : α} {text : List α}
    (h : ∀ x ∈ text, p x = true ↔ x = separator) :
    text.splitOnP p = text.splitOn separator := by
  induction text with
  | nil => rfl
  | cons x text ih =>
    have hrest := ih fun y hy => h y (mem_cons_of_mem x hy)
    rw [splitOnP_cons_eq_if_modifyHead, splitOn_cons_eq_if_modifyHead, hrest]
    have hx : p x = (x == separator) := by
      rw [Bool.eq_iff_iff, h x mem_cons_self, beq_iff_eq]
    rw [hx]

/-- Joining the segments of two texts. -/
lemma intercalate_append {separator : α} {left right : List (List α)} (hleft : left ≠ [])
    (hright : right ≠ []) :
    [separator].intercalate (left ++ right) =
      [separator].intercalate left ++ separator :: [separator].intercalate right := by
  induction left with
  | nil => exact absurd rfl hleft
  | cons segment left ih =>
    cases left with
    | nil =>
      rw [singleton_append, intercalate_cons_of_ne_nil hright, intercalate_singleton,
        append_assoc, singleton_append]
    | cons next left =>
      rw [cons_append, intercalate_cons_of_ne_nil (by exact cons_ne_nil _ _),
        ih (cons_ne_nil _ _), intercalate_cons_of_ne_nil (cons_ne_nil _ _)]
      simp only [append_assoc]

/-- The last place of a character among the first ones of a text. -/
def lastIndexBelow [DecidableEq α] (text : List α) (x : α) : ℕ → Option ℕ
  | 0 => none
  | i + 1 => if text[i]? = some x then some i else text.lastIndexBelow x i

/-- The place of a character that does not come again. -/
lemma lastIndexBelow_append [DecidableEq α] {x : α} (before : List α) {after : List α}
    (h : x ∉ after) :
    (before ++ x :: after).lastIndexBelow x (before ++ x :: after).length =
      some before.length := by
  suffices hbelow : ∀ count ≤ after.length,
      (before ++ x :: after).lastIndexBelow x (before.length + 1 + count) =
        some before.length by
    have hall := hbelow after.length (Nat.le_refl _)
    rwa [length_append, length_cons, Nat.add_comm after.length 1, ← Nat.add_assoc]
  intro count
  induction count with
  | zero =>
    intro _
    rw [Nat.add_zero, lastIndexBelow, if_pos]
    rw [getElem?_append_right (Nat.le_refl _), Nat.sub_self]
    rfl
  | succ count ih =>
    intro hcount
    rw [← Nat.add_assoc, lastIndexBelow, if_neg, ih (by omega)]
    intro hget
    rw [getElem?_append_right (by omega)] at hget
    have hindex : before.length + 1 + count - before.length = count + 1 := by omega
    rw [hindex, getElem?_cons_succ] at hget
    exact h (mem_of_getElem? hget)

end List

/-! ## Trimmed texts

A text without the characters of a kind at either end. -/

namespace List

variable {α : Type} {p : α → Bool} {x : α} {text left right : List α}

/-- The text without the first and the last characters for which `p` holds. -/
def trimWhile (p : α → Bool) (text : List α) : List α := (text.dropWhile p).rdropWhile p

lemma dropWhile_append_cons (hx : p x = false) (left right : List α) :
    (left ++ x :: right).dropWhile p = left.dropWhile p ++ x :: right := by
  rw [dropWhile_append]
  split_ifs with hleft
  · rw [isEmpty_iff.1 hleft, dropWhile_cons_of_neg (by rw [hx]; decide), nil_append]
  · rfl

lemma rdropWhile_append_cons (hx : p x = false) (left right : List α) :
    (left ++ x :: right).rdropWhile p = left ++ x :: right.rdropWhile p := by
  have hreverse : (left ++ x :: right).reverse = right.reverse ++ x :: left.reverse := by
    rw [reverse_append, reverse_cons, append_assoc, singleton_append]
  rw [rdropWhile, hreverse, dropWhile_append_cons hx, reverse_append, reverse_cons,
    reverse_reverse, append_assoc, singleton_append]
  rfl

/-- A character that stays keeps the ends of the text apart. -/
lemma trimWhile_append_cons (hx : p x = false) (left right : List α) :
    (left ++ x :: right).trimWhile p = left.dropWhile p ++ x :: right.rdropWhile p := by
  rw [trimWhile, dropWhile_append_cons hx, rdropWhile_append_cons hx]

lemma rdropWhile_append_of_forall (h : ∀ y ∈ right, p y = true) :
    (left ++ right).rdropWhile p = left.rdropWhile p := by
  rw [rdropWhile, reverse_append, dropWhile_append_of_pos fun y hy => h y (mem_reverse.1 hy)]
  rfl

@[simp] lemma trimWhile_dropWhile (p : α → Bool) (text : List α) :
    (text.dropWhile p).trimWhile p = text.trimWhile p := by
  rw [trimWhile, dropWhile_idempotent]
  rfl

@[simp] lemma trimWhile_rdropWhile (p : α → Bool) (text : List α) :
    (text.rdropWhile p).trimWhile p = text.trimWhile p := by
  obtain ⟨ending, htext, hending⟩ : ∃ ending, text = text.rdropWhile p ++ ending ∧
      ∀ y ∈ ending, p y = true :=
    ⟨text.rtakeWhile p, rdropWhile_append_rtakeWhile.symm, fun y hy => mem_rtakeWhile_imp hy⟩
  conv_rhs => rw [htext]
  rw [trimWhile, trimWhile, dropWhile_append]
  split_ifs with hnil
  · have hdropped : ending.dropWhile p = [] := dropWhile_eq_nil_iff.2 hending
    rw [isEmpty_iff.1 hnil, hdropped]
  · rw [rdropWhile_append_of_forall hending]

@[simp] lemma trimWhile_trimWhile (p : α → Bool) (text : List α) :
    (text.trimWhile p).trimWhile p = text.trimWhile p := by
  have htext : text.trimWhile p = (text.dropWhile p).rdropWhile p := rfl
  rw [htext, trimWhile_rdropWhile, trimWhile_dropWhile, htext]

lemma trimWhile_subset (p : α → Bool) (text : List α) : text.trimWhile p ⊆ text := by
  intro x hx
  have hfront := rdropWhile_prefix p (text.dropWhile p)
  exact (dropWhile_suffix p).subset (hfront.subset hx)

lemma mem_trimWhile_of_neg (hx : p x = false) (h : x ∈ text) : x ∈ text.trimWhile p := by
  obtain ⟨left, right, rfl⟩ := append_of_mem h
  rw [trimWhile_append_cons hx]
  exact mem_append_right _ mem_cons_self

/-! ## Segments of a trimmed text -/

section Segments

variable [DecidableEq α] {separator : α}

lemma notMem_of_mem_splitOn {segment : List α} (h : segment ∈ text.splitOn separator) :
    separator ∉ segment := by
  induction text generalizing segment with
  | nil =>
    rw [mem_singleton.1 h]
    exact not_mem_nil
  | cons x text ih =>
    rw [splitOn_cons_eq_if_modifyHead] at h
    split_ifs at h with hx
    · rcases mem_cons.1 h with rfl | h
      · exact not_mem_nil
      · exact ih h
    · obtain ⟨first, others, hsplit⟩ := exists_cons_of_ne_nil (splitOn_ne_nil separator text)
      rw [hsplit] at h ih
      rcases mem_cons.1 h with rfl | h
      · rw [mem_cons, not_or]
        exact ⟨fun heq => hx (beq_iff_eq.2 heq.symm), ih mem_cons_self⟩
      · exact ih (mem_cons_of_mem _ h)

/-- Characters behind a text that are no separators stand behind its last segment. -/
lemma forall₂_splitOn_append {ending : List α} (hending : separator ∉ ending) :
    Forall₂ (fun longer segment => longer = segment ∨ longer = segment ++ ending)
      ((text ++ ending).splitOn separator) (text.splitOn separator) := by
  induction text with
  | nil =>
    rw [nil_append, splitOn_eq_singleton hending]
    exact Forall₂.cons (Or.inr rfl) Forall₂.nil
  | cons x text ih =>
    rw [cons_append, splitOn_cons_eq_if_modifyHead, splitOn_cons_eq_if_modifyHead]
    split_ifs
    · exact Forall₂.cons (Or.inl rfl) ih
    · obtain ⟨first, others, hsplit⟩ := exists_cons_of_ne_nil (splitOn_ne_nil separator text)
      obtain ⟨longer, longers, hlonger⟩ :=
        exists_cons_of_ne_nil (splitOn_ne_nil separator (text ++ ending))
      rw [hsplit, hlonger] at ih ⊢
      obtain ⟨hfirst, hothers⟩ := forall₂_cons.1 ih
      refine Forall₂.cons (hfirst.imp ?_ ?_) hothers
      · exact congrArg (x :: ·)
      · exact congrArg (x :: ·)

lemma map_trimWhile_splitOn_dropWhile (hseparator : p separator = false) (text : List α) :
    ((text.dropWhile p).splitOn separator).map (trimWhile p) =
      (text.splitOn separator).map (trimWhile p) := by
  induction text with
  | nil => rfl
  | cons x text ih =>
    cases hx : p x with
    | false => rw [dropWhile_cons_of_neg (by rw [hx]; decide)]
    | true =>
      have hne : (x == separator) = false := by
        rw [beq_eq_false_iff_ne]
        rintro rfl
        exact Bool.false_ne_true (hseparator.symm.trans hx)
      obtain ⟨first, others, hsplit⟩ := exists_cons_of_ne_nil (splitOn_ne_nil separator text)
      have hfirst : (x :: first).trimWhile p = first.trimWhile p := by
        rw [← trimWhile_dropWhile, dropWhile_cons_of_pos hx, trimWhile_dropWhile]
      rw [dropWhile_cons_of_pos hx, ih, splitOn_cons_eq_if_modifyHead, hne, hsplit]
      exact congrArg (· :: others.map (trimWhile p)) hfirst.symm

lemma map_trimWhile_splitOn_rdropWhile (hseparator : p separator = false) (text : List α) :
    ((text.rdropWhile p).splitOn separator).map (trimWhile p) =
      (text.splitOn separator).map (trimWhile p) := by
  have hending : ∀ y ∈ text.rtakeWhile p, p y = true := fun y hy => mem_rtakeWhile_imp hy
  have hfree : separator ∉ text.rtakeWhile p := fun hmem =>
    Bool.false_ne_true (hseparator.symm.trans (hending _ hmem))
  conv_rhs => rw [← rdropWhile_append_rtakeWhile (p := p) (l := text)]
  rw [← forall₂_eq_eq_eq, forall₂_map_left_iff, forall₂_map_right_iff]
  refine (forall₂_splitOn_append hfree).flip.imp fun segment longer h => ?_
  rcases h with rfl | rfl
  · rfl
  · rw [← trimWhile_rdropWhile p (segment ++ _), rdropWhile_append_of_forall hending,
      trimWhile_rdropWhile]

/-- The segments of a trimmed text are those of the text, but for what is trimmed. -/
lemma map_trimWhile_splitOn (hseparator : p separator = false) (text : List α) :
    ((text.trimWhile p).splitOn separator).map (trimWhile p) =
      (text.splitOn separator).map (trimWhile p) := by
  rw [trimWhile, map_trimWhile_splitOn_rdropWhile hseparator,
    map_trimWhile_splitOn_dropWhile hseparator]

end Segments

end List
