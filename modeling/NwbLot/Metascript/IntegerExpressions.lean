import Mathlib.Algebra.Order.Group.Unbundled.Int
import Mathlib.Algebra.Order.Ring.Int
import Mathlib.Tactic.Lemma
import NwbLot.Metascript.DocumentContract
import NwbLot.Metascript.Value

/-!
# Overflow of `i64`

What the checks of overflow decide: whether the result of the operator on integers fits a word.  A
result that fits is the result on words.

`IntegerExpression` gives the exact value that an expression should have, and `Exact` says that no
operator on the way leaves the words.
-/

namespace NwbLot.Metascript

/-- The integer is the value of a word. -/
def Fits (z : ℤ) : Prop := -2 ^ 63 ≤ z ∧ z < 2 ^ 63

instance (z : ℤ) : Decidable (Fits z) := inferInstanceAs (Decidable (_ ∧ _))

lemma fits_toInt (a : Int64) : Fits a.toInt := ⟨a.le_toInt, a.toInt_lt⟩

lemma Fits.bmod {z : ℤ} (h : Fits z) : z.bmod (2 ^ 64) = z := by
  refine Int.bmod_eq_of_le ?_ ?_
  · exact h.1
  · exact h.2

section Words

variable {lhs rhs : Int64}

lemma toInt_eq_zero {a : Int64} : a.toInt = 0 ↔ a = 0 :=
  ⟨fun h => Int64.toInt_inj.1 h, fun h => by rw [h]; rfl⟩

lemma toInt_add (h : Fits (lhs.toInt + rhs.toInt)) : (lhs + rhs).toInt = lhs.toInt + rhs.toInt := by
  rw [Int64.toInt_add, h.bmod]

lemma toInt_sub (h : Fits (lhs.toInt - rhs.toInt)) : (lhs - rhs).toInt = lhs.toInt - rhs.toInt := by
  rw [Int64.toInt_sub, h.bmod]

lemma toInt_mul (h : Fits (lhs.toInt * rhs.toInt)) : (lhs * rhs).toInt = lhs.toInt * rhs.toInt := by
  rw [Int64.toInt_mul, h.bmod]

lemma toInt_div (h : Fits (lhs.toInt.tdiv rhs.toInt)) :
    (lhs / rhs).toInt = lhs.toInt.tdiv rhs.toInt := by
  rw [Int64.toInt_div, h.bmod]

lemma toInt_neg {a : Int64} (h : Fits (-a.toInt)) : (-a).toInt = -a.toInt := by
  rw [Int64.toInt_neg, h.bmod]

lemma toInt_i64Min : i64Min.toInt = -2 ^ 63 := rfl

lemma toInt_i64Max : i64Max.toInt = 2 ^ 63 - 1 := rfl

lemma eq_i64Min {a : Int64} : a = i64Min ↔ a.toInt = -2 ^ 63 := by
  rw [← Int64.toInt_inj, toInt_i64Min]

/-! ### Sums and differences -/

lemma addOverflows_iff : addOverflows lhs rhs = true ↔ ¬Fits (lhs.toInt + rhs.toInt) := by
  have hlhs := fits_toInt lhs
  have hrhs := fits_toInt rhs
  unfold addOverflows Fits at *
  split
  · next hpos =>
    have hpos : 0 < rhs.toInt := Int64.lt_iff_toInt_lt.1 hpos
    rw [decide_eq_true_iff, gt_iff_lt, Int64.lt_iff_toInt_lt,
      toInt_sub (by rw [Fits, toInt_i64Max]; omega), toInt_i64Max]
    omega
  · next hnotPos =>
    have hnotPos : ¬0 < rhs.toInt := fun h => hnotPos (Int64.lt_iff_toInt_lt.2 h)
    split
    · next hneg =>
      have hneg : rhs.toInt < 0 := Int64.lt_iff_toInt_lt.1 hneg
      rw [decide_eq_true_iff, Int64.lt_iff_toInt_lt,
        toInt_sub (by rw [Fits, toInt_i64Min]; omega), toInt_i64Min]
      omega
    · next hnotNeg =>
      have hnotNeg : ¬rhs.toInt < 0 := fun h => hnotNeg (Int64.lt_iff_toInt_lt.2 h)
      simp only [Bool.false_eq_true, false_iff, not_not]
      omega

lemma subtractOverflows_iff : subtractOverflows lhs rhs = true ↔ ¬Fits (lhs.toInt - rhs.toInt) := by
  have hlhs := fits_toInt lhs
  have hrhs := fits_toInt rhs
  unfold subtractOverflows Fits at *
  split
  · next hpos =>
    have hpos : 0 < rhs.toInt := Int64.lt_iff_toInt_lt.1 hpos
    rw [decide_eq_true_iff, Int64.lt_iff_toInt_lt,
      toInt_add (by rw [Fits, toInt_i64Min]; omega), toInt_i64Min]
    omega
  · next hnotPos =>
    have hnotPos : ¬0 < rhs.toInt := fun h => hnotPos (Int64.lt_iff_toInt_lt.2 h)
    split
    · next hneg =>
      have hneg : rhs.toInt < 0 := Int64.lt_iff_toInt_lt.1 hneg
      rw [decide_eq_true_iff, gt_iff_lt, Int64.lt_iff_toInt_lt,
        toInt_add (by rw [Fits, toInt_i64Max]; omega), toInt_i64Max]
      omega
    · next hnotNeg =>
      have hnotNeg : ¬rhs.toInt < 0 := fun h => hnotNeg (Int64.lt_iff_toInt_lt.2 h)
      simp only [Bool.false_eq_true, false_iff, not_not]
      omega

lemma negateOverflows_iff {a : Int64} : negateOverflows a = true ↔ ¬Fits (-a.toInt) := by
  have ha := fits_toInt a
  rw [negateOverflows, beq_iff_eq, eq_i64Min]
  unfold Fits at *
  omega

/-! ### Products -/

/-- A quotient of words is exact but for one of the least word by `-1`. -/
lemma fits_tdiv {a b : ℤ} (ha : Fits a) (h : ¬(a = -2 ^ 63 ∧ b = -1)) : Fits (a.tdiv b) := by
  have hle := Int.natAbs_tdiv_le_natAbs a b
  unfold Fits at *
  by_cases hmin : a = -2 ^ 63
  · have hb : b ≠ -1 := fun hb => h ⟨hmin, hb⟩
    by_cases hb0 : b = 0
    · rw [hb0, Int.tdiv_zero]
      omega
    by_cases hb1 : b = 1
    · rw [hb1, Int.tdiv_one]
      omega
    have hhalf : (a.tdiv b).natAbs ≤ a.natAbs / 2 := by
      rw [Int.natAbs_tdiv]
      exact Nat.div_le_div_left (by omega) (by decide)
    omega
  · omega

lemma divideOverflows_iff :
    divideOverflows lhs rhs = true ↔ ¬Fits (lhs.toInt.tdiv rhs.toInt) := by
  rw [divideOverflows, Bool.and_eq_true, beq_iff_eq, beq_iff_eq, eq_i64Min, ← Int64.toInt_inj]
  constructor
  · rintro ⟨hlhs, hrhs⟩ h
    rw [hlhs, hrhs] at h
    exact absurd h (by decide)
  · intro h
    by_contra hnot
    exact h (fits_tdiv (fits_toInt lhs) hnot)

/-- The quotient of two words none of which is `-1` is that of their values. -/
lemma toInt_div_word {a b : Int64} (h : 0 < b.toInt ∨ a.toInt ≠ -2 ^ 63) :
    (a / b).toInt = a.toInt.tdiv b.toInt := by
  refine toInt_div (fits_tdiv (fits_toInt a) ?_)
  rintro ⟨ha, hb⟩
  omega

lemma tdiv_lt_iff {n c m : ℤ} (hn : 0 ≤ n) (hc : 0 < c) : n.tdiv c < m ↔ n < m * c := by
  rw [Int.tdiv_eq_ediv_of_nonneg hn]
  exact Int.ediv_lt_iff_lt_mul hc

/-- The four cases of the signs, each with the bound that its product can pass. -/
lemma multiplyOverflows_iff :
    multiplyOverflows lhs rhs = true ↔ ¬Fits (lhs.toInt * rhs.toInt) := by
  unfold multiplyOverflows Fits
  split
  · next hzero =>
    have hproduct : lhs.toInt * rhs.toInt = 0 := by
      rcases hzero with rfl | rfl
      · exact zero_mul _
      · exact mul_zero _
    rw [hproduct]
    decide
  next hzero =>
  have hlhs : lhs.toInt ≠ 0 := fun h => hzero (Or.inl (toInt_eq_zero.1 h))
  have hrhs : rhs.toInt ≠ 0 := fun h => hzero (Or.inr (toInt_eq_zero.1 h))
  split
  · next hpos =>
    have hpos : 0 < lhs.toInt := Int64.lt_iff_toInt_lt.1 hpos
    split
    · next hpos' =>
      have hpos' : 0 < rhs.toInt := Int64.lt_iff_toInt_lt.1 hpos'
      have hproduct := mul_pos hpos hpos'
      rw [decide_eq_true_iff, gt_iff_lt, Int64.lt_iff_toInt_lt, toInt_div_word (Or.inl hpos'),
        toInt_i64Max, tdiv_lt_iff (by decide) hpos']
      omega
    · next hneg =>
      have hneg : rhs.toInt < 0 :=
        lt_of_le_of_ne (not_lt.1 fun h => hneg (Int64.lt_iff_toInt_lt.2 h)) hrhs
      have hproduct := mul_neg_of_pos_of_neg hpos hneg
      have hlt := tdiv_lt_iff (n := 2 ^ 63) (m := -rhs.toInt) (by decide) hpos
      rw [neg_mul, mul_comm] at hlt
      rw [decide_eq_true_iff, Int64.lt_iff_toInt_lt, toInt_div_word (Or.inl hpos), toInt_i64Min,
        Int.neg_tdiv]
      omega
  · next hneg =>
    have hneg : lhs.toInt < 0 :=
      lt_of_le_of_ne (not_lt.1 fun h => hneg (Int64.lt_iff_toInt_lt.2 h)) hlhs
    split
    · next hpos =>
      have hpos : 0 < rhs.toInt := Int64.lt_iff_toInt_lt.1 hpos
      have hproduct := mul_neg_of_neg_of_pos hneg hpos
      have hlt := tdiv_lt_iff (n := 2 ^ 63) (m := -lhs.toInt) (by decide) hpos
      rw [neg_mul] at hlt
      rw [decide_eq_true_iff, Int64.lt_iff_toInt_lt, toInt_div_word (Or.inl hpos), toInt_i64Min,
        Int.neg_tdiv]
      omega
    · next hneg' =>
      have hneg' : rhs.toInt < 0 :=
        lt_of_le_of_ne (not_lt.1 fun h => hneg' (Int64.lt_iff_toInt_lt.2 h)) hrhs
      have hproduct := mul_pos_of_neg_of_neg hneg hneg'
      have hlt := tdiv_lt_iff (n := 2 ^ 63 - 1) (c := -lhs.toInt) (m := -rhs.toInt) (by decide)
        (by omega)
      rw [Int.tdiv_neg, neg_mul_neg, mul_comm] at hlt
      rw [decide_eq_true_iff, Int64.lt_iff_toInt_lt,
        toInt_div_word (Or.inr (by rw [toInt_i64Max]; decide)), toInt_i64Max]
      omega

end Words

/-! ## Integer expressions of metascript

The expressions of integer literals, the four operators, negation and parentheses: their exact
value, whether every intermediate result fits a word, and their tokens.  The parser, which evaluates
as it reads, computes the value where everything fits and records an error elsewhere. -/

open Crash (Text ascii)
open StateComputation (inspect Returns returns_pure returns_inspect returns_modify returns_bind
  returns_ite)

/-! ## Expressions -/

/-- The text of an integer literal. -/
structure Numeral where
  text : Text
  nonempty : text ≠ []
  digits : text.all isDigit = true

/-- The number that the digits write. -/
def Numeral.value (numeral : Numeral) : ℕ :=
  numeral.text.foldl (fun value c => value * 10 + (c.toNat - 48)) 0

/-- The four operators. -/
inductive Operator
  | plus | minus | star | slash
  deriving DecidableEq

namespace Operator

/-- The token of an operator. -/
def type : Operator → TokenType
  | plus => .plus
  | minus => .minus
  | star => .star
  | slash => .slash

/-- The text of an operator. -/
def text : Operator → Text
  | plus => [charPlus]
  | minus => [charMinus]
  | star => [charStar]
  | slash => [Crash.charSlash]

/-- Products bind tighter than sums. -/
def level : Operator → ℕ
  | plus => 0
  | minus => 0
  | star => 1
  | slash => 1

/-- The operator on integers.  Division truncates toward zero. -/
def eval : Operator → ℤ → ℤ → ℤ
  | plus, a, b => a + b
  | minus, a, b => a - b
  | star, a, b => a * b
  | slash, a, b => a.tdiv b

/-- The divisor is not zero, and the result fits. -/
def Safe (op : Operator) (a b : ℤ) : Prop := (op = slash → b ≠ 0) ∧ Fits (op.eval a b)

instance (op : Operator) (a b : ℤ) : Decidable (op.Safe a b) := inferInstanceAs (Decidable (_ ∧ _))

end Operator

/-- Expressions of integer literals. -/
inductive IntegerExpression
  | literal (numeral : Numeral)
  | paren (inner : IntegerExpression)
  | neg (operand : IntegerExpression)
  | binary (op : Operator) (left right : IntegerExpression)

/-- The type and the text of a token. -/
abbrev Lexeme := TokenType × Text

namespace IntegerExpression

/-- The exact value. -/
def value : IntegerExpression → ℤ
  | literal numeral => numeral.value
  | paren inner => inner.value
  | neg operand => -operand.value
  | binary op left right => op.eval left.value right.value

/-- Every intermediate result fits, and no divisor is zero. -/
def Exact : IntegerExpression → Prop
  | literal numeral => Fits numeral.value
  | paren inner => inner.Exact
  | neg operand => operand.Exact ∧ Fits (-operand.value)
  | binary op left right => left.Exact ∧ right.Exact ∧ op.Safe left.value right.value

/-- In parentheses. -/
def enclosed (lexemes : List Lexeme) : List Lexeme :=
  (.leftParen, [charLeftParen]) :: lexemes ++ [(.rightParen, [charRightParen])]

/-- The tokens of an expression where operators below a level need parentheses: a left operand is at
the level of its operator, a right one above it, and the operand of a negation above all. -/
def lexemes : IntegerExpression → ℕ → List Lexeme
  | literal numeral, _ => [(.integerLiteral, numeral.text)]
  | paren inner, _ => enclosed (inner.lexemes 0)
  | neg operand, _ => (.minus, [charMinus]) :: operand.lexemes 2
  | binary op left right, level =>
    let bare := left.lexemes op.level ++ (op.type, op.text) :: right.lexemes (op.level + 1)
    if op.level < level then enclosed bare else bare

/-- The tokens of a declaration with an expression as its initial value. -/
def declarationLexemes (e : IntegerExpression) (typeName name : Text) : List Lexeme :=
  (.identifier, typeName) :: (.identifier, name) :: (.equal, [charEqual]) ::
    (e.lexemes 0 ++ [(.semicolon, [charSemicolon])])

instance decidableExact : (e : IntegerExpression) → Decidable e.Exact
  | literal numeral => inferInstanceAs (Decidable (Fits numeral.value))
  | paren inner => inner.decidableExact
  | neg operand =>
    have := operand.decidableExact
    inferInstanceAs (Decidable (operand.Exact ∧ Fits (-operand.value)))
  | binary op left right =>
    have := left.decidableExact
    have := right.decidableExact
    inferInstanceAs
      (Decidable (left.Exact ∧ right.Exact ∧ op.Safe left.value right.value))

/-- The level matters to a binary operator at it only. -/
lemma lexemes_succ {e : IntegerExpression} {level : ℕ}
    (h : ∀ op left right, e = binary op left right → op.level ≠ level) :
    e.lexemes level = e.lexemes (level + 1) := by
  cases e with
  | literal _ => rfl
  | paren _ => rfl
  | neg _ => rfl
  | binary op left right =>
    have hne := h op left right rfl
    simp only [lexemes]
    split_ifs <;> first | rfl | omega

/-- An expression has tokens, and the first one is no error. -/
lemma exists_lexemes (e : IntegerExpression) (level : ℕ) :
    ∃ first rest, e.lexemes level = first :: rest ∧ first.1 ≠ .error := by
  induction e generalizing level with
  | literal numeral => exact ⟨_, _, rfl, fun h => TokenType.noConfusion h⟩
  | paren inner _ => exact ⟨_, _, rfl, fun h => TokenType.noConfusion h⟩
  | neg operand _ => exact ⟨_, _, rfl, fun h => TokenType.noConfusion h⟩
  | binary op left right ihleft _ =>
    obtain ⟨first, rest, hlexemes, hfirst⟩ := ihleft op.level
    rw [lexemes]
    split
    · exact ⟨_, _, rfl, fun h => TokenType.noConfusion h⟩
    · exact ⟨first, _, by rw [hlexemes, List.cons_append], hfirst⟩

lemma head_ne_error (e : IntegerExpression) (level : ℕ) (after : List Lexeme) :
    ∀ next ∈ (e.lexemes level ++ after).head?, next.1 ≠ .error := by
  obtain ⟨first, rest, hlexemes, hfirst⟩ := e.exists_lexemes level
  rw [hlexemes]
  intro next hnext
  obtain rfl := Option.mem_some.1 hnext
  exact hfirst

end IntegerExpression

/-! ## Tokens ahead -/

/-- The tokens of a text up to its end. -/
def Lexer.lexemes (lexer : Lexer) : List Lexeme :=
  if lexer.next.1.type = .endOfFile then []
  else (lexer.next.1.type, lexer.next.1.text) :: lexer.next.2.lexemes
termination_by lexer.rest.length
decreasing_by
  rcases lexer.length_next with ⟨hend, -⟩ | ⟨-, hlt⟩
  · exact absurd hend (by assumption)
  · exact hlt

lemma Lexer.ne_nil_of_identifier {lexer : Lexer} {text : Text}
    (h : (.identifier, text) ∈ lexer.lexemes) : text ≠ [] := by
  fun_induction Lexer.lexemes lexer with
  | case1 lexer hend => exact absurd h List.not_mem_nil
  | case2 lexer hend ih =>
    rcases List.mem_cons.1 h with hfirst | hrest
    · obtain ⟨htype, rfl⟩ := Prod.mk.inj hfirst
      exact (Lexer.identifier_next htype.symm).1
    · exact ih hrest

/-- The tokens behind an expression do not go on with it, from operators of a level on. -/
def Ends (level : ℕ) (after : List Lexeme) : Prop :=
  ∀ lexeme ∈ after.head?, lexeme.1 ≠ .error ∧ ∀ op : Operator, level ≤ op.level → lexeme.1 ≠ op.type

lemma Ends.mono {level higher : ℕ} {after : List Lexeme} (h : Ends level after)
    (hle : level ≤ higher) : Ends higher after :=
  fun lexeme hlexeme =>
    ⟨(h lexeme hlexeme).1, fun op hop => (h lexeme hlexeme).2 op (hle.trans hop)⟩

namespace Parser

variable {F : Type}

/-- The tokens from the current one on. -/
def upcoming (s : Parser F) : List Lexeme :=
  if s.current.type = .endOfFile then [] else (s.current.type, s.current.text) :: s.lexer.lexemes

lemma upcoming_start (source : Text) :
    (start (F := F) source).upcoming = Lexer.lexemes { rest := source } := by
  rw [Lexer.lexemes]
  rfl

section Ahead

variable {s : Parser F} {lexeme : Lexeme} {rest : List Lexeme}

lemma type_of_upcoming (h : s.upcoming = lexeme :: rest) : s.current.type = lexeme.1 := by
  unfold upcoming at h
  split at h
  · cases h
  · rw [← (List.cons.inj h).1]

lemma text_of_upcoming (h : s.upcoming = lexeme :: rest) : s.current.text = lexeme.2 := by
  unfold upcoming at h
  split at h
  · cases h
  · rw [← (List.cons.inj h).1]

lemma upcoming_advanced (h : s.upcoming = lexeme :: rest) : s.advanced.upcoming = rest := by
  unfold upcoming at h
  split at h
  · cases h
  · rw [← (List.cons.inj h).2, Lexer.lexemes]
    rfl

lemma left_of_upcoming (h : s.upcoming = lexeme :: rest) : s.advanced.left < s.left := by
  refine left_advanced_lt fun hend => ?_
  unfold upcoming at h
  rw [if_pos hend] at h
  cases h

lemma errors_advanced (h : s.upcoming = lexeme :: rest) (herrors : s.errors = [])
    (hrest : ∀ next ∈ rest.head?, next.1 ≠ .error) : s.advanced.errors = [] := by
  have hnext : s.advanced.current.type ≠ .error := by
    intro herror
    have hupcoming := upcoming_advanced h
    unfold upcoming at hupcoming
    rw [if_neg (by rw [herror]; exact fun h => TokenType.noConfusion h)] at hupcoming
    exact hrest _ (by rw [← hupcoming]; rfl) herror
  show (if s.advanced.current.type = .error then _ else s.errors) = []
  rw [if_neg hnext, herrors]

end Ahead

/-- Only the place in the text and the errors are different. -/
structure Reading (s t : Parser F) : Prop where
  state : t = { s with lexer := t.lexer, current := t.current, errors := t.errors }
  left : t.left ≤ s.left

lemma Reading.trans {s t u : Parser F} (h : Reading s t) (h' : Reading t u) : Reading s u :=
  ⟨by rw [h'.state, h.state], h'.left.trans h.left⟩

lemma reading_advanced (s : Parser F) : Reading s s.advanced := ⟨rfl, s.later_advanced.left⟩

lemma reading_withError (s : Parser F) (error : ParseError) : Reading s (s.withError error) :=
  ⟨rfl, Nat.le_refl _⟩

end Parser

end NwbLot.Metascript
