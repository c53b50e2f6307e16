import NwbLot.Metascript.IntegerExpressions

/-!
# Exact arithmetic of metascript

The parser on the tokens of an integer expression: production by production, and from that the
documents that declare a variable with such a value.
-/

namespace NwbLot.Metascript

open Crash (Text ascii)
open StateComputation (inspect Returns returns_pure returns_inspect returns_modify returns_bind
  returns_ite)

namespace Parser

variable {F : Type}

/-- What reading an expression gives: a word with its value where it is exact, else an error. -/
structure Computes (e : IntegerExpression) (s : Parser F) (after : List Lexeme) (value : Value F)
    (t : Parser F) : Prop where
  reading : Reading s t
  exact : e.Exact → t.errors = [] ∧ t.upcoming = after ∧
    ∃ word : Int64, value = .integer word ∧ word.toInt = e.value
  inexact : ¬e.Exact → t.errors ≠ []

/-- The computation reads the tokens of an expression at a level, on less than the bound. -/
def Reads (p : ParserM F (Value F)) (bound : ℕ) (e : IntegerExpression) (level : ℕ) : Prop :=
  ∀ (s : Parser F) (after : List Lexeme), s.errors = [] → s.left < bound →
    s.upcoming = e.lexemes level ++ after → Ends level after → Returns p s (Computes e s after)

section Steps

variable {α : Type} {s : Parser F} {Q : α → Parser F → Prop}

lemma returns_currentType {k : TokenType → ParserM F α} :
    Returns (currentType >>= k) s Q ↔ Returns (k s.current.type) s Q := by
  rw [returns_bind, currentType, returns_inspect]

lemma returns_advance {k : PUnit → ParserM F α} :
    Returns (advance >>= k) s Q ↔ Returns (k ⟨⟩) s.advanced Q := by
  rw [returns_bind, advance, returns_modify]

lemma returns_hasErrors_of_nil {p k : ParserM F α} (h : s.errors = []) :
    Returns (hasErrors >>= fun failed => if failed = true then p else k) s Q ↔ Returns k s Q := by
  rw [returns_bind, hasErrors, returns_inspect, h]
  rfl

lemma returns_hasErrors_of_ne {p k : ParserM F α} (h : s.errors ≠ []) :
    Returns (hasErrors >>= fun failed => if failed = true then p else k) s Q ↔ Returns p s Q := by
  have hfailed : (!s.errors.isEmpty) = true := by
    rw [Bool.not_eq_true', List.isEmpty_eq_false_iff]
    exact h
  rw [returns_bind, hasErrors, returns_inspect, hfailed, if_pos rfl]

lemma returns_inspect_bind {β : Type} {g : Parser F → β} {k : β → ParserM F α} :
    Returns (inspect g >>= k) s Q ↔ Returns (k (g s)) s Q := by
  rw [returns_bind, returns_inspect]

end Steps

/-! ## Operators on words -/

variable [DoubleArithmetic F]

lemma binaryI64Overflows_iff (op : Operator) {a b : Int64} :
    binaryI64Overflows op.type a b = true ↔ ¬Fits (op.eval a.toInt b.toInt) := by
  cases op with
  | plus => exact addOverflows_iff
  | minus => exact subtractOverflows_iff
  | star => exact multiplyOverflows_iff
  | slash => exact divideOverflows_iff

/-- The checks of an operator on two integers accept if and only if the operator is safe. -/
lemma validateBinaryOperation_returns (op : Operator) (a b : Int64) (line column : UInt32)
    (s : Parser F) :
    Returns (validateBinaryOperation op.type (.integer a) (.integer b) line column) s
      fun accepted t => (op.Safe a.toInt b.toInt ∧ accepted = true ∧ t = s) ∨
        (¬op.Safe a.toInt b.toInt ∧ accepted = false ∧ ∃ error, t = s.withError error) := by
  have hnumeric (operandError : Option Text) :
      Returns (validateNumericOperands op.type (.integer a : Value F) (.integer b) line column
        operandError (op = .slash)) s
      fun accepted t => (op.Safe a.toInt b.toInt ∧ accepted = true ∧ t = s) ∨
        (¬op.Safe a.toInt b.toInt ∧ accepted = false ∧ ∃ error, t = s.withError error) := by
    unfold validateNumericOperands
    rw [if_neg (by rintro (h | h) <;> cases h)]
    refine returns_ite.2 ⟨fun hzero => ?_, fun hdivisor => returns_ite.2
      ⟨fun hoverflow => ?_, fun hfits => returns_pure.2 (.inl ⟨⟨fun hop hb => ?_, ?_⟩, rfl, rfl⟩)⟩⟩
    · have hnotSafe : ¬op.Safe a.toInt b.toInt := fun hsafe =>
        hsafe.1 (of_decide_eq_true hzero.1) (toInt_eq_zero.2 (beq_iff_eq.1 hzero.2))
      exact returns_bind.2 (returns_modify.2 (returns_pure.2 (.inr ⟨hnotSafe, rfl, _, rfl⟩)))
    · have hnotSafe : ¬op.Safe a.toInt b.toInt := fun hsafe =>
        (binaryI64Overflows_iff op).1 hoverflow hsafe.2
      exact returns_bind.2 (returns_modify.2 (returns_pure.2 (.inr ⟨hnotSafe, rfl, _, rfl⟩)))
    · exact hdivisor ⟨decide_eq_true hop, beq_iff_eq.2 (toInt_eq_zero.1 hb)⟩
    · by_contra hnot
      exact hfits ((binaryI64Overflows_iff op).2 hnot)
  cases op with
  | plus => exact hnumeric none
  | minus => exact hnumeric (some _)
  | star => exact hnumeric (some _)
  | slash => exact hnumeric (some _)

/-- The operators of a chain, and what the parser applies for them. -/
structure ChainOf (level : ℕ) (lhsOp rhsOp : TokenType)
    (applyOperation : TokenType → Value F → Value F → Value F) : Prop where
  operators : ∀ type, type = lhsOp ∨ type = rhsOp ↔
    ∃ op : Operator, op.level = level ∧ op.type = type
  apply : ∀ op : Operator, op.level = level → ∀ a b : Int64, op.Safe a.toInt b.toInt →
    ∃ word : Int64, applyOperation op.type (.integer a) (.integer b) = .integer word ∧
      word.toInt = op.eval a.toInt b.toInt

lemma arithmetic_integer {overflows : Int64 → Int64 → Bool} {onI64 : Int64 → Int64 → Int64}
    (onF64 : F → F → F) {a b : Int64} (h : overflows a b = false) :
    (Value.arithmetic overflows onI64 onF64 (.integer a) (.integer b)).getD .null =
      .integer (onI64 a b) := by
  rw [Value.arithmetic, h]
  rfl

lemma not_overflows {op : Operator} {a b : Int64} (h : op.Safe a.toInt b.toInt) :
    binaryI64Overflows op.type a b = false :=
  Bool.eq_false_of_not_eq_true fun hoverflow => (binaryI64Overflows_iff op).1 hoverflow h.2

lemma additive_chain : ChainOf (F := F) 0 .plus .minus
    fun op left right => if op = .plus then left.add right else left.sub right where
  operators type := by
    constructor
    · rintro (rfl | rfl)
      · exact ⟨.plus, rfl, rfl⟩
      · exact ⟨.minus, rfl, rfl⟩
    · rintro ⟨op, hlevel, rfl⟩
      cases op with
      | plus => exact .inl rfl
      | minus => exact .inr rfl
      | star => cases hlevel
      | slash => cases hlevel
  apply op hlevel a b hsafe := by
    cases op with
    | plus =>
      exact ⟨a + b, arithmetic_integer DoubleArithmetic.add (not_overflows hsafe),
        toInt_add hsafe.2⟩
    | minus =>
      exact ⟨a - b, arithmetic_integer DoubleArithmetic.sub (not_overflows hsafe),
        toInt_sub hsafe.2⟩
    | star => cases hlevel
    | slash => cases hlevel

lemma multiplicative_chain : ChainOf (F := F) 1 .star .slash
    fun op left right => if op = .star then left.mul right else left.div right where
  operators type := by
    constructor
    · rintro (rfl | rfl)
      · exact ⟨.star, rfl, rfl⟩
      · exact ⟨.slash, rfl, rfl⟩
    · rintro ⟨op, hlevel, rfl⟩
      cases op with
      | plus => cases hlevel
      | minus => cases hlevel
      | star => exact .inl rfl
      | slash => exact .inr rfl
  apply op hlevel a b hsafe := by
    cases op with
    | plus => cases hlevel
    | minus => cases hlevel
    | star =>
      exact ⟨a * b, arithmetic_integer DoubleArithmetic.mul (not_overflows hsafe),
        toInt_mul hsafe.2⟩
    | slash =>
      refine ⟨a / b, ?_, toInt_div hsafe.2⟩
      have hdivisor : (Value.integer b : Value F).isZero = false :=
        beq_false_of_ne fun hb => hsafe.1 rfl (toInt_eq_zero.2 hb)
      show (Value.dividedBy _ _).getD .null = _
      rw [Value.dividedBy, hdivisor]
      exact arithmetic_integer DoubleArithmetic.div (not_overflows hsafe)

/-! ## Chains of operators -/

section Chains

variable {parseNext : ParserM F (Value F)} {lhsOp rhsOp : TokenType} {level bound : ℕ}
  {applyOperation : TokenType → Value F → Value F → Value F} {e left right : IntegerExpression}
  {op : Operator}

/-- A chain reads the tokens of an expression and is in its loop then, with the value so far. -/
def ReadsChain (parseNext : ParserM F (Value F)) (lhsOp rhsOp : TokenType)
    (applyOperation : TokenType → Value F → Value F → Value F) (bound : ℕ) (e : IntegerExpression)
    (level : ℕ) : Prop :=
  ∀ (s : Parser F) (after : List Lexeme) (fuel : ℕ) (Q : Value F → Parser F → Prop),
    s.errors = [] → s.left < bound → s.left < fuel → s.upcoming = e.lexemes level ++ after →
    Ends (level + 1) after →
    (∀ (t : Parser F) (fewer : ℕ) (word : Int64), Reading s t → t.left < fewer → t.errors = [] →
      t.upcoming = after → e.Exact → word.toInt = e.value →
      Returns (parseBinaryLoop parseNext lhsOp rhsOp applyOperation fewer (.integer word)) t Q) →
    (∀ (value : Value F) (t : Parser F), Reading s t → t.errors ≠ [] → ¬e.Exact → Q value t) →
    Returns (parseBinaryExpression fuel parseNext lhsOp rhsOp applyOperation) s Q

lemma ReadsChain.of_reads (h : Reads parseNext bound e (level + 1))
    (hlexemes : e.lexemes level = e.lexemes (level + 1)) :
    ReadsChain parseNext lhsOp rhsOp applyOperation bound e level := by
  intro s after fuel Q herrors hbound hfuel hupcoming hends hloop herror
  rw [hlexemes] at hupcoming
  rw [parseBinaryExpression]
  refine Returns.bind (h s after herrors hbound hupcoming hends) fun value t hvalue => ?_
  by_cases he : e.Exact
  · obtain ⟨ht, hafter, word, rfl, hword⟩ := hvalue.exact he
    rw [returns_hasErrors_of_nil ht]
    exact hloop t fuel word hvalue.reading (hvalue.reading.left.trans_lt hfuel) ht hafter he hword
  · rw [returns_hasErrors_of_ne (hvalue.inexact he)]
    exact returns_pure.2 (herror value t hvalue.reading (hvalue.inexact he) he)

lemma Operator.type_ne_error (op : Operator) : op.type ≠ .error := by
  cases op <;> exact fun h => TokenType.noConfusion h

lemma Operator.eq_of_type {other : Operator} (h : op.type = other.type) : op = other := by
  cases op <;> cases other <;> first | rfl | cases h

/-- One round of the loop: an operator of the level and its right operand. -/
lemma ReadsChain.binary (hchain : ChainOf level lhsOp rhsOp applyOperation)
    (hlevel : op.level = level)
    (hleft : ReadsChain parseNext lhsOp rhsOp applyOperation bound left level)
    (hright : Reads parseNext bound right (level + 1)) :
    ReadsChain parseNext lhsOp rhsOp applyOperation bound (.binary op left right) level := by
  intro s after fuel Q herrors hbound hfuel hupcoming hends hloop herror
  have hbare : s.upcoming = left.lexemes level ++
      ((op.type, op.text) :: (right.lexemes (level + 1) ++ after)) := by
    rw [hupcoming, IntegerExpression.lexemes, if_neg (by omega), hlevel, List.append_assoc,
      List.cons_append]
  have hcontinues : Ends (level + 1)
      ((op.type, op.text) :: (right.lexemes (level + 1) ++ after)) := by
    intro lexeme hlexeme
    obtain rfl := Option.mem_some.1 hlexeme
    refine ⟨Operator.type_ne_error op, fun other hother htype => ?_⟩
    rw [← Operator.eq_of_type htype] at hother
    omega
  refine hleft s _ fuel Q herrors hbound hfuel hbare hcontinues
    (fun t fewer word hst hfewer ht hafter hexact hword => ?_)
    fun value t hst ht hnot => herror value t hst ht fun h => hnot h.1
  obtain ⟨fewer, rfl⟩ : ∃ n, fewer = n + 1 := ⟨fewer - 1, by omega⟩
  have htype : t.current.type = op.type := type_of_upcoming hafter
  have hread := left_of_upcoming hafter
  rw [parseBinaryLoop, returns_inspect_bind, htype, if_neg
    (not_and_or.2 (((hchain.operators _).2 ⟨op, hlevel, rfl⟩).imp not_not.2 not_not.2)),
    returns_advance]
  have hsu : ∀ {u : Parser F}, Reading t.advanced u → Reading s u := fun hu =>
    hst.trans ((reading_advanced t).trans hu)
  refine Returns.bind (hright t.advanced after (errors_advanced hafter ht (right.head_ne_error _ _))
    (by have := hst.left; omega) (upcoming_advanced hafter) hends) fun value u hvalue => ?_
  by_cases hexact' : right.Exact
  · obtain ⟨hu, hafter', word', rfl, hword'⟩ := hvalue.exact hexact'
    rw [returns_hasErrors_of_nil hu]
    refine Returns.bind (validateBinaryOperation_returns op word word' _ _ u)
      fun accepted v hchecked => ?_
    rcases hchecked with ⟨hsafe, rfl, rfl⟩ | ⟨hnotSafe, rfl, error, rfl⟩
    · rw [if_neg Bool.noConfusion]
      obtain ⟨result, happly, hresult⟩ := hchain.apply op hlevel word word' hsafe
      rw [happly]
      rw [hword, hword'] at hsafe hresult
      exact hloop v fewer result (hsu hvalue.reading) (by have := hvalue.reading.left; omega) hu
        hafter' ⟨hexact, hexact', hsafe⟩ hresult
    · rw [if_pos rfl]
      rw [hword, hword'] at hnotSafe
      exact returns_pure.2 (herror _ _ (hsu (hvalue.reading.trans (reading_withError u error)))
        (u.errors_withError error) fun h => hnotSafe h.2.2)
  · rw [returns_hasErrors_of_ne (hvalue.inexact hexact')]
    exact returns_pure.2 (herror _ u (hsu hvalue.reading) (hvalue.inexact hexact')
      fun h => hexact' h.2.1)

/-- The chain ends where no operator of the level follows. -/
lemma ReadsChain.reads (hchain : ChainOf level lhsOp rhsOp applyOperation)
    (h : ReadsChain parseNext lhsOp rhsOp applyOperation bound e level) :
    Reads (parseBinaryExpression bound parseNext lhsOp rhsOp applyOperation) bound e level := by
  intro s after herrors hbound hupcoming hends
  refine h s after bound _ herrors hbound hbound hupcoming (hends.mono (Nat.le_succ _))
    (fun t fewer word hst hfewer ht hafter hexact hword => ?_)
    fun value t hst ht hnot => ⟨hst, fun he => absurd he hnot, fun _ => ht⟩
  obtain ⟨fewer, rfl⟩ : ∃ n, fewer = n + 1 := ⟨fewer - 1, by omega⟩
  have hother : ¬(t.current.type = lhsOp ∨ t.current.type = rhsOp) := by
    intro hoperator
    obtain ⟨op, hlevel, htype⟩ := (hchain.operators _).1 hoperator
    unfold upcoming at hafter
    rw [if_neg (by rw [← htype]; cases op <;> exact fun h => TokenType.noConfusion h)] at hafter
    exact (hends _ (by rw [← hafter]; rfl)).2 op hlevel.ge htype.symm
  rw [parseBinaryLoop, returns_inspect_bind, if_pos (not_or.1 hother)]
  exact returns_pure.2 ⟨hst, fun _ => ⟨ht, hafter, word, rfl, hword⟩,
    fun hnot => absurd hexact hnot⟩

end Chains

/-! ## Operands -/

lemma parseI64FromChars_numeral (numeral : Numeral) :
    (Fits numeral.value ∧ parseI64FromChars numeral.text = some (Int64.ofNat numeral.value)) ∨
      (¬Fits numeral.value ∧ parseI64FromChars numeral.text = none) := by
  have hdigits : ¬(numeral.text = [] ∨ numeral.text.all isDigit = false) := by
    rw [numeral.digits]
    exact not_or.2 ⟨numeral.nonempty, Bool.noConfusion⟩
  rw [parseI64FromChars, if_neg hdigits]
  by_cases hlt : numeral.value < 2 ^ 63
  · exact .inl ⟨⟨by omega, by omega⟩, if_pos hlt⟩
  · exact .inr ⟨fun h => hlt (by have := h.2; omega), if_neg hlt⟩

section Operands

variable {parseInner : ParserM F (Value F)} {s : Parser F} {e : IntegerExpression}
  {after : List Lexeme} {fuel bound : ℕ}

lemma parsePrimary_literal (numeral : Numeral) (herrors : s.errors = [])
    (hupcoming : s.upcoming = (IntegerExpression.literal numeral).lexemes 2 ++ after)
    (hends : Ends 2 after) :
    Returns (parsePrimary parseInner fuel) s (Computes (.literal numeral) s after) := by
  have hread := reading_advanced s
  rw [parsePrimary, returns_inspect_bind, type_of_upcoming hupcoming]
  dsimp only
  rw [returns_advance, text_of_upcoming hupcoming]
  dsimp only
  rcases parseI64FromChars_numeral numeral with ⟨hfits, hparse⟩ | ⟨hnot, hparse⟩
  · rw [hparse]
    refine returns_pure.2 ⟨hread, fun _ => ⟨?_, upcoming_advanced hupcoming, _, rfl, ?_⟩,
      fun hnot => absurd hfits hnot⟩
    · exact errors_advanced hupcoming herrors fun next hnext => (hends next hnext).1
    · exact Int64.toInt_ofNat_of_lt (by have := hfits.2; omega)
  · rw [hparse]
    exact returns_bind.2 (returns_modify.2 (returns_pure.2 ⟨hread.trans (reading_withError _ _),
      fun h => absurd h hnot, fun _ => errors_withError _ _⟩))

/-- An expression in parentheses, on what parses an expression. -/
lemma parsePrimary_enclosed (h : Reads parseInner bound e 0) (herrors : s.errors = [])
    (hbound : s.left < bound + 1)
    (hupcoming : s.upcoming = IntegerExpression.enclosed (e.lexemes 0) ++ after)
    (hends : Ends 2 after) :
    Returns (parsePrimary parseInner fuel) s (Computes e s after) := by
  rw [IntegerExpression.enclosed, List.cons_append, List.cons_append, List.append_assoc]
    at hupcoming
  have hread := left_of_upcoming hupcoming
  have hcloses : Ends 0 ((.rightParen, [charRightParen]) :: after) := by
    intro lexeme hlexeme
    obtain rfl := Option.mem_some.1 hlexeme
    refine ⟨fun h => TokenType.noConfusion h, fun op _ => ?_⟩
    cases op <;> exact fun h => TokenType.noConfusion h
  rw [parsePrimary, returns_inspect_bind, type_of_upcoming hupcoming]
  dsimp only
  rw [returns_advance]
  have herrors₁ := errors_advanced hupcoming herrors (e.head_ne_error _ _)
  refine Returns.bind (h s.advanced _ herrors₁ (by omega) (upcoming_advanced hupcoming) hcloses)
    fun value t hvalue => ?_
  by_cases hexact : e.Exact
  · obtain ⟨ht, hafter, word, rfl, hword⟩ := hvalue.exact hexact
    rw [returns_hasErrors_of_nil ht, expect, bind_assoc, returns_currentType,
      if_pos (type_of_upcoming hafter), bind_assoc, returns_advance, pure_bind,
      if_neg Bool.noConfusion]
    refine returns_pure.2 ⟨((reading_advanced s).trans hvalue.reading).trans (reading_advanced t),
      fun _ => ⟨?_, upcoming_advanced hafter, word, rfl, hword⟩, fun hnot => absurd hexact hnot⟩
    exact errors_advanced hafter ht fun next hnext => (hends next hnext).1
  · rw [returns_hasErrors_of_ne (hvalue.inexact hexact)]
    exact returns_pure.2 ⟨(reading_advanced s).trans hvalue.reading, fun h => absurd h hexact,
      fun _ => hvalue.inexact hexact⟩

lemma parseUnary_neg {parsePrimary : ParserM F (Value F)}
    (h : Reads (parseUnary parsePrimary fuel) fuel e 2) :
    Reads (parseUnary parsePrimary (fuel + 1)) (fuel + 1) (.neg e) 2 := by
  intro s after herrors hbound hupcoming hends
  rw [IntegerExpression.lexemes, List.cons_append] at hupcoming
  have hread := left_of_upcoming hupcoming
  rw [parseUnary, returns_currentType, if_neg (not_not.2 (type_of_upcoming hupcoming)),
    returns_advance]
  have herrors₁ := errors_advanced hupcoming herrors (e.head_ne_error _ _)
  refine Returns.bind (h s.advanced after herrors₁ (by omega) (upcoming_advanced hupcoming) hends)
    fun value t hvalue => ?_
  have hst := (reading_advanced s).trans hvalue.reading
  by_cases hexact : e.Exact
  · obtain ⟨ht, hafter, word, rfl, hword⟩ := hvalue.exact hexact
    rw [returns_hasErrors_of_nil ht]
    dsimp only
    refine returns_ite.2 ⟨fun hoverflow => ?_, fun hfits => returns_pure.2 ?_⟩
    · have hnot := negateOverflows_iff.1 hoverflow
      rw [hword] at hnot
      exact returns_bind.2 (returns_modify.2 (returns_pure.2 ⟨hst.trans (reading_withError _ _),
        fun h => absurd h.2 hnot, fun _ => errors_withError _ _⟩))
    · have hneg : Fits (-word.toInt) := by
        by_contra hnot
        exact hfits (negateOverflows_iff.2 hnot)
      have hresult : (-word).toInt = -e.value := by rw [toInt_neg hneg, hword]
      rw [hword] at hneg
      exact ⟨hst, fun _ => ⟨ht, hafter, -word, rfl, hresult⟩,
        fun hnot => absurd ⟨hexact, hneg⟩ hnot⟩
  · rw [returns_hasErrors_of_ne (hvalue.inexact hexact)]
    exact returns_pure.2 ⟨hst, fun h => absurd h.1 hexact, fun _ => hvalue.inexact hexact⟩

/-- What does not begin with a minus is for `parsePrimary`. -/
lemma parseUnary_of_primary {parsePrimary : ParserM F (Value F)} {first : Lexeme}
    {rest : List Lexeme} (hlexemes : e.lexemes 2 = first :: rest) (hfirst : first.1 ≠ .minus)
    (h : ∀ (s : Parser F) (after : List Lexeme), s.errors = [] → s.left < fuel →
      s.upcoming = e.lexemes 2 ++ after → Ends 2 after →
      Returns parsePrimary s (Computes e s after)) :
    Reads (parseUnary parsePrimary fuel) fuel e 2 := by
  intro s after herrors hbound hupcoming hends
  obtain ⟨fuel, rfl⟩ : ∃ n, fuel = n + 1 := ⟨fuel - 1, by omega⟩
  have htype : s.current.type = first.1 := type_of_upcoming (by rw [hupcoming, hlexemes]; rfl)
  rw [parseUnary, returns_currentType, if_pos (by rw [htype]; exact hfirst)]
  exact h s after herrors hbound hupcoming hends

end Operands

/-! ## All productions -/

variable {e : IntegerExpression} {n : ℕ}

/-- `parseUnary` computes the expression as an operand. -/
def ReadsUnary (F : Type) [DoubleArithmetic F] (e : IntegerExpression) (n : ℕ) : Prop :=
  ∀ fuel ≤ n + 1,
    Reads (parseUnary (parsePrimary (parseExpression (F := F) n) (n + 1)) fuel) fuel e 2

/-- `parseMultiplicative` computes it as a chain of products. -/
def ReadsMultiplicative (F : Type) [DoubleArithmetic F] (e : IntegerExpression) (n : ℕ) : Prop :=
  ReadsChain (parseUnary (parsePrimary (parseExpression (F := F) n) (n + 1)) (n + 1)) .star .slash
    (fun op left right => if op = .star then left.mul right else left.div right) (n + 1) e 1

/-- `parseAdditive` computes it as a chain of sums. -/
def ReadsAdditive (F : Type) [DoubleArithmetic F] (e : IntegerExpression) (n : ℕ) : Prop :=
  ReadsChain (parseMultiplicative (parseExpression (F := F) n) (n + 1)) .plus .minus
    (fun op left right => if op = .plus then left.add right else left.sub right) (n + 1) e 0

/-- Every production of the parser computes the expression at its level. -/
structure ReadsAll (F : Type) [DoubleArithmetic F] (e : IntegerExpression) (n : ℕ) : Prop where
  unary : ReadsUnary F e n
  multiplicative : ReadsMultiplicative F e n
  additive : ReadsAdditive F e n

lemma ReadsUnary.multiplicative (h : ReadsUnary F e n) (hlexemes : e.lexemes 1 = e.lexemes 2) :
    ReadsMultiplicative F e n :=
  ReadsChain.of_reads (h (n + 1) (Nat.le_refl _)) hlexemes

lemma ReadsMultiplicative.additive (h : ReadsMultiplicative F e n)
    (hlexemes : e.lexemes 0 = e.lexemes 1) : ReadsAdditive F e n :=
  ReadsChain.of_reads (h.reads multiplicative_chain) hlexemes

lemma ReadsAdditive.expression (h : ∀ n, ReadsAdditive F e n) (n : ℕ) :
    Reads (parseExpression (F := F) n) n e 0 := by
  cases n with
  | zero => exact fun s _ _ hbound => absurd hbound (Nat.not_lt_zero _)
  | succ n => exact (h n).reads additive_chain

/-- Where the levels do not matter, reading operands is enough. -/
lemma ReadsAll.of_unary (h : ReadsUnary F e n)
    (hlexemes : ∀ level, e.lexemes level = e.lexemes (level + 1)) : ReadsAll F e n where
  unary := h
  multiplicative := h.multiplicative (hlexemes 1)
  additive := (h.multiplicative (hlexemes 1)).additive (hlexemes 0)

/-- An expression in parentheses is an operand. -/
lemma ReadsUnary.of_enclosed {inner : IntegerExpression}
    (h : Reads (parseExpression (F := F) n) n inner 0)
    (hlexemes : e.lexemes 2 = IntegerExpression.enclosed (inner.lexemes 0))
    (hexact : e.Exact ↔ inner.Exact) (hvalue : e.value = inner.value) : ReadsUnary F e n := by
  refine fun fuel hfuel => parseUnary_of_primary hlexemes (fun h => TokenType.noConfusion h)
    fun s after herrors hbound hupcoming hends => ?_
  rw [hlexemes] at hupcoming
  refine Returns.mono (parsePrimary_enclosed h herrors (by omega) hupcoming hends)
    fun value t hcomputes => ⟨hcomputes.reading, fun he => ?_, fun hnot => ?_⟩
  · rw [hvalue]
    exact hcomputes.exact (hexact.1 he)
  · exact hcomputes.inexact fun he => hnot (hexact.2 he)

lemma readsAll_binary {op : Operator} {left right : IntegerExpression}
    (hleft : ∀ n, ReadsAll F left n) (hright : ∀ n, ReadsAll F right n) (n : ℕ) :
    ReadsAll F (.binary op left right) n := by
  have hlevel : op.level = 0 ∨ op.level = 1 := by cases op <;> decide
  have henclosed : (IntegerExpression.binary op left right).lexemes 2 =
      IntegerExpression.enclosed ((IntegerExpression.binary op left right).lexemes 0) := by
    rw [IntegerExpression.lexemes, IntegerExpression.lexemes, if_pos (by omega),
      if_neg (Nat.not_lt_zero _)]
  have hlexemes (level : ℕ) (hother : op.level ≠ level) :
      (IntegerExpression.binary op left right).lexemes level =
        (IntegerExpression.binary op left right).lexemes (level + 1) := by
    refine IntegerExpression.lexemes_succ fun op' left' right' heq => ?_
    obtain ⟨rfl, -, -⟩ := IntegerExpression.binary.inj heq
    exact hother
  rcases hlevel with hlevel | hlevel
  · have hadditive (n : ℕ) : ReadsAdditive F (.binary op left right) n :=
      ReadsChain.binary additive_chain hlevel (hleft n).additive
        ((hright n).multiplicative.reads multiplicative_chain)
    have hunary : ReadsUnary F (.binary op left right) n :=
      .of_enclosed (ReadsAdditive.expression hadditive n) henclosed Iff.rfl rfl
    exact ⟨hunary, hunary.multiplicative (hlexemes 1 (by omega)), hadditive n⟩
  · have hmultiplicative (n : ℕ) : ReadsMultiplicative F (.binary op left right) n :=
      ReadsChain.binary multiplicative_chain hlevel (hleft n).multiplicative
        ((hright n).unary (n + 1) (Nat.le_refl _))
    have hadditive (n : ℕ) : ReadsAdditive F (.binary op left right) n :=
      (hmultiplicative n).additive (hlexemes 0 (by omega))
    exact ⟨.of_enclosed (ReadsAdditive.expression hadditive n) henclosed Iff.rfl rfl,
      hmultiplicative n, hadditive n⟩

/-- By induction on the expression, at all fuels at once. -/
lemma readsAll (e : IntegerExpression) (n : ℕ) : ReadsAll F e n := by
  induction e generalizing n with
  | literal numeral =>
    refine .of_unary (fun fuel _ => ?_) fun _ => rfl
    exact parseUnary_of_primary rfl (fun h => TokenType.noConfusion h)
      fun s after herrors _ hupcoming hends => parsePrimary_literal numeral herrors hupcoming hends
  | paren inner ih =>
    exact .of_unary (.of_enclosed (ReadsAdditive.expression (fun n => (ih n).additive) n) rfl
      Iff.rfl rfl) fun _ => rfl
  | neg operand ih =>
    refine .of_unary (fun fuel hfuel => ?_) fun _ => rfl
    cases fuel with
    | zero => exact fun s _ _ hbound => absurd hbound (Nat.not_lt_zero _)
    | succ fuel => exact parseUnary_neg ((ih n).unary fuel (by omega))
  | binary op left right ihleft ihright => exact readsAll_binary ihleft ihright n

lemma parseExpression_reads (e : IntegerExpression) (n : ℕ) :
    Reads (parseExpression (F := F) n) n e 0 :=
  ReadsAdditive.expression (fun n => (readsAll e n).additive) n

/-! ## Declarations -/

section Declarations

variable {typeName name : Text} {after : List Lexeme} {fuel : ℕ} {s : Parser F}

/-- What a declaration leaves: one more variable where its value is exact, else an error. -/
structure Declares (typeName name : Text) (e : IntegerExpression) (s : Parser F)
    (after : List Lexeme) (accepted : Bool) (t : Parser F) : Prop where
  exact : e.Exact → accepted = true ∧ t.errors = [] ∧ t.upcoming = after ∧
    ∃ word : Int64, word.toInt = e.value ∧
      t.variableMap = s.variableMap ++ [(name, .integer word)] ∧
      t.declarations = s.declarations ++ [{ type := typeName, variableName := name }]
  inexact : ¬e.Exact → accepted = false ∧ t.errors ≠ [] ∧ t.variableMap = s.variableMap

omit [DoubleArithmetic F] in
lemma declareVariable_returns (value : Value F) (line column : UInt32) (token : Token)
    (htype : typeName ≠ []) (hname : token.text ≠ [])
    (hfresh : Value.findEntry s.variableMap token.text = none) :
    Returns (declareVariable typeName value line column token) s fun accepted t =>
      accepted = true ∧ t.errors = s.errors ∧ t.upcoming = s.upcoming ∧
        t.variableMap = s.variableMap ++ [(token.text, value)] ∧
        t.declarations = s.declarations ++ [{ type := typeName, variableName := token.text }] := by
  rw [declareVariable, if_neg htype, if_neg hname, returns_inspect_bind, hfresh,
    if_neg Bool.noConfusion]
  exact returns_bind.2 (returns_modify.2 (returns_pure.2 ⟨rfl, rfl, rfl, rfl, rfl⟩))

lemma parseStatement_declares (herrors : s.errors = []) (hfuel : s.left < fuel)
    (hupcoming : s.upcoming = e.declarationLexemes typeName name ++ after)
    (hafter : ∀ next ∈ after.head?, next.1 ≠ .error) (htype : typeName ≠ []) (hname : name ≠ [])
    (hstruct : typeName ≠ ascii "struct") (hdeclared : isDeclaredStruct typeName s = false)
    (hfresh : Value.findEntry s.variableMap name = none) :
    Returns (parseStatement fuel) s (Declares typeName name e s after) := by
  obtain ⟨fuel, rfl⟩ : ∃ n, fuel = n + 1 := ⟨fuel - 1, by omega⟩
  have hsemicolon : (e.lexemes 0 ++ [(.semicolon, [charSemicolon])]) ++ after =
      e.lexemes 0 ++ ((.semicolon, [charSemicolon]) :: after) := by
    rw [List.append_assoc, List.singleton_append]
  rw [IntegerExpression.declarationLexemes, List.cons_append, List.cons_append, List.cons_append,
    hsemicolon] at hupcoming
  -- the states behind the two names and behind the sign
  have hlater : ∀ {t : Parser F} {lexeme next : Lexeme} {rest : List Lexeme}, t.errors = [] →
      t.upcoming = lexeme :: next :: rest → next.1 ≠ .error →
      t.advanced.errors = [] ∧ t.advanced.upcoming = next :: rest ∧ t.advanced.left < t.left := by
    intro t lexeme next rest ht h hnext
    refine ⟨errors_advanced h ht fun other hother => ?_, upcoming_advanced h, left_of_upcoming h⟩
    obtain rfl := Option.mem_some.1 hother
    exact hnext
  obtain ⟨herrors₁, hupcoming₁, hleft₁⟩ :=
    hlater herrors hupcoming (fun h => TokenType.noConfusion h)
  obtain ⟨herrors₂, hupcoming₂, hleft₂⟩ :=
    hlater herrors₁ hupcoming₁ (fun h => TokenType.noConfusion h)
  have hupcoming₃ := upcoming_advanced hupcoming₂
  have hleft₃ := left_of_upcoming hupcoming₂
  have herrors₃ := errors_advanced hupcoming₂ herrors₂ (e.head_ne_error 0 _)
  have hends : Ends 0 ((.semicolon, [charSemicolon]) :: after) := by
    intro lexeme hlexeme
    obtain rfl := Option.mem_some.1 hlexeme
    refine ⟨fun h => TokenType.noConfusion h, fun op _ => ?_⟩
    cases op <;> exact fun h => TokenType.noConfusion h
  rw [parseStatement, parseAttributeList, returns_bind, returns_currentType,
    type_of_upcoming hupcoming, if_pos (by exact fun h => TokenType.noConfusion h), returns_pure,
    returns_hasErrors_of_nil herrors, returns_inspect_bind, type_of_upcoming hupcoming,
    if_neg (not_not.2 rfl), returns_advance, returns_currentType,
    text_of_upcoming hupcoming, if_neg fun h => hstruct h.1, if_neg Bool.noConfusion,
    returns_currentType, if_pos (type_of_upcoming hupcoming₁), returns_inspect_bind]
  have hundeclared : ¬isDeclaredStruct typeName s.advanced = true := by
    rw [show isDeclaredStruct typeName s.advanced = false from hdeclared]
    exact Bool.noConfusion
  rw [if_neg hundeclared, parseDeclaration, returns_inspect_bind, returns_advance,
    returns_currentType, if_pos (type_of_upcoming hupcoming₂), returns_advance]
  refine Returns.bind (parseExpression_reads e _ _ _ herrors₃ (by omega) hupcoming₃ hends)
    fun value t hvalue => ?_
  by_cases hexact : e.Exact
  · obtain ⟨ht, hrest, word, rfl, hword⟩ := hvalue.exact hexact
    rw [returns_hasErrors_of_nil ht, expect, bind_assoc, returns_currentType,
      if_pos (type_of_upcoming hrest), bind_assoc, returns_advance, pure_bind,
      if_neg Bool.noConfusion]
    have hvariables : t.advanced.variableMap = s.variableMap := by
      show t.variableMap = _
      rw [hvalue.reading.state]
      rfl
    have hdeclarations : t.advanced.declarations = s.declarations := by
      show t.declarations = _
      rw [hvalue.reading.state]
      rfl
    have htoken : s.advanced.current.text = name := text_of_upcoming hupcoming₁
    have hdeclare := declareVariable_returns (s := t.advanced) (.integer word) s.current.line
      s.current.column s.advanced.current htype (by rw [htoken]; exact hname)
      (by rw [hvariables, htoken]; exact hfresh)
    refine Returns.mono hdeclare fun accepted u hdeclared => ?_
    obtain ⟨haccepted, hu, hbehind, hstored, hnames⟩ := hdeclared
    refine ⟨fun _ => ⟨haccepted, ?_, ?_, word, hword, ?_, ?_⟩, fun hnot => absurd hexact hnot⟩
    · rw [hu]
      exact errors_advanced hrest ht hafter
    · rw [hbehind]
      exact upcoming_advanced hrest
    · rw [hstored, hvariables, htoken]
    · rw [hnames, hdeclarations, htoken]
  · rw [returns_hasErrors_of_ne (hvalue.inexact hexact)]
    refine returns_pure.2 ⟨fun h => absurd h hexact, fun _ => ⟨rfl, hvalue.inexact hexact, ?_⟩⟩
    rw [hvalue.reading.state]
    rfl

omit [DoubleArithmetic F] in
lemma type_of_upcoming_nil (h : s.upcoming = []) : s.current.type = .endOfFile := by
  by_contra hend
  unfold upcoming at h
  rw [if_neg hend] at h
  cases h

/-- A document of one declaration. -/
lemma parseInto_declares {source : Text}
    (hlexemes : Lexer.lexemes { rest := source } = e.declarationLexemes typeName name)
    (hstruct : typeName ≠ ascii "struct") :
    Returns (parseInto (F := F) (source.length + 1)) (start source) fun accepted t =>
      (e.Exact → accepted = true ∧ t.errors = [] ∧ ∃ word : Int64,
        t.variableMap = [(name, .integer word)] ∧ word.toInt = e.value) ∧
      (¬e.Exact → accepted = false ∧ t.errors ≠ [] ∧ t.variableMap = []) := by
  have hupcoming : (start (F := F) source).upcoming = e.declarationLexemes typeName name ++ [] := by
    rw [upcoming_start, hlexemes, List.append_nil]
  have hcurrent : (start (F := F) source).current.type = .identifier := type_of_upcoming hupcoming
  have herrors : (start (F := F) source).errors = [] := by
    show (if (start (F := F) source).current.type = .error then _ else []) = []
    rw [hcurrent]
    rfl
  have hidentifier {text : Text} (hmem : (.identifier, text) ∈ e.declarationLexemes typeName name) :
      text ≠ [] := Lexer.ne_nil_of_identifier (by rw [hlexemes]; exact hmem)
  have htype : typeName ≠ [] := hidentifier List.mem_cons_self
  have hname : name ≠ [] := hidentifier (List.mem_cons_of_mem _ List.mem_cons_self)
  have hnonempty : 0 < source.length := by
    have hleft := left_start (F := F) source
    have hread := left_of_upcoming hupcoming
    omega
  rw [parseInto, parseStatements, returns_bind, returns_currentType, hcurrent,
    if_neg (by exact fun h => TokenType.noConfusion h)]
  refine Returns.bind (parseStatement_declares herrors (left_start source) hupcoming
    (fun next hnext => absurd hnext (Option.not_mem_none next)) htype hname hstruct rfl rfl)
    fun accepted t ht => ?_
  by_cases hexact : e.Exact
  · obtain ⟨rfl, hnone, hend, word, hword, hstored, hnames⟩ := ht.exact hexact
    obtain ⟨steps, hsteps⟩ : ∃ n, source.length = n + 1 := ⟨source.length - 1, by omega⟩
    rw [if_neg Bool.noConfusion, hsteps, parseStatements, returns_currentType,
      if_pos (type_of_upcoming_nil hend), returns_bind, hasErrors, returns_inspect, returns_pure,
      hnone, if_neg (by decide), finalizeExplicitDeclaration, returns_inspect_bind, hnames]
    exact returns_bind.2 (returns_modify.2 (returns_pure.2 ⟨fun _ => ⟨rfl, hnone, word, hstored,
      hword⟩, fun hnot => absurd hexact hnot⟩))
  · obtain ⟨rfl, herror, hstored⟩ := ht.inexact hexact
    rw [if_pos rfl, returns_pure, if_pos rfl]
    exact returns_pure.2 ⟨fun h => absurd h hexact, fun _ => ⟨rfl, herror, hstored⟩⟩

end Declarations

end Parser

/-! ## Documents -/

/-- The parser computes integer expressions exactly: in every state it reads the tokens of an
expression to a word with its value where every intermediate result fits and no divisor is zero, and
to an error elsewhere; and a document that declares a variable with such a value is accepted in the
first case, with the value in the variable, and in the second case rejected, with nothing stored. -/
theorem arithmetic_exact {F : Type} [DoubleArithmetic F] (e : IntegerExpression) :
    (∀ (s : Parser F) (fuel : ℕ) (after : List Lexeme), s.errors = [] → s.left < fuel →
      s.upcoming = e.lexemes 0 ++ after → Ends 0 after →
      ∃ (value : Value F) (t : Parser F),
        Parser.parseExpression fuel s = some (value, t) ∧ t.variableMap = s.variableMap ∧
        (e.Exact → t.errors = [] ∧ t.upcoming = after ∧
          ∃ word : Int64, value = .integer word ∧ word.toInt = e.value) ∧
        (¬e.Exact → t.errors ≠ [])) ∧
    ∀ source typeName name : Text, typeName ≠ ascii "struct" →
      Lexer.lexemes { rest := source } = e.declarationLexemes typeName name →
      ∃ (accepted : Bool) (document : Document F),
        Document.parse source = some (accepted, document) ∧
        (accepted = true ↔ e.Exact) ∧ (document.errors = [] ↔ e.Exact) ∧
        (e.Exact → ∃ word : Int64,
          document.findVariable name = some (.integer word) ∧ word.toInt = e.value) ∧
        (¬e.Exact → document.findVariable name = none) := by
  constructor
  · intro s fuel after herrors hfuel hupcoming hends
    obtain ⟨value, t, hparse, hreads⟩ :=
      Parser.parseExpression_reads e fuel s after herrors hfuel hupcoming hends
    refine ⟨value, t, hparse, ?_, hreads.exact, hreads.inexact⟩
    rw [hreads.reading.state]
  · intro source typeName name hstruct hlexemes
    obtain ⟨accepted, t, hparse, hexact, hinexact⟩ :=
      Parser.parseInto_declares (F := F) hlexemes hstruct
    have hdocument : Document.parse source = some (accepted, t.document) := by
      rw [Document.parse, hparse]
      rfl
    refine ⟨accepted, t.document, hdocument, ?_⟩
    by_cases he : e.Exact
    · obtain ⟨rfl, herrors, word, hstored, hword⟩ := hexact he
      refine ⟨iff_of_true rfl he, iff_of_true herrors he, fun _ => ⟨word, ?_, hword⟩,
        fun hnot => absurd he hnot⟩
      show Value.findEntry t.variableMap name = _
      simp [hstored, Value.findEntry]
    · obtain ⟨rfl, herrors, hstored⟩ := hinexact he
      refine ⟨iff_of_false Bool.noConfusion he, iff_of_false herrors he, fun h => absurd h he,
        fun _ => ?_⟩
      show Value.findEntry t.variableMap name = _
      rw [hstored]
      rfl

/-- Doubles that a text without any does not use. -/
@[reducible] def unitDoubles : DoubleArithmetic Unit where
  ofI64 _ := ()
  add _ _ := ()
  sub _ _ := ()
  mul _ _ := ()
  div _ _ := ()
  neg _ := ()
  isZero _ := true
  parse _ := some ()

/-- `7 / -2`. -/
def sampleQuotient : IntegerExpression :=
  .binary .slash (.literal ⟨ascii "7", by decide, by decide⟩)
    (.neg (.literal ⟨ascii "2", by decide, by decide⟩))

theorem arithmetic_exact_sampleQuotient :
    (∃ value t, @Parser.parseExpression Unit unitDoubles 8 (Parser.start (ascii "7 / -2;")) =
      some (value, t) ∧ ∃ word : Int64, value = .integer word ∧ word.toInt = -3) ∧
    ∃ document, @Document.parse Unit unitDoubles (ascii "T v = 7 / -2;") = some (true, document) ∧
      ∃ word : Int64, document.findVariable (ascii "v") = some (.integer word) ∧
        word.toInt = -3 := by
  have hexact : sampleQuotient.Exact := by decide
  have hvalue : sampleQuotient.value = -3 := by decide
  obtain ⟨hexpression, hdocument⟩ := @arithmetic_exact Unit unitDoubles sampleQuotient
  constructor
  · obtain ⟨value, t, hparse, -, hreads, -⟩ := hexpression (Parser.start (ascii "7 / -2;")) 8
      [(.semicolon, [charSemicolon])] (by decide +kernel) (by decide +kernel) (by decide +kernel)
      (by
        intro lexeme hlexeme
        obtain rfl := Option.mem_some.1 hlexeme
        refine ⟨fun h => TokenType.noConfusion h, fun op _ => ?_⟩
        cases op <;> exact fun h => TokenType.noConfusion h)
    obtain ⟨-, -, word, hword, hresult⟩ := hreads hexact
    exact ⟨value, t, hparse, word, hword, by rw [hresult, hvalue]⟩
  · obtain ⟨accepted, document, hparse, haccepted, -, hstored, -⟩ :=
      hdocument (ascii "T v = 7 / -2;") (ascii "T") (ascii "v") (by decide) (by decide +kernel)
    obtain rfl := haccepted.2 hexact
    obtain ⟨word, hfound, hresult⟩ := hstored hexact
    exact ⟨document, hparse, word, hfound, by rw [hresult, hvalue]⟩

end NwbLot.Metascript
