import NwbLot.Metascript.Document

/-!
# Progress of the parser

What every part of the parser does with the text that is left, the errors and the names: `Later`
relates the states before and after it.  With fuel for the text that is left a part returns, and
unless an error has been recorded it has done what it is for.
-/

namespace NwbLot.Metascript

open Crash (Text ascii)
open StateComputation

namespace Parser

variable {F α β : Type}

/-! ## The states in a run -/

/-- The text that is left: a byte for the current token too, unless it is the end. -/
def left (s : Parser F) : ℕ :=
  s.lexer.rest.length + if s.current.type = .endOfFile then 0 else 1

/-- The declared names. -/
def names (s : Parser F) : List Text := s.declarations.map Declaration.variableName

/-- The variables are the declared ones, each name once, and no reference begins elsewhere. -/
structure WellFormed (s : Parser F) : Prop where
  identifier : s.current.type = .identifier → charDot ∉ s.current.text
  keys : s.variableMap.map Prod.fst = s.names
  nodup : s.names.Nodup
  rooted : ∀ entry ∈ s.variableMap, entry.2.RootedIn s.names

/-- Nothing is promised of a state with errors. -/
def Sound (s : Parser F) : Prop := s.errors = [] → s.WellFormed

/-- What is true of the states of a run, from an earlier one to a later one. -/
structure Later (s t : Parser F) : Prop where
  errors : s.errors <+: t.errors
  left : t.left ≤ s.left
  names : s.names ⊆ t.names
  sound : s.Sound → t.Sound

lemma Later.refl (s : Parser F) : Later s s :=
  ⟨List.prefix_rfl, Nat.le_refl _, List.Subset.refl _, id⟩

lemma Later.trans {s t u : Parser F} (h : Later s t) (h' : Later t u) : Later s u where
  errors := h.errors.trans h'.errors
  left := h'.left.trans h.left
  names := fun _ hname => h'.names (h.names hname)
  sound := h'.sound ∘ h.sound

lemma Later.errors_nil {s t : Parser F} (h : Later s t) (ht : t.errors = []) : s.errors = [] :=
  List.prefix_nil.1 (ht ▸ h.errors)

lemma left_advanced_le_length (s : Parser F) : s.advanced.left ≤ s.lexer.rest.length := by
  show s.lexer.next.2.rest.length + (if s.lexer.next.1.type = .endOfFile then 0 else 1) ≤ _
  rcases s.lexer.length_next with ⟨htype, hrest⟩ | ⟨htype, hlt⟩
  · rw [if_pos htype, hrest]
    exact Nat.zero_le _
  · rw [if_neg htype]
    exact hlt

/-- The next token takes something from what is left. -/
lemma left_advanced_lt {s : Parser F} (h : s.current.type ≠ .endOfFile) :
    s.advanced.left < s.left := by
  have hle := s.left_advanced_le_length
  show s.advanced.left < s.lexer.rest.length + _
  rw [if_neg h]
  exact Nat.lt_succ_of_le hle

lemma errors_advanced_prefix (s : Parser F) : s.errors <+: s.advanced.errors := by
  show s.errors <+: if s.lexer.next.1.type = .error then _ else _
  split
  · exact List.prefix_append _ _
  · exact List.prefix_rfl

lemma later_advanced (s : Parser F) : Later s s.advanced where
  errors := s.errors_advanced_prefix
  left := s.left_advanced_le_length.trans (Nat.le_add_right _ _)
  names := List.Subset.refl _
  sound h herrors := by
    have hs := h (List.prefix_nil.1 (herrors ▸ s.errors_advanced_prefix))
    exact ⟨fun h => (Lexer.identifier_next h).2, hs.keys, hs.nodup, hs.rooted⟩

/-! ## Proceeding -/

/-- The part returns in a later state, and unless an error has been recorded by then the property
holds. -/
def Proceeds (p : ParserM F α) (s : Parser F) (P : α → Parser F → Prop) : Prop :=
  Returns p s fun a t => Later s t ∧ (t.errors = [] → P a t)

variable {p : ParserM F α} {f : α → ParserM F β} {s : Parser F} {P : α → Parser F → Prop}
  {Q : β → Parser F → Prop}

lemma Proceeds.mono {R : α → Parser F → Prop} (h : Proceeds p s P)
    (hPR : ∀ a t, Later s t → P a t → R a t) : Proceeds p s R :=
  Returns.mono h fun a t hat => ⟨hat.1, fun herrors => hPR a t hat.1 (hat.2 herrors)⟩

lemma Proceeds.pure {a : α} (h : s.errors = [] → P a s) :
    Proceeds (Pure.pure a : ParserM F α) s P :=
  returns_pure.2 ⟨Later.refl s, h⟩

/-- The rule of composition: the second part starts in a later state. -/
lemma Proceeds.bind (h : Proceeds p s P)
    (hf : ∀ a t, Later s t → (t.errors = [] → P a t) → Proceeds (f a) t Q) :
    Proceeds (p >>= f) s Q := by
  refine Returns.bind h fun a t ⟨hlater, hP⟩ => ?_
  exact Returns.mono (hf a t hlater hP) fun b u ⟨hu, hQ⟩ => ⟨hlater.trans hu, hQ⟩

lemma Proceeds.inspect {g : Parser F → α} (h : Proceeds (f (g s)) s Q) :
    Proceeds (StateComputation.inspect g >>= f) s Q :=
  returns_bind.2 (returns_inspect.2 h)

/-- A change of the state that stays sound. -/
lemma Proceeds.change {g : Parser F → Parser F} {f : PUnit → ParserM F β} (hg : Later s (g s))
    (h : Proceeds (f ⟨⟩) (g s) Q) : Proceeds (modify g >>= f) s Q := by
  refine returns_bind.2 (returns_modify.2 ?_)
  exact Returns.mono h fun b u ⟨hu, hQ⟩ => ⟨hg.trans hu, hQ⟩

lemma Proceeds.ite {c : Prop} [Decidable c] {q : ParserM F α} (hp : c → Proceeds p s P)
    (hq : ¬c → Proceeds q s P) : Proceeds (if c then p else q) s P :=
  returns_ite.2 ⟨hp, hq⟩

lemma Proceeds.advance {f : PUnit → ParserM F β} (h : Proceeds (f ⟨⟩) s.advanced Q) :
    Proceeds (Parser.advance >>= f) s Q :=
  Proceeds.change s.later_advanced h

/-! ### Errors -/

/-- The state with one more error. -/
def withError (s : Parser F) (error : ParseError) : Parser F :=
  { s with errors := s.errors ++ [error] }

lemma errors_withError (s : Parser F) (error : ParseError) : (s.withError error).errors ≠ [] :=
  List.concat_ne_nil _ _

lemma later_withError (s : Parser F) (error : ParseError) : Later s (s.withError error) :=
  ⟨List.prefix_append _ _, Nat.le_refl _, List.Subset.refl _,
    fun _ herrors => absurd herrors (s.errors_withError error)⟩

variable {b : β}

lemma Proceeds.withError {e : Parser F → ParseError} :
    Proceeds ((modify fun s => s.withError (e s) : ParserM F PUnit) >>= fun _ =>
      (Pure.pure b : ParserM F β)) s Q :=
  Proceeds.change (s.later_withError (e s)) (Proceeds.pure fun h => absurd h (s.errors_withError _))

/-- Whatever is given behind an error. -/
lemma Proceeds.error {line column : UInt32} {message : Text} :
    Proceeds (Parser.error line column message >>= fun _ => (Pure.pure b : ParserM F β)) s Q :=
  Proceeds.withError

lemma Proceeds.errorHere {message : Text} :
    Proceeds (Parser.errorHere message >>= fun _ => (Pure.pure b : ParserM F β)) s Q :=
  Proceeds.withError

lemma Proceeds.errorExpected {expected : Text} :
    Proceeds (Parser.errorExpected expected >>= fun _ => (Pure.pure b : ParserM F β)) s Q := by
  rw [Parser.errorExpected, bind_assoc]
  exact Proceeds.inspect Proceeds.errorHere

variable {k : ParserM F β}

/-- Giving up where errors have been recorded. -/
lemma Proceeds.unlessErrors (h : s.errors = [] → Proceeds k s Q) :
    Proceeds (hasErrors >>= fun failed => if failed = true then Pure.pure b else k) s Q := by
  refine Proceeds.inspect (Proceeds.ite (fun hfailed => ?_) fun hfailed => ?_)
  · refine Proceeds.pure fun herrors => ?_
    rw [herrors] at hfailed
    exact Bool.noConfusion hfailed
  · refine h (List.isEmpty_iff.1 ?_)
    rw [Bool.not_eq_true, Bool.not_eq_false'] at hfailed
    exact hfailed

/-- Giving up where a check has failed, which has recorded why. -/
lemma Proceeds.check {p : ParserM F Bool} (hp : Proceeds p s fun found _ => found = true)
    (h : ∀ t, Later s t → Proceeds k t Q) :
    Proceeds (p >>= fun found => if found = false then Pure.pure b else k) s Q := by
  refine hp.bind fun found t hlater hfound => Proceeds.ite (fun hnot => ?_) fun _ => h t hlater
  refine Proceeds.pure fun herrors => ?_
  rw [hfound herrors] at hnot
  exact Bool.noConfusion hnot

/-- Giving up where another token was expected. -/
lemma Proceeds.expect {type : TokenType} {expected : Text}
    (h : s.current.type = type → Proceeds k s.advanced Q) :
    Proceeds (Parser.expect type expected >>= fun found =>
      if found = false then Pure.pure b else k) s Q := by
  rw [Parser.expect, bind_assoc]
  refine Proceeds.inspect ?_
  by_cases htype : s.current.type = type
  · rw [if_pos htype, bind_assoc]
    refine Proceeds.advance ?_
    rw [pure_bind, if_neg Bool.noConfusion]
    exact h htype
  · rw [if_neg htype, bind_assoc]
    simp only [pure_bind, if_true]
    exact Proceeds.errorExpected

/-! ## Names -/

lemma referenceRoot_join {rootName : Text} (path : List Text) (h : charDot ∉ rootName) :
    referenceRoot (rootName ++ path.flatMap fun name => charDot :: name) = rootName := by
  have hroot : ∀ c ∈ rootName, decide (c ≠ charDot) = true := fun c hc =>
    decide_eq_true fun heq => h (heq ▸ hc)
  rw [referenceRoot, List.takeWhile_append_of_pos hroot]
  cases path with
  | nil => exact List.append_nil _
  | cons name path => exact List.append_nil _

lemma parsePath_proceeds (fuel : ℕ) (path : List Text) (hfuel : s.left < fuel) :
    Proceeds (parsePath fuel path) s fun result _ => result.isSome = true := by
  induction fuel generalizing path s with
  | zero => exact absurd hfuel (Nat.not_lt_zero _)
  | succ fuel ih =>
    rw [parsePath]
    refine Proceeds.inspect (Proceeds.ite (fun _ => Proceeds.pure fun _ => rfl) fun htype => ?_)
    rw [not_not] at htype
    have hdot : s.advanced.left < s.left := left_advanced_lt (by rw [htype]; decide)
    refine Proceeds.advance (Proceeds.inspect ?_)
    refine Proceeds.ite (fun _ => Proceeds.errorExpected) fun _ => Proceeds.advance ?_
    refine ih _ ?_
    exact (s.advanced.later_advanced.left.trans_lt hdot).trans_le (Nat.le_of_lt_succ hfuel)

/-- The name that a reference begins with has been declared. -/
lemma makeReference_proceeds {rootName : Text} (path : List Text)
    (h : s.errors = [] → charDot ∉ rootName) :
    Proceeds (makeReference rootName path) s fun value t => value.RootedIn t.names := by
  rw [makeReference]
  refine Proceeds.inspect (Proceeds.ite (fun _ => Proceeds.errorHere) fun hdeclared => ?_)
  refine Proceeds.pure fun herrors => Value.rootedIn_reference.2 ?_
  rw [referenceRoot_join path (h herrors)]
  rw [Bool.not_eq_false, isDeclaredVariable, List.any_eq_true] at hdeclared
  obtain ⟨declaration, hmem, hname⟩ := hdeclared
  exact List.mem_map.2 ⟨declaration, hmem, of_decide_eq_true hname⟩

/-! ## Expressions -/

/-- A part that parses a value: it consumes a token, and its references are rooted. -/
def ParsesValue (bound : ℕ) (p : ParserM F (Value F)) : Prop :=
  ∀ s : Parser F, s.Sound → s.left < bound →
    Proceeds p s fun value t => t.left < s.left ∧ value.RootedIn t.names

lemma ParsesValue.proceeds {bound : ℕ} {p : ParserM F (Value F)} (h : ParsesValue bound p)
    (hsound : s.Sound) (hbound : s.left < bound) :
    Proceeds p s fun value t => t.left < s.left ∧ value.RootedIn t.names :=
  h s hsound hbound

lemma sound_advanced (h : s.Sound) : s.advanced.Sound :=
  s.later_advanced.sound h

section Lists

variable {bound : ℕ} {parseExpression : ParserM F (Value F)}

/-- The loop over the elements of a list goes on as long as an expression consumes something. -/
lemma parseListElements_proceeds (hexpression : ParsesValue bound parseExpression)
    (closeToken : TokenType) (fuel : ℕ) {list : Value F} (hsound : s.Sound)
    (hbound : s.left < bound) (hfuel : s.left < fuel) (hlist : list.RootedIn s.names) :
    Proceeds (parseListElements parseExpression closeToken fuel list) s
      fun value t => value.RootedIn t.names := by
  induction fuel generalizing list s with
  | zero => exact absurd hfuel (Nat.not_lt_zero _)
  | succ fuel ih =>
    rw [parseListElements]
    refine (hexpression.proceeds hsound hbound).bind fun elem t ht helem => ?_
    refine Proceeds.unlessErrors fun herrors => ?_
    obtain ⟨hleft, helem⟩ := helem herrors
    have happend : (list.append elem).RootedIn t.names := (hlist.mono ht.names).append helem
    refine Proceeds.inspect (Proceeds.ite (fun _ => ?_) fun _ => ?_)
    · exact Proceeds.advance (Proceeds.pure fun _ => happend)
    refine Proceeds.expect fun _ => Proceeds.inspect (Proceeds.ite (fun _ => ?_) fun _ => ?_)
    · exact Proceeds.advance (Proceeds.pure fun _ => happend)
    · have hle := t.later_advanced.left
      exact ih (sound_advanced (ht.sound hsound)) (by omega) (by omega) happend

variable {fuel : ℕ}

lemma parseListLiteral_proceeds (hexpression : ParsesValue bound parseExpression)
    (closeToken : TokenType) (hsound : s.Sound) (hbound : s.left ≤ bound) (hfuel : s.left ≤ fuel)
    (htype : s.current.type ≠ .endOfFile) :
    Proceeds (parseListLiteral parseExpression fuel closeToken) s
      fun value t => t.left < s.left ∧ value.RootedIn t.names := by
  have hlt := left_advanced_lt htype
  rw [parseListLiteral]
  refine Proceeds.advance (Proceeds.inspect (Proceeds.ite (fun _ => ?_) fun _ => ?_))
  · refine Proceeds.advance (Proceeds.pure fun _ => ⟨?_, Value.rootedIn_emptyList⟩)
    exact s.advanced.later_advanced.left.trans_lt hlt
  · have hloop := parseListElements_proceeds hexpression closeToken fuel (sound_advanced hsound)
      (hlt.trans_le hbound) (hlt.trans_le hfuel) Value.rootedIn_emptyList
    exact hloop.mono fun value t ht hvalue => ⟨ht.left.trans_lt hlt, hvalue⟩

lemma parseBraceElements_proceeds (hexpression : ParsesValue bound parseExpression) (fuel : ℕ)
    {list : Value F} (hsound : s.Sound) (hbound : s.left < bound) (hfuel : s.left < fuel)
    (hlist : list.RootedIn s.names) :
    Proceeds (parseBraceElements parseExpression fuel list) s
      fun value t => value.RootedIn t.names := by
  induction fuel generalizing list s with
  | zero => exact absurd hfuel (Nat.not_lt_zero _)
  | succ fuel ih =>
    rw [parseBraceElements]
    refine Proceeds.inspect (Proceeds.ite (fun _ => ?_) fun _ => ?_)
    · exact Proceeds.advance (Proceeds.pure fun _ => hlist)
    refine (hexpression.proceeds hsound hbound).bind fun elem t ht helem => ?_
    refine Proceeds.unlessErrors fun herrors => ?_
    obtain ⟨hleft, helem⟩ := helem herrors
    have happend : (list.append elem).RootedIn t.names := (hlist.mono ht.names).append helem
    refine Proceeds.inspect (Proceeds.ite (fun _ => ?_) fun _ => ?_)
    · exact Proceeds.advance (Proceeds.pure fun _ => happend)
    refine Proceeds.expect fun _ => Proceeds.inspect (Proceeds.ite (fun _ => ?_) fun _ => ?_)
    · exact Proceeds.advance (Proceeds.pure fun _ => happend)
    · have hle := t.later_advanced.left
      exact ih (sound_advanced (ht.sound hsound)) (by omega) (by omega) happend

lemma parseMapFields_proceeds (hexpression : ParsesValue bound parseExpression) (fuel : ℕ)
    {map : Value F} (hsound : s.Sound) (hbound : s.left < bound) (hfuel : s.left < fuel)
    (hmap : map.RootedIn s.names) :
    Proceeds (parseMapFields parseExpression fuel map) s
      fun value t => value.RootedIn t.names := by
  induction fuel generalizing map s with
  | zero => exact absurd hfuel (Nat.not_lt_zero _)
  | succ fuel ih =>
    rw [parseMapFields]
    refine Proceeds.inspect (Proceeds.ite (fun _ => ?_) fun _ => ?_)
    · exact Proceeds.advance (Proceeds.pure fun _ => hmap)
    refine (hexpression.proceeds hsound hbound).bind fun key t ht hkey => ?_
    refine Proceeds.unlessErrors fun herrors => ?_
    have hkeyLeft := (hkey herrors).1
    cases key with
    | string key =>
      refine Proceeds.expect fun _ => ?_
      have hcolon := t.later_advanced.left
      have ht' : t.advanced.Sound := sound_advanced (ht.sound hsound)
      refine (hexpression.proceeds ht' (by omega)).bind fun val u hu hval => ?_
      refine Proceeds.unlessErrors fun herrors => ?_
      obtain ⟨hleft, hval⟩ := hval herrors
      have hset : (map.setField key val).RootedIn u.names :=
        ((hmap.mono ht.names).mono hu.names).setField hval
      refine Proceeds.inspect (Proceeds.ite (fun _ => ?_) fun _ => ?_)
      · exact Proceeds.advance (Proceeds.pure fun _ => hset)
      refine Proceeds.expect fun _ => Proceeds.inspect (Proceeds.ite (fun _ => ?_) fun _ => ?_)
      · exact Proceeds.advance (Proceeds.pure fun _ => hset)
      · have hle := u.later_advanced.left
        exact ih (sound_advanced (hu.sound ht')) (by omega) (by omega) hset
    | _ => exact Proceeds.errorHere

lemma parseMapLiteralContinuation_proceeds (hexpression : ParsesValue bound parseExpression)
    {firstKey : Value F} (hsound : s.Sound) (hbound : s.left < bound) (hfuel : s.left < fuel) :
    Proceeds (parseMapLiteralContinuation parseExpression fuel firstKey) s
      fun value t => value.RootedIn t.names := by
  have hcolon := s.later_advanced.left
  unfold parseMapLiteralContinuation
  refine Proceeds.advance ?_
  cases firstKey with
  | string firstKey =>
    refine (hexpression.proceeds (sound_advanced hsound) (by omega)).bind
      fun value t ht hvalue => ?_
    refine Proceeds.unlessErrors fun herrors => ?_
    obtain ⟨hleft, hvalue⟩ := hvalue herrors
    have hmap : (Value.map [(firstKey, value)]).RootedIn t.names :=
      Value.rootedIn_map_cons.2 ⟨hvalue, Value.rootedIn_emptyMap⟩
    refine Proceeds.inspect (Proceeds.ite (fun _ => ?_) fun _ => ?_)
    · exact Proceeds.advance (Proceeds.pure fun _ => hmap)
    refine Proceeds.expect fun _ => Proceeds.inspect (Proceeds.ite (fun _ => ?_) fun _ => ?_)
    · exact Proceeds.advance (Proceeds.pure fun _ => hmap)
    · have hle := t.later_advanced.left
      exact parseMapFields_proceeds hexpression fuel
        (sound_advanced (ht.sound (sound_advanced hsound))) (by omega) (by omega) hmap
  | _ => exact Proceeds.errorHere

lemma parseBraceExpression_proceeds (hexpression : ParsesValue bound parseExpression)
    (hsound : s.Sound) (hbound : s.left ≤ bound) (hfuel : s.left ≤ fuel)
    (htype : s.current.type ≠ .endOfFile) :
    Proceeds (parseBraceExpression parseExpression fuel) s
      fun value t => t.left < s.left ∧ value.RootedIn t.names := by
  have hlt := left_advanced_lt htype
  have hrest : Proceeds (parseBraceExpression parseExpression fuel) s
      fun value t => t.left ≤ s.advanced.left ∧ value.RootedIn t.names := by
    rw [parseBraceExpression]
    refine Proceeds.advance (Proceeds.inspect (Proceeds.ite (fun _ => ?_) fun _ => ?_))
    · exact Proceeds.advance (Proceeds.pure fun _ =>
        ⟨s.advanced.later_advanced.left, Value.rootedIn_emptyList⟩)
    refine (hexpression.proceeds (sound_advanced hsound) (by omega)).bind
      fun first t ht hfirst => ?_
    refine Proceeds.unlessErrors fun herrors => ?_
    obtain ⟨hleft, hfirst⟩ := hfirst herrors
    have ht' : t.Sound := ht.sound (sound_advanced hsound)
    have hlist : (Value.list [first]).RootedIn t.names := Value.rootedIn_list_singleton.2 hfirst
    have hle := t.later_advanced.left
    refine Proceeds.inspect (Proceeds.ite (fun _ => ?_) fun _ => ?_)
    · exact (parseMapLiteralContinuation_proceeds hexpression ht' (by omega) (by omega)).mono
        fun value u hu hvalue => ⟨hu.left.trans hleft.le, hvalue⟩
    refine Proceeds.inspect (Proceeds.ite (fun _ => ?_) fun _ => ?_)
    · exact Proceeds.advance (Proceeds.pure fun _ => ⟨hle.trans hleft.le, hlist⟩)
    refine Proceeds.expect fun _ => Proceeds.inspect (Proceeds.ite (fun _ => ?_) fun _ => ?_)
    · exact Proceeds.advance (Proceeds.pure fun _ =>
        ⟨(t.advanced.later_advanced.left.trans hle).trans hleft.le, hlist⟩)
    · exact (parseBraceElements_proceeds hexpression fuel (sound_advanced ht') (by omega)
        (by omega) hlist).mono fun value u hu hvalue =>
          ⟨(hu.left.trans hle).trans hleft.le, hvalue⟩
  exact hrest.mono fun value t _ h => ⟨h.1.trans_lt hlt, h.2⟩

end Lists

/-! ### Operators -/

section Operators

variable [DoubleArithmetic F] {s : Parser F} {lhs rhs : Value F} {line column : UInt32}

lemma validateNumericOperands_proceeds {op : TokenType} {operandError : Option Text}
    {rejectZeroDivisor : Bool}
    (h : operandError = none → lhs.isNumeric = true ∧ rhs.isNumeric = true) :
    Proceeds (validateNumericOperands op lhs rhs line column operandError rejectZeroDivisor) s
      fun accepted _ => accepted = true := by
  unfold validateNumericOperands
  refine Proceeds.ite (fun hnumeric => ?_) fun _ => ?_
  · cases operandError with
    | some operandError => exact Proceeds.error
    | none =>
      obtain ⟨hlhs, hrhs⟩ := h rfl
      rw [hlhs, hrhs] at hnumeric
      exact absurd hnumeric (by decide)
  · refine Proceeds.ite (fun _ => Proceeds.error) fun _ => ?_
    exact Proceeds.ite (fun _ => Proceeds.error) fun _ => Proceeds.pure fun _ => rfl

omit [DoubleArithmetic F] in
lemma validateSizes_proceeds {lhsSize rhsSize : ℕ} {message : Text} :
    Proceeds (validateSizes lhsSize rhsSize line column message) s
      fun accepted _ => accepted = true := by
  unfold validateSizes
  exact Proceeds.ite (fun _ => Proceeds.error) fun _ => Proceeds.pure fun _ => rfl

/-- An operation that is refused is an error. -/
lemma validateBinaryOperation_proceeds (op : TokenType) :
    Proceeds (validateBinaryOperation op lhs rhs line column) s
      fun accepted _ => accepted = true := by
  have hmessage : ∀ {message : Text}, some message = none →
      lhs.isNumeric = true ∧ rhs.isNumeric = true := fun h => nomatch h
  unfold validateBinaryOperation
  split
  · refine Proceeds.ite (fun hnumeric => validateNumericOperands_proceeds fun _ => hnumeric)
      fun _ => ?_
    split
    · exact validateSizes_proceeds
    · exact validateSizes_proceeds
    · exact Proceeds.error
  · exact validateNumericOperands_proceeds hmessage
  · exact validateNumericOperands_proceeds hmessage
  · exact validateNumericOperands_proceeds hmessage
  · exact Proceeds.error

lemma validateAssignment_proceeds (op : TokenType) :
    Proceeds (validateAssignment op lhs rhs line column) s fun accepted _ => accepted = true := by
  have hmessage : ∀ {message : Text}, some message = none →
      lhs.isNumeric = true ∧ rhs.isNumeric = true := fun h => nomatch h
  unfold validateAssignment
  split
  · exact Proceeds.pure fun _ => rfl
  · refine Proceeds.ite (fun hnumeric => validateNumericOperands_proceeds fun _ => hnumeric)
      fun _ => ?_
    split
    · exact validateSizes_proceeds
    · exact validateSizes_proceeds
    · exact validateSizes_proceeds
    · exact Proceeds.error
  · exact validateNumericOperands_proceeds hmessage
  · exact validateNumericOperands_proceeds hmessage
  · exact validateNumericOperands_proceeds hmessage
  · exact Proceeds.error

/-- An operator makes no references of its own. -/
def KeepsRooted (applyOperation : TokenType → Value F → Value F → Value F) : Prop :=
  ∀ (op : TokenType) (left right : Value F) (names : List Text), left.RootedIn names →
    right.RootedIn names → (applyOperation op left right).RootedIn names

variable {parseNext : ParserM F (Value F)} {bound : ℕ} {lhsOp rhsOp : TokenType}
  {applyOperation : TokenType → Value F → Value F → Value F}

/-- The loop over the operands goes on as long as an operand consumes something. -/
lemma parseBinaryLoop_proceeds (hnext : ParsesValue bound parseNext)
    (happly : KeepsRooted applyOperation) (fuel : ℕ) {left : Value F} (hsound : s.Sound)
    (hbound : s.left < bound) (hfuel : s.left < fuel) (hleft : left.RootedIn s.names) :
    Proceeds (parseBinaryLoop parseNext lhsOp rhsOp applyOperation fuel left) s
      fun value t => value.RootedIn t.names := by
  induction fuel generalizing left s with
  | zero => exact absurd hfuel (Nat.not_lt_zero _)
  | succ fuel ih =>
    rw [parseBinaryLoop]
    refine Proceeds.inspect (Proceeds.ite (fun _ => Proceeds.pure fun _ => hleft) fun _ => ?_)
    have hle := s.later_advanced.left
    refine Proceeds.advance ?_
    refine (hnext.proceeds (sound_advanced hsound) (by omega)).bind fun right t ht hright => ?_
    refine Proceeds.unlessErrors fun herrors => ?_
    obtain ⟨hconsumed, hright⟩ := hright herrors
    refine Proceeds.check (validateBinaryOperation_proceeds _) fun u hu => ?_
    have hnames := happly s.current.type left right u.names
      ((hleft.mono ht.names).mono hu.names) (hright.mono hu.names)
    have hu' := hu.left
    exact ih (hu.sound (ht.sound (sound_advanced hsound))) (by omega) (by omega) hnames

lemma parseBinaryExpression_parses (hnext : ParsesValue bound parseNext)
    (happly : KeepsRooted applyOperation) :
    ParsesValue bound (parseBinaryExpression bound parseNext lhsOp rhsOp applyOperation) := by
  intro s hsound hbound
  refine (hnext.proceeds hsound hbound).bind fun left t ht hleft => ?_
  refine Proceeds.unlessErrors fun herrors => ?_
  obtain ⟨hconsumed, hleft⟩ := hleft herrors
  exact (parseBinaryLoop_proceeds hnext happly bound (ht.sound hsound)
    (hconsumed.trans hbound) (hconsumed.trans hbound) hleft).mono fun value u hu hvalue =>
      ⟨hu.left.trans_lt hconsumed, hvalue⟩

lemma parseUnary_parses {parsePrimary : ParserM F (Value F)}
    (hprimary : ParsesValue bound parsePrimary) (fuel : ℕ) (hsound : s.Sound)
    (hbound : s.left < bound) (hfuel : s.left < fuel) :
    Proceeds (parseUnary parsePrimary fuel) s
      fun value t => t.left < s.left ∧ value.RootedIn t.names := by
  induction fuel generalizing s with
  | zero => exact absurd hfuel (Nat.not_lt_zero _)
  | succ fuel ih =>
    rw [parseUnary]
    refine Proceeds.inspect
      (Proceeds.ite (fun _ => hprimary.proceeds hsound hbound) fun htype => ?_)
    rw [not_not] at htype
    have hminus : s.advanced.left < s.left := left_advanced_lt (by rw [htype]; decide)
    refine Proceeds.advance ?_
    refine (ih (sound_advanced hsound) (by omega) (by omega)).bind fun value t ht hvalue => ?_
    refine Proceeds.unlessErrors fun herrors => ?_
    have hlt : t.left < s.left := (hvalue herrors).1.trans hminus
    cases value with
    | integer value =>
      refine Proceeds.ite (fun _ => Proceeds.errorHere) fun _ => ?_
      exact Proceeds.pure fun _ => ⟨hlt, Value.rootedIn_integer⟩
    | double value => exact Proceeds.pure fun _ => ⟨hlt, Value.rootedIn_double⟩
    | _ => exact Proceeds.errorHere

lemma parsePrimary_parses {parseExpression : ParserM F (Value F)}
    (hexpression : ParsesValue bound parseExpression) :
    ParsesValue (bound + 1) (parsePrimary parseExpression (bound + 1)) := by
  intro s hsound hbound
  have hconsumed (type : TokenType) (htype : s.current.type = type) (hend : type ≠ .endOfFile) :
      s.advanced.left < s.left := left_advanced_lt (by rw [htype]; exact hend)
  unfold parsePrimary
  refine Proceeds.inspect ?_
  split
  · next htype =>
    have hlt := hconsumed _ htype (by decide)
    refine Proceeds.advance ?_
    split
    · exact Proceeds.pure fun _ => ⟨hlt, Value.rootedIn_integer⟩
    · exact Proceeds.errorHere
  · next htype =>
    have hlt := hconsumed _ htype (by decide)
    refine Proceeds.advance ?_
    split
    · exact Proceeds.pure fun _ => ⟨hlt, Value.rootedIn_double⟩
    · exact Proceeds.errorHere
  · next htype =>
    have hlt := hconsumed _ htype (by decide)
    exact Proceeds.advance (Proceeds.pure fun _ => ⟨hlt, Value.rootedIn_string⟩)
  · next htype =>
    have hlt := hconsumed _ htype (by decide)
    refine Proceeds.advance ?_
    refine (parsePath_proceeds _ _ (hlt.trans hbound)).bind fun path t ht hpath => ?_
    cases path with
    | none => exact Proceeds.pure fun herrors => Bool.noConfusion (hpath herrors)
    | some path =>
      have hidentifier : t.errors = [] → charDot ∉ s.current.text := fun herrors =>
        (hsound (s.later_advanced.errors_nil (ht.errors_nil herrors))).identifier htype
      exact (makeReference_proceeds path hidentifier).mono fun value u hu hvalue =>
        ⟨(hu.left.trans ht.left).trans_lt hlt, hvalue⟩
  · next htype =>
    exact parseListLiteral_proceeds hexpression _ hsound (by omega) (by omega)
      (by rw [htype]; decide)
  · next htype =>
    exact parseBraceExpression_proceeds hexpression hsound (by omega) (by omega)
      (by rw [htype]; decide)
  · next htype =>
    have hlt := hconsumed _ htype (by decide)
    refine Proceeds.advance ?_
    refine (hexpression.proceeds (sound_advanced hsound) (by omega)).bind
      fun value t ht hvalue => ?_
    refine Proceeds.unlessErrors fun herrors => ?_
    obtain ⟨hleft, hvalue⟩ := hvalue herrors
    have hle := t.later_advanced.left
    exact Proceeds.expect fun _ => Proceeds.pure fun _ => ⟨by omega, hvalue⟩
  · exact Proceeds.errorExpected

lemma rootedIn_mulDiv : KeepsRooted fun op (left right : Value F) =>
    if op = .star then left.mul right else left.div right := by
  intro op left right names _ _
  dsimp only
  split
  · exact Value.rootedIn_getD (fun _ h =>
      Value.rootedIn_of_noReferences (Value.references_arithmetic h)) Value.rootedIn_null
  · exact Value.rootedIn_getD (fun _ h =>
      Value.rootedIn_of_noReferences (Value.references_dividedBy h)) Value.rootedIn_null

lemma rootedIn_addSub : KeepsRooted fun op (left right : Value F) =>
    if op = .plus then left.add right else left.sub right := by
  intro op left right names hleft hright
  dsimp only
  split
  · exact Value.rootedIn_getD (fun _ h => hleft.plus hright h) Value.rootedIn_null
  · exact Value.rootedIn_getD (fun _ h =>
      Value.rootedIn_of_noReferences (Value.references_arithmetic h)) Value.rootedIn_null

/-- Parsing an expression returns, with fuel for what is left. -/
lemma parseExpression_parses (fuel : ℕ) : ParsesValue fuel (parseExpression (F := F) fuel) := by
  induction fuel with
  | zero => exact fun s _ hbound => absurd hbound (Nat.not_lt_zero _)
  | succ fuel ih =>
    have hunary : ParsesValue (fuel + 1)
        (parseUnary (parsePrimary (parseExpression (F := F) fuel) (fuel + 1)) (fuel + 1)) :=
      fun s hsound hbound => parseUnary_parses (parsePrimary_parses ih) _ hsound hbound hbound
    exact parseBinaryExpression_parses (parseBinaryExpression_parses hunary rootedIn_mulDiv)
      rootedIn_addSub

end Operators

end Parser

end NwbLot.Metascript
