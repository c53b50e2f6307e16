import NwbLot.Crash.ArchivePaths

/-!
# The lexer of metascript

`Lexer::next` on a source text of bytes.  The loops of the lexer are recursions on what is left of
the text.

A token has its text and its place; what cannot be read is an error token with a message.  Every
loop shortens the rest of the text, so `next` ends.
-/

namespace NwbLot.Metascript

open Crash (Text ascii charSlash charBackslash charColon charSpace charLf charCr)

/-- The types of tokens. -/
inductive TokenType
  | identifier | integerLiteral | doubleLiteral | stringLiteral
  | plus | minus | star | slash | plusEqual | minusEqual | starEqual | slashEqual | equal
  | semicolon | dot | comma | colon
  | leftBracket | rightBracket | leftBrace | rightBrace | leftParen | rightParen
  | endOfFile | error
  deriving DecidableEq, Repr

/-- A token with its place. -/
structure Token where
  type : TokenType := .endOfFile
  text : Text := []
  line : UInt32 := 1
  column : UInt32 := 1
  deriving DecidableEq, Repr

/-- `m_source` from `m_current` on, and the place in it. -/
structure Lexer where
  rest : Text
  line : UInt32 := 1
  column : UInt32 := 1
  deriving DecidableEq, Repr

def charQuote : UInt8 := 34
def charStar : UInt8 := 42
def charPlus : UInt8 := 43
def charMinus : UInt8 := 45
def charDot : UInt8 := 46
def charEqual : UInt8 := 61
def charTab : UInt8 := 9
def charSemicolon : UInt8 := 59
def charComma : UInt8 := 44
def charLeftBracket : UInt8 := 91
def charRightBracket : UInt8 := 93
def charLeftBrace : UInt8 := 123
def charRightBrace : UInt8 := 125
def charLeftParen : UInt8 := 40
def charRightParen : UInt8 := 41

/-- A decimal digit. -/
def isDigit (c : UInt8) : Bool := decide (48 ≤ c) && decide (c ≤ 57)

/-- A letter or the underscore. -/
def isAlpha (c : UInt8) : Bool :=
  (decide (97 ≤ c) && decide (c ≤ 122)) || (decide (65 ≤ c) && decide (c ≤ 90)) || c == 95

/-- A character of an identifier, behind its first. -/
def isAlphaNumeric (c : UInt8) : Bool := isAlpha c || isDigit c

namespace Lexer

/-- Nothing is left. -/
def isAtEnd (lexer : Lexer) : Bool := lexer.rest.isEmpty

/-- The next character, or zero. -/
def peek (lexer : Lexer) : UInt8 := lexer.rest.headD 0

/-- The character behind the next, or zero. -/
def peekNext (lexer : Lexer) : UInt8 := lexer.rest.tail.headD 0

/-- The next character is consumed, with its line and column. -/
def advance (lexer : Lexer) : Lexer :=
  match lexer.rest with
  | [] => lexer
  | c :: rest =>
    if c = charLf then { rest, line := lexer.line + 1, column := 1 }
    else { rest, line := lexer.line, column := lexer.column + 1 }

/-- The text between two places: `m_source.substr(start, m_current - start)`. -/
def textUntil (lexer behind : Lexer) : Text :=
  lexer.rest.take (lexer.rest.length - behind.rest.length)

lemma rest_advance (lexer : Lexer) : lexer.advance.rest = lexer.rest.tail := by
  unfold advance
  split
  · next hrest => rw [hrest]; rfl
  · next hrest =>
    rw [hrest]
    split <;> rfl

lemma length_advance_le (lexer : Lexer) : lexer.advance.rest.length ≤ lexer.rest.length := by
  unfold advance
  split
  · exact Nat.le_refl _
  · next hrest =>
    rw [hrest]
    split <;> exact Nat.le_succ _

lemma length_advance_lt {lexer : Lexer} (h : lexer.isAtEnd = false) :
    lexer.advance.rest.length < lexer.rest.length := by
  unfold advance
  split
  · next hrest => rw [isAtEnd, hrest] at h; exact Bool.noConfusion h
  · next hrest =>
    rw [hrest]
    split <;> exact Nat.lt_succ_self _

/-! ## Loops -/

/-- `while(!isAtEnd() && p(peek())) advance();` -/
def advanceWhile (p : UInt8 → Bool) (lexer : Lexer) : Lexer :=
  if lexer.isAtEnd = false ∧ p lexer.peek = true then lexer.advance.advanceWhile p else lexer
termination_by lexer.rest.length
decreasing_by exact length_advance_lt (by assumption : _ ∧ _).1

lemma length_advanceWhile_le (p : UInt8 → Bool) (lexer : Lexer) :
    (lexer.advanceWhile p).rest.length ≤ lexer.rest.length := by
  fun_induction advanceWhile p lexer with
  | case1 lexer h ih => exact ih.trans lexer.length_advance_le
  | case2 lexer h => exact Nat.le_refl _

lemma length_advanceWhile_lt {p : UInt8 → Bool} {lexer : Lexer} (hend : lexer.isAtEnd = false)
    (hp : p lexer.peek = true) : (lexer.advanceWhile p).rest.length < lexer.rest.length := by
  rw [advanceWhile, if_pos ⟨hend, hp⟩]
  exact (length_advanceWhile_le p _).trans_lt (length_advance_lt hend)

/-- The loop of a block comment: where it leaves off, and whether the comment is terminated. -/
def skipBlockComment (lexer : Lexer) : Lexer × Bool :=
  if lexer.isAtEnd = true then (lexer, false)
  else if lexer.peek = charStar ∧ lexer.peekNext = charSlash then (lexer.advance.advance, true)
  else lexer.advance.skipBlockComment
termination_by lexer.rest.length
decreasing_by exact length_advance_lt (Bool.eq_false_of_not_eq_true (by assumption))

lemma length_skipBlockComment_le (lexer : Lexer) :
    lexer.skipBlockComment.1.rest.length ≤ lexer.rest.length := by
  fun_induction skipBlockComment lexer with
  | case1 lexer hend => exact Nat.le_refl _
  | case2 lexer hend hclose =>
    exact (length_advance_le _).trans lexer.length_advance_le
  | case3 lexer hend hclose ih => exact ih.trans lexer.length_advance_le

/-- `skipWhitespaceAndComments`, with the error that it leaves pending for `next` to report. -/
def skipWhitespaceAndComments (lexer : Lexer) : Lexer × Option Token :=
  if lexer.isAtEnd = true then (lexer, none)
  else if lexer.peek = charSpace ∨ lexer.peek = charTab ∨ lexer.peek = charCr ∨
      lexer.peek = charLf then
    lexer.advance.skipWhitespaceAndComments
  else if lexer.peek = charSlash ∧ lexer.peekNext = charSlash then
    (lexer.advanceWhile (· ≠ charLf)).skipWhitespaceAndComments
  else if lexer.peek = charSlash ∧ lexer.peekNext = charStar then
    let comment := lexer.advance.advance.skipBlockComment
    if comment.2 = true then comment.1.skipWhitespaceAndComments
    else
      (comment.1, some { type := .error, text := ascii "unterminated block comment"
                         line := lexer.line, column := lexer.column })
  else (lexer, none)
termination_by lexer.rest.length
decreasing_by
  · exact length_advance_lt (Bool.eq_false_of_not_eq_true (by assumption))
  · refine length_advanceWhile_lt (Bool.eq_false_of_not_eq_true (by assumption)) ?_
    rw [(by assumption : lexer.peek = charSlash ∧ lexer.peekNext = charSlash).1]
    decide
  · exact ((length_skipBlockComment_le _).trans (length_advance_le _)).trans_lt
      (length_advance_lt (Bool.eq_false_of_not_eq_true (by assumption)))

/-! ## Tokens -/

/-- `makeToken`. -/
def makeToken (lexer : Lexer) (type : TokenType) (length : ℕ) : Token × Lexer :=
  ({ type, text := lexer.rest.take length, line := lexer.line, column := lexer.column },
    Nat.iterate advance length lexer)

/-- An error token with its message. -/
def makeErrorToken (message : Text) (line column : UInt32) : Token :=
  { type := .error, text := message, line, column }

/-- The identifier that starts here. -/
def readIdentifier (lexer : Lexer) : Token × Lexer :=
  let behind := lexer.advanceWhile isAlphaNumeric
  ({ type := .identifier, text := lexer.textUntil behind, line := lexer.line
     column := lexer.column }, behind)

/-- The part of a number behind its first digits: the digits behind a dot, if there are any. -/
def readFraction (lexer : Lexer) : Lexer × Bool :=
  if lexer.isAtEnd = false ∧ lexer.peek = charDot ∧ isDigit lexer.peekNext = true then
    (lexer.advance.advanceWhile isDigit, true)
  else (lexer, false)

/-- A sign is consumed, if there is one. -/
def skipSign (lexer : Lexer) : Lexer :=
  if lexer.isAtEnd = false ∧ (lexer.peek = charPlus ∨ lexer.peek = charMinus) then lexer.advance
  else lexer

/-- The exponent of a number, if there is one; nothing when it has no digit. -/
def readExponent (lexer : Lexer) : Lexer × Option Bool :=
  if lexer.isAtEnd = false ∧ (lexer.peek = 101 ∨ lexer.peek = 69) then
    let behind := lexer.advance.skipSign
    if behind.isAtEnd = true ∨ isDigit behind.peek = false then (behind, none)
    else (behind.advanceWhile isDigit, some true)
  else (lexer, some false)

/-- The number that starts here, or an error. -/
def readNumber (lexer : Lexer) : Token × Lexer :=
  let (behindFraction, hasFraction) := (lexer.advanceWhile isDigit).readFraction
  match behindFraction.readExponent with
  | (behind, none) =>
    (makeErrorToken (ascii "invalid exponent in number literal") lexer.line lexer.column, behind)
  | (behind, some hasExponent) =>
    ({ type := if hasFraction || hasExponent then .doubleLiteral else .integerLiteral
       text := lexer.textUntil behind, line := lexer.line, column := lexer.column }, behind)

/-- The loop over the content of a string, and the error that ends it. -/
def readStringContent (lexer : Lexer) : Lexer × Option Text :=
  if lexer.isAtEnd = true then (lexer, some (ascii "unterminated string literal"))
  else if lexer.peek = charQuote then (lexer, none)
  else if lexer.peek = charLf ∨ lexer.peek = charCr then
    (lexer, some (ascii "newline in string literal"))
  else if lexer.peek = charBackslash then
    let behind := lexer.advance
    if behind.isAtEnd = true then (behind, some (ascii "unterminated string literal"))
    else if behind.peek = charLf ∨ behind.peek = charCr then
      (behind, some (ascii "newline in string literal"))
    else behind.advance.readStringContent
  else lexer.advance.readStringContent
termination_by lexer.rest.length
decreasing_by
  · exact (length_advance_le _).trans_lt
      (length_advance_lt (Bool.eq_false_of_not_eq_true (by assumption)))
  · exact length_advance_lt (Bool.eq_false_of_not_eq_true (by assumption))

/-- The string that starts here, or an error. -/
def readString (lexer : Lexer) : Token × Lexer :=
  let content := lexer.advance
  match content.readStringContent with
  | (behind, some message) => (makeErrorToken message lexer.line lexer.column, behind)
  | (behind, none) =>
    ({ type := .stringLiteral, text := content.textUntil behind, line := lexer.line
       column := lexer.column }, behind.advance)

/-- The cases of the switch of `next`: the token of the character alone, and the one that `=` behind
it makes of it. -/
def operatorTokens : List (UInt8 × TokenType × Option TokenType) :=
  [(charPlus, .plus, some .plusEqual), (charMinus, .minus, some .minusEqual),
    (charStar, .star, some .starEqual), (charSlash, .slash, some .slashEqual),
    (charEqual, .equal, none), (charSemicolon, .semicolon, none), (charDot, .dot, none),
    (charComma, .comma, none), (charColon, .colon, none), (charLeftBracket, .leftBracket, none),
    (charRightBracket, .rightBracket, none), (charLeftBrace, .leftBrace, none),
    (charRightBrace, .rightBrace, none), (charLeftParen, .leftParen, none),
    (charRightParen, .rightParen, none)]

/-- The type of an operator, and the type with a sign of equality behind it. -/
def operatorToken (c : UInt8) : Option (TokenType × Option TokenType) :=
  (operatorTokens.find? fun entry => entry.1 == c).map Prod.snd

/-- `next` behind whitespace and comments. -/
def readToken (lexer : Lexer) : Token × Lexer :=
  if lexer.isAtEnd = true then lexer.makeToken .endOfFile 0
  else if isAlpha lexer.peek = true then lexer.readIdentifier
  else if isDigit lexer.peek = true then lexer.readNumber
  else if lexer.peek = charQuote then lexer.readString
  else
    match operatorToken lexer.peek with
    | some (type, some compound) =>
      if lexer.peekNext = charEqual then lexer.makeToken compound 2 else lexer.makeToken type 1
    | some (type, none) => lexer.makeToken type 1
    | none =>
      (makeErrorToken (ascii "unexpected character") lexer.line lexer.column, lexer.advance)

/-- `Lexer::next`. -/
def next (lexer : Lexer) : Token × Lexer :=
  match lexer.skipWhitespaceAndComments with
  | (behind, some pendingError) => (pendingError, behind)
  | (behind, none) => behind.readToken

/-! ## Progress -/

/-- Skipping goes forward, and an error that it leaves is about text that it has passed. -/
lemma length_skipWhitespaceAndComments (lexer : Lexer) :
    lexer.skipWhitespaceAndComments.1.rest.length ≤ lexer.rest.length ∧
      ∀ pendingError, lexer.skipWhitespaceAndComments.2 = some pendingError →
        pendingError.type = .error ∧
          lexer.skipWhitespaceAndComments.1.rest.length < lexer.rest.length := by
  fun_induction skipWhitespaceAndComments lexer with
  | case1 lexer hend => exact ⟨Nat.le_refl _, fun _ h => nomatch h⟩
  | case2 lexer hend hspace ih =>
    have hle := lexer.length_advance_le
    exact ⟨ih.1.trans hle, fun error herror => ⟨(ih.2 error herror).1,
      (ih.2 error herror).2.trans_le hle⟩⟩
  | case3 lexer hend hspace hline ih =>
    have hle := length_advanceWhile_le (· ≠ charLf) lexer
    exact ⟨ih.1.trans hle, fun error herror => ⟨(ih.2 error herror).1,
      (ih.2 error herror).2.trans_le hle⟩⟩
  | case4 lexer hend hspace hline hblock comment hclosed ih =>
    have hle : comment.1.rest.length ≤ lexer.rest.length :=
      ((length_skipBlockComment_le _).trans (length_advance_le _)).trans (length_advance_le _)
    exact ⟨ih.1.trans hle, fun error herror => ⟨(ih.2 error herror).1,
      (ih.2 error herror).2.trans_le hle⟩⟩
  | case5 lexer hend hspace hline hblock comment hclosed =>
    have hlt : comment.1.rest.length < lexer.rest.length :=
      ((length_skipBlockComment_le _).trans (length_advance_le _)).trans_lt
        (length_advance_lt (Bool.eq_false_of_not_eq_true hend))
    refine ⟨hlt.le, fun error herror => ⟨?_, hlt⟩⟩
    rw [← Option.some.inj herror]
  | case6 lexer hend hspace hline hblock => exact ⟨Nat.le_refl _, fun _ h => nomatch h⟩

lemma length_skipSign_le (lexer : Lexer) : lexer.skipSign.rest.length ≤ lexer.rest.length := by
  unfold skipSign
  split
  · exact lexer.length_advance_le
  · exact Nat.le_refl _

lemma length_readExponent_le (lexer : Lexer) :
    lexer.readExponent.1.rest.length ≤ lexer.rest.length := by
  have hdigits := lexer.advance.length_skipSign_le.trans lexer.length_advance_le
  unfold readExponent
  dsimp only
  split
  · split
    · exact hdigits
    · exact (length_advanceWhile_le _ _).trans hdigits
  · exact Nat.le_refl _

lemma length_readFraction_le (lexer : Lexer) :
    lexer.readFraction.1.rest.length ≤ lexer.rest.length := by
  unfold readFraction
  split
  · exact (length_advanceWhile_le _ _).trans lexer.length_advance_le
  · exact Nat.le_refl _

lemma length_readStringContent_le (lexer : Lexer) :
    lexer.readStringContent.1.rest.length ≤ lexer.rest.length := by
  fun_induction readStringContent lexer with
  | case1 lexer hend => exact Nat.le_refl _
  | case2 lexer hend hquote => exact Nat.le_refl _
  | case3 lexer hend hquote hnewline => exact Nat.le_refl _
  | case4 lexer hend hquote hnewline hescape behind hbehind => exact lexer.length_advance_le
  | case5 lexer hend hquote hnewline hescape behind hbehind hescaped =>
    exact lexer.length_advance_le
  | case6 lexer hend hquote hnewline hescape behind hbehind hescaped ih =>
    exact (ih.trans behind.length_advance_le).trans lexer.length_advance_le
  | case7 lexer hend hquote hnewline hescape ih => exact ih.trans lexer.length_advance_le

lemma length_makeToken_lt {lexer : Lexer} (hend : lexer.isAtEnd = false) (type : TokenType)
    (length : ℕ) : (lexer.makeToken type (length + 1)).2.rest.length < lexer.rest.length := by
  have hiterate : ∀ (length : ℕ) (from_ : Lexer),
      (Nat.iterate advance length from_).rest.length ≤ from_.rest.length := by
    intro length
    induction length with
    | zero => exact fun _ => Nat.le_refl _
    | succ length ih => exact fun from_ => (ih from_.advance).trans from_.length_advance_le
  exact (hiterate length lexer.advance).trans_lt (length_advance_lt hend)

/-- The token types that no operator has. -/
def readElsewhere : List TokenType := [.identifier, .endOfFile]

lemma operatorToken_notElsewhere {c : UInt8} {type : TokenType} {compound : Option TokenType}
    (h : operatorToken c = some (type, compound)) :
    type ∉ readElsewhere ∧ ∀ long, compound = some long → long ∉ readElsewhere := by
  obtain ⟨entry, hentry, htokens⟩ := Option.map_eq_some_iff.1 h
  have hnone : ∀ entry ∈ operatorTokens,
      entry.2.1 ∉ readElsewhere ∧ entry.2.2.all (· ∉ readElsewhere) = true := by decide
  have hends := hnone entry (List.mem_of_find?_eq_some hentry)
  rw [htokens] at hends
  refine ⟨hends.1, fun long hlong => ?_⟩
  have hall := hends.2
  rw [hlong] at hall
  exact of_decide_eq_true hall

/-- A token that is not the end is about text that it consumes. -/
lemma length_readToken (lexer : Lexer) :
    (lexer.readToken.1.type = .endOfFile ∧ lexer.readToken.2.rest = []) ∨
      (lexer.readToken.1.type ≠ .endOfFile ∧
        lexer.readToken.2.rest.length < lexer.rest.length) := by
  unfold readToken
  split
  · next hend => exact .inl ⟨rfl, List.isEmpty_iff.1 hend⟩
  next hend =>
  have hend : lexer.isAtEnd = false := Bool.eq_false_of_not_eq_true hend
  refine .inr ?_
  split
  · next halpha =>
    refine ⟨fun h => TokenType.noConfusion h, length_advanceWhile_lt hend ?_⟩
    rw [isAlphaNumeric, halpha, Bool.true_or]
  split
  · next hdigit =>
    have hlt := length_advanceWhile_lt hend hdigit
    have hfraction := length_readFraction_le (lexer.advanceWhile isDigit)
    have hexponent := length_readExponent_le (lexer.advanceWhile isDigit).readFraction.1
    unfold readNumber
    dsimp only
    split
    · next behind hread =>
      rw [hread] at hexponent
      exact ⟨fun h => TokenType.noConfusion h, (hexponent.trans hfraction).trans_lt hlt⟩
    · next behind hasExponent hread =>
      rw [hread] at hexponent
      refine ⟨?_, (hexponent.trans hfraction).trans_lt hlt⟩
      dsimp only
      split <;> exact fun h => TokenType.noConfusion h
  split
  · have hlt := length_advance_lt hend
    have hcontent := length_readStringContent_le lexer.advance
    unfold readString
    dsimp only
    split
    · next behind message hread =>
      rw [hread] at hcontent
      exact ⟨fun h => TokenType.noConfusion h, hcontent.trans_lt hlt⟩
    · next behind hread =>
      rw [hread] at hcontent
      exact ⟨fun h => TokenType.noConfusion h,
        (behind.length_advance_le.trans hcontent).trans_lt hlt⟩
  split
  · next type compound hoperator =>
    obtain ⟨htype, hcompound⟩ := operatorToken_notElsewhere hoperator
    split
    · refine ⟨fun h => hcompound compound rfl ?_, length_makeToken_lt hend _ _⟩
      rw [show compound = .endOfFile from h]
      decide
    · refine ⟨fun h => htype ?_, length_makeToken_lt hend _ _⟩
      rw [show type = .endOfFile from h]
      decide
  · next type hoperator =>
    refine ⟨fun h => (operatorToken_notElsewhere hoperator).1 ?_, length_makeToken_lt hend _ _⟩
    rw [show type = .endOfFile from h]
    decide
  · exact ⟨fun h => TokenType.noConfusion h, length_advance_lt hend⟩

/-- `next` consumes text, or it has reached the end of it. -/
lemma length_next (lexer : Lexer) :
    (lexer.next.1.type = .endOfFile ∧ lexer.next.2.rest = []) ∨
      (lexer.next.1.type ≠ .endOfFile ∧ lexer.next.2.rest.length < lexer.rest.length) := by
  obtain ⟨hle, herror⟩ := lexer.length_skipWhitespaceAndComments
  unfold next
  split
  · next behind pendingError hskip =>
    rw [hskip] at herror
    obtain ⟨htype, hlt⟩ := herror pendingError rfl
    refine .inr ⟨?_, hlt⟩
    rw [htype]
    exact fun h => TokenType.noConfusion h
  · next behind hskip =>
    rw [hskip] at hle
    rcases behind.length_readToken with hread | ⟨htype, hlt⟩
    · exact .inl hread
    · exact .inr ⟨htype, hlt.trans_le hle⟩

/-! ## Identifiers -/

lemma exists_taken (p : UInt8 → Bool) (lexer : Lexer) :
    ∃ taken, lexer.rest = taken ++ (lexer.advanceWhile p).rest ∧ ∀ c ∈ taken, p c = true := by
  fun_induction advanceWhile p lexer with
  | case1 lexer h ih =>
    obtain ⟨taken, hrest, htaken⟩ := ih
    rw [rest_advance] at hrest
    cases hlexer : lexer.rest with
    | nil =>
      have hend := h.1
      rw [isAtEnd, hlexer] at hend
      exact Bool.noConfusion hend
    | cons c rest =>
      rw [hlexer] at hrest
      refine ⟨c :: taken, congrArg (c :: ·) hrest, List.forall_mem_cons.2 ⟨?_, htaken⟩⟩
      have hp := h.2
      rw [peek, hlexer] at hp
      exact hp
  | case2 lexer h => exact ⟨[], rfl, fun _ hc => absurd hc List.not_mem_nil⟩

lemma textUntil_advanceWhile (p : UInt8 → Bool) (lexer : Lexer) :
    lexer.rest = lexer.textUntil (lexer.advanceWhile p) ++ (lexer.advanceWhile p).rest ∧
      ∀ c ∈ lexer.textUntil (lexer.advanceWhile p), p c = true := by
  obtain ⟨taken, hrest, htaken⟩ := exists_taken p lexer
  have htext : lexer.textUntil (lexer.advanceWhile p) = taken := by
    rw [textUntil, hrest, List.length_append, Nat.add_sub_cancel, List.take_left]
  rw [htext]
  exact ⟨hrest, htaken⟩

lemma identifier_readToken {lexer : Lexer} (h : lexer.readToken.1.type = .identifier) :
    lexer.readToken.1.text ≠ [] ∧ ∀ c ∈ lexer.readToken.1.text, isAlphaNumeric c = true := by
  unfold readToken at h ⊢
  split at h
  · cases h
  next hend =>
  rw [if_neg hend]
  split at h
  · next halpha =>
    rw [if_pos halpha]
    obtain ⟨hrest, hchars⟩ := textUntil_advanceWhile isAlphaNumeric lexer
    refine ⟨fun hnil => ?_, hchars⟩
    have hlt : (lexer.advanceWhile isAlphaNumeric).rest.length < lexer.rest.length :=
      length_advanceWhile_lt (Bool.eq_false_of_not_eq_true hend)
        (by rw [isAlphaNumeric, halpha, Bool.true_or])
    rw [show lexer.textUntil (lexer.advanceWhile isAlphaNumeric) = [] from hnil] at hrest
    exact hlt.ne (congrArg List.length hrest).symm
  split at h
  · unfold readNumber at h
    dsimp only at h
    split at h
    · cases h
    · dsimp only at h
      split at h <;> cases h
  split at h
  · unfold readString at h
    dsimp only at h
    split at h <;> cases h
  split at h
  · next type compound hoperator =>
    obtain ⟨htype, hcompound⟩ := operatorToken_notElsewhere hoperator
    split at h
    · have hlong := hcompound compound rfl
      rw [show compound = .identifier from h] at hlong
      exact absurd (by decide) hlong
    · rw [show type = .identifier from h] at htype
      exact absurd (by decide) htype
  · next type hoperator =>
    have htype := (operatorToken_notElsewhere hoperator).1
    rw [show type = .identifier from h] at htype
    exact absurd (by decide) htype
  · cases h

/-- An identifier is not empty, and has no dot in it. -/
lemma identifier_next {lexer : Lexer} (h : lexer.next.1.type = .identifier) :
    lexer.next.1.text ≠ [] ∧ charDot ∉ lexer.next.1.text := by
  have hread : lexer.next.1.text ≠ [] ∧ ∀ c ∈ lexer.next.1.text, isAlphaNumeric c = true := by
    have herror := lexer.length_skipWhitespaceAndComments.2
    unfold next at h ⊢
    split at h
    · next behind pendingError hskip =>
      rw [hskip] at herror
      have htype := (herror pendingError rfl).1.symm.trans h
      exact TokenType.noConfusion htype
    · exact identifier_readToken h
  refine ⟨hread.1, fun hdot => ?_⟩
  exact absurd (hread.2 charDot hdot) (by decide)

end Lexer

end NwbLot.Metascript
