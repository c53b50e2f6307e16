import NwbLot.Library.StateComputation
import NwbLot.Metascript.Value

/-!
# The parser of metascript

`Document::parse`: a recursive descent over the tokens, which evaluates as it goes.  The recursion
into expressions and every loop take fuel, and a computation that has none left gives nothing.
-/

namespace NwbLot.Metascript

open Crash (Text ascii)
open StateComputation (inspect)

/-- An error with its place. -/
structure ParseError where
  line : UInt32
  column : UInt32
  message : Text
  deriving DecidableEq, Repr

/-- A declared variable and its type. -/
structure Declaration where
  type : Text
  variableName : Text
  deriving DecidableEq, Repr

/-- The state of `Parser`, with the members of the document that it fills. -/
structure Parser (F : Type) where
  lexer : Lexer
  current : Token := {}
  errors : List ParseError := []
  variableMap : List (Text × Value F) := []
  declarations : List Declaration := []
  declaredStructs : List Text := []
  declaredAssetVariable : Text := []
  assetType : Text := []
  assetVariable : Text := []

/-- A step of the parser, which may run out of fuel. -/
abbrev ParserM (F : Type) := StateT (Parser F) Option

namespace Parser

variable {F : Type}

/-- The fuel is used up. -/
def outOfFuel {α : Type} : ParserM F α := fun _ => none

/-! ## Errors and tokens -/

/-- One more error. -/
def error (line column : UInt32) (message : Text) : ParserM F Unit :=
  modify fun s => { s with errors := s.errors ++ [{ line, column, message }] }

/-- `error` at the current token. -/
def errorHere (message : Text) : ParserM F Unit :=
  modify fun s =>
    { s with
      errors := s.errors ++
        [{ line := s.current.line, column := s.current.column, message }] }

/-- `TokenDescription`. -/
def tokenDescription (token : Token) : Text :=
  match token.type with
  | .identifier => ascii "identifier '" ++ token.text ++ ascii "'"
  | .integerLiteral => ascii "number '" ++ token.text ++ ascii "'"
  | .doubleLiteral => ascii "number '" ++ token.text ++ ascii "'"
  | .stringLiteral => ascii "string literal"
  | .plus => ascii "'+'"
  | .minus => ascii "'-'"
  | .star => ascii "'*'"
  | .slash => ascii "'/'"
  | .plusEqual => ascii "'+='"
  | .minusEqual => ascii "'-='"
  | .starEqual => ascii "'*='"
  | .slashEqual => ascii "'/='"
  | .equal => ascii "'='"
  | .semicolon => ascii "';'"
  | .dot => ascii "'.'"
  | .comma => ascii "','"
  | .colon => ascii "':'"
  | .leftBracket => ascii "'['"
  | .rightBracket => ascii "']'"
  | .leftBrace => ascii "'\x7b'"
  | .rightBrace => ascii "'\x7d'"
  | .leftParen => ascii "'('"
  | .rightParen => ascii "')'"
  | .endOfFile => ascii "end of file"
  | .error => ascii "error"

/-- The error that something else was expected here. -/
def errorExpected (expected : Text) : ParserM F Unit := do
  let current ← inspect Parser.current
  errorHere (expected ++ ascii ", found " ++ tokenDescription current)

/-- The state behind the current token.  An error token is an error. -/
def advanced (s : Parser F) : Parser F :=
  let (token, lexer) := s.lexer.next
  { s with
    lexer
    current := token
    errors :=
      if token.type = .error then
        s.errors ++ [{ line := token.line, column := token.column, message := token.text }]
      else s.errors }

/-- The next token is read. -/
def advance : ParserM F Unit := modify advanced

/-- The constructor. -/
def start (source : Text) : Parser F := advanced { lexer := { rest := source } }

/-- The type of the current token. -/
def currentType : ParserM F TokenType := inspect fun s => s.current.type

/-- There are errors. -/
def hasErrors : ParserM F Bool := inspect fun s => !s.errors.isEmpty

/-- A token of the type is consumed, or an error is recorded. -/
def expect (type : TokenType) (expected : Text) : ParserM F Bool := do
  if (← currentType) = type then
    advance
    return true
  errorExpected expected
  return false

/-! ## Names -/

/-- A variable of this name is declared. -/
def isDeclaredVariable (name : Text) (s : Parser F) : Bool :=
  s.declarations.any fun declaration => declaration.variableName = name

/-- A structure of this name is declared. -/
def isDeclaredStruct (name : Text) (s : Parser F) : Bool :=
  s.declaredStructs.any fun declared => declared = name

/-- The loops over the names behind dots: nothing behind an error. -/
def parsePath : ℕ → List Text → ParserM F (Option (List Text))
  | 0, _ => outOfFuel
  | fuel + 1, path => do
    if (← currentType) ≠ .dot then return some path
    advance
    let name ← inspect Parser.current
    if name.type ≠ .identifier then
      errorExpected (ascii "expected identifier after '.'")
      return none
    advance
    parsePath fuel (path ++ [name.text])

/-- `makeReference` of a name and the fields behind it. -/
def makeReference (rootName : Text) (path : List Text) : ParserM F (Value F) := do
  if (← inspect (isDeclaredVariable rootName)) = false then
    errorHere (ascii "references must target a declared variable")
    return .null
  return .reference (rootName ++ path.flatMap fun name => charDot :: name)

/-! ## Numbers -/

/-- `BinaryI64Overflows`. -/
def binaryI64Overflows (op : TokenType) (lhs rhs : Int64) : Bool :=
  match op with
  | .plus => addOverflows lhs rhs
  | .plusEqual => addOverflows lhs rhs
  | .minus => subtractOverflows lhs rhs
  | .minusEqual => subtractOverflows lhs rhs
  | .star => multiplyOverflows lhs rhs
  | .starEqual => multiplyOverflows lhs rhs
  | .slash => divideOverflows lhs rhs
  | .slashEqual => divideOverflows lhs rhs
  | _ => false

/-- Whether both are integers on which the operator overflows. -/
def integersOverflow (op : TokenType) : Value F → Value F → Bool
  | .integer lhs, .integer rhs => binaryI64Overflows op lhs rhs
  | _, _ => false

/-- `ParseI64FromChars` on the digits of a literal: the value of the whole text, if it fits. -/
def parseI64FromChars (text : Text) : Option Int64 :=
  if text = [] ∨ text.all isDigit = false then none
  else
    let value := text.foldl (fun value c => value * 10 + (c.toNat - 48)) 0
    if value < 2 ^ 63 then some (Int64.ofNat value) else none

variable [DoubleArithmetic F]

/-- Numeric operands, and no division by zero. -/
def validateNumericOperands (op : TokenType) (lhs rhs : Value F) (line column : UInt32)
    (operandError : Option Text) (rejectZeroDivisor : Bool) : ParserM F Bool := do
  if lhs.isNumeric = false ∨ rhs.isNumeric = false then
    match operandError with
    | some operandError =>
      error line column operandError
      return false
    | none => return false
  if rejectZeroDivisor = true ∧ rhs.isZero = true then
    error line column (ascii "division by zero")
    return false
  if integersOverflow op lhs rhs = true then
    error line column (ascii "integer overflow")
    return false
  return true

/-- The checks of a sum of two sizes, for texts and lists. -/
def validateSizes (lhsSize rhsSize : ℕ) (line column : UInt32) (message : Text) :
    ParserM F Bool := do
  if lhsSize > sizeMax - rhsSize then
    error line column message
    return false
  return true

/-- The operation is defined on the operands. -/
def validateBinaryOperation (op : TokenType) (lhs rhs : Value F) (line column : UInt32) :
    ParserM F Bool :=
  match op with
  | .plus =>
    if lhs.isNumeric = true ∧ rhs.isNumeric = true then
      validateNumericOperands op lhs rhs line column none false
    else
      match lhs, rhs with
      | .string lhs, .string rhs =>
        validateSizes lhs.length rhs.length line column
          (ascii "string concatenation size overflow")
      | .list lhs, .list rhs =>
        validateSizes lhs.length rhs.length line column (ascii "list concatenation size overflow")
      | _, _ => do
        error line column
          (ascii "operator '+' requires numeric, string, or list operands of matching types")
        return false
  | .minus =>
    validateNumericOperands op lhs rhs line column
      (some (ascii "operator '-' requires numeric operands")) false
  | .star =>
    validateNumericOperands op lhs rhs line column
      (some (ascii "operator '*' requires numeric operands")) false
  | .slash =>
    validateNumericOperands op lhs rhs line column
      (some (ascii "operator '/' requires numeric operands")) true
  | _ => do
    error line column (ascii "unsupported binary operator")
    return false

/-- The assignment is defined on the target and the value. -/
def validateAssignment (op : TokenType) (target rhs : Value F) (line column : UInt32) :
    ParserM F Bool :=
  match op with
  | .equal => return true
  | .plusEqual =>
    if target.isNumeric = true ∧ rhs.isNumeric = true then
      validateNumericOperands op target rhs line column none false
    else
      match target, rhs with
      | .string target, .string rhs =>
        validateSizes target.length rhs.length line column (ascii "string append size overflow")
      | .list target, .list rhs =>
        validateSizes target.length rhs.length line column (ascii "list append size overflow")
      | .list target, _ =>
        validateSizes target.length 1 line column (ascii "list append size overflow")
      | _, _ => do
        error line column
          (ascii "operator '+=' requires numeric operands, string += string, or a list target")
        return false
  | .minusEqual =>
    validateNumericOperands op target rhs line column
      (some (ascii "operator '-=' requires numeric operands")) false
  | .starEqual =>
    validateNumericOperands op target rhs line column
      (some (ascii "operator '*=' requires numeric operands")) false
  | .slashEqual =>
    validateNumericOperands op target rhs line column
      (some (ascii "operator '/=' requires numeric operands")) true
  | _ => do
    error line column (ascii "unsupported assignment operator")
    return false

/-! ## Expressions -/

/-- The loop of `parseBinaryExpression` behind its first operand. -/
def parseBinaryLoop (parseNext : ParserM F (Value F)) (lhsOp rhsOp : TokenType)
    (applyOperation : TokenType → Value F → Value F → Value F) :
    ℕ → Value F → ParserM F (Value F)
  | 0, _ => outOfFuel
  | fuel + 1, left => do
    let op ← inspect Parser.current
    if op.type ≠ lhsOp ∧ op.type ≠ rhsOp then return left
    advance
    let right ← parseNext
    if ← hasErrors then return .null
    if (← validateBinaryOperation op.type left right op.line op.column) = false then return .null
    parseBinaryLoop parseNext lhsOp rhsOp applyOperation fuel (applyOperation op.type left right)

/-- A chain of operators of one precedence. -/
def parseBinaryExpression (fuel : ℕ) (parseNext : ParserM F (Value F)) (lhsOp rhsOp : TokenType)
    (applyOperation : TokenType → Value F → Value F → Value F) : ParserM F (Value F) := do
  let left ← parseNext
  if ← hasErrors then return left
  parseBinaryLoop parseNext lhsOp rhsOp applyOperation fuel left

/-- The loop over the elements of a list literal. -/
def parseListElements (parseExpression : ParserM F (Value F)) (closeToken : TokenType) :
    ℕ → Value F → ParserM F (Value F)
  | 0, _ => outOfFuel
  | fuel + 1, list => do
    let elem ← parseExpression
    if ← hasErrors then return .null
    if (← currentType) = closeToken then
      advance
      return list.append elem
    if (← expect .comma (ascii "expected ',' or closing delimiter in list")) = false then
      return .null
    if (← currentType) = closeToken then
      advance
      return list.append elem
    parseListElements parseExpression closeToken fuel (list.append elem)

/-- A list up to its closing token. -/
def parseListLiteral (parseExpression : ParserM F (Value F)) (fuel : ℕ) (closeToken : TokenType) :
    ParserM F (Value F) := do
  advance
  if (← currentType) = closeToken then
    advance
    return .list []
  parseListElements parseExpression closeToken fuel (.list [])

/-- The loop of `parseBraceExpression` over the elements behind the first one. -/
def parseBraceElements (parseExpression : ParserM F (Value F)) :
    ℕ → Value F → ParserM F (Value F)
  | 0, _ => outOfFuel
  | fuel + 1, list => do
    if (← currentType) = .rightBrace then
      advance
      return list
    let elem ← parseExpression
    if ← hasErrors then return .null
    if (← currentType) = .rightBrace then
      advance
      return list.append elem
    if (← expect .comma (ascii "expected ',' or '\x7d' in list")) = false then return .null
    if (← currentType) = .rightBrace then
      advance
      return list.append elem
    parseBraceElements parseExpression fuel (list.append elem)

/-- The loop of `parseMapLiteralContinuation` over the fields behind the first one. -/
def parseMapFields (parseExpression : ParserM F (Value F)) : ℕ → Value F → ParserM F (Value F)
  | 0, _ => outOfFuel
  | fuel + 1, map => do
    if (← currentType) = .rightBrace then
      advance
      return map
    let key ← parseExpression
    if ← hasErrors then return .null
    match key with
    | .string key =>
      if (← expect .colon (ascii "expected ':' after map key")) = false then return .null
      let val ← parseExpression
      if ← hasErrors then return .null
      if (← currentType) = .rightBrace then
        advance
        return map.setField key val
      if (← expect .comma (ascii "expected ',' or '\x7d' in map")) = false then return .null
      if (← currentType) = .rightBrace then
        advance
        return map.setField key val
      parseMapFields parseExpression fuel (map.setField key val)
    | _ =>
      errorHere (ascii "map keys must be strings")
      return .null

/-- A map whose first key is read. -/
def parseMapLiteralContinuation (parseExpression : ParserM F (Value F)) (fuel : ℕ)
    (firstKey : Value F) : ParserM F (Value F) := do
  advance
  match firstKey with
  | .string firstKey =>
    let firstValue ← parseExpression
    if ← hasErrors then return .null
    if (← currentType) = .rightBrace then
      advance
      return .map [(firstKey, firstValue)]
    if (← expect .comma (ascii "expected ',' or '\x7d' in map")) = false then return .null
    if (← currentType) = .rightBrace then
      advance
      return .map [(firstKey, firstValue)]
    parseMapFields parseExpression fuel (.map [(firstKey, firstValue)])
  | _ =>
    errorHere (ascii "map keys must be strings")
    return .null

/-- A list or a map in braces. -/
def parseBraceExpression (parseExpression : ParserM F (Value F)) (fuel : ℕ) :
    ParserM F (Value F) := do
  advance
  if (← currentType) = .rightBrace then
    advance
    return .list []
  let first ← parseExpression
  if ← hasErrors then return .null
  if (← currentType) = .colon then parseMapLiteralContinuation parseExpression fuel first
  else if (← currentType) = .rightBrace then
    advance
    return .list [first]
  else if (← expect .comma (ascii "expected ',' or '\x7d' in list")) = false then return .null
  else if (← currentType) = .rightBrace then
    advance
    return .list [first]
  else parseBraceElements parseExpression fuel (.list [first])

/-- A literal, a name, or an expression in brackets. -/
def parsePrimary (parseExpression : ParserM F (Value F)) (fuel : ℕ) : ParserM F (Value F) := do
  let token ← inspect Parser.current
  match token.type with
  | .integerLiteral =>
    advance
    match parseI64FromChars token.text with
    | some result => return .integer result
    | none =>
      errorHere (ascii "invalid integer literal")
      return .null
  | .doubleLiteral =>
    advance
    match DoubleArithmetic.parse token.text with
    | some result => return .double result
    | none =>
      errorHere (ascii "invalid double literal")
      return .null
  | .stringLiteral =>
    advance
    return .string token.text
  | .identifier =>
    advance
    match ← parsePath fuel [] with
    | some path => makeReference token.text path
    | none => return .null
  | .leftBracket => parseListLiteral parseExpression fuel .rightBracket
  | .leftBrace => parseBraceExpression parseExpression fuel
  | .leftParen =>
    advance
    let val ← parseExpression
    if ← hasErrors then return .null
    if (← expect .rightParen (ascii "expected ')' after expression")) = false then return .null
    return val
  | _ =>
    errorExpected (ascii "expected expression")
    return .null

/-- `parseUnary`, on whatever `parsePrimary` is. -/
def parseUnary (parsePrimary : ParserM F (Value F)) : ℕ → ParserM F (Value F)
  | 0 => outOfFuel
  | fuel + 1 => do
    if (← currentType) ≠ .minus then parsePrimary
    else
      advance
      let val ← parseUnary parsePrimary fuel
      if ← hasErrors then return .null
      match val with
      | .integer val =>
        if negateOverflows val = true then
          errorHere (ascii "integer overflow")
          return .null
        return .integer (-val)
      | .double val => return .double (DoubleArithmetic.neg val)
      | _ =>
        errorHere (ascii "unary '-' requires numeric operand")
        return .null

/-- A chain of products and quotients. -/
def parseMultiplicative (parseExpression : ParserM F (Value F)) (fuel : ℕ) :
    ParserM F (Value F) :=
  parseBinaryExpression fuel (parseUnary (parsePrimary parseExpression fuel) fuel) .star .slash
    fun op left right => if op = .star then left.mul right else left.div right

/-- A chain of sums and differences. -/
def parseAdditive (parseExpression : ParserM F (Value F)) (fuel : ℕ) : ParserM F (Value F) :=
  parseBinaryExpression fuel (parseMultiplicative parseExpression fuel) .plus .minus
    fun op left right => if op = .plus then left.add right else left.sub right

/-- An expression, nested at most as deep as the fuel. -/
def parseExpression : ℕ → ParserM F (Value F)
  | 0 => outOfFuel
  | fuel + 1 => parseAdditive (parseExpression fuel) (fuel + 1)

end Parser

end NwbLot.Metascript
