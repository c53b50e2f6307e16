import NwbLot.Metascript.Parser

/-!
# Metascript documents

The statements of a document: declarations, assignments, structs and their instances; and
`Document::parse` on a source text.
-/

namespace NwbLot.Metascript

open Crash (Text ascii)
open StateComputation (inspect)

namespace Value

variable {F : Type}

/-- The walk of `resolveTarget` along the fields, which makes a map of null and the fields that are
missing: the value with these fields, and the value at the end of the path. -/
def openPath : Value F → List Text → Value F × Option (Value F)
  | value, [] => (value, some value)
  | null, name :: path =>
    let inner := openPath null path
    (map [(name, inner.1)], inner.2)
  | map fields, name :: path =>
    let inner := openPath ((findEntry fields name).getD null) path
    (map (setEntry fields name inner.1), inner.2)
  | value, _ :: _ => (value, none)

/-- The value with another one at the end of a path that was opened. -/
def setPath : Value F → List Text → Value F → Value F
  | _, [], target => target
  | map fields, name :: path, target =>
    map (setEntry fields name (setPath ((findEntry fields name).getD null) path target))
  | value, _ :: _, _ => value

/-- `ensureMapValue`: the map that null becomes; nothing for a value of another type. -/
def ensureMap : Value F → Option (Value F)
  | null => some (map [])
  | map fields => some (map fields)
  | _ => none

/-- A list, empty where there was nothing. -/
def ensureList : Value F → Option (Value F)
  | null => some (list [])
  | list values => some (list values)
  | _ => none

end Value

namespace Parser

variable {F : Type}

/-! ## Attributes -/

/-- An argument of an attribute. -/
def parseAttributeArgument : ParserM F (Value F) := do
  let token ← inspect Parser.current
  if token.type = .stringLiteral then
    advance
    return .string token.text
  errorExpected (ascii "expected string attribute argument")
  return .null

/-- The loop over the arguments of an attribute. -/
def parseAttributeArguments : ℕ → Value F → ParserM F (Option (Value F))
  | 0, _ => outOfFuel
  | fuel + 1, arguments => do
    let argument ← parseAttributeArgument
    if ← hasErrors then return none
    if (← currentType) = .rightParen then return some (arguments.append argument)
    if (← expect .comma (ascii "expected ',' or ')' in attribute arguments")) = false then
      return none
    parseAttributeArguments fuel (arguments.append argument)

/-- The arguments of an attribute in their parentheses. -/
def parseAttributeArgumentList (fuel : ℕ) : ParserM F (Option (Value F)) := do
  if (← currentType) ≠ .leftParen then return some (.list [])
  advance
  if (← currentType) = .rightParen then
    if (← expect .rightParen (ascii "expected ')' after attribute arguments")) = false then
      return none
    return some (.list [])
  match ← parseAttributeArguments fuel (.list []) with
  | none => return none
  | some arguments =>
    if (← expect .rightParen (ascii "expected ')' after attribute arguments")) = false then
      return none
    return some arguments

/-- An attribute in brackets. -/
def parseAttribute (fuel : ℕ) : ParserM F (Value F) := do
  if (← expect .leftBracket (ascii "expected '[' before attribute")) = false then return .null
  let name ← inspect Parser.current
  if name.type ≠ .identifier then
    errorExpected (ascii "expected attribute name")
    return .null
  advance
  match ← parseAttributeArgumentList fuel with
  | none => return .null
  | some arguments =>
    if (← expect .rightBracket (ascii "expected ']' after attribute")) = false then return .null
    return .map [(ascii "name", .string name.text), (ascii "arguments", arguments)]

/-- `parseAttributeList`, behind the attributes so far. -/
def parseAttributeList : ℕ → Value F → ParserM F (Value F)
  | 0, _ => outOfFuel
  | fuel + 1, attributes => do
    if (← currentType) ≠ .leftBracket then return attributes
    let parsed ← parseAttribute (fuel + 1)
    if ← hasErrors then return .null
    parseAttributeList fuel (attributes.append parsed)

/-! ## Structs -/

/-- `parseStructField`: the field and its name. -/
def parseStructField (attributes : Value F) (fieldNames : List Text) :
    ParserM F (Option (Value F × Text)) := do
  let type ← inspect Parser.current
  if type.type ≠ .identifier then
    errorExpected (ascii "expected field type")
    return none
  advance
  let name ← inspect Parser.current
  if name.type ≠ .identifier then
    errorExpected (ascii "expected field name after type")
    return none
  advance
  if fieldNames.any (fun fieldName => fieldName = name.text) = true then
    error name.line name.column (ascii "duplicate struct field declaration")
    return none
  if (← expect .semicolon (ascii "expected ';' after field declaration")) = false then return none
  return some (.map [(ascii "type", .string type.text), (ascii "name", .string name.text),
    (ascii "attributes", attributes)], name.text)

/-- The loop over the fields of a struct: nothing when it ends with an error. -/
def parseStructFields : ℕ → Value F → List Text → ParserM F (Option (Value F))
  | 0, _, _ => outOfFuel
  | fuel + 1, fields, fieldNames => do
    if (← currentType) = .rightBrace then return some fields
    if (← currentType) = .endOfFile then
      errorExpected (ascii "expected field declaration or '\x7d' in struct")
      return none
    let fieldAttributes ← parseAttributeList (fuel + 1) (.list [])
    if ← hasErrors then return none
    if (← currentType) = .rightBrace then
      if fieldAttributes.asList.isEmpty = false then
        errorExpected (ascii "expected field declaration after attributes")
        return none
      return some fields
    match ← parseStructField fieldAttributes fieldNames with
    | none => return none
    | some (field, name) =>
      if ← hasErrors then return none
      parseStructFields fuel (fields.append field) (fieldNames ++ [name])

/-- The asset root with a struct in `structs`, or the message of the error. -/
def withBindStruct (assetRoot : Value F) (structName : Text) (attributes fields : Value F) :
    Except Text (Value F) :=
  match assetRoot.ensureMap with
  | none => .error (ascii "bind declarations require asset root to be a map")
  | some assetRoot =>
    match ((assetRoot.findField (ascii "structs")).getD .null).ensureMap with
    | none => .error (ascii "asset.structs must be a map")
    | some structs =>
      if (structs.findField structName).isSome = true then
        .error (ascii "duplicate struct declaration")
      else
        .ok (assetRoot.setField (ascii "structs") (structs.setField structName
          (.map [(ascii "attributes", attributes), (ascii "fields", fields)])))

/-- Whether an instance of the list has the name. -/
def containsBindInstanceName (instances : Value F) (instanceName : Text) : Bool :=
  instances.asList.any fun entry =>
    match entry.findField (ascii "name") with
    | some (.string name) => name = instanceName
    | _ => false

/-- The asset root with an instance in `instances`, or the message of the error. -/
def withBindInstance (assetRoot : Value F) (typeName instanceName : Text) :
    Except Text (Value F) :=
  match assetRoot.ensureMap with
  | none => .error (ascii "bind declarations require asset root to be a map")
  | some assetRoot =>
    match ((assetRoot.findField (ascii "instances")).getD .null).ensureList with
    | none => .error (ascii "asset.instances must be a list")
    | some instances =>
      if containsBindInstanceName instances instanceName = true then
        .error (ascii "duplicate struct instance declaration")
      else
        .ok (assetRoot.setField (ascii "instances") (instances.append
          (.map [(ascii "type", .string typeName), (ascii "name", .string instanceName)])))

/-- `addBindStruct` and `addBindInstance`: the declared asset root is changed, or an error.  Where
they fail they have not changed it yet. -/
def updateAssetRoot (update : Value F → Except Text (Value F)) (line column : UInt32) :
    ParserM F Bool := do
  let name ← inspect Parser.declaredAssetVariable
  let entries ← inspect Parser.variableMap
  match Value.findEntry entries name with
  | none =>
    error line column (ascii "missing declared asset variable")
    return false
  | some assetRoot =>
    match update assetRoot with
    | .error message =>
      error line column message
      return false
    | .ok assetRoot =>
      modify fun s => { s with variableMap := Value.setEntry s.variableMap name assetRoot }
      return true

/-- A structure with its fields. -/
def parseStructDeclaration (fuel : ℕ) (attributes : Value F) (structLine structColumn : UInt32) :
    ParserM F Bool := do
  let structName ← inspect Parser.current
  advance
  if (← inspect (isDeclaredStruct structName.text)) = true then
    error structLine structColumn (ascii "duplicate struct declaration")
    return false
  if (← expect .leftBrace (ascii "expected '\x7b' after struct name")) = false then return false
  match ← parseStructFields fuel (.list []) [] with
  | none => return false
  | some fields =>
    if (← expect .rightBrace (ascii "expected '\x7d' after struct fields")) = false then
      return false
    if (← expect .semicolon (ascii "expected ';' after struct declaration")) = false then
      return false
    if (← updateAssetRoot (withBindStruct · structName.text attributes fields) structLine
        structColumn) = false then
      return false
    modify fun s => { s with declaredStructs := s.declaredStructs ++ [structName.text] }
    return true

/-- An instance of a declared structure. -/
def parseStructInstanceDeclaration (typeName : Text) : ParserM F Bool := do
  let name ← inspect Parser.current
  advance
  if (← expect .semicolon (ascii "expected ';' after instance declaration")) = false then
    return false
  updateAssetRoot (withBindInstance · typeName name.text) name.line name.column

/-! ## Variables -/

/-- A new variable with its value. -/
def declareVariable (typeName : Text) (initialValue : Value F) (typeLine typeColumn : UInt32)
    (variableToken : Token) : ParserM F Bool := do
  if typeName = [] then
    error typeLine typeColumn (ascii "type name must not be empty")
    return false
  if variableToken.text = [] then
    error variableToken.line variableToken.column (ascii "variable name must not be empty")
    return false
  let entries ← inspect Parser.variableMap
  if (Value.findEntry entries variableToken.text).isSome = true then
    error variableToken.line variableToken.column (ascii "duplicate variable declaration")
    return false
  modify fun s =>
    { s with
      variableMap := s.variableMap ++ [(variableToken.text, initialValue)]
      declarations := s.declarations ++ [{ type := typeName, variableName := variableToken.text }]
      declaredAssetVariable :=
        if s.declaredAssetVariable = [] then variableToken.text else s.declaredAssetVariable }
  return true

/-- `resolveTarget`: the value that a path names, whose root and fields are made as needed. -/
def resolveTarget (rootName : Text) (path : List Text) (allowCreateRoot : Bool)
    (errorLine errorColumn : UInt32) : ParserM F (Option (Value F)) := do
  if (← inspect (isDeclaredVariable rootName)) = false then
    error errorLine errorColumn (ascii "assignments must target a declared variable")
    return none
  let entries ← inspect Parser.variableMap
  if (Value.findEntry entries rootName).isSome = false ∧ allowCreateRoot = false then
    error errorLine errorColumn (ascii "undefined variable")
    return none
  let opened := ((Value.findEntry entries rootName).getD .null).openPath path
  modify fun s => { s with variableMap := Value.setEntry s.variableMap rootName opened.1 }
  match opened.2 with
  | none =>
    error errorLine errorColumn (ascii "cannot access field on non-map value")
    return none
  | some target => return some target

/-- The value that an assignment leaves in its target. -/
def assigned [DoubleArithmetic F] (op : TokenType) (target rhs : Value F) : Value F :=
  match op with
  | .equal => rhs
  | .plusEqual => target.addAssign rhs
  | .minusEqual => target.subAssign rhs
  | .starEqual => target.mulAssign rhs
  | .slashEqual => target.divAssign rhs
  | _ => target

/-- The operators that assign. -/
def isAssignmentOperator (op : TokenType) : Bool :=
  op = .equal || op = .plusEqual || op = .minusEqual || op = .starEqual || op = .slashEqual

variable [DoubleArithmetic F]

/-- The declaration of a variable. -/
def parseDeclaration (fuel : ℕ) (typeName : Text) (typeLine typeColumn : UInt32) :
    ParserM F Bool := do
  let variableToken ← inspect Parser.current
  advance
  if (← currentType) = .equal then
    advance
    let initialValue ← parseExpression fuel
    if ← hasErrors then return false
    if (← expect .semicolon (ascii "expected ';' after declaration")) = false then return false
    declareVariable typeName initialValue typeLine typeColumn variableToken
  else if (← expect .semicolon (ascii "expected ';' after declaration")) = false then return false
  else declareVariable typeName .null typeLine typeColumn variableToken

/-- The rest of an assignment behind the name and the fields of its target. -/
def parseAssignment (fuel : ℕ) (first : Token) (path : List Text) : ParserM F Bool := do
  let assignOp ← inspect Parser.current
  if isAssignmentOperator assignOp.type = false then
    errorExpected (ascii "expected assignment operator")
    return false
  advance
  let rhs ← parseExpression fuel
  if ← hasErrors then return false
  if (← expect .semicolon (ascii "expected ';' after expression")) = false then return false
  match ← resolveTarget first.text path (assignOp.type = .equal) first.line first.column with
  | none => return false
  | some target =>
    if (← validateAssignment assignOp.type target rhs assignOp.line assignOp.column) = false then
      return false
    modify fun s =>
      { s with
        variableMap := Value.setEntry s.variableMap first.text
          (((Value.findEntry s.variableMap first.text).getD .null).setPath path
            (assigned assignOp.type target rhs)) }
    return true

/-- One statement. -/
def parseStatement (fuel : ℕ) : ParserM F Bool := do
  let attributes ← parseAttributeList fuel (.list [])
  if ← hasErrors then return false
  let first ← inspect Parser.current
  if first.type ≠ .identifier then
    errorExpected (ascii "expected identifier at start of statement")
    return false
  advance
  if first.text = ascii "struct" ∧ (← currentType) = .identifier then
    parseStructDeclaration fuel attributes first.line first.column
  else if attributes.asList.isEmpty = false then
    error first.line first.column (ascii "attributes are only supported on struct declarations")
    return false
  else if (← currentType) = .identifier then
    if (← inspect (isDeclaredStruct first.text)) = true then
      parseStructInstanceDeclaration first.text
    else parseDeclaration fuel first.text first.line first.column
  else
    match ← parsePath fuel [] with
    | none => return false
    | some path => parseAssignment fuel first path

/-- `parseStatements`; the second number is the fuel of its loop. -/
def parseStatements (fuel : ℕ) : ℕ → ParserM F Bool
  | 0 => outOfFuel
  | steps + 1 => do
    if (← currentType) = .endOfFile then
      return !(← hasErrors)
    if (← parseStatement fuel) = false then return false
    parseStatements fuel steps

/-- The asset is what was declared first. -/
def finalizeExplicitDeclaration : ParserM F Bool := do
  match ← inspect Parser.declarations with
  | [] =>
    error 1 1 (ascii "expected declaration")
    return false
  | declaration :: _ =>
    modify fun s =>
      { s with
        assetType := declaration.type
        assetVariable := declaration.variableName
        declaredAssetVariable :=
          if s.declaredAssetVariable = [] then declaration.variableName
          else s.declaredAssetVariable }
    return true

/-- The statements of a whole document. -/
def parseInto (fuel : ℕ) : ParserM F Bool := do
  if (← parseStatements fuel fuel) = false then return false
  finalizeExplicitDeclaration

/-- `declareImplicitAsset`. -/
def declareImplicitAsset (assetType assetVariable : Text) : ParserM F Bool := do
  if assetType = [] ∨ assetVariable = [] then
    error 1 1 (ascii "implicit asset declaration requires asset type and variable")
    return false
  modify fun s =>
    { s with
      assetType
      assetVariable
      variableMap := s.variableMap ++ [(assetVariable, .null)]
      declarations := s.declarations ++ [{ type := assetType, variableName := assetVariable }]
      declaredAssetVariable := assetVariable }
  return true

/-- A document whose asset is declared for it. -/
def parseWithImplicitAsset (fuel : ℕ) (assetType assetVariable : Text) : ParserM F Bool := do
  if (← declareImplicitAsset assetType assetVariable) = false then return false
  parseStatements fuel fuel

end Parser

/-! ## Documents -/

/-- What a parser leaves. -/
structure Document (F : Type) where
  assetType : Text
  assetVariable : Text
  errors : List ParseError
  variableMap : List (Text × Value F)
  declarations : List Declaration

/-- What this parser leaves. -/
def Parser.document {F : Type} (s : Parser F) : Document F where
  assetType := s.assetType
  assetVariable := s.assetVariable
  errors := s.errors
  variableMap := s.variableMap
  declarations := s.declarations

namespace Document

variable {F : Type}

/-- `findVariable`. -/
def findVariable (document : Document F) (name : Text) : Option (Value F) :=
  Value.findEntry document.variableMap name

variable [DoubleArithmetic F]

/-- `Document::parse`, on fuel for every byte of the source: whether it accepts, and the document
that it leaves. -/
def parse (source : Text) : Option (Bool × Document F) :=
  (Parser.parseInto (source.length + 1) (Parser.start source)).map fun (accepted, s) =>
    (accepted, s.document)

/-- The document of a source, with its asset declared. -/
def parseWithImplicitAsset (source assetType assetVariable : Text) : Option (Bool × Document F) :=
  (Parser.parseWithImplicitAsset (source.length + 1) assetType assetVariable
    (Parser.start source)).map fun (accepted, s) => (accepted, s.document)

end Document

end NwbLot.Metascript
