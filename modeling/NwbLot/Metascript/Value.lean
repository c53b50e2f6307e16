import NwbLot.Metascript.Lexer
import Mathlib.Data.Int.Order.Basic

/-!
# Values of metascript

`Metascript::Value` and its operators.  Integers are 64-bit words; doubles are a parameter with the
operations that the source uses.  An operator on operands that it does not take, or on integers
whose result does not fit, asserts in the source and gives null.
-/

namespace NwbLot.Metascript

open Crash (Text)

/-- The operations on `f64`, which are not modelled. -/
class DoubleArithmetic (F : Type) where
  ofI64 : Int64 → F
  add : F → F → F
  sub : F → F → F
  mul : F → F → F
  div : F → F → F
  neg : F → F
  isZero : F → Bool
  parse : Text → Option F

/-- The values of a document. -/
inductive Value (F : Type) where
  | null
  | integer (value : Int64)
  | double (value : F)
  | string (text : Text)
  | reference (text : Text)
  | list (values : List (Value F))
  | map (fields : List (Text × Value F))

/-- `Limit<usize>::s_Max`. -/
def sizeMax : ℕ := 2 ^ 64 - 1

/-! ## Overflow checks of `i64` -/

/-- The least 64-bit integer. -/
def i64Min : Int64 := Int64.minValue
/-- The largest 64-bit integer. -/
def i64Max : Int64 := Int64.maxValue

/-- The negation does not fit. -/
def negateOverflows (value : Int64) : Bool := value == i64Min

/-- The sum does not fit. -/
def addOverflows (lhs rhs : Int64) : Bool :=
  if rhs > 0 then decide (lhs > i64Max - rhs)
  else if rhs < 0 then decide (lhs < i64Min - rhs)
  else false

/-- The difference does not fit. -/
def subtractOverflows (lhs rhs : Int64) : Bool :=
  if rhs > 0 then decide (lhs < i64Min + rhs)
  else if rhs < 0 then decide (lhs > i64Max + rhs)
  else false

/-- The product does not fit. -/
def multiplyOverflows (lhs rhs : Int64) : Bool :=
  if lhs = 0 ∨ rhs = 0 then false
  else if lhs > 0 then
    if rhs > 0 then decide (lhs > i64Max / rhs)
    else decide (rhs < i64Min / lhs)
  else if rhs > 0 then decide (lhs < i64Min / rhs)
  else decide (rhs < i64Max / lhs)

/-- The quotient does not fit. -/
def divideOverflows (lhs rhs : Int64) : Bool := lhs == i64Min && rhs == -1

namespace Value

variable {F : Type}

/-! ## Types -/

/-- An integer or a double. -/
def isNumeric : Value F → Bool
  | integer _ => true
  | double _ => true
  | _ => false

/-- The elements of a list, of which other values have none. -/
def asList : Value F → List (Value F)
  | list values => values
  | _ => []

/-! ## Fields -/

/-- `map[name] = value`. -/
def setEntry : List (Text × Value F) → Text → Value F → List (Text × Value F)
  | [], name, value => [(name, value)]
  | entry :: entries, name, value =>
    if entry.1 = name then (name, value) :: entries else entry :: setEntry entries name value

/-- `map.find(name)`. -/
def findEntry (entries : List (Text × Value F)) (name : Text) : Option (Value F) :=
  (entries.find? fun entry => entry.1 = name).map Prod.snd

/-- `findField`. -/
def findField : Value F → Text → Option (Value F)
  | map fields, name => findEntry fields name
  | _, _ => none

/-- `value.field(name) = field`, which makes a map of null. -/
def setField : Value F → Text → Value F → Value F
  | null, name, field => map [(name, field)]
  | map fields, name, field => map (setEntry fields name field)
  | value, _, _ => value

/-- `append`, which makes a list of null. -/
def append : Value F → Value F → Value F
  | null, element => list [element]
  | list values, element => list (values ++ [element])
  | value, _ => value

/-! ## Operators -/

variable [DoubleArithmetic F]

/-- `toDouble` of a number. -/
def toDouble : Value F → Option F
  | integer value => some (DoubleArithmetic.ofI64 value)
  | double value => some value
  | _ => none

/-- An arithmetic operator on numbers: on integers unless it overflows, else on doubles. -/
def arithmetic (overflows : Int64 → Int64 → Bool) (onI64 : Int64 → Int64 → Int64)
    (onF64 : F → F → F) (lhs rhs : Value F) : Option (Value F) :=
  match lhs, rhs with
  | integer lhs, integer rhs => if overflows lhs rhs then none else some (integer (onI64 lhs rhs))
  | lhs, rhs => lhs.toDouble.bind fun lhs => rhs.toDouble.map fun rhs => double (onF64 lhs rhs)

/-- `isZero` of the parser. -/
def isZero : Value F → Bool
  | integer value => value == 0
  | double value => DoubleArithmetic.isZero value
  | _ => false

/-- The result of `+`, on the operands that it takes. -/
def plus (lhs rhs : Value F) : Option (Value F) :=
  match lhs, rhs with
  | string lhs, string rhs =>
    if lhs.length > sizeMax - rhs.length then none else some (string (lhs ++ rhs))
  | list lhs, list rhs =>
    if lhs.length > sizeMax - rhs.length then none else some (list (lhs ++ rhs))
  | lhs, rhs => arithmetic addOverflows (· + ·) DoubleArithmetic.add lhs rhs

/-- The difference, where it is defined. -/
def minus (lhs rhs : Value F) : Option (Value F) :=
  arithmetic subtractOverflows (· - ·) DoubleArithmetic.sub lhs rhs

/-- The product, where it is defined. -/
def times (lhs rhs : Value F) : Option (Value F) :=
  arithmetic multiplyOverflows (· * ·) DoubleArithmetic.mul lhs rhs

/-- The quotient, where it is defined. -/
def dividedBy (lhs rhs : Value F) : Option (Value F) :=
  if rhs.isZero then none
  else arithmetic divideOverflows (· / ·) DoubleArithmetic.div lhs rhs

/-- `operator+` and the like give null where they assert. -/
def add (lhs rhs : Value F) : Value F := (lhs.plus rhs).getD null
/-- The difference, or null. -/
def sub (lhs rhs : Value F) : Value F := (lhs.minus rhs).getD null
/-- The product, or null. -/
def mul (lhs rhs : Value F) : Value F := (lhs.times rhs).getD null
/-- The quotient, or null. -/
def div (lhs rhs : Value F) : Value F := (lhs.dividedBy rhs).getD null

/-- `operator+=` leaves the value where it asserts, and takes any element for a list. -/
def addAssign (target rhs : Value F) : Value F :=
  match target, rhs with
  | list values, list rhs =>
    if values.length > sizeMax - rhs.length then list values else list (values ++ rhs)
  | list values, rhs => if values.length = sizeMax then list values else list (values ++ [rhs])
  | target, rhs => (target.plus rhs).getD target

/-- The difference, or the target as it was. -/
def subAssign (target rhs : Value F) : Value F := (target.minus rhs).getD target
/-- The product, or the target as it was. -/
def mulAssign (target rhs : Value F) : Value F := (target.times rhs).getD target
/-- The quotient, or the target as it was. -/
def divAssign (target rhs : Value F) : Value F := (target.dividedBy rhs).getD target

end Value

/-! ## References -/

/-- The name that a reference begins with, up to its first dot. -/
def referenceRoot (text : Text) : Text := text.takeWhile fun c => c ≠ charDot

mutual

/-- The texts of the references in a value. -/
def Value.references {F : Type} : Value F → List Text
  | .reference text => [text]
  | .list values => Value.referencesOfList values
  | .map fields => Value.referencesOfFields fields
  | .null => []
  | .integer _ => []
  | .double _ => []
  | .string _ => []

/-- The references in a list. -/
def Value.referencesOfList {F : Type} : List (Value F) → List Text
  | [] => []
  | value :: values => value.references ++ Value.referencesOfList values

/-- The references in a map. -/
def Value.referencesOfFields {F : Type} : List (Text × Value F) → List Text
  | [] => []
  | (_, value) :: fields => value.references ++ Value.referencesOfFields fields

end

/-- Every reference of the value begins with one of the names. -/
def Value.RootedIn {F : Type} (value : Value F) (names : List Text) : Prop :=
  ∀ text ∈ value.references, referenceRoot text ∈ names

namespace Value

variable {F : Type} {names : List Text}

lemma referencesOfList_append (left right : List (Value F)) :
    referencesOfList (left ++ right) = referencesOfList left ++ referencesOfList right := by
  induction left with
  | nil => rfl
  | cons value values ih => rw [List.cons_append, referencesOfList, ih, referencesOfList,
      List.append_assoc]

variable {value : Value F}

lemma rootedIn_of_noReferences (h : value.references = []) :
    value.RootedIn names := by
  intro text htext
  rw [h] at htext
  exact absurd htext List.not_mem_nil

@[simp] lemma rootedIn_null : (null : Value F).RootedIn names := rootedIn_of_noReferences rfl

@[simp] lemma rootedIn_integer {value : Int64} : (integer value : Value F).RootedIn names :=
  rootedIn_of_noReferences rfl

@[simp] lemma rootedIn_double {value : F} : (double value).RootedIn names :=
  rootedIn_of_noReferences rfl

@[simp] lemma rootedIn_string {text : Text} : (string text : Value F).RootedIn names :=
  rootedIn_of_noReferences rfl

@[simp] lemma rootedIn_emptyList : (list [] : Value F).RootedIn names :=
  rootedIn_of_noReferences rfl

@[simp] lemma rootedIn_emptyMap : (map [] : Value F).RootedIn names :=
  rootedIn_of_noReferences rfl

lemma rootedIn_reference {text : Text} :
    (reference text : Value F).RootedIn names ↔ referenceRoot text ∈ names :=
  List.forall_mem_singleton

lemma rootedIn_list_append {left right : List (Value F)} :
    (list (left ++ right)).RootedIn names ↔
      (list left).RootedIn names ∧ (list right).RootedIn names := by
  simp only [RootedIn, references, referencesOfList_append, List.forall_mem_append]

lemma rootedIn_list_singleton :
    (list [value]).RootedIn names ↔ value.RootedIn names := by
  simp only [RootedIn, references, referencesOfList, List.append_nil]

variable {fields : List (Text × Value F)}

lemma rootedIn_map_cons {entry : Text × Value F} :
    (map (entry :: fields)).RootedIn names ↔
      entry.2.RootedIn names ∧ (map fields).RootedIn names := by
  simp only [RootedIn, references, referencesOfFields, List.forall_mem_append]

lemma RootedIn.mono {others : List Text} (h : value.RootedIn names) (hsubset : names ⊆ others) :
    value.RootedIn others :=
  fun text htext => hsubset (h text htext)

variable {name : Text}

lemma RootedIn.setEntry (hfields : (map fields).RootedIn names) (hvalue : value.RootedIn names) :
    (map (setEntry fields name value)).RootedIn names := by
  induction fields with
  | nil => exact rootedIn_map_cons.2 ⟨hvalue, rootedIn_emptyMap⟩
  | cons entry fields ih =>
    obtain ⟨hentry, hrest⟩ := rootedIn_map_cons.1 hfields
    rw [Value.setEntry]
    split
    · exact rootedIn_map_cons.2 ⟨hvalue, hrest⟩
    · exact rootedIn_map_cons.2 ⟨hentry, ih hrest⟩

lemma RootedIn.findEntry (hfields : (map fields).RootedIn names)
    (h : findEntry fields name = some value) :
    value.RootedIn names := by
  induction fields with
  | nil => cases h
  | cons entry fields ih =>
    obtain ⟨hentry, hrest⟩ := rootedIn_map_cons.1 hfields
    rw [Value.findEntry, List.find?_cons] at h
    split at h
    · obtain rfl := Option.some.inj h
      exact hentry
    · exact ih hrest h

lemma RootedIn.setField {field : Value F} (hvalue : value.RootedIn names)
    (hfield : field.RootedIn names) :
    (value.setField name field).RootedIn names := by
  cases value with
  | null => exact rootedIn_map_cons.2 ⟨hfield, rootedIn_emptyMap⟩
  | map fields => exact hvalue.setEntry hfield
  | _ => exact hvalue

lemma RootedIn.append {value element : Value F} (hvalue : value.RootedIn names)
    (helement : element.RootedIn names) : (value.append element).RootedIn names := by
  cases value with
  | null => exact rootedIn_list_singleton.2 helement
  | list values => exact rootedIn_list_append.2 ⟨hvalue, rootedIn_list_singleton.2 helement⟩
  | _ => exact hvalue

variable [DoubleArithmetic F]

variable {lhs rhs result : Value F}

lemma references_arithmetic {overflows : Int64 → Int64 → Bool} {onI64 : Int64 → Int64 → Int64}
    {onF64 : F → F → F} (h : arithmetic overflows onI64 onF64 lhs rhs = some result) :
    result.references = [] := by
  unfold arithmetic at h
  split at h
  · split at h
    · cases h
    · cases h
      rfl
  · obtain ⟨left, -, hright⟩ := Option.bind_eq_some_iff.1 h
    obtain ⟨right, -, rfl⟩ := Option.map_eq_some_iff.1 hright
    rfl

lemma RootedIn.plus (hlhs : lhs.RootedIn names) (hrhs : rhs.RootedIn names)
    (h : lhs.plus rhs = some result) : result.RootedIn names := by
  unfold Value.plus at h
  split at h
  · split at h
    · cases h
    · cases h
      exact rootedIn_string
  · split at h
    · cases h
    · cases h
      exact rootedIn_list_append.2 ⟨hlhs, hrhs⟩
  · exact rootedIn_of_noReferences (references_arithmetic h)

lemma references_dividedBy (h : lhs.dividedBy rhs = some result) :
    result.references = [] := by
  unfold dividedBy at h
  split at h
  · cases h
  · exact references_arithmetic h

omit [DoubleArithmetic F] in
lemma rootedIn_getD {result : Option (Value F)}
    (h : ∀ other, result = some other → other.RootedIn names) (hvalue : value.RootedIn names) :
    (result.getD value).RootedIn names := by
  cases result with
  | none => exact hvalue
  | some other => exact h other rfl

lemma RootedIn.addAssign {target : Value F} (htarget : target.RootedIn names)
    (hrhs : rhs.RootedIn names) : (target.addAssign rhs).RootedIn names := by
  unfold Value.addAssign
  split
  · split
    · exact htarget
    · exact rootedIn_list_append.2 ⟨htarget, hrhs⟩
  · split
    · exact htarget
    · exact rootedIn_list_append.2 ⟨htarget, rootedIn_list_singleton.2 hrhs⟩
  · exact rootedIn_getD (fun _ h => htarget.plus hrhs h) htarget

end Value

end NwbLot.Metascript
