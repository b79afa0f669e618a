import LiveConfig.Number.Shortest
import LiveConfig.Text.Quoted
import LiveConfig.Value

/-!
Contract: records read from values.

A record is read from an object by the names of its fields, or from an array by their order. Which
values a field takes is settled by conversions: strict ones take a value of the right kind only.
Owns: the faults and their wording, the strict conversions, and the reading of choices among names.
Does not own: the fields of any record.
-/

namespace LiveConfig

/-- Why a value is no record of the wanted shape. -/
inductive ShapeFault where
  /-- A value of one kind stands where another kind is wanted. -/
  | wrongKind (found expected : String)
  /-- A field without default is missing. -/
  | missingField (name : String)
  /-- A name is none of the names to choose from. -/
  | unknownName (name : String) (names : List String)
  /-- A choice is written as an object, but not as one of a single member. -/
  | notOneMember
  /-- An array has too few or too many items. -/
  | wrongLength (length : Nat) (expected : String)
  /-- A number does not fit its field. -/
  | outOfRange
deriving DecidableEq, Repr

/-- A name between the marks that messages put around names. -/
def marked (name : String) : String := "`" ++ name ++ "`"

/-- The wording of a shape fault. -/
def ShapeFault.message : ShapeFault → String
  | .wrongKind found expected => "invalid type: " ++ found ++ ", expected " ++ expected
  | .missingField name => "missing field " ++ marked name
  | .unknownName name names =>
      "unknown variant " ++ marked name ++ ", expected one of " ++
        ", ".intercalate (names.map marked)
  | .notOneMember => "invalid value: map, expected map with a single key"
  | .wrongLength length expected =>
      "invalid length " ++ toString length ++ ", expected " ++ expected
  | .outOfRange => "invalid value: integer out of range"

/-- The text of a finite number with a point in it. -/
def pointed (number : Binary64) : String :=
  let text := number.positional
  if text.toList.contains '.' then text else text ++ ".0"

/-- What a value is, in the words of messages. -/
def Value.description : Value → String
  | .null => "null"
  | .boolean value => "boolean " ++ marked (if value then "true" else "false")
  | .integer value => "integer " ++ marked (toString value)
  | .float value => "floating point " ++ marked (pointed value)
  | .text value => "string " ++ Text.quoted value
  | .list _ => "sequence"
  | .object _ => "map"

/-- How the fields of records are read from values. -/
structure Conversions where
  text : Value → Except ShapeFault String
  truth : Value → Except ShapeFault Bool
  /-- A whole number up to a bound. -/
  word : (bound : Nat) → Value → Except ShapeFault Nat
  /-- Whether the value of a field that may be left out stands for nothing. -/
  isAbsent : Value → Bool
  /-- What a chosen name may hold when it is written as the one member of an object. -/
  content : Value → Except ShapeFault Unit
  /-- Whether an array may hold more items than the record has fields. -/
  longArrays : Bool

namespace Conversions

/-- The fault of a value that is not of the expected kind. -/
def mismatch {α : Type} (value : Value) (expected : String) : Except ShapeFault α :=
  .error (.wrongKind value.description expected)

/-- A text, of a text only. -/
def strictText : Value → Except ShapeFault String
  | .text value => .ok value
  | value => mismatch value "a string"

/-- A truth value, of a truth value only. -/
def strictTruth : Value → Except ShapeFault Bool
  | .boolean value => .ok value
  | value => mismatch value "a boolean"

/-- A whole number from zero up to a bound, of an integer only. -/
def strictWord (bound : Nat) : Value → Except ShapeFault Nat
  | .integer value =>
      if 0 ≤ value ∧ value ≤ bound then .ok value.toNat else .error .outOfRange
  | value => mismatch value "an unsigned integer"

def isNull : Value → Bool
  | .null => true
  | _ => false

/-- Nothing, of null only. -/
def nullContent : Value → Except ShapeFault Unit
  | .null => .ok ()
  | value => mismatch value "unit"

/-- Nothing, of an empty array or an empty object only. -/
def emptyContent : Value → Except ShapeFault Unit
  | .list [] | .object [] => .ok ()
  | value => mismatch value "unit"

/-- The conversions of JSON values. -/
def json : Conversions where
  text := strictText
  truth := strictTruth
  word := strictWord
  isAbsent := isNull
  content := nullContent
  longArrays := false

/-- The conversions of TOML documents. -/
def toml : Conversions where
  text := strictText
  truth := strictTruth
  word := strictWord
  isAbsent := isNull
  content := emptyContent
  longArrays := true

/-- What stands under a name among the names to choose from. -/
def named {α : Type} (choices : List (String × α)) (name : String) : Except ShapeFault α :=
  match choices.find? (fun choice => choice.1 = name) with
  | some choice => .ok choice.2
  | none => .error (.unknownName name (choices.map Prod.fst))

/-- A choice among names: a text, or an object with the name as its one key. -/
def choice {α : Type} (conversions : Conversions) (choices : List (String × α)) :
    Value → Except ShapeFault α
  | .text name => named choices name
  | .object [(name, content)] =>
      match named choices name, conversions.content content with
      | .ok chosen, .ok () => .ok chosen
      | .error fault, _ => .error fault
      | _, .error fault => .error fault
  | .object _ => .error .notOneMember
  | value => mismatch value "string or map"

/-- A field that may be left out, or hold a value that stands for nothing. -/
def optional {α : Type} (conversions : Conversions) (convert : Value → Except ShapeFault α) :
    Option Value → Except ShapeFault (Option α)
  | none => .ok none
  | some value => if conversions.isAbsent value then .ok none else (convert value).map some

/-- A field that may be left out. -/
def given {α : Type} (convert : Value → Except ShapeFault α) :
    Option Value → Except ShapeFault (Option α)
  | none => .ok none
  | some value => (convert value).map some

/-- A field that may not be left out. -/
def required {α : Type} (name : String) : Option α → Except ShapeFault α
  | some value => .ok value
  | none => .error (.missingField name)

/-- An item of an array, or the fault of an array that ends before it. -/
def itemAt {α : Type} (record : String) (convert : Value → Except ShapeFault α)
    (items : List Value) (index : Nat) : Except ShapeFault α :=
  match items[index]? with
  | some value => convert value
  | none => .error (.wrongLength items.length record)

/-- Refuses an array that holds more items than the record has fields, where that matters. -/
def checkLength (conversions : Conversions) (items : List Value) (fields : Nat) :
    Except ShapeFault Unit :=
  if conversions.longArrays ∨ items.length ≤ fields then .ok ()
  else .error (.wrongLength items.length "fewer elements in array")

end Conversions

end LiveConfig
