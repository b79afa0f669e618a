import LiveConfig.Toml.Document
import LiveConfig.Value

/-!
Contract: TOML trees as property values.

What property values cannot say of a tree is settled by a reading: the range of integers, numbers that
are not finite, dates and times. Three readings are defined: of payloads, of settings, and of layered
settings.
-/

namespace LiveConfig.Toml

/-- How the scalars of a tree are read as property values. -/
structure Reading where
  /-- The value of an integer; none if it is out of range. -/
  integer : Int → Option Value
  /-- The value of a floating-point number. -/
  float : Binary64 → Value
  datetime : Datetime → Value
  /-- Whether a table whose first key is `datetimeKey` is itself read as a date or time, and refused
  if it holds none. -/
  unmasks : Bool

/-- The key under which an object stands for a date or time. -/
def datetimeKey : String := "$__toml_private_datetime"

/-- The object that stands for a date or time. -/
def datetimeObject (datetime : Datetime) : Value :=
  .object [(datetimeKey, .text datetime.text)]

def integerWithin (low high value : Int) : Option Value :=
  if low ≤ value ∧ value ≤ high then some (.integer value) else none

/-- The least signed 64-bit word. -/
def leastWord : Int := -(Int.pow 2 63)

/-- The greatest signed 64-bit word. -/
def greatestWord : Int := Int.pow 2 63 - 1

/-- Payloads: integers are signed words, numbers that are not finite are null, and dates and times
are objects with one key. -/
def Reading.payload : Reading where
  integer := integerWithin leastWord greatestWord
  float number := if number.isFinite then .float number else .null
  datetime := datetimeObject
  unmasks := true

/-- Settings: integers may be as wide as two words, and tables are what they are. -/
def Reading.settings : Reading where
  integer := integerWithin (-(Int.pow 2 127)) (Int.pow 2 128 - 1)
  float := .float
  datetime := datetimeObject
  unmasks := false

/-- Layered settings: integers are signed words, dates and times are their text, and tables are what
they are. -/
def Reading.layer : Reading where
  integer := integerWithin leastWord greatestWord
  float := .float
  datetime datetime := .text datetime.text
  unmasks := false

def Scalar.value? (reading : Reading) : Scalar → Option Value
  | .boolean value => some (.boolean value)
  | .integer value => reading.integer value
  | .float value => some (reading.float value)
  | .datetime value => some (reading.datetime value)

/-- The date or time that a table stands for, if its first key says that it does; `some none` when
the key is there and what it holds is no date or time. -/
def unmasked : Entries Item → Option (Option Datetime)
  | (key, item) :: _ =>
      if key = datetimeKey then
        match item with
        | .text text => some (Datetime.parse? text.toList)
        | _ => some none
      else none
  | [] => none

mutual
/-- The value of a node. -/
def Item.value? (reading : Reading) : Item → Option Value
  | .text value => some (.text value)
  | .scalar scalar => scalar.value? reading
  | .array _ items => (valuesOfItems reading items).map .list
  | .table _ members =>
      match if reading.unmasks then unmasked members else none with
      | some found => found.map reading.datetime
      | none => (valuesOfMembers reading members).map .object
termination_by structural item => item

/-- The values of a list of nodes. -/
def valuesOfItems (reading : Reading) : List Item → Option (List Value)
  | [] => some []
  | item :: rest =>
      match item.value? reading, valuesOfItems reading rest with
      | some value, some values => some (value :: values)
      | _, _ => none
termination_by structural items => items

/-- The values of the members of a table. -/
def valuesOfMembers (reading : Reading) : List (String × Item) → Option (List (String × Value))
  | [] => some []
  | member :: rest =>
      match valueOfMember reading member, valuesOfMembers reading rest with
      | some value, some values => some (value :: values)
      | _, _ => none
termination_by structural members => members

/-- The value of one member of a table. -/
def valueOfMember (reading : Reading) : String × Item → Option (String × Value)
  | (key, item) => (item.value? reading).map fun value => (key, value)
termination_by structural member => member
end

/-- The members of the object that a whole text stands for under a reading, if it is well formed and
its numbers are in range. -/
def members? (reading : Reading) (text : String) : Option (Entries Value) :=
  match parse? text with
  | none => none
  | some members => valuesOfMembers reading members

end LiveConfig.Toml
