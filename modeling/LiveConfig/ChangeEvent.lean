import LiveConfig.Calendar
import LiveConfig.Record

/-!
Contract: what units tell about their changes.

Owns: the kinds of change, the event, and its dated record with the reading from values. An array in
place of an object must hold all six fields in order.
-/

namespace LiveConfig

/-- What happened to a unit. -/
inductive ChangeOperation where
  /-- First values were read. -/
  | loaded
  /-- New values replaced the old ones. -/
  | updated
  /-- The node is gone, and with it all values. -/
  | deleted
  /-- A change could not be applied; the values before it stay. -/
  | refreshFailed
deriving DecidableEq, Repr

namespace ChangeOperation

def name : ChangeOperation → String
  | .loaded => "loaded"
  | .updated => "updated"
  | .deleted => "deleted"
  | .refreshFailed => "refresh_failed"

/-- The operations to choose from. -/
def choices : List (String × ChangeOperation) :=
  [.loaded, .updated, .deleted, .refreshFailed].map fun operation => (operation.name, operation)

end ChangeOperation

/-- A change of one unit. -/
structure ChangeEvent where
  unitName : String
  /-- The path of the unit's node. -/
  path : String
  operation : ChangeOperation
  /-- The version of the state that the unit is in after the change, where it has one. -/
  version : Option Int
  /-- What went wrong, for a failed refresh. -/
  message : Option String
deriving DecidableEq, Repr

/-- A change with the instant at which it was noticed. -/
structure ChangeRecord where
  event : ChangeEvent
  timestamp : Timestamp
deriving DecidableEq, Repr

namespace ChangeRecord

/-- A version: an integer that fits a signed 64-bit word. -/
def versionOf : Value → Except ShapeFault Int
  | .integer value =>
      if -(Int.pow 2 63) ≤ value ∧ value < Int.pow 2 63 then .ok value else .error .outOfRange
  | value => Conversions.mismatch value "i64"

/-- An instant, of a text that spells one. -/
def timestampOf : Value → Except ShapeFault Timestamp
  | .text text =>
      match Timestamp.parse? text.toList with
      | some timestamp => .ok timestamp
      | none => Conversions.mismatch (.text text) "an RFC3339-formatted date and time"
  | value => Conversions.mismatch value "an RFC3339-formatted date and time"

/-- The record that an object's members hold. -/
def ofMembers (members : Entries Value) : Except ShapeFault ChangeRecord := do
  let conversions := Conversions.json
  let message ← conversions.optional conversions.text (members.find? "message")
  let operation ←
    Conversions.given (conversions.choice ChangeOperation.choices) (members.find? "operation")
  let path ← Conversions.given conversions.text (members.find? "path")
  let unitName ← Conversions.given conversions.text (members.find? "source_name")
  let timestamp ← Conversions.given timestampOf (members.find? "timestamp")
  let version ← conversions.optional versionOf (members.find? "version")
  let unitName ← Conversions.required "source_name" unitName
  let path ← Conversions.required "path" path
  let operation ← Conversions.required "operation" operation
  let timestamp ← Conversions.required "timestamp" timestamp
  return ⟨⟨unitName, path, operation, version, message⟩, timestamp⟩

/-- The record that an array's items hold in the order of fields. -/
def ofItems (items : List Value) : Except ShapeFault ChangeRecord := do
  let conversions := Conversions.json
  let expected := "struct ConfigChangeEvent with 6 elements"
  let unitName ← Conversions.itemAt expected conversions.text items 0
  let path ← Conversions.itemAt expected conversions.text items 1
  let operation ←
    Conversions.itemAt expected (conversions.choice ChangeOperation.choices) items 2
  let version ← Conversions.itemAt expected
    (fun value => conversions.optional versionOf (some value)) items 3
  let message ← Conversions.itemAt expected
    (fun value => conversions.optional conversions.text (some value)) items 4
  let timestamp ← Conversions.itemAt expected timestampOf items 5
  conversions.checkLength items 6
  return ⟨⟨unitName, path, operation, version, message⟩, timestamp⟩

/-- The record that a value holds. -/
def ofValue : Value → Except ShapeFault ChangeRecord
  | .object members => ofMembers members
  | .list items => ofItems items
  | value => Conversions.mismatch value "struct ConfigChangeEvent"

end ChangeRecord

end LiveConfig
