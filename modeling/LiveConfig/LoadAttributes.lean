import LiveConfig.ConfigError
import LiveConfig.Identity
import LiveConfig.Path
import LiveConfig.Record
import LiveConfig.Text.Blank

/-!
Contract: the attributes of a load request.

Owns: their defaults, the name of the source that a request makes, their check, and their reading
from values.
-/

namespace LiveConfig

/-- What to load: the units below a root path, over an endpoint. -/
structure LoadAttributes where
  connectString : String
  rootPath : String
  /-- Whether the units follow changes of their nodes, and a missing root is created. -/
  autoRefreshed : Bool
  /-- The name of the source, where it is not derived from the identity. -/
  name : Option String
  /-- The format of the payloads. -/
  format : Format
deriving DecidableEq, Repr

namespace LoadAttributes

/-- The attributes of a static request for properties payloads. -/
def ofRoot (connectString rootPath : String) : LoadAttributes :=
  ⟨connectString, rootPath, false, none, .properties⟩

/-- The identity that the request's client is shared under. -/
def identity (attributes : LoadAttributes) : Identity :=
  ⟨attributes.connectString, attributes.rootPath⟩

/-- The name of a source whose request does not name it. -/
def defaultName (identity : Identity) : String :=
  "coordination:" ++ identity.text

/-- The name of the source that the request makes. -/
def effectiveName (attributes : LoadAttributes) : String :=
  attributes.name.getD (defaultName attributes.identity)

/-- The first thing wrong with a request, if anything. -/
def fault? (attributes : LoadAttributes) : Option SettingsFault :=
  if Text.isBlankText attributes.connectString.toList then some .blankConnectString
  else
    match Path.validate attributes.rootPath with
    | .error error => some (.rootPath error)
    | .ok () =>
        match attributes.name with
        | none => none
        | some name => if Text.isBlankText name.toList then some .blankName else none

/-- Refuses a request that has something wrong with it. -/
def validate (attributes : LoadAttributes) : Except ConfigError Unit :=
  match attributes.fault? with
  | none => .ok ()
  | some fault => .error (.settings fault)

/-- The formats to choose from. -/
def formatChoices : List (String × Format) :=
  Format.all.map fun format => (format.name, format)

/-- What an array with too few items is told to be. -/
def recordDescription : String := "struct SourceAttributes"

/-- The attributes that an object's members hold. Members are looked at by ascending name, then the
missing ones in the order of fields. -/
def ofMembers (conversions : Conversions) (members : Entries Value) :
    Except ShapeFault LoadAttributes := do
  let autoRefreshed ← Conversions.given conversions.truth (members.find? "auto_refreshed")
  let connectString ← Conversions.given conversions.text (members.find? "connect_string")
  let format ← Conversions.given (conversions.choice formatChoices) (members.find? "format")
  let name ← conversions.optional conversions.text (members.find? "name")
  let rootPath ← Conversions.given conversions.text (members.find? "root_path")
  let connectString ← Conversions.required "connect_string" connectString
  let rootPath ← Conversions.required "root_path" rootPath
  return ⟨connectString, rootPath, autoRefreshed.getD false, name, format.getD .properties⟩

/-- The attributes that an array's items hold in the order of fields; all but the first two may be
left out. -/
def ofItems (conversions : Conversions) (items : List Value) :
    Except ShapeFault LoadAttributes := do
  let expected := recordDescription ++ " with 5 elements"
  let connectString ← Conversions.itemAt expected conversions.text items 0
  let rootPath ← Conversions.itemAt expected conversions.text items 1
  let autoRefreshed ← Conversions.given conversions.truth items[2]?
  let name ← conversions.optional conversions.text items[3]?
  let format ← Conversions.given (conversions.choice formatChoices) items[4]?
  conversions.checkLength items 5
  return ⟨connectString, rootPath, autoRefreshed.getD false, name, format.getD .properties⟩

/-- The attributes that a value holds. -/
def ofValue (conversions : Conversions) : Value → Except ShapeFault LoadAttributes
  | .object members => ofMembers conversions members
  | .list items => ofItems conversions items
  | value => Conversions.mismatch value recordDescription

end LoadAttributes

end LiveConfig
