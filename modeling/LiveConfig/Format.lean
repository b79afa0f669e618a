/-!
Contract: the formats of node payloads.
-/

namespace LiveConfig

/-- How the payload of a configuration unit's node is written. -/
inductive Format where
  /-- Lines that bind a key to a text. -/
  | properties
  /-- A TOML document. -/
  | toml
  /-- A JSON object. -/
  | json
deriving DecidableEq, Repr

namespace Format

instance : Inhabited Format := ⟨.properties⟩

def name : Format → String
  | .properties => "properties"
  | .toml => "toml"
  | .json => "json"

/-- All formats, in the order in which messages list them. -/
def all : List Format := [.properties, .toml, .json]

def ofName? (name : String) : Option Format :=
  all.find? (fun format => format.name = name)

end Format

end LiveConfig
