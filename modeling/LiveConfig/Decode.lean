import LiveConfig.ConfigError
import LiveConfig.Flatten
import LiveConfig.Json.Reader
import LiveConfig.Properties
import LiveConfig.Toml.Values

/-!
Contract: the payload of a node as a flat property map.

The bytes must be UTF-8. A payload without anything but blanks is the empty map in every format. A
properties document binds its keys directly; a TOML document and a JSON object are flattened.
-/

namespace LiveConfig

/-- The bytes that a node holds. -/
abbrev Payload := List UInt8

/-- The map of a text that is not blank. -/
def decodeText (format : Format) (text : List Char) : Except DecodeFault PropertyMap :=
  match format with
  | .properties => .ok (Properties.parse text)
  | .toml =>
      match Toml.members? .payload (.ofList text) with
      | none => .error .malformedToml
      | some members => .ok (flatten members)
  | .json =>
      match Json.parse? (.ofList text) with
      | none => .error .malformedJson
      | some (.object members) => .ok (flatten members)
      | some _ => .error .notAnObject

/-- The map of a payload, or what is wrong with it. -/
def decodePayload (format : Format) (payload : Payload) : Except DecodeFault PropertyMap :=
  match Text.Utf8.decode payload with
  | .error fault => .error (.notText fault)
  | .ok text => if Text.isBlankText text then .ok .empty else decodeText format text

/-- The map of the payload of the node at `path`. -/
def decode (path : String) (payload : Payload) (format : Format) :
    Except ConfigError PropertyMap :=
  match decodePayload format payload with
  | .error fault => .error (.decode path format fault)
  | .ok map => .ok map

end LiveConfig
