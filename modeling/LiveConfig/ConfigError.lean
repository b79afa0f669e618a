import LiveConfig.Format
import LiveConfig.StoreError
import LiveConfig.Text.Utf8

/-!
Contract: the ways in which loading configuration fails.

Owns: the causes, their wording, and which of them wrap a store error. A fault of a structured format
is named without its details, which are no part of the contract.
-/

namespace LiveConfig

/-- Why a payload cannot be decoded. -/
inductive DecodeFault where
  /-- The bytes are no text. -/
  | notText (fault : Text.Utf8.Fault)
  /-- The text is no TOML document, or one with numbers out of range. -/
  | malformedToml
  /-- The text is no JSON value. -/
  | malformedJson
  /-- The JSON value is no object. -/
  | notAnObject
  /-- Another cause, in words. -/
  | other (message : String)
deriving DecidableEq, Repr

/-- The wording of a decode fault. -/
def DecodeFault.message : DecodeFault → String
  | .notText fault => "invalid UTF-8: " ++ fault.message
  | .malformedToml => "TOML parse error"
  | .malformedJson => "JSON parse error"
  | .notAnObject => "top-level JSON value must be an object"
  | .other message => message

/-- Why settings or attributes are refused. -/
inductive SettingsFault where
  | blankConnectString
  | blankName
  | zeroRetryInterval
  /-- The root path is malformed. -/
  | rootPath (error : StoreError)
  /-- A source is placed next to the source of its own name. -/
  | selfRelative (name : String)
  /-- The text is no TOML document of settings. -/
  | malformedToml
  /-- A layer of the settings cannot be read. -/
  | unreadableLayer
  /-- The layers hold a value of the wrong kind. -/
  | wrongKind
  /-- Another cause, in words. -/
  | other (message : String)
deriving DecidableEq, Repr

/-- The wording of a settings fault. -/
def SettingsFault.message : SettingsFault → String
  | .blankConnectString => "connect_string must not be empty"
  | .blankName => "name must not be blank"
  | .zeroRetryInterval => "retry_interval_ms must be > 0"
  | .rootPath error => error.message
  | .selfRelative name => "property source '" ++ name ++ "' cannot be placed relative to itself"
  | .malformedToml => "TOML parse error"
  | .unreadableLayer => "config build error"
  | .wrongKind => "config deserialize error"
  | .other message => message

/-- Why configuration could not be loaded, kept or let go. -/
inductive ConfigError where
  /-- No started client for an identity. -/
  | connection (identity : String) (source : StoreError)
  /-- The root path is malformed or in a state that should not be. -/
  | pathState (path message : String)
  /-- The units under a path could not be listed or read. -/
  | enumeration (path : String) (source : StoreError)
  /-- A client could not be closed. -/
  | shutdown (identity : String) (source : StoreError)
  /-- A payload could not be decoded. -/
  | decode (path : String) (format : Format) (fault : DecodeFault)
  /-- Settings or attributes are refused. -/
  | settings (fault : SettingsFault)
  /-- No property source of a name. -/
  | unknownSource (name : String)
  /-- A store error of no special standing. -/
  | store (source : StoreError)
deriving DecidableEq, Repr

namespace ConfigError

/-- The wording of an error. -/
def message : ConfigError → String
  | .connection identity source => "Connection error for " ++ identity ++ ": " ++ source.message
  | .pathState path text => "Root path state error at " ++ path ++ ": " ++ text
  | .enumeration path source => "Enumeration error under " ++ path ++ ": " ++ source.message
  | .shutdown identity source => "Shutdown error for " ++ identity ++ ": " ++ source.message
  | .decode path format fault =>
      "Decode error at " ++ path ++ " (" ++ format.name ++ "): " ++ fault.message
  | .settings fault => "Settings error: " ++ fault.message
  | .unknownSource name => "Unknown property source: " ++ name
  | .store source => "Store error: " ++ source.message

/-- The store error that an error wraps, if it wraps one. -/
def source? : ConfigError → Option StoreError
  | .connection _ source | .enumeration _ source | .shutdown _ source | .store source =>
      some source
  | .pathState .. | .decode .. | .settings _ | .unknownSource _ => none

end ConfigError

end LiveConfig
