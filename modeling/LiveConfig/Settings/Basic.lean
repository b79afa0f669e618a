import LiveConfig.LoadAttributes
import LiveConfig.Retry
import LiveConfig.Toml.Values

/-!
Contract: the settings of a loader, and their strict reading from TOML documents.

Owns: defaults, the retry policy that settings stand for, the check (the interval first, then each
request in order), and the record that all readers of settings share.
-/

namespace LiveConfig

/-- How clients retry, how much is logged, and what a host loads when it starts. -/
structure Settings where
  /-- The pause between connection attempts in milliseconds. -/
  retryInterval : Nat
  /-- How often to retry; without end where it is left out. -/
  maxRetries : Option UInt32
  logLevel : String
  /-- The requests, in order of precedence. -/
  sources : List LoadAttributes
deriving DecidableEq, Repr

namespace Settings

/-- The settings that hold where nothing else is said. -/
def default : Settings := ⟨RetryPolicy.defaultInterval, none, "info", []⟩

instance : Inhabited Settings := ⟨default⟩

/-- The policy of the clients that are built under the settings. -/
def retryPolicy (settings : Settings) : RetryPolicy :=
  match settings.maxRetries with
  | some maxRetries => .bounded maxRetries settings.retryInterval
  | none => .forever settings.retryInterval

/-- The first thing wrong with settings, if anything. -/
def fault? (settings : Settings) : Option SettingsFault :=
  if settings.retryInterval = 0 then some .zeroRetryInterval
  else settings.sources.findSome? LoadAttributes.fault?

/-- Refuses settings that have something wrong with them. -/
def validate (settings : Settings) : Except ConfigError Settings :=
  match settings.fault? with
  | none => .ok settings
  | some fault => .error (.settings fault)

/-- Requests read from a value, which must be an array. -/
def sourcesOf (conversions : Conversions) : Value → Except ShapeFault (List LoadAttributes)
  | .list items => items.mapM (LoadAttributes.ofValue conversions)
  | value => Conversions.mismatch value "a sequence"

/-- The greatest value of a 64-bit field. -/
def wordBound : Nat := UInt64.size - 1

/-- The greatest value of a 32-bit field. -/
def halfWordBound : Nat := UInt32.size - 1

/-- The settings that an object's members hold; members of other names are skipped. -/
def ofMembers (conversions : Conversions) (members : Entries Value) :
    Except ShapeFault Settings := do
  let logLevel ← Conversions.given conversions.text (members.find? "log_level")
  let maxRetries ←
    conversions.optional (conversions.word halfWordBound) (members.find? "max_retries")
  let retryInterval ←
    Conversions.given (conversions.word wordBound) (members.find? "retry_interval_ms")
  let sources ← Conversions.given (sourcesOf conversions) (members.find? "sources")
  return {
    retryInterval := retryInterval.getD default.retryInterval
    maxRetries := maxRetries.map (·.toUInt32)
    logLevel := logLevel.getD default.logLevel
    sources := sources.getD [] }

/-- The unchecked settings of a TOML document, if it is well formed and every field has a value of its
kind. -/
def parse? (text : String) : Option Settings :=
  (Toml.members? .settings text).bind fun members => (ofMembers .toml members).toOption

/-- The settings that a TOML document holds. -/
def ofToml (text : String) : Except ConfigError Settings :=
  match parse? text with
  | none => .error (.settings .malformedToml)
  | some settings => settings.validate

end Settings

end LiveConfig
