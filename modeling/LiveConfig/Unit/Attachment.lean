import LiveConfig.Request
import LiveConfig.Unit.Basic

/-!
Contract: the attachment of a unit to its node.

A unit that follows its node registers its watch before it reads, so that no change between the two is
lost; whichever of the two brings the newer version wins. Owns: the order of these requests, and what
their failure leaves behind. Does not own: who serves the requests.
-/

namespace LiveConfig.ConfigUnit

variable {σ : Type}

/-- Registers the watch of a unit, if it is to have one and has none. -/
def register (unit : ConfigUnit) (serve : Service σ) (state : σ) :
    Except StoreError ConfigUnit × σ :=
  if unit.autoRefreshed && !unit.isWatching then
    match serve (.watch unit.path unit.listener) state with
    | (.ok id, after) => (.ok { unit with watch := some id }, after)
    | (.error error, after) => (.error error, after)
  else (.ok unit, state)

/-- What an attachment leaves: its result, the unit, and the events that the unit publishes. -/
structure Attached where
  result : Except ConfigError Unit
  unit : ConfigUnit
  events : List ChangeEvent

/-- An attachment that ended before the unit read anything. -/
def unattached (unit : ConfigUnit) (error : StoreError) : Attached :=
  ⟨.error (.store error), unit, []⟩

/-- Reads the node of a unit into it. -/
def refresh (unit : ConfigUnit) (serve : Service σ) (state : σ) : Attached × σ :=
  match serve (.read unit.path) state with
  | (.error error, after) => (unit.unattached error, after)
  | (.ok data, after) =>
      let (result, observed, events) := unit.observe data
      (⟨result, observed, events⟩, after)

/-- Attaches a unit to its node: the watch, then the reading. A unit whose reading fails keeps its
watch. -/
def attach (unit : ConfigUnit) (serve : Service σ) (state : σ) : Attached × σ :=
  match unit.register serve state with
  | (.error error, after) => (unit.unattached error, after)
  | (.ok registered, after) => registered.refresh serve after

end LiveConfig.ConfigUnit
