import LiveConfig.Settings.Basic
import LiveConfig.Sources.Basic

/-!
Contract: loading composites and putting them among the property sources.

A load checks its attributes, gets the shared client of their identity, and assembles the composite. A
source that is there under the name of the new one is replaced in its place. Owns: the order of these
steps, and what becomes of the sources when one of them fails. Does not own: the connecting and the
assembling, which belong to the site of the load.
-/

namespace LiveConfig

/-- Where composites are loaded: what a load needs of the state around it. -/
structure LoadSite (σ : Type) where
  /-- The started client of an identity. -/
  connect : Identity → σ → Except ConfigError Nat × σ
  /-- The composite that attributes ask for, over a client; none if there is no root. -/
  assemble : Nat → LoadAttributes → σ → Except ConfigError (Option Composite) × σ
  /-- Lets go of a source. -/
  discard : Source → σ → σ
  sources : σ → SourceList
  /-- Puts other property sources in place. -/
  setSources : SourceList → σ → σ

namespace LoadSite

variable {σ : Type}

/-- Makes a change of the sources, and lets go of the source that it took out. -/
def apply (site : LoadSite σ) (change : SourceList.Change) (state : σ) : σ :=
  let changed := site.setSources change.2 state
  match change.1 with
  | none => changed
  | some old => site.discard old changed

/-- The composite that attributes ask for. -/
def load (site : LoadSite σ) (attributes : LoadAttributes) (state : σ) :
    Except ConfigError (Option Composite) × σ :=
  match attributes.validate with
  | .error error => (.error error, state)
  | .ok () =>
      match site.connect attributes.identity state with
      | (.error error, after) => (.error error, after)
      | (.ok client, after) => site.assemble client attributes after

/-- Puts a source in place of the one of its name, or where a placement says. -/
def install (site : LoadSite σ) (placement : Placement) (source : Source) (state : σ) :
    Except ConfigError Bool × σ :=
  let sources := site.sources state
  if sources.hasSource source.name then
    (.ok true, site.apply (sources.replace source.name source) state)
  else
    match sources.place placement source with
    | .ok change => (.ok true, site.apply change state)
    | .error error => (.error error, site.discard source state)

/-- Loads a composite into the sources, and answers whether there was one. -/
def loadSource (site : LoadSite σ) (placement : Placement) (attributes : LoadAttributes)
    (state : σ) : Except ConfigError Bool × σ :=
  match site.load attributes state with
  | (.error error, after) => (.error error, after)
  | (.ok none, after) => (.ok false, after)
  | (.ok (some composite), after) => site.install placement (.composite composite) after

/-- Loads composites behind the other sources in turn until one fails, and answers how many there
were. -/
def loadEach (site : LoadSite σ) (loaded : Nat) :
    List LoadAttributes → σ → Except ConfigError Nat × σ
  | [], state => (.ok loaded, state)
  | attributes :: rest, state =>
      match site.loadSource .last attributes state with
      | (.error error, after) => (.error error, after)
      | (.ok true, after) => site.loadEach (loaded + 1) rest after
      | (.ok false, after) => site.loadEach loaded rest after

/-- Loads what settings ask for. -/
def loadSettings (site : LoadSite σ) (settings : Settings) (state : σ) :
    Except ConfigError Nat × σ :=
  site.loadEach 0 settings.sources state

end LoadSite

end LiveConfig
