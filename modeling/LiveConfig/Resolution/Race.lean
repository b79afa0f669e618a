import LiveConfig.Resolution

/-!
Contract: runs in which several resolutions of one root path and rival creators take turns in any
order.
-/

namespace LiveConfig

/-- Resolutions of one root path over one store, each of which is to create the root. -/
structure ResolutionRace where
  root : String
  store : Store
  resolutions : List Resolution

/-- What can happen in a race. -/
inductive RaceAction where
  /-- One step of a resolution. -/
  | resolve (key : Nat)
  /-- Somebody else creates a node. -/
  | create (path : String) (data : Payload)
deriving DecidableEq, Repr

namespace ResolutionRace

/-- So many resolutions about to begin. -/
def start (root : String) (store : Store) (count : Nat) : ResolutionRace :=
  ⟨root, store, List.replicate count .entering⟩

/-- The race after one step of a resolution. -/
def advance (race : ResolutionRace) (key : Nat) : ResolutionRace :=
  match race.resolutions[key]? with
  | none => race
  | some progress =>
      let (next, store) := progress.step Store.serve race.root true race.store
      { race with store := store, resolutions := race.resolutions.set key next }

def step (race : ResolutionRace) : RaceAction → ResolutionRace
  | .resolve key => race.advance key
  | .create path data => { race with store := (race.store.create path data).2 }

/-- The race after actions in turn. -/
def after (race : ResolutionRace) (actions : List RaceAction) : ResolutionRace :=
  actions.foldl step race

end ResolutionRace

end LiveConfig
