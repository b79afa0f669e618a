import LiveConfig.Registry.Fleet

/-!
Contract: the shutdown of a registry.

The first shutdown that a coordinator runs takes all clients out of the registry and closes the started
ones, one after the other; later ones of the same coordinator do nothing. A close that fails does not
keep the others from being closed. Owns: the steps of shutdowns, and the runs in which calls and
shutdowns take turns.
-/

namespace LiveConfig.Fleet

/-- The key of one more coordinator, and the fleet with it. -/
def addCoordinator (fleet : Fleet) : Nat × Fleet :=
  (fleet.coordinators.length, { fleet with coordinators := fleet.coordinators ++ [false] })

/-- The key of one more shutdown on behalf of a coordinator, and the fleet with it. -/
def beginShutdown (fleet : Fleet) (coordinator : Nat) : Nat × Fleet :=
  (fleet.shutdowns.length, { fleet with shutdowns := fleet.shutdowns ++ [.entering coordinator] })

/-- Takes all clients out of the registry on behalf of a coordinator, unless it did so before. -/
def drain (fleet : Fleet) (coordinator : Nat) : ShutdownProgress × Fleet :=
  if fleet.coordinators[coordinator]? = some false then
    let (clients, registry) := fleet.registry.drain
    (.closing clients .empty, { fleet with
      registry := registry, coordinators := fleet.coordinators.set coordinator true })
  else (.finished .empty, fleet)

/-- Closes one client that was taken out, if it is started, and says so in the report. -/
def closeDrained (fleet : Fleet) (identity : Identity) (client : Nat) (report : ShutdownReport)
    (surroundings : Surroundings) : ShutdownReport × Fleet :=
  if (fleet.client client).state = .started then
    match fleet.closeClient client surroundings with
    | (.ok (), after) => ({ report with closed := report.closed ++ [identity] }, after)
    | (.error error, after) =>
        ({ report with failures := report.failures ++ [.shutdown identity.text error] }, after)
  else ({ report with skipped := report.skipped ++ [identity] }, fleet)

def stepShutdown (fleet : Fleet) (surroundings : Surroundings) :
    ShutdownProgress → ShutdownProgress × Fleet
  | .entering coordinator => fleet.drain coordinator
  | .closing [] report => (.finished report, fleet)
  | .closing ((identity, client) :: left) report =>
      let (next, after) := fleet.closeDrained identity client report surroundings
      (.closing left next, after)
  | .finished report => (.finished report, fleet)

/-- One step of the shutdown of a key. -/
def advanceShutdown (fleet : Fleet) (key : Nat) (surroundings : Surroundings) : Fleet :=
  match fleet.shutdowns[key]? with
  | none => fleet
  | some progress =>
      let (next, after) := fleet.stepShutdown surroundings progress
      { after with shutdowns := after.shutdowns.set key next }

/-- The report of a shutdown that is over. -/
def report? (fleet : Fleet) (key : Nat) : Option ShutdownReport :=
  match fleet.shutdowns[key]? with
  | some (.finished report) => some report
  | _ => none

/-- What can happen between two moments at which nothing runs. -/
inductive Action where
  /-- A new call for the client of an identity. -/
  | request (identity : Identity)
  /-- One step of a call. -/
  | advance (call : Nat) (surroundings : Surroundings)
  | addCoordinator
  /-- A new shutdown on behalf of a coordinator. -/
  | beginShutdown (coordinator : Nat)
  /-- One step of a shutdown. -/
  | advanceShutdown (key : Nat) (surroundings : Surroundings)

def step (fleet : Fleet) : Action → Fleet
  | .request identity => (fleet.request identity).2
  | .advance call surroundings => fleet.advance call surroundings
  | .addCoordinator => fleet.addCoordinator.2
  | .beginShutdown coordinator => (fleet.beginShutdown coordinator).2
  | .advanceShutdown key surroundings => fleet.advanceShutdown key surroundings

/-- The fleet after actions in turn. -/
def run (fleet : Fleet) (actions : List Action) : Fleet :=
  actions.foldl step fleet

end LiveConfig.Fleet
