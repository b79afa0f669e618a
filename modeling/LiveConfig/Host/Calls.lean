import LiveConfig.Host.Tasks

/-!
Contract: the calls of a host to the registry, and its shutdowns and hooks.
-/

namespace LiveConfig.Host

/-- The key of a new call for the client of an identity, and the host after it was made. -/
def request (host : Host) (identity : Identity) : Nat × Host :=
  let (key, fleet) := host.network.fleet.request identity
  (key, { host with network := { host.network with fleet := fleet } })

/-- The outcome of a call that is over. -/
def outcome? (host : Host) (key : Nat) : Option CallOutcome :=
  (host.outcomes.find? (·.1 = key)).map Prod.snd

/-- The outcome of a call that a host has lost its patience with. -/
def noAnswer (identity : Identity) : CallOutcome :=
  .error (.connection identity.text (.unavailable "no answer in time"))

/-- A call that the host waits for. -/
def call (host : Host) (identity : Identity) : CallOutcome × Host :=
  let (key, asked) := host.request identity
  let final := (asked.runTask (.call key)).waitUntil fun host => (host.outcome? key).isSome
  ((final.outcome? key).getD (noAnswer identity), final)

/-- Calls that are made side by side; they have come as far as they can when this returns. -/
def beginCalls (host : Host) (identities : List Identity) : List Nat × Host :=
  let first := host.network.fleet.calls.length
  let keys := (List.range identities.length).map (first + ·)
  let asked := identities.foldl (fun host identity => (host.request identity).2) host
  (keys, (asked.enqueue (keys.map .call)).settle)

/-- Waits for calls, and answers their outcomes. -/
def awaitCalls (host : Host) (calls : List (Nat × Identity)) : List CallOutcome × Host :=
  let final := host.waitUntil fun host => calls.all fun (key, _) => (host.outcome? key).isSome
  (calls.map fun (key, identity) => (final.outcome? key).getD (noAnswer identity), final)

def cached? (host : Host) (identity : Identity) : Option (Nat × ClientState) :=
  (host.network.fleet.registry.client? identity).map fun client =>
    (client, (host.network.client client).state)

/-- Takes a new coordinator for the shutdowns to come. -/
def newCoordinator (host : Host) : Host :=
  let (coordinator, fleet) := host.network.fleet.addCoordinator
  { host with network := { host.network with fleet := fleet }, coordinator := coordinator }

/-- Whether the coordinator has run its shutdown. -/
def isShutDown (host : Host) : Bool :=
  host.network.fleet.coordinators[host.coordinator]? = some true

/-- Shuts the registry down, and answers the report. -/
def shutDownNow (host : Host) : ShutdownReport × Host :=
  let (key, after) := host.shutDown host.coordinator
  ((after.network.fleet.report? key).getD .empty, after)

/-- Installs a hook, unless the coordinator has one. -/
def installHook (host : Host) : Bool × Host :=
  if host.hooks.any (·.coordinator = host.coordinator) then (false, host)
  else
    let key := host.hooks.length
    let grown : Host := { host with
      hooks := host.hooks ++ [⟨host.coordinator, false, false, none⟩], handle := some key }
    (true, grown.enqueue [.hook key])

/-- Triggers a hook, which wakes it. -/
def triggerHook (host : Host) (key : Nat) : Host :=
  match host.hooks[key]? with
  | none => host
  | some hook =>
      let triggered : Host :=
        { host with hooks := host.hooks.set key { hook with triggered := true, asleep := false } }
      if hook.asleep then triggered.enqueue [.hook key] else triggered

/-- The report of the shutdown that a hook has run. -/
def hookReport? (host : Host) (key : Nat) : Option ShutdownReport := do
  let hook ← host.hooks[key]?
  let shutdown ← hook.shutdown
  host.network.fleet.report? shutdown

/-- Waits for a hook, which the host can neither trigger nor wait for afterwards. -/
def awaitHook (host : Host) (key : Nat) : ShutdownReport × Host :=
  let gone : Host := { host with handle := none }
  let final := gone.waitUntil fun host => (host.hookReport? key).isSome
  ((final.hookReport? key).getD .empty, final)

end LiveConfig.Host
