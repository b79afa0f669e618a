import LiveConfig.Agenda
import LiveConfig.Host.Holdings
import LiveConfig.Network.Units

/-!
Contract: a host, which uses the network and keeps what it gets from there.

Owns: the state of a host, what becomes of a delivery, and the waking of dispatchers. A dispatcher that
has found nothing sleeps until the feed of its store grows; of several that are woken at once, the one
that fell asleep first comes first.
-/

namespace LiveConfig

/-- Work that a host does in the background. -/
inductive Task where
  | dispatch (client : Nat)
  /-- A call to the registry. -/
  | call (key : Nat)
  /-- A start of a client on its own. -/
  | start (key : Nat)
  /-- A hook that waits to shut the registry down. -/
  | hook (key : Nat)
  /-- A store begins to accept connections. -/
  | unlock (store : String)
deriving DecidableEq, Repr

/-- A start of a client on its own. -/
structure StartRun where
  client : Nat
  progress : StartProgress

/-- A hook that shuts the registry down when it is triggered. -/
structure ShutdownHook where
  coordinator : Nat
  triggered : Bool
  /-- Whether the hook has looked for its trigger in vain. -/
  asleep : Bool
  /-- The shutdown that the hook has run. -/
  shutdown : Option Nat
deriving DecidableEq, Repr

/-- A listener that keeps what it is told. -/
structure Recorder where
  key : Nat
  events : Array Notification
deriving DecidableEq, Repr

/-- A maker of units that share a channel. -/
structure UnitFactory where
  format : Format
  channel : Nat
deriving DecidableEq, Repr

/-- A reader of a channel. -/
structure Subscriber where
  channel : Nat
  position : Nat
deriving DecidableEq, Repr

/-- What a call got: a client, with the name of the state it was in at that moment. -/
abbrev CallOutcome := Except ConfigError (Nat × ClientState)

structure Host where
  network : Network
  agenda : Agenda Task
  /-- The clients whose dispatchers sleep, in the order in which they fell asleep. -/
  asleep : List Nat
  holdings : Holdings
  /-- The clients that the host made itself, by name. -/
  guests : Entries Nat
  recorders : Entries Recorder
  /-- How many recorders were ever made. -/
  recorderCount : Nat
  factories : Entries UnitFactory
  subscribers : Entries Subscriber
  /-- Every start that was ever made; a start's key is its place here. -/
  starts : List StartRun
  /-- The outcomes of calls that are over. -/
  outcomes : List (Nat × CallOutcome)
  /-- The coordinator that shutdowns are run by. -/
  coordinator : Nat
  /-- Every hook that was ever installed; a hook's key is its place here. -/
  hooks : List ShutdownHook
  /-- The hook that the host can trigger and wait for. -/
  handle : Option Nat

namespace Host

/-- A host over a network, with a coordinator of its own. -/
def ofNetwork (network : Network) : Host :=
  let (coordinator, fleet) := network.fleet.addCoordinator
  { network := { network with fleet := fleet }
    agenda := .empty, asleep := [], holdings := .empty, guests := [], recorders := []
    recorderCount := 0, factories := [], subscribers := [], starts := [], outcomes := []
    coordinator := coordinator, hooks := [], handle := none }

instance : Inhabited Host := ⟨ofNetwork default⟩

/-- Whether a listener is there. -/
def isAlive (host : Host) : Listener → Bool
  | .unit key => host.holdings.hasUnit key
  | .recorder key => host.recorders.any fun (_, recorder) => recorder.key = key

/-- The host with more work that can be done now. -/
def enqueue (host : Host) (work : List Task) : Host :=
  { host with agenda := host.agenda.enqueue work }

/-- Whether a client got its dispatcher between two states of the network. -/
def gotDispatcher (before after : Network) (client : Nat) : Bool :=
  (before.client client).position.isNone && (after.client client).position.isSome

/-- The host over a later state of the network: dispatchers whose feed has grown are woken, and new ones
begin. -/
def adopt (host : Host) (network : Network) : Host :=
  let woken := host.asleep.filter network.hasNews
  let begun := (List.range network.fleet.clients.length).filter (gotDispatcher host.network network)
  { host with
    network := network
    asleep := host.asleep.filter (!woken.contains ·)
    agenda := host.agenda.enqueue ((woken ++ begun).map .dispatch) }

/-- Lets the network do something. -/
def perform {α : Type} (host : Host) (action : Network → α × Network) : α × Host :=
  let (answer, network) := action host.network
  (answer, host.adopt network)

def tellRecorder (host : Host) (key : Nat) (event : Notification) : Host :=
  { host with recorders := host.recorders.map fun (name, recorder) =>
      (name, if recorder.key = key then { recorder with events := recorder.events.push event }
        else recorder) }

/-- Tells a unit of an event; it publishes what becomes of it. -/
def tellUnit (host : Host) (key : Nat) (event : Notification) : Host :=
  match host.holdings.unit? key with
  | none => host
  | some unit =>
      let (after, events) := unit.receive event
      { host with
        holdings := host.holdings.setUnit after
        network := host.network.publish unit.channel events }

def deliver (host : Host) (delivery : Delivery) : Host :=
  match delivery.listener with
  | .unit key => host.tellUnit key delivery.event
  | .recorder key => host.tellRecorder key delivery.event

/-- Lets go of units. -/
def releaseAll (host : Host) (units : List ConfigUnit) : Host :=
  { host with network := host.network.releaseAll units }

/-- Whether a channel has somebody who could still publish on it. -/
def isOpen (host : Host) (channel : Nat) : Bool :=
  host.holdings.holdsChannel channel || host.factories.any fun (_, factory) => factory.channel = channel

end Host

end LiveConfig
