import LiveConfig.Channel
import LiveConfig.Network.Fault
import LiveConfig.Registry.Shutdown

/-!
Contract: the network, which is all that lies between a host and its data.

Owns: stores, endpoints, faults, clients with their registry, and channels; how a request, a call and a
shutdown fare in it; and what the dispatcher of a client delivers. Does not own: units and other
listeners, and the clock.
-/

namespace LiveConfig

structure Network where
  stores : Entries Store
  /-- The name of the store behind each endpoint. -/
  endpoints : Entries String
  /-- Faults that are laid up, oldest first. -/
  faults : List Fault
  fleet : Fleet
  /-- The clients that nobody holds any more. -/
  departed : List Nat
  /-- Every channel that was ever made; a channel's key is its place here. -/
  channels : List Channel
  /-- How many units were ever made. -/
  unitCount : Nat

namespace Network

/-- A network without anything but an empty registry. -/
def empty (retry : RetryPolicy) : Network := ⟨[], [], [], .empty retry, [], [], 0⟩

instance : Inhabited Network := ⟨empty .default⟩

/-- A store by its name; a store that was never mentioned is empty. -/
def store (network : Network) (name : String) : Store :=
  (network.stores.find? name).getD .empty

/-- The network with a store changed. -/
def setStore (network : Network) (name : String) (store : Store) : Network :=
  { network with stores := network.stores.insert name store }

/-- The network with an endpoint leading to a store. -/
def addEndpoint (network : Network) (connectString store : String) : Network :=
  { network with endpoints := network.endpoints.insert connectString store }

/-- The network with one more fault laid up. -/
def addFault (network : Network) (fault : Fault) : Network :=
  { network with faults := network.faults ++ [fault] }

def client (network : Network) (key : Nat) : Client := network.fleet.client key

/-- The network with a client changed. -/
def setClient (network : Network) (key : Nat) (client : Client) : Network :=
  { network with fleet := network.fleet.setClient key client }

/-- The store behind a client. -/
def storeOf (network : Network) (key : Nat) : Store :=
  network.store (network.client key).store

/-- What the faults make of a call. -/
def meetFaults (network : Network) (connectString : String) (kind : CallKind) (path : String) :
    Option StoreError × Network :=
  let (error, faults, stores) :=
    Fault.meetAll connectString kind path network.faults network.stores
  (error, { network with faults := faults, stores := stores })

/-- The service of requests by a client. -/
def serve (key : Nat) : Service Network
  | _, request, network =>
      let name := (network.client key).store
      match network.meetFaults (network.client key).connectString request.kind request.path with
      | (some error, after) => (.error error, after)
      | (none, after) =>
          let (result, client, store) := (after.client key).serve request (after.store name)
          (result, (after.setClient key client).setStore name store)

/-- Where an endpoint leads. -/
def endpoint (network : Network) (connectString : String) : Except StoreError String :=
  match network.endpoints.find? connectString with
  | some name => .ok name
  | none => .error (.connection ("unknown endpoint: " ++ connectString))

/-- What the network answers to one request of a call, a start or a shutdown, which is of a kind that
faults can strike or of none. -/
def surroundings (network : Network) (kind : Option CallKind) (connectString store : String) :
    Surroundings × Network :=
  let (refusal, after) :=
    match kind with
    | some kind => network.meetFaults connectString kind ""
    | none => (none, network)
  (⟨refusal, after.endpoint connectString, (after.store store).connect,
    (after.store store).closeFails⟩, after)

/-- The kind of the request that the next step of a call makes, if faults can strike it, and the client
that it is made to, if there is one. -/
def nextRequest (network : Network) : CallProgress → Option CallKind × Option Nat
  | .building _ => (some .build, none)
  | .starting _ client .entering => (some .start, some client)
  | .starting _ client _ => (none, some client)
  | .abandoning _ client _ =>
      if (network.client client).state = .closed then (none, some client)
      else (some .close, some client)
  | .retiring client => (some .close, some client)
  | .entering | .queued _ | .served .. | .finished _ => (none, none)

/-- One step of a call to the registry. -/
def advanceCall (network : Network) (key : Nat) : Network :=
  match network.fleet.calls[key]? with
  | none => network
  | some call =>
      let (kind, client?) := network.nextRequest call.progress
      let name := (client?.map fun client => (network.client client).store).getD ""
      let (answer, after) := network.surroundings kind call.identity.connectString name
      { after with fleet := after.fleet.advance key answer }

/-- A close of a client on its own. -/
def closeClient (network : Network) (key : Nat) : Except StoreError Unit × Network :=
  let client := network.client key
  let (answer, after) := network.surroundings (some .close) client.connectString client.store
  let (result, fleet) := after.fleet.closeClient key answer
  (result, { after with fleet := fleet })

/-- One step of a start of a client on its own. -/
def advanceStart (network : Network) (key : Nat) (progress : StartProgress) :
    StartProgress × Network :=
  let client := network.client key
  let kind := match progress with
    | .entering => some CallKind.start
    | _ => none
  let (answer, after) := network.surroundings kind client.connectString client.store
  match answer.refusal with
  | some error => (.finished (.error error), after)
  | none =>
      let (next, changed) := progress.step (after.client key) answer.connection
      (next, after.setClient key changed)

/-- One step of a shutdown. -/
def advanceShutdown (network : Network) (key : Nat) : Network :=
  match network.fleet.shutdowns[key]? with
  | some (.closing ((identity, client) :: _) _) =>
      let store := (network.client client).store
      let kind :=
        if (network.client client).state = .started then some CallKind.close else none
      let (answer, after) := network.surroundings kind identity.connectString store
      { after with fleet := after.fleet.advanceShutdown key answer }
  | _ =>
      let (answer, after) := network.surroundings none "" ""
      { after with fleet := after.fleet.advanceShutdown key answer }

/-- A shutdown without interruption, for so many steps. -/
def runShutdown (key : Nat) : (fuel : Nat) → Network → Network
  | 0, network => network
  | fuel + 1, network => runShutdown key fuel (network.advanceShutdown key)

/-- A shutdown on behalf of a coordinator, and its key. It deals with every cached client. -/
def shutDown (network : Network) (coordinator : Nat) : Nat × Network :=
  let (key, fleet) := network.fleet.beginShutdown coordinator
  (key, runShutdown key (network.fleet.registry.size + 2) { network with fleet := fleet })

/-- Whether there is something for the dispatcher of a client. -/
def hasNews (network : Network) (key : Nat) : Bool :=
  match (network.client key).position with
  | none => false
  | some position => position < (network.storeOf key).feed.size

/-- One step of the dispatcher of a client. -/
def dispatchNext? (network : Network) (key : Nat) (isAlive : Listener → Bool) :
    Option (List Delivery × Network) :=
  ((network.client key).dispatchNext? isAlive (network.storeOf key).feed).map
    fun (deliveries, client) => (deliveries, network.setClient key client)

/-- Whether a client is still held by somebody. -/
def isHeld (network : Network) (key : Nat) : Bool := !network.departed.contains key

/-- The network after a client was let go of. -/
def letGo (network : Network) (key : Nat) : Network :=
  { network with departed := key :: network.departed }

def channel (network : Network) (key : Nat) : Channel :=
  (network.channels[key]?).getD default

/-- The network with one more channel, and its key. -/
def openChannel (network : Network) (capacity : Nat) : Nat × Network :=
  (network.channels.length, { network with channels := network.channels ++ [.empty capacity] })

/-- The network after events were published on a channel. -/
def publish (network : Network) (key : Nat) (events : List ChangeEvent) : Network :=
  { network with channels := network.channels.modify key fun channel => channel.publish events }

end Network

end LiveConfig
