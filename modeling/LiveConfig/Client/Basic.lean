import LiveConfig.Retry
import LiveConfig.Store.Basic

/-!
Contract: a client of a store.

A client is created, then started once, then closed; it can also be closed without having been
started. While it is started it serves requests, keeps a table of watches and follows the feed of its
store. Owns: the life cycle, the table of watches, and what a dispatched event is delivered to.
Does not own: the listeners, which are named by keys and may be gone.
-/

namespace LiveConfig

/-- Where a client is in its life. -/
inductive ClientState where
  | created
  | started
  | closed
deriving DecidableEq, Repr

def ClientState.name : ClientState → String
  | .created => "created"
  | .started => "started"
  | .closed => "closed"

/-- Who is told of events. -/
inductive Listener where
  | unit (key : Nat)
  /-- A recorder of a key, which keeps what it is told. -/
  | recorder (key : Nat)
deriving DecidableEq, Repr

structure Watch where
  id : Nat
  path : String
  listener : Listener
deriving DecidableEq, Repr

structure Client where
  connectString : String
  /-- The name of the store behind the endpoint. -/
  store : String
  retry : RetryPolicy
  state : ClientState
  /-- Watches by ascending identifier. -/
  watches : List Watch
  nextWatch : Nat
  /-- The position in the feed of the store, while the client follows it. -/
  position : Option Nat
  /-- How often the client went from created to started. -/
  starts : Nat
  /-- How often the client went from started to closed. -/
  closes : Nat
deriving DecidableEq, Repr

/-- An event on its way to a listener. -/
structure Delivery where
  listener : Listener
  event : Notification
deriving DecidableEq, Repr

namespace Client

def fresh (connectString store : String) (retry : RetryPolicy) : Client :=
  ⟨connectString, store, retry, .created, [], 1, none, 0, 0⟩

instance : Inhabited Client := ⟨fresh "" "" .default⟩

def requireStarted (client : Client) : Except StoreError Unit :=
  match client.state with
  | .started => .ok ()
  | state => .error (.closed ("client for " ++ client.connectString ++ " is " ++ state.name))

/-- The client connected, with its dispatcher at `position` in the feed. Only a client that is still
created is started by it. -/
def connected (client : Client) (position : Nat) : Client :=
  match client.state with
  | .created =>
      { client with state := .started, position := some position, starts := client.starts + 1 }
  | .started | .closed => client

/-- Closes the client, which drops its watches and its dispatcher. A close that fails changes
nothing, and neither does one of a closed client. -/
def close (client : Client) (fails : Bool) : Except StoreError Unit × Client :=
  match client.state with
  | .closed => (.ok (), client)
  | .created | .started =>
      if fails then
        (.error (.internal ("failed to close session for " ++ client.connectString)), client)
      else
        (.ok (), { client with
          state := .closed
          watches := []
          position := none
          closes := if client.state = .started then client.closes + 1 else client.closes })

/-- Registers a watch, and answers its identifier. -/
def watch (client : Client) (path : String) (listener : Listener) :
    Except StoreError Nat × Client :=
  match client.requireStarted with
  | .error error => (.error error, client)
  | .ok () =>
      match Path.validate path with
      | .error error => (.error error, client)
      | .ok () =>
          let id := client.nextWatch
          (.ok id, { client with
            watches := client.watches ++ [⟨id, path, listener⟩], nextWatch := id + 1 })

/-- Removes a watch, and answers whether it was there. -/
def unwatch (client : Client) (id : Nat) : Bool × Client :=
  (client.watches.any (·.id = id), { client with watches := client.watches.filter (·.id ≠ id) })

def liveWatches (client : Client) (isAlive : Listener → Bool) : List Watch :=
  client.watches.filter fun watch => isAlive watch.listener

/-- The deliveries of an event: one for every watch on its path whose listener is there. -/
def deliveries (client : Client) (isAlive : Listener → Bool) (event : Notification) : List Delivery :=
  ((client.liveWatches isAlive).filter (·.path = event.path)).map fun watch =>
    ⟨watch.listener, event⟩

/-- Dispatches an event; watches whose listener is gone are dropped on the way. -/
def dispatch (client : Client) (isAlive : Listener → Bool) (event : Notification) :
    List Delivery × Client :=
  (client.deliveries isAlive event, { client with watches := client.liveWatches isAlive })

def dispatchEach (client : Client) (isAlive : Listener → Bool) :
    List Notification → List Delivery × Client
  | [] => ([], client)
  | event :: rest =>
      let (first, after) := client.dispatch isAlive event
      let (others, final) := after.dispatchEach isAlive rest
      (first ++ others, final)

/-- The failures that tell of lost events: one for the path of every watch in the table. -/
def lagEvents (client : Client) (missed : Nat) : List Notification :=
  client.watches.map fun watch =>
    .failed watch.path ("missed " ++ toString missed ++ " change notifications")

/-- One step of the dispatcher: the next event of the feed, or the report of lost ones. None if there
is nothing to dispatch. -/
def dispatchNext? (client : Client) (isAlive : Listener → Bool) (feed : Array Notification) :
    Option (List Delivery × Client) :=
  match client.position with
  | none => none
  | some position =>
      match readFeed Store.feedCapacity feed position with
      | (.nothing, _) => none
      | (.entry event, next) =>
          some ({ client with position := some next }.dispatch isAlive event)
      | (.missed count, next) =>
          some ({ client with position := some next }.dispatchEach isAlive
            (client.lagEvents count))

end Client

end LiveConfig
