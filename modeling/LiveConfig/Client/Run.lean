import LiveConfig.Client.Start
import LiveConfig.Request
import LiveConfig.Store.Command

/-!
Contract: runs in which a client, its starts, its store and its dispatcher take turns in any order.

Owns: what can happen between two moments at which nothing runs, its effect, and the record of what was
delivered. Does not own: who decides the order.
-/

namespace LiveConfig

/-- A client with what is around it. -/
structure ClientRun where
  store : Store
  client : Client
  /-- Every start that was ever begun; a start's key is its place here. -/
  starts : List StartProgress
  gone : List Listener
  /-- What was delivered, oldest first. -/
  delivered : List Delivery

inductive ClientAction where
  /-- Somebody else does something to the store. -/
  | store (command : StoreCommand)
  /-- The client creates a node. -/
  | create (path : String) (data : Payload)
  | beginStart
  | advanceStart (key : Nat)
  | close
  | watch (path : String) (listener : Listener)
  | unwatch (id : Nat)
  /-- A listener goes without a word. -/
  | lose (listener : Listener)
  | dispatch
deriving DecidableEq, Repr

/-- The service of a client over its store, as one state. -/
def Client.service : Service (Client × Store)
  | _, request, (client, store) => client.serve request store

namespace ClientRun

/-- A client that is not started over a store. -/
def ofClient (client : Client) (store : Store) : ClientRun := ⟨store, client, [], [], []⟩

def isAlive (run : ClientRun) (listener : Listener) : Bool := !run.gone.contains listener

/-- The run after a request of the client, with the answer. -/
def ask {α : Type} (run : ClientRun) (request : Request α) : Except StoreError α × ClientRun :=
  let (result, client, store) := run.client.serve request run.store
  (result, { run with client := client, store := store })

def advanceStart (run : ClientRun) (key : Nat) : ClientRun :=
  match run.starts[key]? with
  | none => run
  | some progress =>
      let (next, client) := progress.step run.client run.store.connect
      { run with client := client, starts := run.starts.set key next }

def dispatch (run : ClientRun) : ClientRun :=
  match run.client.dispatchNext? run.isAlive run.store.feed with
  | none => run
  | some (deliveries, client) =>
      { run with client := client, delivered := run.delivered ++ deliveries }

def step (run : ClientRun) : ClientAction → ClientRun
  | .store command => { run with store := (run.store.perform command).2 }
  | .create path data => (run.ask (.create path data)).2
  | .beginStart => { run with starts := run.starts ++ [.entering] }
  | .advanceStart key => run.advanceStart key
  | .close => { run with client := (run.client.close run.store.closeFails).2 }
  | .watch path listener => (run.ask (.watch path listener)).2
  | .unwatch id => { run with client := (run.client.unwatch id).2 }
  | .lose listener => { run with gone := listener :: run.gone }
  | .dispatch => run.dispatch

def after (run : ClientRun) (actions : List ClientAction) : ClientRun :=
  actions.foldl step run

/-- Whether the dispatcher has nothing left to dispatch. -/
def isDrained (run : ClientRun) : Bool :=
  (run.client.dispatchNext? run.isAlive run.store.feed).isNone

/-- What was delivered to a listener, oldest first. -/
def deliveredTo (run : ClientRun) (listener : Listener) : List Notification :=
  (run.delivered.filter (·.listener = listener)).map (·.event)

end ClientRun

end LiveConfig
