import LiveConfig.Registry.Shutdown

/-!
Contract: runs in which calls, shutdowns and everybody who has a client take turns in any order.

Clients are shared: who has one can start it, close it, and watch through it, and its dispatcher works on
its own. Owns: what can happen between two moments at which nothing runs, its effect, and the record of
what shutdowns did with the clients that they took out. Does not own: who decides the order.
-/

namespace LiveConfig

/-- What befalls a client from outside its registry. -/
inductive Deed where
  | close (fails : Bool)
  /-- One step of a start, with the outcome of an attempt to connect. -/
  | start (progress : StartProgress) (outcome : Except StoreError Nat)
  | watch (path : String) (listener : Listener)
  | unwatch (id : Nat)
  /-- One step of the dispatcher over the feed of a store. -/
  | dispatch (isAlive : Listener → Bool) (feed : Array Notification)

/-- The client after a deed. -/
def Client.undergo (client : Client) : Deed → Client
  | .close fails => (client.close fails).2
  | .start progress outcome => (progress.step client outcome).2
  | .watch path listener => (client.watch path listener).2
  | .unwatch id => (client.unwatch id).2
  | .dispatch isAlive feed => ((client.dispatchNext? isAlive feed).map Prod.snd).getD client

/-- What a shutdown does with a client that it took out. -/
inductive Treatment where
  | closed
  /-- The client is not started, and left alone. -/
  | skipped
  /-- The client is started, and its close has failed. -/
  | failed (error : StoreError)
deriving DecidableEq

/-- That a shutdown was done with a client that it took out. -/
structure Dealing where
  shutdown : Nat
  identity : Identity
  client : Nat
  treatment : Treatment
deriving DecidableEq

namespace Dealing

/-- The entry of the registry that was dealt with. -/
def entry (dealing : Dealing) : Identity × Nat := (dealing.identity, dealing.client)

/-- How a report tells of a close that has failed. -/
def failure? (dealing : Dealing) : Option ConfigError :=
  match dealing.treatment with
  | .failed error => some (.shutdown dealing.identity.text error)
  | .closed | .skipped => none

end Dealing

namespace Fleet

/-- What can happen between two moments at which nothing runs. -/
inductive Turn where
  /-- The registry gets on with its work. -/
  | own (action : Action)
  /-- Somebody does something with a client. -/
  | deed (client : Nat) (deed : Deed)
  /-- Somebody makes a client without the registry. -/
  | make (connectString store : String) (retry : RetryPolicy)

def turn (fleet : Fleet) : Turn → Fleet
  | .own action => fleet.step action
  | .deed client deed => fleet.setClient client ((fleet.client client).undergo deed)
  | .make connectString store retry => (fleet.addClient (.fresh connectString store retry)).2

/-- The fleet after several turns. -/
def after (fleet : Fleet) (turns : List Turn) : Fleet := turns.foldl turn fleet

/-- What a shutdown will do with a client now. -/
def treatment (fleet : Fleet) (client : Nat) (surroundings : Surroundings) : Treatment :=
  if (fleet.client client).state = .started then
    match (fleet.closeClient client surroundings).1 with
    | .ok () => .closed
    | .error error => .failed error
  else .skipped

/-- What a shutdown does in a turn. -/
def dealing? (fleet : Fleet) : Turn → Option Dealing
  | .own (.advanceShutdown key surroundings) =>
      match fleet.shutdowns[key]? with
      | some (.closing ((identity, client) :: _) _) =>
          some ⟨key, identity, client, fleet.treatment client surroundings⟩
      | _ => none
  | .own _ | .deed .. | .make .. => none

/-- What shutdowns do in several turns, in order. -/
def dealings (fleet : Fleet) : List Turn → List Dealing
  | [] => []
  | turn :: rest => (fleet.dealing? turn).toList ++ (fleet.turn turn).dealings rest

end Fleet

end LiveConfig
