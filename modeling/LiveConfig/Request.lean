import LiveConfig.Client.Basic

/-!
Contract: the requests that go through a client to its store.

A request is typed by the answer to it, so that whoever makes requests can be written without knowing
who serves them. Owns: the requests, and the plain service of them by a client over its store.
-/

namespace LiveConfig

/-- A request, by the type of its answer. -/
inductive Request : Type → Type where
  | exists (path : String) : Request Bool
  | create (path : String) (data : Payload) : Request Unit
  /-- The bytes of a node. -/
  | read (path : String) : Request (Option NodeContents)
  /-- The names of a node's children. -/
  | list (path : String) : Request (List String)
  /-- To be told of the events of a path. -/
  | watch (path : String) (listener : Listener) : Request Nat

/-- A service of requests in a state. -/
abbrev Service (σ : Type) := ∀ {α : Type}, Request α → σ → Except StoreError α × σ

/-- The service of a store alone, to which watches make no difference. -/
def Store.serve : Service Store
  | _, .exists path, store => (store.exists? path, store)
  | _, .create path data, store => store.create path data
  | _, .read path, store => (store.read path, store)
  | _, .list path, store => store.list path
  | _, .watch path _, store => ((Path.validate path).map fun _ => 0, store)

/-- The service of a client over its store. A client that is not started serves nothing. -/
def Client.serve {α : Type} (request : Request α) (client : Client) (store : Store) :
    Except StoreError α × Client × Store :=
  match client.requireStarted with
  | .error error => (.error error, client, store)
  | .ok () =>
      match request with
      | .watch path listener =>
          let (result, after) := client.watch path listener
          (result, after, store)
      | .exists path => (store.exists? path, client, store)
      | .create path data =>
          let (result, after) := store.create path data
          (result, client, after)
      | .read path => (store.read path, client, store)
      | .list path =>
          let (result, after) := store.list path
          (result, client, after)

end LiveConfig
