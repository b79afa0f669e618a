import LiveConfig.Path
import LiveConfig.Store.Event

/-!
Contract: a store of nodes.

Nodes form a tree by their paths; each holds bytes, the version of its last write, and the names of its
children in the order of their creation. Every write takes the next version and is published on the
feed. Owns: the operations, each of which answers and returns the store after it; an operation that
fails leaves the store as it was, except that a listing takes the failure that was laid up for it. Assumes:
no store writes more often than a signed counter of 64 bits can tell, so that versions are natural numbers.
-/

namespace LiveConfig

structure Node where
  data : Payload
  version : Nat
  /-- The names of the children, oldest first. -/
  children : List String
deriving DecidableEq, Repr

/-- The bytes of a node with the version of the write that put them there. -/
structure NodeContents where
  bytes : Payload
  version : Nat
deriving DecidableEq, Repr

structure Store where
  nodes : Entries Node
  /-- The last version that was given out. -/
  lastVersion : Nat
  /-- Every event that was published, oldest first. -/
  feed : Array Notification
  /-- Failures that wait for the next listing of a path. -/
  listFailures : Entries StoreError
  available : Bool
  closeFails : Bool
deriving DecidableEq, Repr

namespace Store

/-- How many events the feed keeps for readers. -/
def feedCapacity : Nat := 1024

/-- The store with nothing but its root, which no write has touched. -/
def empty : Store := ⟨[(Path.root, ⟨[], 0, []⟩)], 0, #[], [], true, false⟩

instance : Inhabited Store := ⟨empty⟩

def node? (store : Store) (path : String) : Option Node :=
  store.nodes.find? path

def contains (store : Store) (path : String) : Bool :=
  (store.node? path).isSome

def publish (store : Store) (event : Notification) : Store :=
  { store with feed := store.feed.push event }

def nextVersion (store : Store) : Nat := store.lastVersion + 1

/-- A list of names with one more at its end, unless it is there already. -/
def withChild (children : List String) (name : String) : List String :=
  if name ∈ children then children else children ++ [name]

/-- The store with a new node under an existing parent. -/
def addNode (store : Store) (path parent : String) (parentNode : Node) (data : Payload) : Store :=
  let version := store.nextVersion
  let linked := { parentNode with children := withChild parentNode.children (Path.name path) }
  let nodes := (store.nodes.insert parent linked).insert path ⟨data, version, []⟩
  { store with nodes := nodes, lastVersion := version }.publish (.dataChanged path data version)

def exists? (store : Store) (path : String) : Except StoreError Bool :=
  match Path.validate path with
  | .error error => .error error
  | .ok () => .ok (store.contains path)

/-- Creates a node whose parent exists. -/
def create (store : Store) (path : String) (data : Payload) : Except StoreError Unit × Store :=
  match Path.validate path with
  | .error error => (.error error, store)
  | .ok () =>
      match Path.parent? path with
      | none => (.error (.nodeExists path), store)
      | some parent =>
          if store.contains path then (.error (.nodeExists path), store)
          else
            match store.node? parent with
            | none => (.error (.noParent path), store)
            | some parentNode => (.ok (), store.addNode path parent parentNode data)

/-- Creates nodes in turn, until one fails for another reason than that it exists. -/
def createEach (store : Store) : List (String × Payload) → Except StoreError Unit × Store
  | [] => (.ok (), store)
  | (path, data) :: rest =>
      match store.create path data with
      | (.ok (), after) | (.error (.nodeExists _), after) => after.createEach rest
      | (.error error, after) => (.error error, after)

/-- The paths from a path up to the first that exists, without that one. -/
def missingChain (store : Store) (path : String) : List String :=
  (path :: Path.ancestors path).takeWhile (!store.contains ·)

/-- Creates a node with all of its missing ancestors, which get no bytes. A node that exists keeps
its bytes. -/
def createWithAncestors (store : Store) (path : String) (data : Payload) : Except StoreError Unit × Store :=
  match Path.validate path with
  | .error error => (.error error, store)
  | .ok () =>
      store.createEach ((store.missingChain path).reverse.map fun missing =>
        (missing, if missing = path then data else []))

/-- The bytes of a node, none if it does not exist. -/
def read (store : Store) (path : String) : Except StoreError (Option NodeContents) :=
  match Path.validate path with
  | .error error => .error error
  | .ok () => .ok ((store.node? path).map fun node => ⟨node.data, node.version⟩)

/-- Rewrites the bytes of a node, and answers the version of the write. -/
def write (store : Store) (path : String) (data : Payload) : Except StoreError Nat × Store :=
  match Path.validate path with
  | .error error => (.error error, store)
  | .ok () =>
      match store.node? path with
      | none => (.error (.noNode path), store)
      | some node =>
          let version := store.nextVersion
          let nodes := store.nodes.insert path { node with data := data, version := version }
          (.ok version, { store with nodes := nodes, lastVersion := version }.publish
            (.dataChanged path data version))

/-- The nodes without one of them, which its parent no longer names. -/
def unlink (nodes : Entries Node) (path : String) : Entries Node :=
  let rest := Entries.erase path nodes
  match Path.parent? path with
  | none => rest
  | some parent =>
      match rest.find? parent with
      | none => rest
      | some node =>
          rest.insert parent { node with children := node.children.erase (Path.name path) }

/-- Deletes a node that has no children. -/
def delete (store : Store) (path : String) : Except StoreError Unit × Store :=
  match Path.validate path with
  | .error error => (.error error, store)
  | .ok () =>
      if path = Path.root then (.error (.invalidPath path "cannot delete root"), store)
      else
        match store.node? path with
        | none => (.error (.noNode path), store)
        | some node =>
            if !node.children.isEmpty then (.error (.notEmpty path), store)
            else
              let version := store.nextVersion
              (.ok (), { store with nodes := unlink store.nodes path, lastVersion := version }.publish
                (.deleted path version))

/-- The names of a node's children, oldest first. A failure that was laid up for the path comes first
and is used up. -/
def list (store : Store) (path : String) : Except StoreError (List String) × Store :=
  match Path.validate path with
  | .error error => (.error error, store)
  | .ok () =>
      match store.listFailures.find? path with
      | some error => (.error error, { store with listFailures := Entries.erase path store.listFailures })
      | none =>
          match store.node? path with
          | none => (.error (.noNode path), store)
          | some node => (.ok node.children, store)

/-- Lays up a failure for the next listing of a path, in place of one laid up before. -/
def failNextListing (store : Store) (path : String) (error : StoreError) : Store :=
  { store with listFailures := store.listFailures.insert path error }

/-- Tells the watchers of a path that a change could not be told. -/
def reportFailure (store : Store) (path message : String) : Store :=
  store.publish (.failed path message)

/-- Connects a client, and answers the position in the feed from which it is told of events. -/
def connect (store : Store) : Except StoreError Nat :=
  if store.available then .ok store.feed.size
  else .error (.unavailable "store is not accepting connections")

end Store

end LiveConfig
