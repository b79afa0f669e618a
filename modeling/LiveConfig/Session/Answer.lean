import LiveConfig.Host.Loading
import LiveConfig.Store.Command

/-!
Contract: what a host answers to the steps of a session.
-/

namespace LiveConfig

/-- What a step can name that is not there. -/
inductive Missing where
  | client
  | builtClient
  | unit
  | composite
  | factory
  | subscriber
  | recorder
  | hook
  /-- A step of another kind than those that may be taken. -/
  | step
deriving DecidableEq, Repr

/-- What a look-up of a key shows: the value, and whether the key is said to be there. -/
structure Lookup where
  found : Option Value
  contains : Bool
deriving DecidableEq

/-- What a client shows of itself: the client, and how many of its watches have a listener. -/
structure ClientView where
  client : Client
  watches : Nat
deriving DecidableEq

/-- What a call got: the number of a built client and the state it was in. -/
abbrev Served := Except ConfigError (Nat × ClientState)

inductive Answer where
  | done
  | missing (what : Missing)
  | refused (error : StoreError)
  | failed (error : ConfigError)
  | unreadable (fault : ShapeFault)
  | truth (value : Bool)
  | store (answer : StoreAnswer)
  | text (text : String)
  | client (view : ClientView)
  | clients (views : List ClientView)
  | elapsed (span : Nat)
  | watch (id : Nat)
  | events (events : List Notification)
  | served (client : Option (Nat × ClientState))
  | registry (registry : Registry)
  | root (root : RootState)
  | unit (unit : Option ConfigUnit)
  | unitLookup (lookup : Lookup) (keys : List String)
  | composite (composite : Option Composite)
  | paths (paths : List String)
  | lookup (lookup : Lookup)
  | receipt (receipt : Channel.Receipt) (ended : Bool)
  | loaded (something : Bool) (names : List String)
  | loadedAll (count : Nat) (names : List String)
  | loadFailed (error : ConfigError) (names : List String)
  | sources (names : List String)
  | tookOut (old : Option String) (names : List String)
  | source (keys : Option (List String))
  | report (report : ShutdownReport)
  | shutdownState (isShutDown isClosing : Bool)
  | batch (answers : List Answer)
  | concurrently (results : List Served) (meanwhile : List Answer) (span : Nat)

namespace Answer

/-- The answer to something that a store may refuse. -/
def ofStore : Except StoreError StoreAnswer → Answer
  | .ok answer => .store answer
  | .error error => .refused error

/-- The answer to something that may fail. -/
def ofConfig {α : Type} (answer : α → Answer) : Except ConfigError α → Answer
  | .ok value => answer value
  | .error error => .failed error

end Answer

end LiveConfig
