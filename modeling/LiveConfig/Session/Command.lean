import LiveConfig.Host.Clients
import LiveConfig.Host.Units
import LiveConfig.Store.Command

/-!
Contract: what a host can be told to do.

A session is a list of steps. A step is a command, or steps between which nothing is delivered, or calls
made side by side with steps in the meantime. Only some commands may be given in the meantime: the clients
that are being started are out of reach until the calls are over.
-/

namespace LiveConfig

/-- What can be done to a client. -/
inductive ClientCommand where
  | describe
  | diagnose
  /-- So many starts at once, while a store may begin to accept connections after a time. -/
  | start (parallel : Nat) (unlock : Option (Nat × String))
  | close
  | exists (path : String)
  | create (path : String) (data : Payload)
  | read (path : String)
  | list (path : String)
  /-- A watch for the recorder of a name. -/
  | watch (path recorder : String)
  | unwatch (id : Nat)
  | resolve (rootPath : String) (autoRefreshed : Bool)
  | unit (id name path : String) (autoRefreshed : Bool) (format : Format)
  /-- A new unit over the client for a child of a root path, made by a factory. -/
  | produce (id factory rootPath child : String) (autoRefreshed : Bool)

/-- What can be done to a unit. -/
inductive UnitCommand where
  | attach
  | describe
  | diagnose
  | find (key : String)
  | subscribe (id : String)

/-- What can be done to a composite. -/
inductive CompositeCommand where
  | add (unit : String)
  | describe
  | find (key : String)
  | unitAt (path : String)
  | subscribe (id : String)

inductive Command where
  | store (name : String) (command : StoreCommand)
  | addEndpoint (connectString store : String)
  | addFault (fault : Fault)
  | newClient (id connectString store : String) (retry : RetryPolicy)
  | client (reference : ClientRef) (command : ClientCommand)
  | dropClient (id : String)
  | builtClients
  | takeEvents (recorder : String)
  | dropRecorder (recorder : String)
  | call (identity : Identity)
  | cached (identity : Identity)
  | describeRegistry
  | diagnoseRegistry
  | pass (span : Nat)
  /-- Loads from attributes that are given as a value. -/
  | load (id : String) (attributes : Value)
  | loadSource (attributes : Value) (placement : Placement)
  | loadSettings (text : String)
  | loadEach (attributes : List Value)
  | newFactory (id : String) (format : Format)
  | unit (id : String) (command : UnitCommand)
  | dropUnit (id : String)
  /-- A new composite on a channel of its own, or on that of a factory. -/
  | newComposite (id name : String) (factory : Option String)
  | composite (id : String) (command : CompositeCommand)
  | dropComposite (id : String)
  | receive (subscriber : String)
  | place (source : SourceSpec) (placement : Placement)
  | replace (name : String) (source : SourceSpec)
  | remove (name : String)
  /-- Replaces a property source, and keeps the old one under a name. -/
  | replaceKeeping (id name : String) (source : SourceSpec)
  | removeKeeping (id name : String)
  | findSource (name : String)
  | find (key : String)
  | shutDown
  | newCoordinator
  | shutdownState
  | installHook
  | triggerHook
  | awaitHook

/-- Whether a command may be given while calls are waited for: what happens to stores and endpoints, the
passing of time, and the shutdown. -/
def Command.isMeantime : Command → Bool
  | .store .. | .addEndpoint .. | .addFault _ | .pass _ | .shutDown => true
  | _ => false

/-- A step of a session. -/
inductive Step where
  | single (command : Command)
  /-- Steps between which nothing is delivered. -/
  | batch (steps : List Step)
  /-- Calls made side by side, and steps before they are waited for. -/
  | concurrently (requests : List Identity) (meanwhile : List Step)

instance : Inhabited Step := ⟨.batch []⟩

end LiveConfig
