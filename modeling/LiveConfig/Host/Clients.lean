import LiveConfig.Host.Tasks

/-!
Contract: the clients that a host deals with itself, and its recorders.
-/

namespace LiveConfig

/-- How a host names a client. -/
inductive ClientRef where
  /-- One that the host made, by its name. -/
  | guest (name : String)
  /-- One that the registry built, by its number. -/
  | built (index : Nat)
deriving DecidableEq, Repr

namespace Host

/-- The key of a client. -/
def client? (host : Host) : ClientRef → Option Nat
  | .guest name => host.guests.find? name
  | .built index => host.network.fleet.built[index]?

/-- Lets go of a client that the host made. -/
def dropGuest (host : Host) (name : String) : Bool × Host :=
  match host.guests.find? name with
  | none => (false, host)
  | some key =>
      (true, { host with
        guests := Entries.erase name host.guests, network := host.network.letGo key })

/-- Makes a client, in place of the one of its name. -/
def newGuest (host : Host) (name connectString store : String) (retry : RetryPolicy) : Nat × Host :=
  let (key, fleet) := host.network.fleet.addClient (.fresh connectString store retry)
  let (_, dropped) := { host with network := { host.network with fleet := fleet } }.dropGuest name
  (key, { dropped with guests := dropped.guests.insert name key })

/-- How many watches of a client have a listener. -/
def liveWatchCount (host : Host) (key : Nat) : Nat :=
  ((host.network.client key).liveWatches host.isAlive).length

/-- Lets a store begin to accept connections after a time. -/
def unlockAfter (host : Host) (span : Nat) (store : String) : Host :=
  if span = 0 then host.enqueue [.unlock store]
  else { host with agenda := host.agenda.postpone span (.unlock store) }

/-- The result of a start that is over. -/
def startResult? (host : Host) (key : Nat) : Option (Except StoreError Unit) :=
  match host.starts[key]? with
  | some ⟨_, .finished result⟩ => some result
  | _ => none

/-- One more start of a client, which runs until it is over or pauses. -/
def beginStart (host : Host) (client : Nat) : Host :=
  let grown : Host := { host with starts := host.starts ++ [⟨client, .entering⟩] }
  grown.runTask (.start host.starts.length)

/-- Starts a client so many times at once, and waits for all of these starts. Answers the result of the
last. -/
def startClient (host : Host) (client parallel : Nat) : Except StoreError Unit × Host :=
  let first := host.starts.length
  let begun := (List.range parallel).foldl (fun host _ => host.beginStart client) host
  let keys := (List.range parallel).map (first + ·)
  let final := begun.waitUntil fun host => keys.all fun key => (host.startResult? key).isSome
  (((keys.getLast?.bind final.startResult?).getD (.ok ())), final)

/-- The recorder of a name, made if there is none. -/
def recorder (host : Host) (name : String) : Nat × Host :=
  match host.recorders.find? name with
  | some recorder => (recorder.key, host)
  | none =>
      let key := host.recorderCount
      (key, { host with
        recorders := host.recorders.insert name ⟨key, #[]⟩, recorderCount := key + 1 })

/-- What a recorder was told since it was last asked. -/
def takeEvents? (host : Host) (name : String) : Option (List Notification × Host) :=
  (host.recorders.find? name).map fun recorder =>
    (recorder.events.toList,
      { host with recorders := host.recorders.insert name { recorder with events := #[] } })

/-- Lets go of a recorder. -/
def dropRecorder (host : Host) (name : String) : Bool × Host :=
  ((host.recorders.find? name).isSome,
    { host with recorders := Entries.erase name host.recorders })

end Host

end LiveConfig
