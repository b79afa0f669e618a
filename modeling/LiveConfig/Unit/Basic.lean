import LiveConfig.Channel
import LiveConfig.Client.Basic

/-!
Contract: a configuration unit, the decoded contents of one node.

A unit holds a snapshot of the node's values with the version that they were read at. A notification
replaces the snapshot only by a newer one; one that cannot be decoded, or that tells of a failure,
leaves it and is remembered as the last error. Owns: the effect of notifications and of readings on a
unit, and the change events that a unit publishes. Does not own: its client and its channel, which are
named by keys. Assumes: versions are natural numbers, so that none of them is the mark of a unit that has
read nothing.
-/

namespace LiveConfig

/-- Decoded values and the version that they were read at; none before the first reading. -/
structure Snapshot where
  values : PropertyMap
  version : Option Nat
deriving DecidableEq

namespace Snapshot

/-- The snapshot of a unit that has read nothing. -/
def unread : Snapshot := ⟨.empty, none⟩

/-- The snapshot of a node that was deleted by the write of a version. -/
def deleted (version : Nat) : Snapshot := ⟨.empty, some version⟩

/-- Whether a write of `version` is newer than the snapshot. -/
def isOlderThan (snapshot : Snapshot) (version : Nat) : Bool :=
  match snapshot.version with
  | none => true
  | some current => current < version

/-- The newer of a snapshot and another that was read at a version; the first one wins a tie. -/
def updated (snapshot : Snapshot) (values : PropertyMap) (version : Nat) : Snapshot :=
  if snapshot.isOlderThan version then ⟨values, some version⟩ else snapshot

end Snapshot

structure ConfigUnit where
  /-- The key under which listeners name the unit. -/
  key : Nat
  name : String
  /-- The path of the node. -/
  path : String
  format : Format
  /-- Whether the unit watches its node. -/
  autoRefreshed : Bool
  /-- The client that the unit reads through. -/
  client : Nat
  /-- The channel that the unit publishes on. -/
  channel : Nat
  /-- The watch of the unit, once it is registered. -/
  watch : Option Nat
  snapshot : Snapshot
  /-- The message of the last failed refresh, until a notification replaces the snapshot by newly
  decoded values. -/
  lastError : Option String
deriving DecidableEq

namespace ConfigUnit

/-- A unit that has read nothing. -/
def fresh (key client channel : Nat) (name path : String) (autoRefreshed : Bool) (format : Format) :
    ConfigUnit :=
  ⟨key, name, path, format, autoRefreshed, client, channel, none, .unread, none⟩

def values (unit : ConfigUnit) : PropertyMap := unit.snapshot.values

def find? (unit : ConfigUnit) (key : String) : Option Value := unit.values.find? key

/-- Whether the unit is registered for notifications. -/
def isWatching (unit : ConfigUnit) : Bool := unit.watch.isSome

/-- The unit as a listener. -/
def listener (unit : ConfigUnit) : Listener := .unit unit.key

def event (unit : ConfigUnit) (operation : ChangeOperation) (version : Option Nat)
    (message : Option String) : ChangeEvent :=
  ⟨unit.name, unit.path, operation, version.map (fun version => (version : Int)), message⟩

/-- The unit after a refresh failed, with the event that tells so. -/
def refreshFailed (unit : ConfigUnit) (message : String) : ConfigUnit × List ChangeEvent :=
  ({ unit with lastError := some message }, [unit.event .refreshFailed none (some message)])

/-- The unit after its node was rewritten. A notification that is not newer than the snapshot is
ignored; bytes that cannot be decoded fail the refresh. -/
def receiveData (unit : ConfigUnit) (data : Payload) (version : Nat) :
    ConfigUnit × List ChangeEvent :=
  if unit.snapshot.isOlderThan version then
    match decode unit.path data unit.format with
    | .ok values =>
        ({ unit with snapshot := ⟨values, some version⟩, lastError := none },
          [unit.event .updated (some version) none])
    | .error error => unit.refreshFailed error.message
  else (unit, [])

/-- The unit after its node was deleted. A notification that is not newer than the snapshot is
ignored. -/
def receiveDeletion (unit : ConfigUnit) (version : Nat) : ConfigUnit × List ChangeEvent :=
  if unit.snapshot.isOlderThan version then
    ({ unit with snapshot := .deleted version }, [unit.event .deleted (some version) none])
  else (unit, [])

/-- The unit after a notification, with the events that it publishes. -/
def receive (unit : ConfigUnit) : Notification → ConfigUnit × List ChangeEvent
  | .dataChanged _ data version => unit.receiveData data version
  | .deleted _ version => unit.receiveDeletion version
  | .failed _ message => unit.refreshFailed message

/-- The unit after notifications in turn, with all events that it publishes. -/
def receiveEach (unit : ConfigUnit) : List Notification → ConfigUnit × List ChangeEvent
  | [] => (unit, [])
  | event :: rest =>
      let (after, first) := unit.receive event
      let (final, others) := after.receiveEach rest
      (final, first ++ others)

/-- The unit after a reading of its node. A missing node leaves the snapshot; values that are not newer
than the snapshot leave it too; bytes that cannot be decoded are the caller's error and change
nothing. -/
def observe (unit : ConfigUnit) :
    Option NodeContents → Except ConfigError Unit × ConfigUnit × List ChangeEvent
  | none => (.ok (), unit, [unit.event .loaded none none])
  | some data =>
      match decode unit.path data.bytes unit.format with
      | .error error => (.error error, unit, [])
      | .ok values =>
          (.ok (), { unit with snapshot := unit.snapshot.updated values data.version },
            [unit.event .loaded (some data.version) none])

end ConfigUnit

end LiveConfig
