import LiveConfig.Decode

/-!
Contract: what a store tells its clients about its nodes, and how far they lag behind.

Owns: the events, and the reading of a feed that keeps only its last events. A reader that is further
behind than the feed reaches skips to the oldest event that is left, and learns how many it missed. Assumes:
versions are those that stores give out, natural numbers below the bound of a signed counter of 64 bits.
-/

namespace LiveConfig

/-- A change of a node, or the failure to tell one. -/
inductive Notification where
  /-- The node was created or rewritten. -/
  | dataChanged (path : String) (data : Payload) (version : Nat)
  /-- The node was deleted by the write of that version. -/
  | deleted (path : String) (version : Nat)
  /-- A change could not be told. -/
  | failed (path message : String)
deriving DecidableEq, Repr

/-- The path of the node that an event is about. -/
def Notification.path : Notification → String
  | .dataChanged path _ _ | .deleted path _ | .failed path _ => path

/-- The version of the write that an event tells, if it tells one. -/
def Notification.version? : Notification → Option Nat
  | .dataChanged _ _ version | .deleted _ version => some version
  | .failed _ _ => none

/-- What a reader finds at its position in a feed. -/
inductive FeedItem (α : Type) where
  /-- Nothing yet. -/
  | nothing
  | entry (value : α)
  /-- So many entries are lost; the next one is the oldest that is left. -/
  | missed (count : Nat)
deriving DecidableEq, Repr

/-- What a reader finds at `position` in a feed that keeps its last `capacity` entries, and its
position afterwards. -/
def readFeed {α : Type} (capacity : Nat) (feed : Array α) (position : Nat) : FeedItem α × Nat :=
  if position + capacity < feed.size then
    (.missed (feed.size - capacity - position), feed.size - capacity)
  else
    match feed[position]? with
    | some value => (.entry value, position + 1)
    | none => (.nothing, position)

end LiveConfig
