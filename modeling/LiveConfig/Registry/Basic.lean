import LiveConfig.Identity
import LiveConfig.Retry

/-!
Contract: the registry of shared clients.

Each identity has at most one slot, and each slot one cell. A cell is empty until a client is put into
it; while it is empty, one call at a time may fill it, and the others wait in the order in which they
came. A cell outlives its slot, so that calls that wait on it can go on. Owns: slots, cells and what a
registry shows. Does not own: the calls, and the clients, which are named by keys.
-/

namespace LiveConfig

/-- The place of one client. -/
structure Cell where
  /-- The client, once it is started. -/
  client : Option Nat
  /-- Whether a call is at work on filling the cell. -/
  busy : Bool
  /-- The calls that wait for the cell, in the order in which they came. -/
  waiting : List Nat
deriving DecidableEq, Repr

namespace Cell

/-- A cell without client. -/
def empty : Cell := ⟨none, false, []⟩

instance : Inhabited Cell := ⟨empty⟩

end Cell

structure Registry where
  /-- The retry policy of the clients that are built. -/
  retry : RetryPolicy
  /-- Whether the registry is shut down, and hands out no more clients. -/
  closing : Bool
  /-- The cell of each identity that has one. -/
  slots : List (Identity × Nat)
  /-- All cells that were ever made. -/
  cells : List Cell
deriving DecidableEq, Repr

namespace Registry

/-- A registry without slots. -/
def empty (retry : RetryPolicy) : Registry := ⟨retry, false, [], []⟩

instance : Inhabited Registry := ⟨empty .default⟩

/-- The cell of an identity. -/
def slot? (registry : Registry) (identity : Identity) : Option Nat :=
  (registry.slots.find? (·.1 = identity)).map Prod.snd

def cell (registry : Registry) (key : Nat) : Cell :=
  (registry.cells[key]?).getD .empty

def updateCell (registry : Registry) (key : Nat) (change : Cell → Cell) : Registry :=
  { registry with cells := registry.cells.modify key change }

/-- The cell of an identity, made if there is none. -/
def openSlot (registry : Registry) (identity : Identity) : Nat × Registry :=
  match registry.slot? identity with
  | some key => (key, registry)
  | none =>
      let key := registry.cells.length
      (key, { registry with
        slots := registry.slots ++ [(identity, key)], cells := registry.cells ++ [.empty] })

/-- The registry without the slot of an identity, if the slot still has the given cell. -/
def closeSlot (registry : Registry) (identity : Identity) (key : Nat) : Registry :=
  { registry with slots := registry.slots.filter (· ≠ (identity, key)) }

/-- The cached client of an identity. -/
def client? (registry : Registry) (identity : Identity) : Option Nat :=
  (registry.slot? identity).bind fun key => (registry.cell key).client

/-- The identities with their cached clients, in the order of slots. -/
def cached (registry : Registry) : List (Identity × Nat) :=
  registry.slots.filterMap fun (identity, key) =>
    ((registry.cell key).client).map fun client => (identity, client)

/-- The identities of cached clients in ascending order. -/
def identities (registry : Registry) : List Identity :=
  Identity.sorted (registry.cached.map Prod.fst)

/-- How many clients are cached. -/
def size (registry : Registry) : Nat := registry.cached.length

/-- Whether one entry stands before another or beside it in ascending order of identities. -/
def entryLE (left right : Identity × Nat) : Bool := !right.1.precedes left.1

/-- Takes all clients out of the registry, which hands out none from now on. They come in ascending
order of their identities. -/
def drain (registry : Registry) : List (Identity × Nat) × Registry :=
  (registry.cached.mergeSort entryLE, { registry with closing := true, slots := [] })

end Registry

end LiveConfig
