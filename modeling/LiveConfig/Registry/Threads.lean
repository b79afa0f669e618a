import LiveConfig.Registry.Shutdown

/-!
Contract: calls and shutdowns that run on threads of their own.

On one thread a call comes from its look at the registry to its cell without a pause, and answers once it
has looked for the last time; and a drain comes to its end at once. On several threads others get in
between: the mark of a coordinator, whether the registry is shut down, one shard of its slots, the slot of
one identity, and one cell are each looked at or changed in a step of its own, and so is an answer given.
Owns: these steps, for calls on their way to a cell or to their answer, and for drains; all other steps are
those of a fleet. Does not own: looks at a registry that is shut down, or at a client that was taken out,
which go with the step that follows from them: nothing opens such a registry or starts such a client.
-/

namespace LiveConfig

/-- How the slots of a registry are divided. -/
structure Shards where
  count : Nat
  shard : Identity → Fin count
  /-- The order in which a shard names its identities. -/
  arrange : List Identity → List Identity
  arranged : ∀ identities, (arrange identities).Perm identities

namespace Shards

/-- All slots in one shard, in the order in which they were made. -/
def single : Shards := ⟨1, fun _ => 0, id, fun _ => .refl _⟩

instance : Inhabited Shards := ⟨single⟩

/-- The identities of a shard that have slots. -/
def identities (shards : Shards) (registry : Registry) (shard : Nat) : List Identity :=
  shards.arrange ((registry.slots.map Prod.fst).filter fun identity =>
    shards.shard identity = shard)

end Shards

/-- How far a call has come that has found the registry open, and has not looked at its cell yet. -/
inductive Entry where
  /-- About to take its slot. -/
  | admitted
  /-- The slot of its identity has this cell. -/
  | holding (cell : Nat)
deriving DecidableEq, Repr

/-- How far a drain has come. -/
inductive DrainProgress where
  /-- The coordinator is marked; about to shut the registry down. -/
  | announced
  /-- About to go through a shard; these identities were found in those before it. -/
  | collecting (shard : Nat) (found : List Identity)
  /-- About to take out the slot of the first identity that is left; these clients were found. -/
  | removing (left : List Identity) (taken : List (Identity × Nat))
  /-- The slot of an identity is taken out, and its cell is looked at next. -/
  | inspecting (identity : Identity) (cell : Nat) (left : List Identity)
      (taken : List (Identity × Nat))
deriving DecidableEq, Repr

/-- A fleet whose calls and shutdowns run on threads of their own. -/
structure Threads where
  fleet : Fleet
  /-- For each call, how far it has come on its way to a cell. -/
  entries : List (Option Entry)
  /-- The calls that have answered. -/
  answered : List Nat
  /-- For each shutdown, how far its drain has come while that is at work. -/
  drains : List (Option DrainProgress)

namespace Threads

/-- Threads without clients, calls and coordinators. -/
def empty (retry : RetryPolicy) : Threads := ⟨.empty retry, [], [], []⟩

instance : Inhabited Threads := ⟨empty .default⟩

def entryAt? (threads : Threads) (call : Nat) : Option Entry := (threads.entries[call]?).join

def drain? (threads : Threads) (shutdown : Nat) : Option DrainProgress :=
  (threads.drains[shutdown]?).join

/-- What a call has answered. -/
def answer? (threads : Threads) (call : Nat) : Option (Except ConfigError Nat) :=
  if call ∈ threads.answered then threads.fleet.result? call else none

def withFleet (threads : Threads) (fleet : Fleet) : Threads := { threads with fleet := fleet }

def setEntry (threads : Threads) (call : Nat) (entry : Option Entry) : Threads :=
  { threads with entries := threads.entries.set call entry }

def setDrain (threads : Threads) (shutdown : Nat) (drain : Option DrainProgress) : Threads :=
  { threads with drains := threads.drains.set shutdown drain }

/-! ### Calls -/

/-- One step of a call on its way to a cell: it looks whether the registry is shut down, takes its slot,
and looks what the cell holds. -/
def enter (threads : Threads) (call : Nat) (identity : Identity) : Threads :=
  match threads.entryAt? call with
  | none =>
      if threads.fleet.registry.closing then
        threads.withFleet (threads.fleet.finish call (.error (Fleet.shutDownError identity)))
      else threads.setEntry call (some .admitted)
  | some .admitted =>
      let (cell, opened) := threads.fleet.takeSlot identity
      (threads.withFleet opened).setEntry call (some (.holding cell))
  | some (.holding cell) => (threads.withFleet (threads.fleet.look call cell)).setEntry call none

def advance (threads : Threads) (key : Nat) (surroundings : Surroundings) : Threads :=
  match threads.fleet.calls[key]? with
  | none => threads
  | some call =>
      match call.progress with
      | .entering => threads.enter key call.identity
      | .finished _ => { threads with answered := key :: threads.answered }
      | _ => threads.withFleet (threads.fleet.advance key surroundings)

/-! ### Shutdowns -/

/-- The first shutdown of a coordinator marks it. -/
def announce (threads : Threads) (key coordinator : Nat) : Threads :=
  (threads.withFleet { threads.fleet with
    coordinators := threads.fleet.coordinators.set coordinator true }).setDrain key (some .announced)

/-- One step of the drain of a shutdown, which shuts the registry down, goes through all shards for
identities, takes out their slots one by one, and leaves the clients that it has found in the cells to the
shutdown. -/
def continueDrain (shards : Shards) (threads : Threads) (key : Nat) : DrainProgress → Threads
  | .announced =>
      (threads.withFleet { threads.fleet with
        registry := { threads.fleet.registry with closing := true } }).setDrain key
          (some (.collecting 0 []))
  | .collecting shard found =>
      if shard < shards.count then
        threads.setDrain key
          (some (.collecting (shard + 1) (found ++ shards.identities threads.fleet.registry shard)))
      else threads.setDrain key (some (.removing found []))
  | .removing [] taken =>
      (threads.withFleet { threads.fleet with
        shutdowns := threads.fleet.shutdowns.set key
          (.closing (taken.mergeSort Registry.entryLE) .empty) }).setDrain key none
  | .removing (identity :: left) taken =>
      match threads.fleet.registry.slot? identity with
      | none => threads.setDrain key (some (.removing left taken))
      | some cell =>
          (threads.withFleet { threads.fleet with
            registry := threads.fleet.registry.closeSlot identity cell }).setDrain key
              (some (.inspecting identity cell left taken))
  | .inspecting identity cell left taken =>
      match (threads.fleet.registry.cell cell).client with
      | none => threads.setDrain key (some (.removing left taken))
      | some client => threads.setDrain key (some (.removing left (taken ++ [(identity, client)])))

def advanceShutdown (shards : Shards) (threads : Threads) (key : Nat)
    (surroundings : Surroundings) : Threads :=
  match threads.drain? key with
  | some progress => threads.continueDrain shards key progress
  | none =>
      match threads.fleet.shutdowns[key]? with
      | some (.entering coordinator) =>
          if threads.fleet.coordinators[coordinator]? = some false then
            threads.announce key coordinator
          else threads.withFleet (threads.fleet.advanceShutdown key surroundings)
      | _ => threads.withFleet (threads.fleet.advanceShutdown key surroundings)

/-! ### Runs -/

/-- What the actions of a fleet do when others may get in between. -/
def step (shards : Shards) (threads : Threads) : Fleet.Action → Threads
  | .request identity =>
      { threads with
        fleet := (threads.fleet.request identity).2, entries := threads.entries ++ [none] }
  | .advance call surroundings => threads.advance call surroundings
  | .addCoordinator => threads.withFleet threads.fleet.addCoordinator.2
  | .beginShutdown coordinator =>
      { threads with
        fleet := (threads.fleet.beginShutdown coordinator).2, drains := threads.drains ++ [none] }
  | .advanceShutdown key surroundings => threads.advanceShutdown shards key surroundings

/-- The threads after actions in turn. -/
def run (shards : Shards) (threads : Threads) (actions : List Fleet.Action) : Threads :=
  actions.foldl (step shards) threads

end Threads

end LiveConfig
