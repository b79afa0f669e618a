import LiveConfig.Proofs.Registry.Custody
import LiveConfig.Proofs.Registry.Shown
import LiveConfig.Registry.Threads

/-!
Contract: what drains have in hand, and what has to stay true while others get in between.

A call that comes late may leave a slot behind that no drain will visit. If its cell is filled, a call
that is served from it has still to look whether the registry is shut down, and takes the slot out then.
Owns: this invariant with the custody of started clients, and what a step of a drain may do to either.
Does not own: the steps that keep it.
-/

namespace LiveConfig

namespace DrainProgress

/-- Whether the slot of an identity is still to be taken out. -/
def Pending (shards : Shards) (identity : Identity) : DrainProgress → Prop
  | .announced => True
  | .collecting shard found => shard ≤ shards.shard identity ∨ identity ∈ found
  | .removing left _ | .inspecting _ _ left _ => identity ∈ left

/-- The cell that is looked at next. -/
def inspected? : DrainProgress → Option Nat
  | .inspecting _ cell _ _ => some cell
  | .announced | .collecting .. | .removing .. => none

/-- The clients that were found in cells. -/
def taken : DrainProgress → List (Identity × Nat)
  | .removing _ taken | .inspecting _ _ _ taken => taken
  | .announced | .collecting .. => []

end DrainProgress

namespace Threads

open Registry (Grows)
open Fleet (Advanced)

variable {threads : Threads} {shards : Shards} {lost : List Nat}

@[simp] theorem withFleet_fleet (threads : Threads) (fleet : Fleet) :
    (threads.withFleet fleet).fleet = fleet := rfl

@[simp] theorem setEntry_fleet (threads : Threads) (call : Nat) (entry : Option Entry) :
    (threads.setEntry call entry).fleet = threads.fleet := rfl

@[simp] theorem setDrain_fleet (threads : Threads) (shutdown : Nat) (drain : Option DrainProgress) :
    (threads.setDrain shutdown drain).fleet = threads.fleet := rfl

/-! ### Entries and drains by key -/

theorem entryAt?_setEntry {key other : Nat} {entry : Option Entry} {held : Entry}
    (found : (threads.setEntry key entry).entryAt? other = some held) :
    other = key ∧ entry = some held ∨ other ≠ key ∧ threads.entryAt? other = some held := by
  simp only [entryAt?, setEntry, List.getElem?_set] at found
  by_cases same : key = other
  · subst same
    simp only [if_true] at found
    split at found
    · exact .inl ⟨rfl, found⟩
    · cases found
  · simp only [same, if_false] at found
    exact .inr ⟨Ne.symm same, found⟩

theorem lt_of_entryAt? {key : Nat} {entry : Entry} (found : threads.entryAt? key = some entry) :
    key < threads.entries.length := by
  by_contra beyond
  simp [entryAt?, List.getElem?_eq_none (Nat.le_of_not_lt beyond)] at found

/-- One more place that is empty changes no answer. -/
theorem join_append_none {α : Type} (places : List (Option α)) (key : Nat) :
    ((places ++ [none])[key]?).join = (places[key]?).join := by
  rcases Nat.lt_trichotomy key places.length with below | same | beyond
  · rw [List.getElem?_append_left below]
  · subst same
    simp
  · rw [List.getElem?_eq_none (by simp; omega), List.getElem?_eq_none (by omega)]

theorem drain?_setDrain_self {key : Nat} (drain : Option DrainProgress)
    (inRange : key < threads.drains.length) : (threads.setDrain key drain).drain? key = drain := by
  simp [drain?, setDrain, inRange]

theorem drain?_setDrain_of_ne {key other : Nat} (drain : Option DrainProgress)
    (different : other ≠ key) :
    (threads.setDrain key drain).drain? other = threads.drain? other := by
  simp [drain?, setDrain, List.getElem?_set_ne (Ne.symm different)]

/-! ### What drains have in hand -/

/-- What the drains at work have in hand. -/
def sweep (shards : Shards) (threads : Threads) : Fleet.Sweep where
  pending := fun identity =>
    ∃ key progress, threads.drain? key = some progress ∧ progress.Pending shards identity
  cells := fun cell =>
    ∃ key progress, threads.drain? key = some progress ∧ progress.inspected? = some cell
  clients := fun client =>
    ∃ key progress identity, threads.drain? key = some progress ∧ (identity, client) ∈ progress.taken

/-- Each cell is for the calls of one identity. -/
structure Owned (threads : Threads) (owner : Nat → Identity) : Prop where
  slots : ∀ {identity : Identity} {cell : Nat}, (identity, cell) ∈ threads.fleet.registry.slots →
    owner cell = identity
  calls : ∀ {key cell : Nat} {call : Call}, threads.fleet.calls[key]? = some call →
    call.progress.place? = some cell → owner cell = call.identity
  entries : ∀ {key cell : Nat} {call : Call}, threads.entryAt? key = some (.holding cell) →
    threads.fleet.calls[key]? = some call → owner cell = call.identity

/-- A slot with a client is still to be taken out, by a drain or by a call that is served with the
client. -/
def Guarded (shards : Shards) (threads : Threads) : Prop :=
  ∀ (identity : Identity) (cell client : Nat), (identity, cell) ∈ threads.fleet.registry.slots →
    (threads.fleet.registry.cell cell).client = some client →
      (threads.sweep shards).pending identity ∨
        ∃ key : Nat, threads.fleet.calls[key]? = some ⟨identity, .served cell client⟩

/-- What every step keeps: somebody sees to each started client but the lost ones, and to each slot of a
registry that is shut down. -/
structure Sound (shards : Shards) (threads : Threads) (lost : List Nat) : Prop where
  custody : threads.fleet.Custody (threads.sweep shards) lost
  width : threads.entries.length = threads.fleet.calls.length
  length : threads.drains.length = threads.fleet.shutdowns.length
  drains : ∀ {key : Nat} {progress : DrainProgress}, threads.drain? key = some progress →
    (progress ≠ .announced → threads.fleet.registry.closing = true) ∧
      ∃ coordinator, threads.fleet.shutdowns[key]? = some (.entering coordinator)
  entries : ∀ {key cell : Nat} {call : Call}, threads.entryAt? key = some (.holding cell) →
    threads.fleet.calls[key]? = some call → cell < threads.fleet.registry.cells.length ∧
      (threads.fleet.registry.closing = false →
        (call.identity, cell) ∈ threads.fleet.registry.slots)
  owned : ∃ owner, threads.Owned owner
  guarded : threads.fleet.registry.closing = true → threads.Guarded shards

/-- What a step of the drain of a shutdown may do: it leaves a registry that is open as it is, a slot
leaves the registry only with its cell in hand, and the drain lets nothing go that it does not find empty
or leave to its shutdown. -/
structure Swept (shards : Shards) (threads : Threads) (key : Nat) (registry : Registry)
    (shutdowns : List ShutdownProgress) (next : Option DrainProgress) : Prop where
  kept : registry.closing = false → registry = threads.fleet.registry
  begun : ∀ {progress : DrainProgress}, next = some progress → progress ≠ .announced →
    registry.closing = true
  cells : registry.cells = threads.fleet.registry.cells
  slots : registry.slots.Sublist threads.fleet.registry.slots
  length : shutdowns.length = threads.fleet.shutdowns.length
  others : ∀ {other : Nat}, other ≠ key → shutdowns[other]? = threads.fleet.shutdowns[other]?
  before : ∃ coordinator, threads.fleet.shutdowns[key]? = some (.entering coordinator)
  after : ∀ {progress : DrainProgress}, next = some progress →
    ∃ coordinator, shutdowns[key]? = some (.entering coordinator)
  pending : ∀ {identity : Identity} {cell : Nat}, (identity, cell) ∈ registry.slots →
    (threads.fleet.registry.closing = false ∨
      ∃ prior, threads.drain? key = some prior ∧ prior.Pending shards identity) →
        ∃ progress, next = some progress ∧ progress.Pending shards identity
  removed : ∀ {identity : Identity} {cell : Nat},
    (identity, cell) ∈ threads.fleet.registry.slots → (identity, cell) ∈ registry.slots ∨
      ∃ progress, next = some progress ∧ progress.inspected? = some cell
  inspected : ∀ {prior : DrainProgress} {cell client : Nat}, threads.drain? key = some prior →
    prior.inspected? = some cell → (threads.fleet.registry.cell cell).client = some client →
      ∃ progress identity, next = some progress ∧ (identity, client) ∈ progress.taken
  taken : ∀ {prior : DrainProgress} {identity : Identity} {client : Nat},
    threads.drain? key = some prior → (identity, client) ∈ prior.taken →
      (∃ progress, next = some progress ∧ (identity, client) ∈ progress.taken) ∨
        ∃ left report, shutdowns[key]? = some (.closing left report) ∧ (identity, client) ∈ left

namespace Swept

variable {key : Nat} {registry : Registry} {shutdowns : List ShutdownProgress}
  {next : Option DrainProgress} {coordinators : List Bool}

theorem inRange (swept : threads.Swept shards key registry shutdowns next)
    (length : threads.drains.length = threads.fleet.shutdowns.length) :
    key < threads.drains.length := by
  obtain ⟨coordinator, entering⟩ := swept.before
  rw [length]
  exact (List.getElem?_eq_some_iff.mp entering).1

theorem cell_eq (swept : threads.Swept shards key registry shutdowns next) (cell : Nat) :
    registry.cell cell = threads.fleet.registry.cell cell := by
  simp only [Registry.cell, swept.cells]

/-- The slots that are left are watched as before. -/
theorem watched (swept : threads.Swept shards key registry shutdowns next)
    (inRange : key < threads.drains.length) {identity : Identity} {cell : Nat}
    (inSlots : (identity, cell) ∈ registry.slots)
    (watched : threads.fleet.registry.closing = false ∨ (threads.sweep shards).pending identity) :
    ((threads.setDrain key next).sweep shards).pending identity := by
  have own := drain?_setDrain_self next inRange
  rcases watched with isOpen | ⟨other, prior, found, isPending⟩
  · obtain ⟨progress, same, isPending⟩ := swept.pending inSlots (.inl isOpen)
    exact ⟨key, progress, own.trans same, isPending⟩
  · by_cases same : other = key
    · subst same
      obtain ⟨progress, same, isPending⟩ := swept.pending inSlots (.inr ⟨prior, found, isPending⟩)
      exact ⟨other, progress, own.trans same, isPending⟩
    · exact ⟨other, prior, (drain?_setDrain_of_ne next same).trans found, isPending⟩

/-- Whoever sees to a client sees to it afterwards, or leaves it to the drain or to its shutdown. -/
theorem held (swept : threads.Swept shards key registry shutdowns next)
    (inRange : key < threads.drains.length) {client : Nat}
    (held : threads.fleet.Held (threads.sweep shards) client) :
    Fleet.Held { threads.fleet with
      registry := registry, coordinators := coordinators, shutdowns := shutdowns }
        ((threads.setDrain key next).sweep shards) client := by
  have own := drain?_setDrain_self next inRange
  cases held with
  | call found holds => exact .call found holds
  | slot inSlots filled isWatched =>
      have filledAfter := (congrArg Cell.client (swept.cell_eq _)).trans filled
      rcases swept.removed inSlots with kept | ⟨progress, same, inHand⟩
      · exact .slot kept filledAfter (.inr (swept.watched inRange kept isWatched))
      · exact .cell ⟨key, progress, own.trans same, inHand⟩ filledAfter
  | cell atHand filled =>
      obtain ⟨other, prior, found, inspected⟩ := atHand
      by_cases same : other = key
      · subst same
        obtain ⟨progress, identity, same, member⟩ := swept.inspected found inspected filled
        exact .client ⟨other, progress, identity, own.trans same, member⟩
      · exact .cell ⟨other, prior, (drain?_setDrain_of_ne next same).trans found, inspected⟩
          ((congrArg Cell.client (swept.cell_eq _)).trans filled)
  | client atHand =>
      obtain ⟨other, prior, identity, found, member⟩ := atHand
      by_cases same : other = key
      · subst same
        rcases swept.taken found member with ⟨progress, same, kept⟩ | ⟨left, report, closing, kept⟩
        · exact .client ⟨other, progress, identity, own.trans same, kept⟩
        · exact .shutdown closing kept
      · exact .client ⟨other, prior, identity, (drain?_setDrain_of_ne next same).trans found, member⟩
  | shutdown found member =>
      rename_i other left report identity
      have different : other ≠ key := by
        rintro rfl
        obtain ⟨coordinator, entering⟩ := swept.before
        rw [entering] at found
        cases found
      exact .shutdown ((swept.others different).trans found) member

end Swept

/-- The clients that some step of a run fails to close. -/
def failedCloses (shards : Shards) (threads : Threads) : List Fleet.Action → List Nat
  | [] => []
  | action :: rest => (threads.fleet.failedClose? action).toList ++
      (threads.step shards action).failedCloses shards rest

end Threads

end LiveConfig
