import LiveConfig.Proofs.Registry.Steps

/-!
Contract: until it is shut down, a registry has one client for an identity.

Owns: that one call at a time is at work for an identity, that the factory is not asked again once there
is a client, and that every call that succeeds has this client. Does not own: what shutdowns do.
-/

namespace LiveConfig.Fleet

variable {fleet : Fleet}

/-- Whether a step asks the factory for a client of an identity. -/
def Builds (fleet : Fleet) (identity : Identity) : Action → Prop
  | .advance key _ => ∃ cell, fleet.calls[key]? = some ⟨identity, .building cell⟩
  | .request _ | .addCoordinator | .beginShutdown _ | .advanceShutdown _ _ => False

/-! ### Nothing else asks the factory -/

@[simp] theorem handOver_built (fleet : Fleet) (cell : Nat) : (fleet.handOver cell).built = fleet.built := by
  unfold handOver
  split <;> rfl

@[simp] theorem fail_built (fleet : Fleet) (key cell : Nat) (identity : Identity)
    (error : StoreError) : (fleet.fail key cell identity error).built = fleet.built :=
  handOver_built _ cell

theorem closeClient_built (fleet : Fleet) (client : Nat) (surroundings : Surroundings) :
    (fleet.closeClient client surroundings).2.built = fleet.built := by
  obtain ⟨clients, closed⟩ := fleet.closeClient_snd client surroundings
  rw [closed]

theorem enter_built (fleet : Fleet) (key : Nat) (identity : Identity) :
    (fleet.enter key identity).built = fleet.built := by
  obtain ⟨registry, progress, entered, -⟩ := enter_eq fleet key identity
  rw [entered]

theorem continueStart_built (fleet : Fleet) (key cell client : Nat) (start : StartProgress)
    (surroundings : Surroundings) :
    (fleet.continueStart key cell client start surroundings).built = fleet.built := by
  unfold continueStart
  split
  · rw [fill_eq]
  all_goals rfl

/-- A step that does not ask the factory makes no client. -/
theorem built_of_not_builds {action : Action}
    (notBuilds : ∀ identity, ¬ fleet.Builds identity action) :
    (fleet.step action).built = fleet.built := by
  cases action with
  | request | addCoordinator | beginShutdown => rfl
  | advanceShutdown key surroundings =>
      obtain ⟨clients, registry, coordinators, shutdowns, stepped⟩ :=
        fleet.advanceShutdown_eq key surroundings
      rw [step, stepped]
  | advance key surroundings =>
      simp only [step, advance]
      split
      · rfl
      · rename_i call found
        split
        · exact fleet.enter_built key call.identity
        · rfl
        · rename_i cell building
          refine absurd ⟨cell, ?_⟩ (notBuilds call.identity)
          rw [found, ← building]
        · exact fleet.continueStart_built key _ _ _ surroundings
        · unfold abandon
          dsimp only
          split
          · exact fail_built ..
          · rw [fail_built, closeClient_built]
        · unfold conclude
          split <;> rfl
        · exact closeClient_built ..
        · rfl

/-! ### One client -/

/-- While the registry is open, the cell of a call is that of the slot of its identity. -/
theorem slot?_of_place (coherent : fleet.Coherent) (isOpen : fleet.registry.closing = false)
    {key cell : Nat} {call : Call} (found : fleet.calls[key]? = some call)
    (stands : call.progress.place? = some cell) :
    fleet.registry.slot? call.identity = some cell :=
  Registry.slot?_of_mem coherent.distinct (((coherent.fits found).placed stands).2 isOpen)

/-- One call at a time is at work for an identity. -/
theorem alone_at_work (coherent : fleet.Coherent) (isOpen : fleet.registry.closing = false)
    {key other : Nat} {call otherCall : Call} (found : fleet.calls[key]? = some call)
    (foundOther : fleet.calls[other]? = some otherCall)
    (identity : call.identity = otherCall.identity) (works : call.progress.cell?.isSome)
    (worksOther : otherCall.progress.cell?.isSome) : key = other := by
  obtain ⟨cell, atCell⟩ := Option.isSome_iff_exists.mp works
  obtain ⟨place, atPlace⟩ := Option.isSome_iff_exists.mp worksOther
  have slot := slot?_of_place coherent isOpen found (CallProgress.place?_of_cell? atCell)
  have slotOther := slot?_of_place coherent isOpen foundOther (CallProgress.place?_of_cell? atPlace)
  rw [identity, slotOther] at slot
  obtain rfl := Option.some.inj slot
  exact coherent.alone found foundOther atCell atPlace

/-- Nobody asks the factory for an identity that has its client. -/
theorem not_builds_of_client? (coherent : fleet.Coherent)
    (isOpen : fleet.registry.closing = false) {identity : Identity} {client : Nat}
    (cached : fleet.registry.client? identity = some client) (action : Action) :
    ¬ fleet.Builds identity action := by
  intro builds
  cases action with
  | request | addCoordinator | beginShutdown | advanceShutdown => exact builds
  | advance key surroundings =>
      obtain ⟨cell, found⟩ := builds
      obtain ⟨place, slot, held⟩ := Registry.client?_eq_some_iff.mp cached
      have ownSlot := slot?_of_place coherent isOpen found rfl
      rw [slot] at ownSlot
      obtain rfl := Option.some.inj ownSlot
      have isEmpty := ((coherent.fits found).working rfl).2
      rw [held] at isEmpty
      cases isEmpty

/-- Until it is shut down, a registry has one client for an identity, whatever calls come and however
their requests end: one call at a time builds and starts a client for the identity; once there is one,
it stays and the factory is not asked again; and every call that succeeds has the one that is shown. No
client is made by a step that does not ask the factory. -/
theorem one_client_per_identity (reached : fleet.Reached)
    (isOpen : fleet.registry.closing = false) :
    (∀ (key other : Nat) (call otherCall : Call), fleet.calls[key]? = some call →
        fleet.calls[other]? = some otherCall → call.identity = otherCall.identity →
        call.progress.cell?.isSome → otherCall.progress.cell?.isSome → key = other) ∧
      (∀ (identity : Identity) (client : Nat), fleet.registry.client? identity = some client →
        ∀ more, (fleet.run more).registry.closing = false →
          (fleet.run more).registry.client? identity = some client ∧
          ∀ action, ¬ (fleet.run more).Builds identity action) ∧
      (∀ (key : Nat) (identity : Identity) (client : Nat),
        fleet.calls[key]? = some ⟨identity, .finished (.ok client)⟩ →
        fleet.registry.client? identity = some client) ∧
      ∀ action, (∀ identity, ¬ fleet.Builds identity action) →
        (fleet.step action).built = fleet.built := by
  have coherent := reached.coherent
  refine ⟨fun key other call otherCall found foundOther identity works worksOther => ?_,
    fun identity client cached more stillOpen => ?_, fun key identity client found => ?_,
    fun action notBuilds => built_of_not_builds notBuilds⟩
  · exact alone_at_work coherent isOpen found foundOther identity works worksOther
  · have kept := keeps_run coherent more
    have later := kept.grows.client? stillOpen cached
    exact ⟨later, not_builds_of_client? kept.coherent stillOpen later⟩
  · exact (coherent.fits found).kept rfl isOpen

/-- An endpoint that works. -/
def atEase : Surroundings := ⟨none, .ok "main", .ok 0, false⟩

/-- Two calls for one identity at once, of which the first cannot build its client, and the second, which
has waited for it, can. -/
def retriedCalls : List Action :=
  [.request ⟨"localhost", "/app"⟩, .request ⟨"localhost", "/app"⟩, .advance 0 atEase, .advance 1 atEase,
    .advance 0 { atEase with refusal := some (.internal "no route") }, .advance 1 atEase,
    .advance 1 atEase, .advance 1 atEase, .advance 1 atEase, .advance 1 atEase]

theorem one_client_of_retriedCalls :
    ((empty .default).run retriedCalls).Reached ∧
      ((empty .default).run retriedCalls).registry.closing = false ∧
      ((empty .default).run retriedCalls).result? 1 = some (.ok 0) ∧
      ((empty .default).run retriedCalls).registry.client? ⟨"localhost", "/app"⟩ = some 0 := by
  have reached : ((empty .default).run retriedCalls).Reached := ⟨_, _, rfl⟩
  have isOpen : ((empty .default).run retriedCalls).registry.closing = false := rfl
  have found : ((empty .default).run retriedCalls).calls[1]? =
      some ⟨⟨"localhost", "/app"⟩, .finished (.ok 0)⟩ := rfl
  obtain ⟨-, -, shown, -⟩ := one_client_per_identity reached isOpen
  exact ⟨reached, isOpen, rfl, shown 1 _ 0 found⟩

end LiveConfig.Fleet
