import LiveConfig.Proofs.Registry.OneClient
import LiveConfig.Proofs.Registry.ThreadSteps

/-!
Contract: no started client escapes a shutdown.

Calls, drains and shutdowns take turns in any order, and others may get in between the look of a call at
the registry and its slot or its answer, and between any two slots of a drain. Owns: that no call succeeds
that has still to look whether the registry is shut down, that a client which the registry shows outside a
drain is in the hands of a call that is about to take it out, and that no client is left started when
shutdowns and calls are over. Does not own: clients of which a close has failed.
-/

namespace LiveConfig

namespace Fleet

variable {fleet after : Fleet} {key client : Nat}

/-- A call that is over with a client. -/
def Succeeded (fleet : Fleet) (key client : Nat) : Prop :=
  ∃ call, fleet.calls[key]? = some call ∧ call.progress = .finished (.ok client)

theorem result?_eq_ok_iff : fleet.result? key = some (.ok client) ↔ fleet.Succeeded key client := by
  constructor
  · intro result
    unfold result? at result
    split at result
    · rename_i identity outcome found
      obtain rfl := Option.some.inj result
      exact ⟨_, found, rfl⟩
    · cases result
  · rintro ⟨⟨identity, progress⟩, found, succeeded⟩
    obtain rfl : progress = _ := succeeded
    simp only [result?, found]

/-- No shutdown is at work if all have answered their reports. -/
theorem not_closing_of_reports
    (reports : ∀ key < fleet.shutdowns.length, (fleet.report? key).isSome) :
    ∀ left report, .closing left report ∉ fleet.shutdowns := by
  intro left report member
  obtain ⟨key, below, found⟩ := List.mem_iff_getElem.mp member
  have unreported : fleet.report? key = none := by
    simp [report?, List.getElem?_eq_getElem below, found]
  have reported := reports key below
  rw [unreported] at reported
  cases reported

/-- All calls are over if all have answered their results. -/
theorem finished_of_results
    (results : ∀ key < fleet.calls.length, (fleet.result? key).isSome) :
    ∀ call ∈ fleet.calls, ∃ result, call.progress = .finished result := by
  intro call member
  obtain ⟨key, below, found⟩ := List.mem_iff_getElem.mp member
  have answered := results key below
  unfold result? at answered
  split at answered
  · rename_i identity result isOver
    rw [List.getElem?_eq_getElem below, found] at isOver
    obtain rfl := Option.some.inj isOver
    exact ⟨result, rfl⟩
  · cases answered

/-- No step of a call ends with success once the registry is shut down. -/
theorem Advanced.succeeded {moving : Nat} {call : Call} {made : Option Making}
    (advanced : Advanced fleet after moving call made)
    (found : fleet.calls[moving]? = some call) (closed : fleet.registry.closing = true)
    (succeeded : after.Succeeded key client) : fleet.Succeeded key client := by
  obtain ⟨next, moves, calls⟩ := advanced.calls
  obtain ⟨new, foundNew, isOver⟩ := succeeded
  by_cases same : key = moving
  · subst same
    obtain rfl := Option.some.inj (calls.own.symm.trans foundNew)
    obtain rfl : next = _ := isOver
    refine ⟨call, found, ?_⟩
    generalize call.progress = progress at moves
    cases moves with
    | rest => rfl
    | succeed _ _ isOpen => exact nomatch closed.symm.trans isOpen
  · obtain ⟨old, foundOld, stays⟩ := calls.before same foundNew
    cases stays with
    | same => exact ⟨_, foundOld, isOver⟩
    | next | served => cases isOver

end Fleet

namespace Threads

open Fleet (Advanced)

variable {threads after : Threads} {shards : Shards} {lost : List Nat}

/-! ### What a step does to calls -/

/-- A call for an identity that has found the registry open, and is not over. -/
def AtWork (threads : Threads) (identity : Identity) (key : Nat) : Prop :=
  ∃ call, threads.fleet.calls[key]? = some call ∧ call.identity = identity ∧
    (call.progress = .entering → ∃ entry, threads.entryAt? key = some entry) ∧
      ∀ result, call.progress ≠ .finished result

/-- The ways in which a step can move calls. -/
inductive Moved (threads after : Threads) : Prop where
  /-- Only an open registry lets a call in. -/
  | still (calls : after.fleet.calls = threads.fleet.calls)
      (entries : ∀ {key : Nat} {entry : Entry}, after.entryAt? key = some entry →
        threads.fleet.registry.closing = false ∨ ∃ earlier, threads.entryAt? key = some earlier)
  | requested (identity : Identity)
      (calls : after.fleet.calls = threads.fleet.calls ++ [⟨identity, .entering⟩])
      (entries : ∀ {key : Nat} {entry : Entry}, after.entryAt? key = some entry →
        threads.entryAt? key = some entry)
  | advanced {key : Nat} {call : Call} {made : Option Making}
      (found : threads.fleet.calls[key]? = some call)
      (advanced : Advanced threads.fleet after.fleet key call made)
      (admitted : call.progress = .entering → threads.fleet.registry.closing = true ∧
        (∀ new, after.fleet.calls[key]? = some new → ∃ result, new.progress = .finished result) ∨
          ∃ entry, threads.entryAt? key = some entry)
      (entries : ∀ {other : Nat} {entry : Entry}, after.entryAt? other = some entry →
        threads.entryAt? other = some entry)

theorem moved_of_enter {key : Nat} {call : Call} (found : threads.fleet.calls[key]? = some call)
    (entering : call.progress = .entering) : threads.Moved (threads.enter key call.identity) := by
  unfold enter
  split
  · split
    · rename_i closed
      refine .advanced found (Fleet.advanced_refuse found entering closed)
        (fun _ => .inl ⟨closed, fun new foundNew => ?_⟩) id
      obtain rfl := Option.some.inj ((Registry.withProgress_self found).symm.trans foundNew)
      exact ⟨_, rfl⟩
    · rename_i isOpen
      exact .still rfl fun _ => .inl (by simpa using isOpen)
  · rename_i admitted
    refine .still rfl fun holds => .inr ?_
    rcases entryAt?_setEntry holds with ⟨rfl, -⟩ | ⟨-, same⟩
    · exact ⟨_, admitted⟩
    · exact ⟨_, same⟩
  · rename_i cell holding
    refine .advanced found (Fleet.advanced_look found entering cell) (fun _ => .inr ⟨_, holding⟩)
      fun holds => ?_
    rcases entryAt?_setEntry holds with ⟨-, same⟩ | ⟨-, same⟩
    · cases same
    · exact same

theorem moved_of_advance (coherent : threads.fleet.Coherent) (key : Nat)
    (surroundings : Surroundings) : threads.Moved (threads.advance key surroundings) := by
  unfold advance
  split
  · exact .still rfl fun holds => .inr ⟨_, holds⟩
  · rename_i call found
    split
    · rename_i entering
      exact moved_of_enter found entering
    · exact .still rfl fun holds => .inr ⟨_, holds⟩
    · rename_i notEntering _
      exact .advanced found (Fleet.advanced_of_advance coherent found surroundings)
        (fun entering => absurd entering notEntering) id

theorem moved_of_advanceShutdown (key : Nat) (surroundings : Surroundings) :
    threads.Moved (threads.advanceShutdown shards key surroundings) := by
  have still {after : Threads} (calls : after.fleet.calls = threads.fleet.calls)
      (entries : after.entries = threads.entries) : threads.Moved after :=
    .still calls fun holds => .inr ⟨_, by rwa [entryAt?, entries] at holds⟩
  have goesOn : threads.Moved
      (threads.withFleet (threads.fleet.advanceShutdown key surroundings)) := by
    obtain ⟨clients, registry, coordinators, shutdowns, stepped⟩ :=
      threads.fleet.advanceShutdown_eq key surroundings
    exact still (by rw [withFleet_fleet, stepped]) rfl
  unfold advanceShutdown
  split
  · rename_i progress _
    unfold continueDrain
    split
    · exact still rfl rfl
    · split <;> exact still rfl rfl
    · exact still rfl rfl
    · split <;> exact still rfl rfl
    · split <;> exact still rfl rfl
  · split
    · split
      · exact still rfl rfl
      · exact goesOn
    · exact goesOn

theorem moved_of_step (shards : Shards) (coherent : threads.fleet.Coherent)
    (action : Fleet.Action) :
    threads.Moved (threads.step shards action) := by
  cases action with
  | request identity =>
      exact .requested identity rfl fun holds => (join_append_none _ _).symm.trans holds
  | advance key surroundings => exact moved_of_advance coherent key surroundings
  | addCoordinator | beginShutdown => exact .still rfl fun holds => .inr ⟨_, holds⟩
  | advanceShutdown key surroundings => exact moved_of_advanceShutdown key surroundings

/-! ### A registry that is shut down serves nobody -/

variable {key client : Nat}

theorem succeeded_of_answer? (answers : threads.answer? key = some (.ok client)) :
    threads.fleet.Succeeded key client := by
  unfold answer? at answers
  split at answers
  · exact Fleet.result?_eq_ok_iff.mp answers
  · cases answers

theorem Moved.succeeded (moved : threads.Moved after)
    (closed : threads.fleet.registry.closing = true)
    (succeeded : after.fleet.Succeeded key client) : threads.fleet.Succeeded key client := by
  cases moved with
  | still calls =>
      obtain ⟨call, found, isOver⟩ := succeeded
      exact ⟨call, calls ▸ found, isOver⟩
  | requested identity calls =>
      obtain ⟨call, found, isOver⟩ := succeeded
      rcases Registry.cases_append (calls ▸ found) with before | rfl
      · exact ⟨call, before, isOver⟩
      · cases isOver
  | advanced found advanced => exact advanced.succeeded found closed succeeded

/-- Nobody gets to work once the registry is shut down. -/
theorem Moved.atWork (moved : threads.Moved after)
    (width : threads.entries.length = threads.fleet.calls.length)
    (closed : threads.fleet.registry.closing = true) {identity : Identity}
    (works : after.AtWork identity key) : threads.AtWork identity key := by
  obtain ⟨new, foundNew, sameIdentity, admitted, notOver⟩ := works
  cases moved with
  | still calls entries =>
      refine ⟨new, calls ▸ foundNew, sameIdentity, fun entering => ?_, notOver⟩
      obtain ⟨entry, holds⟩ := admitted entering
      exact (entries holds).resolve_left (by simp [closed])
  | requested identity calls entries =>
      rw [calls] at foundNew
      rcases Registry.cases_append foundNew with before | rfl
      · exact ⟨new, before, sameIdentity, fun entering =>
          (admitted entering).imp fun _ => entries, notOver⟩
      -- The newest call is not let in yet.
      · obtain ⟨entry, holds⟩ := admitted rfl
        have inRange : key < threads.fleet.calls.length := width ▸ lt_of_entryAt? (entries holds)
        rw [List.getElem?_append_left inRange] at foundNew
        exact ⟨_, foundNew, sameIdentity, fun _ => ⟨entry, entries holds⟩, notOver⟩
  | advanced found advanced admittedBefore entries =>
      rename_i moving call made
      obtain ⟨next, moves, calls⟩ := advanced.calls
      by_cases same : key = moving
      · subst same
        obtain rfl := Option.some.inj (calls.own.symm.trans foundNew)
        refine ⟨call, found, sameIdentity, fun entering => ?_, fun result isOver => ?_⟩
        · rcases admittedBefore entering with ⟨-, refused⟩ | holds
          · obtain ⟨result, isOver⟩ := refused _ calls.own
            exact absurd isOver (notOver result)
          · exact holds
        · rw [isOver] at moves
          cases moves with
          | rest => exact notOver result rfl
      · obtain ⟨old, foundOld, stays⟩ := calls.before same foundNew
        cases stays with
        | same => exact ⟨_, foundOld, sameIdentity, fun entering =>
            (admitted entering).imp fun _ => entries, notOver⟩
        | next | served =>
            exact ⟨_, foundOld, sameIdentity, fun entering => (by cases entering),
              fun _ same => by cases same⟩

/-! ### Runs of a registry that is shut down -/

theorem closing_advance (closed : threads.fleet.registry.closing = true) (key : Nat)
    (surroundings : Surroundings) :
    (threads.advance key surroundings).fleet.registry.closing = true := by
  unfold advance
  split
  · exact closed
  · rename_i call found
    split
    · unfold enter
      split
      · split <;> exact closed
      · exact (Registry.closing_openSlot _ _).trans closed
      · rename_i cell _
        obtain ⟨registry, progress, looked, closing, -⟩ := Fleet.look_eq threads.fleet key cell
        rw [setEntry_fleet, withFleet_fleet, looked]
        exact closing.trans closed
    · exact closed
    · exact (threads.fleet.advance_leaves key surroundings).2.trans closed

theorem closing_advanceShutdown (coherent : threads.fleet.Coherent)
    (closed : threads.fleet.registry.closing = true) (key : Nat) (surroundings : Surroundings) :
    (threads.advanceShutdown shards key surroundings).fleet.registry.closing = true := by
  have goesOn : (threads.fleet.advanceShutdown key surroundings).registry.closing = true :=
    (Fleet.keeps_advanceShutdown coherent key surroundings).grows.closing closed
  unfold advanceShutdown
  split
  · unfold continueDrain
    split
    · rfl
    · split <;> exact closed
    · exact closed
    · split <;> exact closed
    · split <;> exact closed
  · split
    · split
      · exact closed
      · exact goesOn
    · exact goesOn

theorem closing_step (coherent : threads.fleet.Coherent)
    (closed : threads.fleet.registry.closing = true) (action : Fleet.Action) :
    (threads.step shards action).fleet.registry.closing = true := by
  cases action with
  | request | addCoordinator | beginShutdown => exact closed
  | advance key surroundings => exact closing_advance closed key surroundings
  | advanceShutdown key surroundings => exact closing_advanceShutdown coherent closed key surroundings

/-- Once the registry is shut down, it stays so, and nobody succeeds or gets to work who had not done so
before. -/
theorem run_closed (sound : threads.Sound shards lost) (closed : threads.fleet.registry.closing = true)
    (more : List Fleet.Action) :
    (threads.run shards more).fleet.registry.closing = true ∧
      (∀ {key client : Nat}, (threads.run shards more).fleet.Succeeded key client →
        threads.fleet.Succeeded key client) ∧
      ∀ {identity : Identity} {key : Nat}, (threads.run shards more).AtWork identity key →
        threads.AtWork identity key := by
  induction more generalizing threads lost with
  | nil => exact ⟨closed, id, id⟩
  | cons action rest inductionHypothesis =>
      have coherent := sound.custody.coherent
      have moved := moved_of_step shards coherent action
      obtain ⟨stays, succeeded, works⟩ :=
        inductionHypothesis (sound.step action) (closing_step coherent closed action)
      exact ⟨stays, fun later => moved.succeeded closed (succeeded later),
        fun later => moved.atWork sound.width closed (works later)⟩

/-! ### What is left of a registry that is shut down -/

/-- No drain is at work. -/
def Settled (threads : Threads) : Prop := ∀ drain ∈ threads.drains, drain = none

instance : Decidable threads.Settled := inferInstanceAs (Decidable (∀ drain ∈ threads.drains, drain = none))

theorem Settled.drain? (settled : threads.Settled) (key : Nat) : threads.drain? key = none := by
  unfold Threads.drain?
  cases found : threads.drains[key]? with
  | none => rfl
  | some drain => exact settled drain (List.mem_of_getElem? found)

/-- A client that a registry shows once it is shut down is in the hands of a call that is about to take it
out. -/
theorem Sound.served_of_shown (sound : threads.Sound shards lost)
    (closed : threads.fleet.registry.closing = true) (settled : threads.Settled)
    {identity : Identity} {client : Nat}
    (shown : threads.fleet.registry.client? identity = some client) :
    ∃ key cell : Nat, threads.fleet.calls[key]? = some ⟨identity, .served cell client⟩ ∧
      threads.fleet.registry.slot? identity = some cell := by
  obtain ⟨cell, slot, filled⟩ := Registry.client?_eq_some_iff.mp shown
  rcases sound.guarded closed identity cell client (Registry.mem_of_slot? slot) filled with
    ⟨key, progress, found, -⟩ | ⟨key, served⟩
  · rw [settled.drain? key] at found
    cases found
  · exact ⟨key, cell, served, slot⟩

/-- A call that is served by a registry that is shut down leaves nothing for its identity. -/
theorem client?_advance_served {identity : Identity} {cell : Nat} (coherent : threads.fleet.Coherent)
    (closed : threads.fleet.registry.closing = true)
    (served : threads.fleet.calls[key]? = some ⟨identity, .served cell client⟩)
    (slot : threads.fleet.registry.slot? identity = some cell) (surroundings : Surroundings) :
    (threads.advance key surroundings).fleet.registry.client? identity = none := by
  have slots := Fleet.slots_advance_served served rfl closed surroundings
  have gone : (threads.fleet.advance key surroundings).registry.slot? identity = none := by
    cases found : (threads.fleet.advance key surroundings).registry.slot? identity with
    | none => rfl
    | some other =>
        have member := Registry.mem_of_slot? found
        rw [slots] at member
        exact absurd rfl (Registry.ne_of_mem_closeSlot coherent.distinct slot member)
  simp only [advance, served, withFleet_fleet, Registry.client?, gone, Option.bind_none]

/-- Nobody is left to hold a client. -/
theorem not_held (closed : threads.fleet.registry.closing = true) (settled : threads.Settled)
    (noShutdown : ∀ left report, .closing left report ∉ threads.fleet.shutdowns)
    (callsOver : ∀ call ∈ threads.fleet.calls, ∃ result, call.progress = .finished result) :
    ¬ threads.fleet.Held (threads.sweep shards) client := by
  intro held
  cases held with
  | call found holds =>
      obtain ⟨result, isOver⟩ := callsOver _ (List.mem_of_getElem? found)
      rw [isOver] at holds
      exact holds
  | slot _ _ watched =>
      rcases watched with isOpen | ⟨other, progress, found, -⟩
      · exact nomatch closed.symm.trans isOpen
      · exact nomatch (settled.drain? other).symm.trans found
  | cell atHand =>
      obtain ⟨other, progress, found, -⟩ := atHand
      exact nomatch (settled.drain? other).symm.trans found
  | client atHand =>
      obtain ⟨other, progress, identity, found, -⟩ := atHand
      exact nomatch (settled.drain? other).symm.trans found
  | shutdown found member => exact noShutdown _ _ (List.mem_of_getElem? found)

/-- No started client escapes a shutdown, in whatever order calls, drains and shutdowns take their steps.
From the moment at which the registry is shut down, no call answers a client that has not looked for the
last time whether it is. A client that the registry shows later, while no drain is at work, is in the hands
of a call for its identity that had found the registry open and was not over at that moment; the next step
of this call takes the client out, and if no call is left at this point, the registry shows none. And if
all calls and shutdowns are over, then no client that was ever built is started, but for those of which a
close has failed. -/
theorem no_client_escapes_shutdown {retry : RetryPolicy} {actions : List Fleet.Action}
    (made : threads = (empty retry).run shards actions)
    (closed : threads.fleet.registry.closing = true) :
    (∀ key, threads.fleet.result? key = none →
        ∀ more client, (threads.run shards more).answer? key ≠ some (.ok client)) ∧
      (∀ more after, after = threads.run shards more → after.Settled →
        (∀ identity client, after.fleet.registry.client? identity = some client →
          ∃ key cell : Nat, threads.AtWork identity key ∧
            after.fleet.calls[key]? = some ⟨identity, .served cell client⟩ ∧
            ∀ surroundings, (after.step shards (.advance key surroundings)).fleet.registry.client?
              identity = none) ∧
        ((∀ call ∈ after.fleet.calls, ∀ cell client, call.progress ≠ .served cell client) →
          (∀ identity, after.fleet.registry.client? identity = none) ∧
            after.fleet.registry.size = 0)) ∧
      (threads.Settled → (∀ left report, .closing left report ∉ threads.fleet.shutdowns) →
        (∀ call ∈ threads.fleet.calls, ∃ result, call.progress = .finished result) →
        ∀ client ∈ threads.fleet.built, client ∉ (empty retry).failedCloses shards actions →
          (threads.fleet.client client).state ≠ .started) := by
  have sound : threads.Sound shards ((empty retry).failedCloses shards actions) := by
    have kept := (Sound.empty shards retry).run actions
    rw [made]
    simpa using kept
  refine ⟨fun key unfinished more client answers => ?_, fun more after reached settled => ?_,
    fun settled noShutdown callsOver client _ notLost started => ?_⟩
  · obtain ⟨-, succeeded, -⟩ := run_closed sound closed more
    have before := succeeded (succeeded_of_answer? answers)
    rw [Fleet.result?_eq_ok_iff.mpr before] at unfinished
    cases unfinished
  · subst reached
    have later := sound.run more
    obtain ⟨stays, -, works⟩ := run_closed sound closed more
    have shown := @Sound.served_of_shown _ _ _ later stays settled
    refine ⟨fun identity client found => ?_, fun nobody => ?_⟩
    · obtain ⟨key, cell, served, slot⟩ := shown found
      refine ⟨key, cell, works ⟨_, served, rfl, fun entering => ?_, fun _ same => ?_⟩, served,
        fun surroundings => client?_advance_served later.custody.coherent stays served slot surroundings⟩
      · cases entering
      · cases same
    · have nothing (identity : Identity) :
          (threads.run shards more).fleet.registry.client? identity = none := by
        cases found : (threads.run shards more).fleet.registry.client? identity with
        | none => rfl
        | some client =>
            obtain ⟨key, cell, served, -⟩ := shown found
            exact absurd rfl (nobody _ (List.mem_of_getElem? served) cell client)
      refine ⟨nothing, List.length_eq_zero_iff.mpr (List.eq_nil_iff_forall_not_mem.mpr ?_)⟩
      rintro ⟨identity, client⟩ member
      rw [Registry.mem_cached_iff later.custody.coherent.distinct, nothing] at member
      cases member
  · rcases sound.custody.held started with isLost | held
    · exact notLost isLost
    · exact not_held closed settled noShutdown callsOver held

/-- A call has looked for the last time and not answered, and another one has found the registry open and
not taken its slot, when a shutdown comes and goes. -/
def shutDownInBetween : List Fleet.Action :=
  .request ⟨"localhost", "/app"⟩ :: List.replicate 8 (.advance 0 Fleet.atEase) ++
    [.request ⟨"localhost", "/late"⟩, .advance 1 Fleet.atEase, .addCoordinator, .beginShutdown 0] ++
    List.replicate 9 (.advanceShutdown 0 Fleet.atEase)

/-- The two calls go on. -/
def lateCalls : List Fleet.Action :=
  .advance 0 Fleet.atEase :: List.replicate 6 (.advance 1 Fleet.atEase)

/-- A shutdown that is over does not mean that no call answers a client, nor that the registry shows none:
a call that has looked for the last time still answers, and until its last look, a call that came late
shows its client. -/
theorem lateCalls_get_through :
    ((empty .default).run .single shutDownInBetween).fleet.registry.closing = true ∧
      ((empty .default).run .single shutDownInBetween).fleet.report? 0 =
        some ⟨[⟨"localhost", "/app"⟩], [], []⟩ ∧
      ((empty .default).run .single shutDownInBetween).answer? 0 = none ∧
      (((empty .default).run .single shutDownInBetween).run .single lateCalls).answer? 0 =
        some (.ok 0) ∧
      (((empty .default).run .single shutDownInBetween).run .single lateCalls).Settled ∧
      (((empty .default).run .single shutDownInBetween).run .single
        lateCalls).fleet.registry.client? ⟨"localhost", "/late"⟩ = some 1 ∧
      (((empty .default).run .single shutDownInBetween).run .single
        lateCalls).fleet.registry.size = 1 := by
  exact ⟨by decide +kernel, by decide +kernel, by decide +kernel, by decide +kernel, by decide +kernel,
    by decide +kernel, by decide +kernel⟩

/-- A client is cached for one identity; of two calls for another one, the first fails and the second is
about to build a client; and one more call has found the registry open, when it is shut down. -/
def shutDownAmidCalls : List Fleet.Action :=
  .request ⟨"localhost", "/app"⟩ :: List.replicate 8 (.advance 0 Fleet.atEase) ++
    [.request ⟨"localhost", "/other"⟩, .request ⟨"localhost", "/other"⟩] ++
    List.replicate 3 (.advance 1 Fleet.atEase) ++ List.replicate 3 (.advance 2 Fleet.atEase) ++
    [.advance 1 { Fleet.atEase with refusal := some (.internal "no route") },
      .request ⟨"localhost", "/late"⟩, .advance 3 Fleet.atEase, .addCoordinator, .beginShutdown 0,
      .advanceShutdown 0 Fleet.atEase, .advanceShutdown 0 Fleet.atEase]

/-- The drain comes to its end, and the late call to its client. -/
def drainAmidCalls : List Fleet.Action :=
  List.replicate 7 (.advanceShutdown 0 Fleet.atEase) ++ List.replicate 6 (.advance 3 Fleet.atEase)

/-- The calls and the shutdown come to their ends. -/
def endAfterDrain : List Fleet.Action :=
  List.replicate 2 (.advance 3 Fleet.atEase) ++ List.replicate 6 (.advance 2 Fleet.atEase) ++
    List.replicate 2 (.advanceShutdown 0 Fleet.atEase)

theorem shutDownAmidCalls_leaves_nothing :
    ((empty .default).run .single shutDownAmidCalls).fleet.registry.closing = true ∧
      (((empty .default).run .single shutDownAmidCalls).fleet.calls.length = 4 ∧
        ((empty .default).run .single shutDownAmidCalls).fleet.result? 2 = none ∧
        ∀ more client, (((empty .default).run .single shutDownAmidCalls).run .single
          more).answer? 2 ≠ some (.ok client)) ∧
      (∃ key cell : Nat,
        ((empty .default).run .single shutDownAmidCalls).AtWork ⟨"localhost", "/late"⟩ key ∧
          (((empty .default).run .single shutDownAmidCalls).run .single
            drainAmidCalls).fleet.calls[key]? =
              some ⟨⟨"localhost", "/late"⟩, .served cell 1⟩) ∧
      ∀ client ∈ [0, 1, 2],
        (((empty .default).run .single
          (shutDownAmidCalls ++ drainAmidCalls ++ endAfterDrain)).fleet.client client).state ≠
            .started := by
  have closed : ((empty .default).run .single shutDownAmidCalls).fleet.registry.closing = true := by
    decide +kernel
  have unfinished : ((empty .default).run .single shutDownAmidCalls).fleet.result? 2 = none := by
    decide +kernel
  have settled : (((empty .default).run .single shutDownAmidCalls).run .single
      drainAmidCalls).Settled := by decide +kernel
  have shown : (((empty .default).run .single shutDownAmidCalls).run .single
      drainAmidCalls).fleet.registry.client? ⟨"localhost", "/late"⟩ = some 1 := by decide +kernel
  obtain ⟨refused, late, -⟩ := no_client_escapes_shutdown rfl closed
  obtain ⟨key, cell, works, served, -⟩ := (late drainAmidCalls _ rfl settled).1 _ _ shown
  refine ⟨closed, ⟨by decide +kernel, unfinished, refused 2 unfinished⟩,
    ⟨key, cell, works, served⟩, fun client member => ?_⟩
  have closedAtEnd : ((empty .default).run .single
      (shutDownAmidCalls ++ drainAmidCalls ++ endAfterDrain)).fleet.registry.closing = true := by
    decide +kernel
  have built : ((empty .default).run .single
      (shutDownAmidCalls ++ drainAmidCalls ++ endAfterDrain)).fleet.built = [0, 1, 2] := by
    decide +kernel
  have noFailure : (empty .default).failedCloses .single
      (shutDownAmidCalls ++ drainAmidCalls ++ endAfterDrain) = [] := by decide +kernel
  obtain ⟨-, -, left⟩ := no_client_escapes_shutdown rfl closedAtEnd
  apply left (by decide +kernel) (Fleet.not_closing_of_reports (by decide +kernel))
    (Fleet.finished_of_results (by decide +kernel)) client
  · rw [built]
    exact member
  · rw [noFailure]
    exact List.not_mem_nil

end Threads

end LiveConfig
