import LiveConfig.Proofs.Registry.Clients
import LiveConfig.Proofs.Registry.Drains
import LiveConfig.Proofs.Registry.Shown

/-!
Contract: every client of a registry has one place.

A client is being started by one call, or it is in one cell of one slot; so no two entries of a registry
have the same client. Owns: this invariant, and the counters of clients, for runs in which everybody who
has a client takes turns with calls and shutdowns. Does not own: what shutdowns do with entries.
-/

namespace LiveConfig

namespace Client

variable {client : Client}

theorem undergo_closed (closed : client.state = .closed) (deed : Deed) :
    (client.undergo deed).state = .closed := by
  cases deed with
  | close fails => simp [undergo, close, closed]
  | start progress outcome =>
      exact (Fares.start progress outcome : client.Fares _).closed closed
  | watch path listener => rw [undergo, watch, requireStarted_of_closed closed, closed]
  | unwatch id => exact closed
  | dispatch isAlive feed =>
      rcases next : client.dispatchNext? isAlive feed with _ | ⟨deliveries, after⟩
      · simpa [undergo, next] using closed
      · simp only [undergo, next, Option.map_some, Option.getD_some]
        cases dispatched_of_dispatchNext? next <;> exact closed

theorem Counted.undergo (counted : client.Counted) (deed : Deed) : (client.undergo deed).Counted := by
  cases deed with
  | close fails => exact counted.close fails
  | start progress outcome =>
      exact (Fares.start progress outcome : client.Fares _).counted counted
  | watch path listener => exact counted.watch path listener
  | unwatch id => exact counted.of_same rfl rfl rfl
  | dispatch isAlive feed =>
      rcases next : client.dispatchNext? isAlive feed with _ | ⟨deliveries, after⟩
      · simpa [Client.undergo, next] using counted
      · simp only [Client.undergo, next, Option.map_some, Option.getD_some]
        exact counted.dispatched (dispatched_of_dispatchNext? next)

end Client

namespace Fleet

variable {fleet after : Fleet}

/-! ### Places -/

/-- Every client has one place, and a registry that is shut down has no slots. -/
structure Housed (fleet : Fleet) : Prop where
  coherent : fleet.Coherent
  drained : fleet.registry.closing = true → fleet.registry.slots = []
  unshared : fleet.registry.Unshared
  begun : ∀ {key client : Nat} {start : StartProgress}, fleet.Starts key client start →
    client < fleet.clients.length ∧ ∀ cell, (fleet.registry.cell cell).client ≠ some client
  sole : ∀ {key other client : Nat} {start otherStart : StartProgress},
    fleet.Starts key client start → fleet.Starts other client otherStart → key = other
  filled : ∀ {cell client : Nat}, (fleet.registry.cell cell).client = some client →
    client < fleet.clients.length
  apart : ∀ {cell other client : Nat}, (fleet.registry.cell cell).client = some client →
    (fleet.registry.cell other).client = some client → cell = other

namespace Housed

theorem empty (retry : RetryPolicy) : (Fleet.empty retry).Housed where
  coherent := .empty retry
  drained := fun _ => rfl
  unshared := List.nodup_nil
  begun := fun ⟨_, _, found, _⟩ => nomatch found
  sole := fun ⟨_, _, found, _⟩ => nomatch found
  filled := fun held => nomatch held
  apart := fun held => nomatch held

/-- A change by which no start begins, no cell is filled, and no client goes. -/
theorem ofSame (housed : fleet.Housed) (coherent : after.Coherent)
    (drained : after.registry.closing = true → after.registry.slots = [])
    (unshared : after.registry.Unshared)
    (cells : ∀ cell, after.registry.cell cell = fleet.registry.cell cell)
    (starts : ∀ {key client : Nat} {start : StartProgress}, after.Starts key client start →
      fleet.Starts key client start)
    (clients : fleet.clients.length ≤ after.clients.length) : after.Housed where
  coherent := coherent
  drained := drained
  unshared := unshared
  begun := by
    intro key client start starting
    obtain ⟨inRange, notFilled⟩ := housed.begun (starts starting)
    refine ⟨Nat.lt_of_lt_of_le inRange clients, fun cell => ?_⟩
    rw [cells]
    exact notFilled cell
  sole := fun first second => housed.sole (starts first) (starts second)
  filled := by
    intro cell client held
    rw [cells] at held
    exact Nat.lt_of_lt_of_le (housed.filled held) clients
  apart := by
    intro cell other client held heldToo
    rw [cells] at held heldToo
    exact housed.apart held heldToo

/-- The clients of entries are different ones. -/
theorem nodup_cached (housed : fleet.Housed) : (fleet.registry.cached.map Prod.snd).Nodup := by
  have clients : fleet.registry.cached.map Prod.snd =
      (fleet.registry.slots.map Prod.snd).filterMap fun cell =>
        (fleet.registry.cell cell).client := by
    rw [Registry.cached, List.map_filterMap, List.filterMap_map]
    refine List.filterMap_congr fun slot _ => ?_
    simp [Function.comp_def]
  rw [clients]
  exact housed.unshared.filterMap fun cell other client held heldToo => housed.apart held heldToo

end Housed

/-! ### Steps of calls -/

variable {key : Nat} {call : Call} {made : Option Making}

/-- Who starts a client after a step has started it before, or has built it by the step. -/
theorem Advanced.starts (advanced : Advanced fleet after key call made)
    (found : fleet.calls[key]? = some call) {other client : Nat} {start : StartProgress}
    (starts : after.Starts other client start) :
    (∃ earlier, fleet.Starts other client earlier ∧
        (other = key → ∀ client, made ≠ some (.started client))) ∨
      other = key ∧ client = fleet.clients.length ∧ made = some (.built client) := by
  obtain ⟨next, moves, calls⟩ := advanced.calls
  obtain ⟨new, cell, foundNew, starting⟩ := starts
  by_cases own : other = key
  · subst own
    obtain rfl := Option.some.inj (calls.own.symm.trans foundNew)
    obtain rfl : next = _ := starting
    generalize progress : call.progress = before at moves
    cases moves with
    | build => exact .inr ⟨rfl, rfl, rfl⟩
    | goOn _ _ earlier => exact .inl ⟨earlier, ⟨call, cell, found, progress⟩, fun _ _ => nofun⟩
  · obtain ⟨old, foundOld, stays⟩ := calls.before own foundNew
    refine .inl ⟨start, ⟨old, cell, foundOld, ?_⟩, fun same => absurd same own⟩
    cases stays with
    | same => exact starting
    | next | served => cases starting

theorem Housed.advanced (housed : fleet.Housed) (found : fleet.calls[key]? = some call)
    (advanced : Advanced fleet after key call made) (coherent : after.Coherent)
    (closing : after.registry.closing = fleet.registry.closing) : after.Housed := by
  have startsBefore {other client : Nat} {start : StartProgress} :=
    @Advanced.starts fleet after key call made advanced found other client start
  -- The start that has succeeded is that of the call.
  have ended {client : Nat} (started : made = some (.started client)) :
      ∃ start, fleet.Starts key client start := by
    obtain ⟨next, moves, -⟩ := advanced.calls
    obtain ⟨cell, start, starting⟩ := (started ▸ moves).eq_starting
    exact ⟨start, call, cell, found, starting⟩
  have grown : fleet.clients.length ≤ after.clients.length := by
    rw [advanced.clients]
    exact Nat.le_add_right _ _
  have drained (closed : after.registry.closing = true) : after.registry.slots = [] := by
    have wasClosed : fleet.registry.closing = true := closing ▸ closed
    cases advanced.slots with
    | same kept => exact kept.trans (housed.drained wasClosed)
    | opened _ isOpen =>
        rw [wasClosed] at isOpen
        cases isOpen
    | withdrawn _ fewer => exact List.sublist_nil.mp (housed.drained wasClosed ▸ fewer)
  refine ⟨coherent, drained, advanced.unshared housed.coherent housed.unshared, fun {other client _} starts =>
    ⟨?_, fun cell held => ?_⟩, fun {first second client _ _} starts startsToo => ?_,
    fun {cell client} held => ?_, fun {cell other client} held heldToo => ?_⟩
  · rcases startsBefore starts with ⟨_, before, -⟩ | ⟨-, rfl, built⟩
    · exact Nat.lt_of_lt_of_le (housed.begun before).1 grown
    · rw [advanced.clients, built]
      exact Nat.lt_add_one _
  · rcases (advanced.cells cell client).mp held with heldBefore | ⟨started, -⟩
    · rcases startsBefore starts with ⟨_, before, -⟩ | ⟨-, rfl, -⟩
      · exact (housed.begun before).2 cell heldBefore
      · exact Nat.lt_irrefl _ (housed.filled heldBefore)
    · rcases startsBefore starts with ⟨_, before, notEnded⟩ | ⟨-, -, built⟩
      · obtain ⟨_, own⟩ := ended started
        exact notEnded (housed.sole before own) client started
      · rw [started] at built
        cases built
  · rcases startsBefore starts with ⟨_, before, -⟩ | ⟨rfl, rfl, -⟩ <;>
      rcases startsBefore startsToo with ⟨_, beforeToo, -⟩ | ⟨rfl, same, -⟩
    · exact housed.sole before beforeToo
    · exact absurd (housed.begun before).1 (same ▸ Nat.lt_irrefl _)
    · exact absurd (housed.begun beforeToo).1 (Nat.lt_irrefl _)
    · rfl
  · rcases (advanced.cells cell client).mp held with heldBefore | ⟨started, -⟩
    · exact Nat.lt_of_lt_of_le (housed.filled heldBefore) grown
    · obtain ⟨_, own⟩ := ended started
      exact Nat.lt_of_lt_of_le (housed.begun own).1 grown
  · rcases (advanced.cells cell client).mp held with heldBefore | ⟨started, works⟩ <;>
      rcases (advanced.cells other client).mp heldToo with heldBeforeToo | ⟨startedToo, worksToo⟩
    · exact housed.apart heldBefore heldBeforeToo
    · obtain ⟨_, own⟩ := ended startedToo
      exact absurd heldBefore ((housed.begun own).2 cell)
    · obtain ⟨_, own⟩ := ended started
      exact absurd heldBeforeToo ((housed.begun own).2 other)
    · exact Option.some.inj (works.symm.trans worksToo)

/-! ### Turns -/

namespace Housed

theorem advance (housed : fleet.Housed) (key : Nat) (surroundings : Surroundings) :
    (fleet.advance key surroundings).Housed := by
  have coherent := (keeps_advance housed.coherent key surroundings).coherent
  cases found : fleet.calls[key]? with
  | none => simpa only [Fleet.advance, found] using housed
  | some call =>
      exact housed.advanced found (advanced_of_advance housed.coherent found surroundings) coherent
        (fleet.advance_leaves key surroundings).2

theorem request (housed : fleet.Housed) (identity : Identity) :
    (fleet.request identity).2.Housed := by
  refine housed.ofSame (housed.coherent.request identity) housed.drained housed.unshared
    (fun _ => rfl) ?_ (Nat.le_refl _)
  rintro key client start ⟨call, cell, found, starting⟩
  rcases Registry.cases_append found with old | rfl
  · exact ⟨call, cell, old, starting⟩
  · cases starting

theorem advanceShutdown (housed : fleet.Housed) (key : Nat) (surroundings : Surroundings) :
    (fleet.advanceShutdown key surroundings).Housed := by
  have coherent := (keeps_advanceShutdown housed.coherent key surroundings).coherent
  obtain ⟨length, calls, cells, slots⟩ := (fleet.drains_of_advanceShutdown key surroundings).leaves
  refine housed.ofSame coherent (fun closed => ?_) ?_
    (fun cell => by simp only [Registry.cell, cells]) ?_ (Nat.le_of_eq length.symm)
  · rcases slots with ⟨closing, same⟩ | gone
    · exact same.trans (housed.drained (closing ▸ closed))
    · exact gone
  · rcases slots with ⟨-, same⟩ | gone
    · rw [Registry.Unshared, same]
      exact housed.unshared
    · rw [Registry.Unshared, gone]
      exact List.nodup_nil
  · rintro key client start ⟨call, cell, found, starting⟩
    exact ⟨call, cell, calls ▸ found, starting⟩

theorem turn (housed : fleet.Housed) (turn : Turn) : (fleet.turn turn).Housed := by
  -- Whoever changes or makes clients leaves calls and cells alone.
  have ofClients {clients : List Client} (grown : fleet.clients.length ≤ clients.length) :
      Housed { fleet with clients := clients } :=
    housed.ofSame housed.coherent housed.drained housed.unshared (fun _ => rfl) id grown
  cases turn with
  | deed client deed => exact ofClients (Nat.le_of_eq List.length_set.symm)
  | make connectString store retry => exact ofClients (by simp)
  | own action =>
      cases action with
      | request identity => exact housed.request identity
      | advance key surroundings => exact housed.advance key surroundings
      | addCoordinator | beginShutdown =>
          exact housed.ofSame housed.coherent housed.drained housed.unshared (fun _ => rfl) id
            (Nat.le_refl _)
      | advanceShutdown key surroundings => exact housed.advanceShutdown key surroundings

theorem turns (housed : fleet.Housed) (turns : List Turn) : (fleet.after turns).Housed := by
  induction turns generalizing fleet with
  | nil => exact housed
  | cons turn rest inductionHypothesis => exact inductionHypothesis (housed.turn turn)

theorem closing_turns (housed : fleet.Housed) (closed : fleet.registry.closing = true)
    (turns : List Turn) : (fleet.after turns).registry.closing = true := by
  induction turns generalizing fleet with
  | nil => exact closed
  | cons turn rest inductionHypothesis =>
      refine inductionHypothesis (housed.turn turn) ?_
      cases turn with
      | own action => exact (keeps_step housed.coherent action).grows.closing closed
      | deed | make => exact closed

/-- On one thread, where a call comes to its cell and a drain to its end without a pause, the registry
shows nothing from the moment at which it is shut down, whatever turns are taken. -/
theorem shows_nothing (housed : fleet.Housed) (closed : fleet.registry.closing = true)
    (turns : List Turn) :
    (∀ identity, (fleet.after turns).registry.client? identity = none) ∧
      (fleet.after turns).registry.size = 0 := by
  have noSlots := (housed.turns turns).drained (housed.closing_turns closed turns)
  refine ⟨fun identity => ?_, ?_⟩
  · simp [Registry.client?, Registry.slot?, noSlots]
  · simp [Registry.size, Registry.cached, noSlots]

end Housed

/-! ### Clients -/

theorem turn_closed {client : Nat} (closed : (fleet.client client).state = .closed) (turn : Turn) :
    ((fleet.turn turn).client client).state = .closed := by
  cases turn with
  | own action => exact (fleet.fares_step action client).closed closed
  | make connectString store retry =>
      exact (fleet.fares_addClient connectString store retry client).closed closed
  | deed other deed =>
      rw [Fleet.turn, client_setClient]
      split
      · rename_i same
        exact Client.undergo_closed (same.1 ▸ closed) deed
      · exact closed

theorem turn_counted (counted : ∀ client, (fleet.client client).Counted) (turn : Turn)
    (client : Nat) : ((fleet.turn turn).client client).Counted := by
  cases turn with
  | own action => exact (fleet.fares_step action client).counted (counted client)
  | make connectString store retry =>
      exact (fleet.fares_addClient connectString store retry client).counted (counted client)
  | deed other deed =>
      rw [Fleet.turn, client_setClient]
      split
      · exact (counted other).undergo deed
      · exact counted client

/-- Whoever has a client, it goes one way. -/
theorem after_counted (counted : ∀ client, (fleet.client client).Counted) (turns : List Turn) :
    ∀ client, ((fleet.after turns).client client).Counted := by
  induction turns generalizing fleet with
  | nil => exact counted
  | cons turn rest inductionHypothesis => exact inductionHypothesis (turn_counted counted turn)

end Fleet

end LiveConfig
