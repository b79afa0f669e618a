import LiveConfig.Proofs.Identity
import LiveConfig.Proofs.Registry.Owners

/-!
Contract: the reports of shutdowns share out the clients of a registry.

The first shutdown that takes clients out takes all of them, and deals with one after the other; whatever
shutdowns there are besides, and whatever befalls the clients meanwhile, nobody else deals with them.
Owns: this invariant, and what the reports say of what was done. Does not own: what becomes of clients
that are made afterwards.
-/

namespace LiveConfig

/-- The report of a shutdown that has dealt with these clients, in order. -/
def ShutdownReport.of (dealings : List Dealing) : ShutdownReport where
  closed := (dealings.filter (·.treatment = .closed)).map Dealing.identity
  skipped := (dealings.filter (·.treatment = .skipped)).map Dealing.identity
  failures := dealings.filterMap Dealing.failure?

theorem ShutdownReport.of_concat (dealings : List Dealing) (dealing : Dealing) :
    of (dealings ++ [dealing]) = (of dealings).add dealing.identity dealing.treatment := by
  obtain ⟨shutdown, identity, client, treatment⟩ := dealing
  cases treatment <;> simp [of, add, Dealing.failure?]

/-- A shutdown that has no client to deal with and says so. -/
inductive ShutdownProgress.Idle : ShutdownProgress → Prop where
  | entering (coordinator : Nat) : Idle (.entering coordinator)
  | closing : Idle (.closing [] .empty)
  | finished : Idle (.finished .empty)

namespace Fleet

/-- Whether a turn is a step of the shutdown of a key. -/
def Turn.advances (key : Nat) : Turn → Bool
  | .own (.advanceShutdown shutdown _) => shutdown = key
  | .own _ | .deed .. | .make .. => false

variable {fleet : Fleet} {key : Nat} {taken : List (Identity × Nat)} {dealings : List Dealing}
  {steps : Nat}

/-! ### Turns -/

/-- A turn is a step of a shutdown, or begins one, or leaves them alone. -/
theorem turn_cases (fleet : Fleet) (turn : Turn) :
    (∃ key surroundings, turn = .own (.advanceShutdown key surroundings)) ∨
      (fleet.dealing? turn = none ∧ (∀ key, turn.advances key = false) ∧
        (fleet.turn turn).registry.closing = fleet.registry.closing ∧
        ((fleet.turn turn).shutdowns = fleet.shutdowns ∨ ∃ coordinator,
          (fleet.turn turn).shutdowns = fleet.shutdowns ++ [.entering coordinator])) := by
  cases turn with
  | deed | make => exact .inr ⟨rfl, fun _ => rfl, rfl, .inl rfl⟩
  | own action =>
      cases action with
      | advanceShutdown key surroundings => exact .inl ⟨key, surroundings, rfl⟩
      | advance key surroundings =>
          obtain ⟨shutdowns, closing⟩ := fleet.advance_leaves key surroundings
          exact .inr ⟨rfl, fun _ => rfl, closing, .inl shutdowns⟩
      | request | addCoordinator => exact .inr ⟨rfl, fun _ => rfl, rfl, .inl rfl⟩
      | beginShutdown coordinator => exact .inr ⟨rfl, fun _ => rfl, rfl, .inr ⟨coordinator, rfl⟩⟩

/-! ### Idle shutdowns -/

/-- All shutdowns are idle, but for a busy one. -/
def IdleBut (busy : Option Nat) (shutdowns : List ShutdownProgress) : Prop :=
  ∀ key progress, busy ≠ some key → shutdowns[key]? = some progress → progress.Idle

theorem IdleBut.append {busy : Option Nat} {shutdowns : List ShutdownProgress}
    (idle : IdleBut busy shutdowns) (coordinator : Nat) :
    IdleBut busy (shutdowns ++ [.entering coordinator]) := by
  intro key progress notBusy found
  rcases Nat.lt_or_ge key shutdowns.length with below | beyond
  · rw [List.getElem?_append_left below] at found
    exact idle key progress notBusy found
  · rw [List.getElem?_append_right beyond] at found
    obtain rfl := List.mem_singleton.mp (List.mem_of_getElem? found)
    exact .entering coordinator

theorem IdleBut.set {busy : Option Nat} {shutdowns : List ShutdownProgress}
    (idle : IdleBut busy shutdowns) {moved : Nat} {next : ShutdownProgress}
    (harmless : busy ≠ some moved → next.Idle) : IdleBut busy (shutdowns.set moved next) := by
  intro key progress notBusy found
  by_cases same : moved = key
  · subst same
    rw [List.getElem?_set_self'] at found
    obtain ⟨_, -, rfl⟩ := Option.map_eq_some_iff.mp found
    exact harmless notBusy
  · rw [List.getElem?_set_ne same] at found
    exact idle key progress notBusy found

/-! ### Invariants -/

/-- No clients have been taken out. -/
structure Untaken (fleet : Fleet) : Prop where
  isOpen : fleet.registry.closing = false
  idle : IdleBut none fleet.shutdowns

/-- A shutdown has dealt with the first of the clients that were taken out, in so many steps. -/
inductive Deals (taken : List (Identity × Nat)) (dealings : List Dealing) (steps : Nat) :
    ShutdownProgress → Prop where
  | closing (left : List (Identity × Nat)) (share : dealings.map Dealing.entry ++ left = taken)
      (count : steps = dealings.length) : Deals taken dealings steps (.closing left (.of dealings))
  | finished (all : dealings.map Dealing.entry = taken) :
      Deals taken dealings steps (.finished (.of dealings))

/-- One shutdown has taken all clients out and deals with them, and no other has any. -/
structure Taken (fleet : Fleet) (key : Nat) (taken : List (Identity × Nat))
    (dealings : List Dealing) (steps : Nat) : Prop where
  closed : fleet.registry.closing = true
  own : ∃ progress, fleet.shutdowns[key]? = some progress ∧ Deals taken dealings steps progress
  idle : IdleBut (some key) fleet.shutdowns
  dealt : ∀ dealing ∈ dealings, dealing.shutdown = key ∧
    (dealing.treatment = .closed → (fleet.client dealing.client).state = .closed)

/-- A client that a shutdown has closed is closed. -/
theorem closed_of_treatment {client : Nat} {surroundings : Surroundings}
    (treated : fleet.treatment client surroundings = .closed) :
    (Fleet.client { fleet with clients := fleet.dealtWith client surroundings } client).state =
      .closed := by
  unfold treatment at treated
  unfold dealtWith
  split at treated
  · rename_i started
    rw [if_pos started]
    rcases closed_or_closeFailure? (lt_of_started started) surroundings with closed | failed
    · exact closed
    · unfold closeFailure? at failed
      split at treated
      · rename_i succeeded
        rw [succeeded] at failed
        cases failed
      · cases treated
  · cases treated

namespace Taken

/-- What befalls clients, and what shutdowns begin, changes nothing in what was taken out. -/
theorem pass {after : Fleet} (held : fleet.Taken key taken dealings steps)
    (closing : after.registry.closing = fleet.registry.closing)
    (shutdowns : after.shutdowns = fleet.shutdowns ∨
      ∃ coordinator, after.shutdowns = fleet.shutdowns ++ [.entering coordinator])
    (closed : ∀ {client : Nat}, (fleet.client client).state = .closed →
      (after.client client).state = .closed) : after.Taken key taken dealings steps := by
  obtain ⟨progress, found, deals⟩ := held.own
  refine ⟨closing.trans held.closed, ⟨progress, ?_, deals⟩, ?_, fun dealing member => ?_⟩
  · rcases shutdowns with same | ⟨coordinator, grown⟩
    · exact same ▸ found
    · rw [grown]
      exact Registry.found_append found
  · rcases shutdowns with same | ⟨coordinator, grown⟩
    · exact same ▸ held.idle
    · rw [grown]
      exact held.idle.append coordinator
  · exact ⟨(held.dealt dealing member).1, fun treated => closed ((held.dealt dealing member).2 treated)⟩

/-- Another shutdown has nothing to deal with. -/
theorem other {moved : Nat} {next : ShutdownProgress} (held : fleet.Taken key taken dealings steps)
    (different : moved ≠ key) (idle : next.Idle) (coordinators : List Bool) {registry : Registry}
    (closed : registry.closing = true) :
    Taken { fleet with
      registry := registry, coordinators := coordinators
      shutdowns := fleet.shutdowns.set moved next } key taken dealings steps := by
  obtain ⟨progress, found, deals⟩ := held.own
  refine ⟨closed, ⟨progress, ?_, deals⟩, held.idle.set fun _ => idle, held.dealt⟩
  exact (List.getElem?_set_ne different).trans found

/-- What another shutdown is found at is idle. -/
theorem idle_of_ne {other : Nat} {progress : ShutdownProgress}
    (held : fleet.Taken key taken dealings steps) (different : other ≠ key)
    (found : fleet.shutdowns[other]? = some progress) : progress.Idle :=
  held.idle other progress (fun same => different (Option.some.inj same).symm) found

/-- The shutdown that took the clients out gets on with them. -/
theorem own_step (held : fleet.Taken key taken dealings steps) (surroundings : Surroundings) :
    (fleet.advanceShutdown key surroundings).Taken key taken
      (dealings ++ (fleet.dealing? (.own (.advanceShutdown key surroundings))).toList)
      (steps + 1) := by
  have drains := fleet.drains_of_advanceShutdown key surroundings
  have closed {client : Nat} :=
    (fleet.fares_step (.advanceShutdown key surroundings) client).closed
  rw [Fleet.step] at closed
  obtain ⟨progress, found, deals⟩ := held.own
  obtain ⟨below, -⟩ := List.getElem?_eq_some_iff.mp found
  generalize fleet.advanceShutdown key surroundings = after at drains closed ⊢
  cases deals with
  | finished all =>
      have noDealing : fleet.dealing? (.own (.advanceShutdown key surroundings)) = none := by
        simp only [dealing?, found]
      rw [noDealing, Option.toList_none, List.append_nil]
      cases drains with
      | missing noShutdown => simp [noShutdown] at found
      | takes foundToo | idles foundToo | deals foundToo | ends foundToo =>
          cases found.symm.trans foundToo
      | rests foundToo =>
          obtain rfl := ShutdownProgress.finished.inj (Option.some.inj (found.symm.trans foundToo))
          exact ⟨held.closed, ⟨_, List.getElem?_set_self below, .finished all⟩,
            held.idle.set fun notOwn => absurd rfl notOwn, held.dealt⟩
  | closing left share count =>
      cases drains with
      | missing noShutdown => simp [noShutdown] at found
      | takes foundToo | idles foundToo | rests foundToo => cases found.symm.trans foundToo
      | ends foundToo =>
          obtain ⟨rfl, rfl⟩ :=
            ShutdownProgress.closing.inj (Option.some.inj (found.symm.trans foundToo))
          have noDealing : fleet.dealing? (.own (.advanceShutdown key surroundings)) = none := by
            simp only [dealing?, found]
          rw [noDealing, Option.toList_none, List.append_nil]
          rw [List.append_nil] at share
          exact ⟨held.closed, ⟨_, List.getElem?_set_self below, .finished share⟩,
            held.idle.set fun notOwn => absurd rfl notOwn, held.dealt⟩
      | deals foundToo =>
          rename_i identity client left _
          obtain ⟨rfl, rfl⟩ :=
            ShutdownProgress.closing.inj (Option.some.inj (found.symm.trans foundToo))
          have dealing : fleet.dealing? (.own (.advanceShutdown key surroundings)) =
              some ⟨key, identity, client, fleet.treatment client surroundings⟩ := by
            simp only [dealing?, found]
          rw [dealing, Option.toList_some]
          refine ⟨held.closed, ⟨_, List.getElem?_set_self below, ?_⟩,
            held.idle.set fun notOwn => absurd rfl notOwn, fun dealing member => ?_⟩
          · have told := ShutdownReport.of_concat dealings
              ⟨key, identity, client, fleet.treatment client surroundings⟩
            rw [← told]
            refine .closing left ?_ (by simp [count])
            rw [← share, List.map_append, List.append_assoc]
            rfl
          · rcases List.mem_append.mp member with old | newest
            · exact ⟨(held.dealt dealing old).1,
                fun treated => closed ((held.dealt dealing old).2 treated)⟩
            · obtain rfl := List.mem_singleton.mp newest
              exact ⟨rfl, closed_of_treatment⟩

theorem advanceShutdown (held : fleet.Taken key taken dealings steps) (housed : fleet.Housed)
    (moved : Nat) (surroundings : Surroundings) :
    (fleet.advanceShutdown moved surroundings).Taken key taken
      (dealings ++ (fleet.dealing? (.own (.advanceShutdown moved surroundings))).toList)
      (steps + if moved = key then 1 else 0) := by
  by_cases own : moved = key
  · subst own
    rw [if_pos rfl]
    exact held.own_step surroundings
  · rw [if_neg own, Nat.add_zero]
    have drains := fleet.drains_of_advanceShutdown moved surroundings
    have noDealing : fleet.dealing? (.own (.advanceShutdown moved surroundings)) = none := by
      simp only [dealing?]
      split
      · rename_i found
        cases held.idle_of_ne own found
      · rfl
    rw [noDealing, Option.toList_none, List.append_nil]
    generalize fleet.advanceShutdown moved surroundings = after at drains ⊢
    cases drains with
    | missing => exact held
    | takes found =>
        -- There is nothing left in the registry.
        have nothing : fleet.registry.drain.1 = [] := by
          have noSlots := housed.drained held.closed
          simp [Registry.drain, Registry.cached, noSlots]
        rw [nothing]
        exact held.other own .closing _ rfl
    | idles found => exact held.other own .finished _ held.closed
    | deals found => cases held.idle_of_ne own found
    | ends found =>
        cases held.idle_of_ne own found
        exact held.other own .finished _ held.closed
    | rests found =>
        cases held.idle_of_ne own found
        exact held.other own .finished _ held.closed

theorem turn (held : fleet.Taken key taken dealings steps) (housed : fleet.Housed)
    (turn : Turn) :
    (fleet.turn turn).Taken key taken (dealings ++ (fleet.dealing? turn).toList)
      (steps + if turn.advances key then 1 else 0) := by
  rcases fleet.turn_cases turn with ⟨moved, surroundings, rfl⟩ | ⟨noDealing, others, closing, shutdowns⟩
  · simp only [Turn.advances, decide_eq_true_eq]
    exact held.advanceShutdown housed moved surroundings
  · rw [noDealing, others key, Option.toList_none, List.append_nil]
    exact held.pass closing shutdowns fun closed => turn_closed closed turn

/-- Once the clients are taken out, turns only have them dealt with. -/
theorem turns (held : fleet.Taken key taken dealings steps) (housed : fleet.Housed)
    (turns : List Turn) :
    (fleet.after turns).Taken key taken (dealings ++ fleet.dealings turns)
      (steps + turns.countP (·.advances key)) := by
  induction turns generalizing fleet dealings steps with
  | nil => simpa [Fleet.dealings, Fleet.after] using held
  | cons turn rest inductionHypothesis =>
      have later := inductionHypothesis (held.turn housed turn) (housed.turn turn)
      rw [List.append_assoc, Nat.add_assoc] at later
      rw [List.countP_cons, Nat.add_comm (List.countP _ rest)]
      exact later

end Taken

namespace Untaken

theorem empty (retry : RetryPolicy) : (Fleet.empty retry).Untaken := ⟨rfl, fun _ _ _ found => nomatch found⟩

/-- One step of one shutdown takes the clients out, or they stay. -/
theorem advanceShutdown (held : fleet.Untaken) (key : Nat) (surroundings : Surroundings) :
    fleet.dealing? (.own (.advanceShutdown key surroundings)) = none ∧
      ((fleet.advanceShutdown key surroundings).Untaken ∨
        (fleet.advanceShutdown key surroundings).Taken key fleet.registry.drain.1 [] 0) := by
  have drains := fleet.drains_of_advanceShutdown key surroundings
  have idle {progress : ShutdownProgress} (found : fleet.shutdowns[key]? = some progress) :
      progress.Idle := held.idle key progress nofun found
  refine ⟨?_, ?_⟩
  · simp only [dealing?]
    split
    · rename_i found
      cases idle found
    · rfl
  generalize fleet.advanceShutdown key surroundings = after at drains ⊢
  have rests {next : ShutdownProgress} (harmless : next.Idle) :
      Untaken { fleet with shutdowns := fleet.shutdowns.set key next } :=
    ⟨held.isOpen, held.idle.set fun _ => harmless⟩
  cases drains with
  | missing => exact .inl held
  | idles => exact .inl (rests .finished)
  | deals found => cases idle found
  | ends found | rests found =>
      cases idle found
      exact .inl (rests .finished)
  | takes found =>
      obtain ⟨below, -⟩ := List.getElem?_eq_some_iff.mp found
      have othersIdle : IdleBut (some key) fleet.shutdowns := fun other progress _ foundOther =>
        held.idle other progress nofun foundOther
      exact .inr ⟨rfl, ⟨_, List.getElem?_set_self below, .closing _ rfl rfl⟩,
        othersIdle.set fun notOwn => absurd rfl notOwn, fun dealing member => nomatch member⟩

theorem turn (held : fleet.Untaken) (turn : Turn) :
    fleet.dealing? turn = none ∧ ((fleet.turn turn).Untaken ∨ ∃ key surroundings,
      turn = .own (.advanceShutdown key surroundings) ∧
        (fleet.turn turn).Taken key fleet.registry.drain.1 [] 0) := by
  rcases fleet.turn_cases turn with ⟨key, surroundings, rfl⟩ | ⟨noDealing, -, closing, shutdowns⟩
  · obtain ⟨noDealing, untaken | taken⟩ := held.advanceShutdown key surroundings
    · exact ⟨noDealing, .inl untaken⟩
    · exact ⟨noDealing, .inr ⟨key, surroundings, rfl, taken⟩⟩
  · refine ⟨noDealing, .inl ⟨closing.trans held.isOpen, ?_⟩⟩
    rcases shutdowns with same | ⟨coordinator, grown⟩
    · exact same ▸ held.idle
    · rw [grown]
      exact held.idle.append coordinator

/-- At some moment of several turns one shutdown takes the clients out, or nobody does. -/
theorem turns (held : fleet.Untaken) (housed : fleet.Housed) (turns : List Turn) :
    ((fleet.after turns).Untaken ∧ fleet.dealings turns = []) ∨
      ∃ before key surroundings later,
        turns = before ++ .own (.advanceShutdown key surroundings) :: later ∧
          (fleet.after before).Untaken ∧ (fleet.after before).Housed ∧
          ((fleet.after before).advanceShutdown key surroundings).registry.closing = true ∧
          (fleet.after turns).Taken key (fleet.after before).registry.drain.1 (fleet.dealings turns)
            (later.countP (·.advances key)) := by
  induction turns generalizing fleet with
  | nil => exact .inl ⟨held, rfl⟩
  | cons turn rest inductionHypothesis =>
      obtain ⟨noDealing, untaken | ⟨key, surroundings, rfl, taken⟩⟩ := held.turn turn
      · have housedAfter := housed.turn turn
        rw [Fleet.dealings, noDealing, Option.toList_none, List.nil_append]
        rcases inductionHypothesis untaken housedAfter with nothing | ⟨before, key, surroundings, later,
          rfl, untakenBefore, housedBefore, closed, taken⟩
        · exact .inl nothing
        · exact .inr ⟨turn :: before, key, surroundings, later, rfl, untakenBefore, housedBefore,
            closed, taken⟩
      · have later := taken.turns (housed.turn _) rest
        rw [List.nil_append, Nat.zero_add] at later
        rw [Fleet.dealings, noDealing, Option.toList_none, List.nil_append]
        exact .inr ⟨[], key, surroundings, rest, rfl, held, housed, taken.closed, later⟩

end Untaken

end Fleet

end LiveConfig
