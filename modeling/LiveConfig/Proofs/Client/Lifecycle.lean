import LiveConfig.Proofs.Client.Dispatch
import LiveConfig.Proofs.Store.Log
import Mathlib.Tactic.ByContra

/-!
Contract: what the turns of a run do to a client.

A client follows the feed exactly while it is started, and has watches only then. Owns: this invariant,
what a turn leaves of the client, of its store and of the listeners, and the kinds of turn of the
dispatcher. Any other turn delivers nothing, and neither moves the dispatcher nor adds a watch for any
listener but the one that it registers.
-/

namespace LiveConfig

namespace Client

/-- The parts of a client agree with its state. -/
structure WellFormed (client : Client) : Prop where
  follows : client.position.isSome ↔ client.state = .started
  unwatched : client.state ≠ .started → client.watches = []

theorem WellFormed.fresh (connectString store : String) (retry : RetryPolicy) :
    (Client.fresh connectString store retry).WellFormed :=
  ⟨by simp [Client.fresh], fun _ => rfl⟩

variable {client : Client}

theorem WellFormed.connected (wellFormed : client.WellFormed) (position : Nat) :
    (client.connected position).WellFormed := by
  unfold Client.connected
  split
  · exact ⟨by simp, fun notStarted => absurd rfl notStarted⟩
  · exact wellFormed
  · exact wellFormed

theorem WellFormed.close (wellFormed : client.WellFormed) (fails : Bool) :
    (client.close fails).2.WellFormed := by
  unfold Client.close
  split
  · exact wellFormed
  all_goals
    split
    · exact wellFormed
    · exact ⟨by simp, fun _ => rfl⟩

theorem started_of_requireStarted {answer : Unit} (served : client.requireStarted = .ok answer) :
    client.state = .started := by
  unfold requireStarted at served
  split at served
  · assumption
  · cases served

theorem WellFormed.watch (wellFormed : client.WellFormed) (path : String) (listener : Listener) :
    (client.watch path listener).2.WellFormed := by
  unfold Client.watch
  split
  · exact wellFormed
  · rename_i served
    have started := started_of_requireStarted served
    split
    · exact wellFormed
    · exact ⟨wellFormed.follows, fun notStarted => absurd started notStarted⟩

theorem WellFormed.unwatch (wellFormed : client.WellFormed) (id : Nat) :
    (client.unwatch id).2.WellFormed := by
  refine ⟨wellFormed.follows, fun notStarted => ?_⟩
  simp [Client.unwatch, wellFormed.unwatched notStarted]

theorem WellFormed.dispatched (wellFormed : client.WellFormed) {isAlive : Listener → Bool}
    {feed : Array Notification} {deliveries : List Delivery} {after : Client}
    (dispatched : client.Dispatched isAlive feed deliveries after) : after.WellFormed := by
  cases dispatched with
  | told follows found kept =>
      have started := wellFormed.follows.mp (by simp [follows])
      exact ⟨by simp [started], fun notStarted => absurd started notStarted⟩
  | lagged follows behind =>
      have started := wellFormed.follows.mp (by simp [follows])
      exact ⟨by simp [started], fun notStarted => absurd started notStarted⟩

theorem WellFormed.position_of_watch (wellFormed : client.WellFormed) {watch : Watch}
    (member : watch ∈ client.watches) : ∃ position, client.position = some position := by
  have started : client.state = .started := by
    by_contra notStarted
    rw [wellFormed.unwatched notStarted] at member
    cases member
  exact Option.isSome_iff_exists.mp (wellFormed.follows.mpr started)

theorem WellFormed.position_of_closed (wellFormed : client.WellFormed)
    (closed : client.state = .closed) : client.position = none := by
  simpa [closed] using wellFormed.follows

theorem WellFormed.watches_of_closed (wellFormed : client.WellFormed)
    (closed : client.state = .closed) : client.watches = [] :=
  wellFormed.unwatched (by simp [closed])

/-- A step of a start leaves its client, or connects it at the position that was answered. -/
theorem start_step_client (client : Client) (outcome : Except StoreError Nat)
    (progress : StartProgress) :
    (progress.step client outcome).2 = client ∨
      ∃ position, outcome = .ok position ∧
        (progress.step client outcome).2 = client.connected position := by
  cases progress with
  | entering => exact .inl rfl
  | connecting retry =>
      cases outcome with
      | ok position => exact .inr ⟨position, rfl, rfl⟩
      | error error =>
          left
          simp only [StartProgress.step, StartProgress.attempt]
          split <;> rfl
  | pausing retry pause => exact .inl rfl
  | finished result => exact .inl rfl

end Client

namespace ClientRun

variable {run : ClientRun}

theorem connect_le {store : Store} {position : Nat} (connected : store.connect = .ok position) :
    position = store.feed.size := by
  unfold Store.connect at connected
  split at connected
  · exact (Except.ok.inj connected).symm
  · cases connected

/-- What a turn makes of the client. Turns that concern somebody else leave it. -/
inductive Leaves (run : ClientRun) : ClientAction → Client → Prop where
  | same {action : ClientAction} : Leaves run action run.client
  | connected {key position : Nat} (answered : run.store.connect = .ok position) :
      Leaves run (.advanceStart key) (run.client.connected position)
  | closed : Leaves run .close (run.client.close run.store.closeFails).2
  | watched (path : String) (listener : Listener) :
      Leaves run (.watch path listener) (run.client.watch path listener).2
  | unwatched (id : Nat) : Leaves run (.unwatch id) (run.client.unwatch id).2
  | dispatched {deliveries : List Delivery} {after : Client}
      (dispatched : run.client.Dispatched run.isAlive run.store.feed deliveries after) :
      Leaves run .dispatch after

theorem step_leaves (run : ClientRun) (action : ClientAction) :
    run.Leaves action (run.step action).client := by
  cases action with
  | store | beginStart | lose => exact .same
  | create path data =>
      simp only [step, ask, Client.serve]
      split <;> exact .same
  | advanceStart key =>
      simp only [step, advanceStart]
      split
      · exact .same
      · rename_i progress found
        rcases Client.start_step_client run.client run.store.connect progress with
          same | ⟨position, answered, connected⟩
        · rw [same]
          exact .same
        · rw [connected]
          exact .connected answered
  | close => exact .closed
  | watch path listener =>
      simp only [step, ask, Client.serve]
      split
      · exact .same
      · exact .watched path listener
  | unwatch id => exact .unwatched id
  | dispatch =>
      simp only [step, dispatch]
      split
      · exact .same
      · rename_i next
        exact .dispatched (Client.dispatched_of_dispatchNext? next)

/-- A step of a start concerns the client and the starts. -/
theorem advanceStart_around (run : ClientRun) (key : Nat) :
    ∃ client starts, run.advanceStart key = { run with client := client, starts := starts } := by
  unfold advanceStart
  split <;> exact ⟨_, _, rfl⟩

/-- A step of the dispatcher concerns the client and the deliveries. -/
theorem dispatch_around (run : ClientRun) :
    ∃ client delivered, run.dispatch = { run with client := client, delivered := delivered } := by
  unfold dispatch
  split <;> exact ⟨_, _, rfl⟩

theorem step_changes (run : ClientRun) (action : ClientAction) :
    Store.Changes run.store (run.step action).store := by
  cases action with
  | store command => exact run.store.perform_changes command
  | create path data =>
      simp only [step, ask, Client.serve]
      split
      · exact .refl
      · exact run.store.create_changes path data
  | advanceStart key =>
      obtain ⟨client, starts, after⟩ := run.advanceStart_around key
      rw [step, after]
  | watch path listener =>
      simp only [step, ask, Client.serve]
      split <;> exact .refl
  | dispatch =>
      obtain ⟨client, delivered, after⟩ := run.dispatch_around
      rw [step, after]
  | beginStart | close | unwatch | lose => exact .refl

theorem step_gone (run : ClientRun) (action : ClientAction) :
    (run.step action).gone =
      match action with
      | .lose listener => listener :: run.gone
      | _ => run.gone := by
  cases action with
  | advanceStart key =>
      obtain ⟨client, starts, after⟩ := run.advanceStart_around key
      rw [step, after]
  | dispatch =>
      obtain ⟨client, delivered, after⟩ := run.dispatch_around
      rw [step, after]
  | store | create | beginStart | close | watch | unwatch | lose => rfl

/-- Only the dispatcher delivers. -/
theorem step_silent {action : ClientAction} (others : action ≠ .dispatch) :
    (run.step action).delivered = run.delivered := by
  cases action with
  | advanceStart key =>
      obtain ⟨client, starts, after⟩ := run.advanceStart_around key
      rw [step, after]
  | dispatch => exact absurd rfl others
  | store | create | beginStart | close | watch | unwatch | lose => rfl

/-- Besides the dispatcher itself, only a start that connects and a close move the dispatcher. -/
theorem step_position {action : ClientAction} (others : action ≠ .dispatch) :
    (run.step action).client.position = run.client.position ∨
      run.client.state = .created ∧
        (run.step action).client.position = some run.store.feed.size ∨
      (run.step action).client.state = .closed ∧ (run.step action).client.position = none := by
  have left := run.step_leaves action
  generalize (run.step action).client = client at left ⊢
  cases left with
  | same | unwatched => exact .inl rfl
  | connected answered =>
      rw [connect_le answered]
      unfold Client.connected
      split
      · exact .inr (.inl ⟨by assumption, rfl⟩)
      all_goals exact .inl rfl
  | closed =>
      unfold Client.close
      split
      · exact .inl rfl
      all_goals
        split
        · exact .inl rfl
        · exact .inr (.inr ⟨rfl, rfl⟩)
  | watched path listener =>
      unfold Client.watch
      split
      · exact .inl rfl
      · split <;> exact .inl rfl
  | dispatched => exact absurd rfl others

theorem step_wellFormed (wellFormed : run.client.WellFormed) (action : ClientAction) :
    (run.step action).client.WellFormed := by
  have left := run.step_leaves action
  generalize (run.step action).client = client at left ⊢
  cases left with
  | same => exact wellFormed
  | connected => exact wellFormed.connected _
  | closed => exact wellFormed.close _
  | watched path listener => exact wellFormed.watch path listener
  | unwatched id => exact wellFormed.unwatch id
  | dispatched dispatched => exact wellFormed.dispatched dispatched

/-- A run keeps what every turn keeps. -/
theorem after_keeps {P : ClientRun → Prop} (kept : ∀ run action, P run → P (step run action))
    (holds : P run) (actions : List ClientAction) : P (run.after actions) := by
  induction actions generalizing run with
  | nil => exact holds
  | cons action rest inductionHypothesis => exact inductionHypothesis (kept run action holds)

theorem after_wellFormed (wellFormed : run.client.WellFormed) (actions : List ClientAction) :
    (run.after actions).client.WellFormed :=
  after_keeps (P := fun run => run.client.WellFormed)
    (fun _ action before => step_wellFormed before action) wellFormed actions

theorem after_changes (run : ClientRun) (actions : List ClientAction) :
    Store.Changes run.store (run.after actions).store :=
  after_keeps (P := fun later => Store.Changes run.store later.store)
    (fun between action before => before.trans (between.step_changes action)) .refl actions

/-! ### Turns of the dispatcher -/

/-- The dispatcher is not beyond the end of the feed. -/
def Reached (run : ClientRun) : Prop :=
  ∀ position, run.client.position = some position → position ≤ run.store.feed.size

/-- A turn that only moves the dispatcher and drops the watches whose listener is gone. -/
structure Moved (run : ClientRun) (position next : Nat) (after : ClientRun) : Prop where
  follows : run.client.position = some position
  moved : after.client.position = some next
  store : after.store = run.store
  gone : after.gone = run.gone
  state : after.client.state = run.client.state
  watches : after.client.watches = run.client.liveWatches run.isAlive

/-- A turn of the dispatcher does nothing at the end of the feed; else it tells the next event, or that
some were lost. -/
inductive Dispatch (run : ClientRun) : ClientRun → Prop where
  | drained (atEnd : run.isDrained = true) : Dispatch run run
  | told {after : ClientRun} {position : Nat} {event : Notification}
      (moved : run.Moved position (position + 1) after)
      (found : run.store.feed[position]? = some event)
      (kept : run.store.feed.size ≤ position + Store.feedCapacity)
      (delivered : after.delivered =
        run.delivered ++ run.client.deliveries run.isAlive event) : Dispatch run after
  | lagged {after : ClientRun} {position : Nat}
      (moved : run.Moved position (run.store.feed.size - Store.feedCapacity) after)
      (behind : position + Store.feedCapacity < run.store.feed.size)
      (delivered : after.delivered = run.delivered ++
        (run.client.lagEvents (run.store.feed.size - Store.feedCapacity - position)).flatMap
          (run.client.deliveries run.isAlive)) : Dispatch run after

theorem Moved.wellFormed {after : ClientRun} {position next : Nat}
    (moved : run.Moved position next after) (wellFormed : run.client.WellFormed) :
    after.client.WellFormed := by
  have started : after.client.state = .started := by
    rw [moved.state]
    exact wellFormed.follows.mp (by simp [moved.follows])
  exact ⟨by simp [moved.moved, started], fun notStarted => absurd started notStarted⟩

theorem Moved.reached {after : ClientRun} {position next : Nat}
    (moved : run.Moved position next after) (le : next ≤ run.store.feed.size) : after.Reached := by
  intro place follows
  rw [moved.moved] at follows
  obtain rfl := Option.some.inj follows
  rw [moved.store]
  exact le

theorem step_dispatch (run : ClientRun) : run.Dispatch (run.step .dispatch) := by
  cases next : run.client.dispatchNext? run.isAlive run.store.feed with
  | none =>
      have same : run.step .dispatch = run := by simp [step, dispatch, next]
      rw [same]
      exact .drained (by simp [isDrained, next])
  | some outcome =>
      obtain ⟨deliveries, client⟩ := outcome
      have after : run.step .dispatch =
          { run with client := client, delivered := run.delivered ++ deliveries } := by
        simp [step, dispatch, next]
      rw [after]
      cases Client.dispatched_of_dispatchNext? next with
      | told follows found kept => exact .told ⟨follows, rfl, rfl, rfl, rfl, rfl⟩ found kept rfl
      | lagged follows behind => exact .lagged ⟨follows, rfl, rfl, rfl, rfl, rfl⟩ behind rfl

/-- A dispatcher that is not beyond the end of the feed never comes there. -/
theorem step_reached (reached : run.Reached) (action : ClientAction) : (run.step action).Reached := by
  by_cases own : action = .dispatch
  · subst own
    have turn := run.step_dispatch
    generalize run.step .dispatch = after at turn ⊢
    cases turn with
    | drained => exact reached
    | told moved found =>
        obtain ⟨below, -⟩ := Array.getElem?_eq_some_iff.mp found
        exact moved.reached below
    | lagged moved => exact moved.reached (Nat.sub_le _ _)
  · have grown := Store.feed_size_le (run.step_changes action)
    intro place follows
    rcases step_position own with same | ⟨-, atEnd⟩ | ⟨-, nowhere⟩
    · exact Nat.le_trans (reached place (same ▸ follows)) grown
    · obtain rfl := Option.some.inj (atEnd.symm.trans follows)
      exact grown
    · cases nowhere.symm.trans follows

/-! ### Other turns -/

/-- A listener that is there was there before. -/
theorem alive_of_step {listener : Listener} {action : ClientAction}
    (alive : (run.step action).isAlive listener = true) : run.isAlive listener = true := by
  rw [isAlive, step_gone] at alive
  cases action with
  | lose other =>
      simp only [List.contains_cons, Bool.not_or, Bool.and_eq_true] at alive
      exact alive.2
  | store | create | beginStart | advanceStart | close | watch | unwatch | dispatch => exact alive

theorem step_watchesOf (run : ClientRun) {action : ClientAction} {listener : Listener}
    (others : ∀ path, action ≠ .watch path listener) :
    ((run.step action).client.watchesOf listener).Sublist (run.client.watchesOf listener) := by
  have left := run.step_leaves action
  generalize (run.step action).client = client at left ⊢
  cases left with
  | same => exact .refl _
  | connected =>
      unfold Client.connected
      split <;> exact .refl _
  | closed =>
      unfold Client.close
      split
      · exact .refl _
      all_goals
        split
        · exact .refl _
        · exact List.nil_sublist _
  | watched path other =>
      have different : other ≠ listener := fun same => others path (by rw [same])
      unfold Client.watch
      split
      · exact .refl _
      · split
        · exact .refl _
        · simp [Client.watchesOf, different]
  | unwatched id => exact List.filter_sublist.filter _
  | dispatched dispatched =>
      cases dispatched <;> exact List.filter_sublist.filter _

/-- What a turn does that is not one of the dispatcher, in the view of a listener for which it
registers no watch. -/
structure Quiet (listener : Listener) (run after : ClientRun) : Prop where
  changes : Store.Changes run.store after.store
  silent : after.delivered = run.delivered
  alive : after.isAlive listener = true → run.isAlive listener = true
  watches : (after.client.watchesOf listener).Sublist (run.client.watchesOf listener)
  position : after.client.watchesOf listener ≠ [] → after.client.position = run.client.position
  reached : run.Reached → after.Reached

theorem Quiet.refl (listener : Listener) (run : ClientRun) : Quiet listener run run where
  changes := .refl
  silent := rfl
  alive := id
  watches := .refl _
  position := fun _ => rfl
  reached := id

/-- Every turn that is not one of the dispatcher is quiet for all listeners but the one that it
registers. -/
theorem step_quiet (wellFormed : run.client.WellFormed) {action : ClientAction} {listener : Listener}
    (notDispatch : action ≠ .dispatch) (others : ∀ path, action ≠ .watch path listener) :
    Quiet listener run (run.step action) where
  changes := run.step_changes action
  silent := step_silent notDispatch
  alive := alive_of_step
  watches := run.step_watchesOf others
  position := by
    intro someWatch
    -- A listener that has a watch afterwards had one before, so the client was started all the time.
    rcases step_position notDispatch with same | ⟨created, -⟩ | ⟨closed, -⟩
    · exact same
    · have noWatch : run.client.watchesOf listener = [] := by
        simp [Client.watchesOf, wellFormed.unwatched (by simp [created])]
      have fewer := run.step_watchesOf others
      rw [noWatch] at fewer
      exact absurd (List.sublist_nil.mp fewer) someWatch
    · have noWatch := (step_wellFormed wellFormed action).watches_of_closed closed
      exact absurd (by simp [Client.watchesOf, noWatch]) someWatch
  reached := fun reached => step_reached reached action

/-! ### What stays -/

/-- A listener stays until it goes. -/
theorem step_alive {listener : Listener} (alive : run.isAlive listener = true)
    {action : ClientAction} (stays : action ≠ .lose listener) :
    (run.step action).isAlive listener = true := by
  rw [isAlive, step_gone]
  cases action with
  | lose other =>
      have different : listener ≠ other := fun same => stays (by rw [same])
      simpa [isAlive, different] using alive
  | store | create | beginStart | advanceStart | close | watch | unwatch | dispatch => exact alive

/-- A watch of a listener that is there stays in the table until it is taken away or the client is
closed. -/
theorem step_keeps {watch : Watch} (there : run.client.state = .closed ∨ watch ∈ run.client.watches)
    (alive : run.isAlive watch.listener = true) {action : ClientAction}
    (stays : action ≠ .unwatch watch.id) :
    (run.step action).client.state = .closed ∨ watch ∈ (run.step action).client.watches := by
  have left := run.step_leaves action
  generalize (run.step action).client = client at left ⊢
  cases left with
  | same => exact there
  | connected =>
      unfold Client.connected
      split
      · rename_i created
        rw [created] at there
        exact .inr (there.resolve_left (by simp))
      · exact there
      · exact there
  | closed =>
      simp only [Client.close]
      split
      · exact there
      all_goals
        split
        · exact there
        · exact .inl rfl
  | watched path listener =>
      simp only [Client.watch]
      split
      · exact there
      · split
        · exact there
        · exact there.imp_right fun member => List.mem_append_left _ member
  | unwatched id =>
      have different : watch.id ≠ id := fun same => stays (by rw [same])
      exact there.imp_right fun member => List.mem_filter.mpr ⟨member, by simpa using different⟩
  | dispatched dispatched =>
      cases dispatched with
      | told | lagged =>
          exact there.imp_right fun member => List.mem_filter.mpr ⟨member, alive⟩

end ClientRun

end LiveConfig
