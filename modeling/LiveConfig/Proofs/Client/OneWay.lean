import LiveConfig.Proofs.Client.Receipts

/-!
Contract: the life of a client goes one way.

A client is created, then perhaps started, then perhaps closed, and its counters, its dispatcher and its
table of watches agree with where it is. Once it is closed nothing that anybody does changes it or
reaches a listener through it. Owns: these facts for runs in which starts, closes, requests and the
dispatcher take turns in any order. Does not own: which starts succeed.
-/

namespace LiveConfig

/-- What can follow on what in the life of a client. -/
inductive ClientState.Precedes : ClientState → ClientState → Prop where
  | start : Precedes .created .started
  | closeUnstarted : Precedes .created .closed
  | closeStarted : Precedes .started .closed

namespace Client

variable {client : Client}

/-- The counters of a client agree with its state. -/
def Counted (client : Client) : Prop :=
  match client.state with
  | .created => client.starts = 0 ∧ client.closes = 0
  | .started => client.starts = 1 ∧ client.closes = 0
  | .closed => client.starts ≤ 1 ∧ client.closes = client.starts

theorem Counted.fresh (connectString store : String) (retry : RetryPolicy) :
    (Client.fresh connectString store retry).Counted := ⟨rfl, rfl⟩

theorem Counted.of_same {after : Client} (counted : client.Counted)
    (state : after.state = client.state) (starts : after.starts = client.starts)
    (closes : after.closes = client.closes) : after.Counted := by
  rw [Counted, state, starts, closes]
  exact counted

theorem Counted.connected (counted : client.Counted) (position : Nat) :
    (client.connected position).Counted := by
  unfold Client.connected
  split
  · rename_i created
    simp only [Counted, created] at counted
    exact ⟨by simp [counted.1], counted.2⟩
  · exact counted
  · exact counted

theorem Counted.close (counted : client.Counted) (fails : Bool) :
    (client.close fails).2.Counted := by
  unfold Client.close
  split
  · exact counted
  all_goals
    rename_i state
    simp only [Counted, state] at counted
    split
    · simpa only [Counted, state] using counted
    · simp [Counted, state, counted.1, counted.2]

theorem Counted.watch (counted : client.Counted) (path : String) (listener : Listener) :
    (client.watch path listener).2.Counted := by
  unfold Client.watch
  split
  · exact counted
  · split
    · exact counted
    · exact counted.of_same rfl rfl rfl

theorem Counted.dispatched (counted : client.Counted) {isAlive : Listener → Bool}
    {feed : Array Notification} {deliveries : List Delivery} {after : Client}
    (dispatched : client.Dispatched isAlive feed deliveries after) : after.Counted := by
  cases dispatched <;> exact counted.of_same rfl rfl rfl

theorem Counted.bounds (counted : client.Counted) :
    client.starts ≤ 1 ∧ client.closes ≤ 1 ∧ client.closes ≤ client.starts := by
  unfold Counted at counted
  split at counted <;> omega

/-- A close that fails changes nothing. -/
theorem close_error {fails : Bool} {error : StoreError} (failed : (client.close fails).1 = .error error) :
    (client.close fails).2 = client := by
  unfold close at failed ⊢
  split at failed
  · rfl
  all_goals
    split at failed
    · rename_i refused
      simp [refused]
    · cases failed

theorem requireStarted_of_closed (closed : client.state = .closed) :
    client.requireStarted =
      .error (.closed ("client for " ++ client.connectString ++ " is closed")) := by
  simp only [requireStarted, closed, ClientState.name, String.append_assoc]
  rfl

end Client

namespace ClientRun

variable {run : ClientRun}

theorem step_counted (counted : run.client.Counted) (action : ClientAction) :
    (run.step action).client.Counted := by
  have left := run.step_leaves action
  generalize (run.step action).client = client at left ⊢
  cases left with
  | same => exact counted
  | connected => exact counted.connected _
  | closed => exact counted.close _
  | watched path listener => exact counted.watch path listener
  | unwatched id => exact counted.of_same rfl rfl rfl
  | dispatched dispatched => exact counted.dispatched dispatched

theorem Moves.precedes {action : ClientAction} {state : ClientState} (moves : run.Moves action state) :
    state = run.client.state ∨ run.client.state.Precedes state := by
  cases moves with
  | stays => exact .inl rfl
  | starts created => exact .inr (created ▸ .start)
  | closes isOpen =>
      right
      cases state : run.client.state with
      | created => exact .closeUnstarted
      | started => exact .closeStarted
      | closed => exact absurd state isOpen

/-! ### Closed clients -/

/-- A client that is closed stays as it is. -/
theorem step_client_of_closed (wellFormed : run.client.WellFormed)
    (closed : run.client.state = .closed) (action : ClientAction) :
    (run.step action).client = run.client := by
  have left := run.step_leaves action
  generalize (run.step action).client = client at left ⊢
  cases left with
  | same => rfl
  | connected => simp [Client.connected, closed]
  | closed => simp [Client.close, closed]
  | watched path listener => rw [Client.watch, Client.requireStarted_of_closed closed]
  | unwatched id =>
      have sameTable : run.client.watches.filter (·.id ≠ id) = run.client.watches := by
        simp [wellFormed.watches_of_closed closed]
      rw [Client.unwatch, sameTable]
  | dispatched dispatched =>
      cases dispatched with
      | told follows | lagged follows =>
          rw [wellFormed.position_of_closed closed] at follows
          cases follows

theorem step_delivered_of_closed (wellFormed : run.client.WellFormed)
    (closed : run.client.state = .closed) (action : ClientAction) :
    (run.step action).delivered = run.delivered := by
  rw [step_delivered]
  simp [Client.receipts, Client.liveWatches, wellFormed.watches_of_closed closed]

/-- Whatever happens to a client that is closed, it stays as it is and tells nobody anything. -/
theorem after_of_closed (wellFormed : run.client.WellFormed) (closed : run.client.state = .closed)
    (actions : List ClientAction) :
    (run.after actions).client = run.client ∧ (run.after actions).delivered = run.delivered := by
  induction actions generalizing run with
  | nil => exact ⟨rfl, rfl⟩
  | cons action rest inductionHypothesis =>
      have same := step_client_of_closed wellFormed closed action
      obtain ⟨client, delivered⟩ :=
        inductionHypothesis (same ▸ wellFormed) (same ▸ closed)
      exact ⟨client.trans same, delivered.trans (step_delivered_of_closed wellFormed closed action)⟩

theorem ask_of_closed (closed : run.client.state = .closed) {α : Type} (request : Request α) :
    run.ask request =
      (.error (.closed ("client for " ++ run.client.connectString ++ " is closed")), run) := by
  simp only [ask, Client.serve, Client.requireStarted_of_closed closed]

/-! ### The whole life -/

/-- A request of the client is a turn, or one of its store, or nothing that anybody sees. -/
theorem exists_after_of_ask (run : ClientRun) {α : Type} (request : Request α) :
    ∃ actions, (run.ask request).2 = run.after actions := by
  cases request with
  | create path data => exact ⟨[.create path data], rfl⟩
  | watch path listener => exact ⟨[.watch path listener], rfl⟩
  | «exists» | read =>
      refine ⟨[], ?_⟩
      simp only [ask, Client.serve]
      split <;> rfl
  | list path =>
      simp only [ask, Client.serve]
      split
      · exact ⟨[], rfl⟩
      · exact ⟨[.store (.list path)], rfl⟩

theorem after_counted (counted : run.client.Counted) (actions : List ClientAction) :
    (run.after actions).client.Counted :=
  after_keeps (P := fun run => run.client.Counted)
    (fun _ action before => step_counted before action) counted actions

/-- However starts, closes, watches and requests of one client take turns with its dispatcher and with
what others do to its store, its life goes one way. A turn leaves the state or moves it on. The client
goes from created to started and from started to closed at most once each, it follows the feed exactly
while it is started, and it has watches only then. A close that fails changes nothing. A client that is
closed stays as it is, refuses every request, and tells no listener anything, also not of what was
published before. Every request that it is asked is such a turn. -/
theorem life_goes_one_way (connectString name : String) (retry : RetryPolicy) (store : Store)
    (actions : List ClientAction) :
    let run := (ofClient (.fresh connectString name retry) store).after actions
    (∀ action, (run.step action).client.state = run.client.state ∨
        run.client.state.Precedes (run.step action).client.state) ∧
      (run.client.starts ≤ 1 ∧ run.client.closes ≤ 1 ∧ run.client.closes ≤ run.client.starts) ∧
      (run.client.position.isSome ↔ run.client.state = .started) ∧
      (run.client.state ≠ .started → run.client.watches = []) ∧
      (∀ error, (run.client.close run.store.closeFails).1 = .error error → run.step .close = run) ∧
      (run.client.state = .closed → ∀ later,
        (run.after later).client = run.client ∧ (run.after later).delivered = run.delivered ∧
          ∀ {α : Type} (request : Request α), (run.after later).ask request =
            (.error (.closed ("client for " ++ run.client.connectString ++ " is closed")),
              run.after later)) ∧
      ∀ {α : Type} (request : Request α), ∃ more, (run.ask request).2 = run.after more := by
  intro run
  have wellFormed : run.client.WellFormed := after_wellFormed (.fresh connectString name retry) actions
  have counted : run.client.Counted := after_counted (.fresh connectString name retry) actions
  refine ⟨fun action => (run.step_moves action).precedes, counted.bounds, wellFormed.follows,
    wellFormed.unwatched, fun error failed => ?_, fun closed later => ?_, run.exists_after_of_ask⟩
  · simp only [step, Client.close_error failed]
  · obtain ⟨same, silent⟩ := after_of_closed wellFormed closed later
    refine ⟨same, silent, fun request => ?_⟩
    have stillClosed : (run.after later).client.state = .closed := same ▸ closed
    rw [ask_of_closed stillClosed request, same]

/-- Two starts of one client that both connect, and a write that is not yet dispatched when a close
fails. -/
def startedTwice : List ClientAction :=
  [.beginStart, .beginStart, .advanceStart 0, .advanceStart 1, .advanceStart 0, .advanceStart 1,
    .watch "/a" (.recorder 0), .create "/a" [], .store (.setCloseFails true)]

theorem startedTwice_closed :
    let run := (ofClient (.fresh "localhost" "main" .default) .empty).after startedTwice
    let last := run.after [.store (.setCloseFails false), .close]
    run.step .close = run ∧ run.isDrained = false ∧ run.client.starts ≤ 1 ∧
      last.client.state = .closed ∧ (last.after [.dispatch]).delivered = last.delivered ∧
      ((last.after [.dispatch]).ask (.read "/a")).1 =
        .error (.closed "client for localhost is closed") := by
  intro run last
  obtain ⟨-, ⟨once, -⟩, -, -, failing, -⟩ :=
    life_goes_one_way "localhost" "main" .default .empty startedTwice
  obtain ⟨-, -, -, -, -, afterClose, -⟩ := life_goes_one_way "localhost" "main" .default .empty
    (startedTwice ++ [.store (.setCloseFails false), .close])
  have closed : last.client.state = .closed := rfl
  obtain ⟨-, silent, refused⟩ := afterClose closed [.dispatch]
  exact ⟨failing _ rfl, rfl, once, closed, silent, congrArg Prod.fst (refused (.read "/a"))⟩

end ClientRun

end LiveConfig
