import LiveConfig.Proofs.Client.Lifecycle
import LiveConfig.Proofs.Retry
import Mathlib.Data.List.Induction

/-!
Contract: what a start that is over says about its client.

The state of a client moves one way, and each kind of move belongs to one kind of turn. A start that
waits looked at a client that was not closed, so a client that is closed when the start connects was
closed under it. Owns: the moves of the state, the turns of one start, the exact condition under which a
start that succeeds leaves its client started, and that a start which nobody disturbs comes to what the run
of its retry policy returns.
-/

namespace LiveConfig

namespace StartProgress

/-- Whether a start has looked at its client and goes on. -/
def isWaiting : StartProgress → Bool
  | .connecting _ | .pausing .. => true
  | .entering | .finished _ => false

/-- A start whose attempt succeeds is over, in whatever state it finds the client. -/
theorem step_connecting_ok (client : Client) (retry : UInt32) (position : Nat) :
    (StartProgress.connecting retry).step client (.ok position) =
      (.finished (.ok ()), client.connected position) := rfl

/-- A start that goes on after its first look has found a client that was created. -/
theorem created_of_enter_waiting {client : Client}
    (waiting : (enter client).isWaiting = true) : client.state = .created := by
  unfold enter at waiting
  split at waiting
  · assumption
  all_goals cases waiting

/-- A start succeeds at its first look if the client is started, and else by an attempt. -/
theorem of_step_ok {client : Client} {outcome : Except StoreError Nat} {progress : StartProgress}
    (unfinished : ∀ result, progress ≠ .finished result)
    (ok : (progress.step client outcome).1 = .finished (.ok ())) :
    progress = .entering ∧ client.state = .started ∧ (progress.step client outcome).2 = client ∨
      ∃ retry position, progress = .connecting retry ∧ outcome = .ok position := by
  cases progress with
  | entering =>
      refine .inl ⟨rfl, ?_, rfl⟩
      simp only [step, enter] at ok
      split at ok
      · cases ok
      · assumption
      · cases ok
  | connecting retry =>
      refine .inr ⟨retry, ?_⟩
      cases outcome with
      | ok position => exact ⟨position, rfl, rfl⟩
      | error error =>
          simp only [step, attempt] at ok
          split at ok <;> cases ok
  | pausing retry pause => cases ok
  | finished result => exact absurd rfl (unfinished result)

/-! ### Starts that nobody disturbs -/

/-- An attempt of a start, with the pause behind it. -/
def round (start : StartProgress × Client) (outcome : Except StoreError Nat) :
    StartProgress × Client :=
  let (next, changed) := start.1.step start.2 outcome
  next.step changed outcome

/-- A start goes through the attempts of a run that returns, by whatever rule the run counts them. -/
theorem rounds_of_runFrom {client : Client} {rule : RetryPolicy.OverflowRule}
    {outcome : Nat → Except StoreError Nat} {fuel first attempts : Nat} {retry : UInt32}
    {result : Except StoreError Nat} {pauses : List Nat}
    (returned : client.retry.runFrom rule outcome fuel retry first =
      some ⟨.returned result, attempts, pauses⟩) :
    ∃ count, attempts = first + count ∧
      ((List.range' first count).map outcome).foldl round (.connecting retry, client) =
        (.finished (result.map fun _ => ()), (result.toOption.map client.connected).getD client) := by
  induction fuel generalizing retry first attempts pauses with
  | zero => cases returned
  | succ fuel inductionHypothesis =>
      rw [RetryPolicy.runFrom] at returned
      cases attempted : outcome first with
      | ok position =>
          simp only [attempted, Option.some.injEq, RetryPolicy.Report.mk.injEq,
            RetryPolicy.Ending.returned.injEq] at returned
          obtain ⟨rfl, rfl, -⟩ := returned
          refine ⟨1, rfl, ?_⟩
          simp only [List.range'_one, List.map_singleton, List.foldl_cons, List.foldl_nil, attempted]
          rfl
      | error error =>
          simp only [attempted] at returned
          cases allowed : client.retry.pauseAfter retry error with
          | none =>
              simp only [allowed, Option.some.injEq, RetryPolicy.Report.mk.injEq,
                RetryPolicy.Ending.returned.injEq] at returned
              obtain ⟨rfl, rfl, -⟩ := returned
              refine ⟨1, rfl, ?_⟩
              simp [round, step, attempt, attempted, allowed, Except.map, Except.toOption]
          | some pause =>
              simp only [allowed] at returned
              cases counted : rule.next? retry with
              | none => simp [counted] at returned
              | some next =>
                  simp only [counted, Option.map_eq_some_iff] at returned
                  obtain ⟨⟨ending, attemptsOfRest, pausesOfRest⟩, rest, same⟩ := returned
                  obtain ⟨rfl, rfl, -⟩ := RetryPolicy.Report.mk.inj same
                  obtain ⟨count, rfl, onward⟩ := inductionHypothesis rest
                  have isNext : next = retry + 1 := RetryPolicy.OverflowRule.eq_of_next? counted
                  refine ⟨count + 1, Nat.add_right_comm first 1 count, ?_⟩
                  rw [List.range'_succ, List.map_cons, List.foldl_cons, attempted]
                  have paused : round (.connecting retry, client) (.error error) =
                      (.connecting next, client) := by
                    simp [round, step, attempt, allowed, isNext]
                  rw [paused]
                  exact onward

/-- A start that nobody disturbs, of a client that is created, comes to what the run of its policy
returns, after as many attempts. A build that checks overflow differs only in a run that is given up. -/
theorem rounds_of_run {client : Client} {rule : RetryPolicy.OverflowRule}
    {outcome : Nat → Except StoreError Nat} {fuel attempts : Nat} {result : Except StoreError Nat}
    {pauses : List Nat} (created : client.state = .created)
    (returned : client.retry.run rule fuel outcome = some ⟨.returned result, attempts, pauses⟩) :
    ((List.range attempts).map outcome).foldl round (enter client, client) =
      (.finished (result.map fun _ => ()), (result.toOption.map client.connected).getD client) := by
  obtain ⟨count, rfl, rounds⟩ := rounds_of_runFrom returned
  have entered : enter client = .connecting 0 := by
    simp only [enter, created]
  rw [entered, List.range_eq_range', Nat.zero_add]
  exact rounds

end StartProgress

namespace Client

theorem connected_state (client : Client) (position : Nat) :
    (client.connected position).state =
      if client.state = .created then .started else client.state := by
  unfold connected
  split <;> rename_i state <;> simp [state]

/-- A connection leaves a client started unless it was closed before. -/
theorem connected_started_iff {client : Client} {position : Nat} :
    (client.connected position).state = .started ↔ client.state ≠ .closed := by
  rw [connected_state]
  cases client.state <;> simp

end Client

namespace ClientRun

variable {run : ClientRun}

/-! ### The state of the client -/

/-- What a turn does to the state of the client. -/
inductive Moves (run : ClientRun) : ClientAction → ClientState → Prop where
  | stays {action : ClientAction} : Moves run action run.client.state
  | starts {key : Nat} (created : run.client.state = .created) : Moves run (.advanceStart key) .started
  | closes (isOpen : run.client.state ≠ .closed) (succeeds : run.store.closeFails = false) :
      Moves run .close .closed

theorem step_moves (run : ClientRun) (action : ClientAction) :
    run.Moves action (run.step action).client.state := by
  have left := run.step_leaves action
  generalize (run.step action).client = client at left ⊢
  cases left with
  | same | unwatched => exact .stays
  | connected =>
      rw [Client.connected_state]
      split
      · exact .starts (by assumption)
      · exact .stays
  | closed =>
      simp only [Client.close]
      split
      · exact .stays
      all_goals
        rename_i state
        split
        · exact .stays
        · rename_i succeeds
          exact .closes (by simp [state]) (by simpa using succeeds)
  | watched path listener =>
      simp only [Client.watch]
      split
      · exact .stays
      · split <;> exact .stays
  | dispatched dispatched => cases dispatched <;> exact .stays

/-- A closed client stays closed. -/
theorem closed_step (closed : run.client.state = .closed) (action : ClientAction) :
    (run.step action).client.state = .closed := by
  have moves := run.step_moves action
  generalize (run.step action).client.state = state at moves ⊢
  cases moves with
  | stays => exact closed
  | starts created => rw [closed] at created; cases created
  | closes => rfl

theorem closed_after (closed : run.client.state = .closed) (actions : List ClientAction) :
    (run.after actions).client.state = .closed :=
  after_keeps (P := fun run => run.client.state = .closed)
    (fun _ action before => closed_step before action) closed actions

/-- Nothing but a close closes a client. -/
theorem eq_close_of_closed {action : ClientAction} (isOpen : run.client.state ≠ .closed)
    (closed : (run.step action).client.state = .closed) : action = .close := by
  have moves := run.step_moves action
  rw [closed] at moves
  generalize state : ClientState.closed = final at moves
  cases moves with
  | stays => exact absurd state.symm isOpen
  | starts created => cases state
  | closes => rfl

/-! ### One start -/

/-- The place of a start changes only by its own turns; all other turns but a new start leave it. -/
theorem step_starts (run : ClientRun) {action : ClientAction} {key : Nat}
    (others : action ≠ .advanceStart key) {progress : StartProgress}
    (found : (run.step action).starts[key]? = some progress) :
    run.starts[key]? = some progress ∨ progress = .entering := by
  cases action with
  | store | create | close | watch | unwatch | lose => exact .inl found
  | beginStart =>
      simp only [step] at found
      rcases Nat.lt_trichotomy key run.starts.length with below | atEnd | beyond
      · rw [List.getElem?_append_left below] at found
        exact .inl found
      · rw [atEnd, List.getElem?_concat_length] at found
        exact .inr (Option.some.inj found).symm
      · rw [List.getElem?_eq_none (by simp; omega)] at found
        cases found
  | advanceStart other =>
      have different : other ≠ key := fun same => others (by rw [same])
      simp only [step, advanceStart] at found
      split at found
      · exact .inl found
      · rw [List.getElem?_set_ne different] at found
        exact .inl found
  | dispatch =>
      simp only [step, dispatch] at found
      split at found <;> exact .inl found

theorem advanceStart_starts {key : Nat} {progress : StartProgress}
    (found : run.starts[key]? = some progress) :
    (run.step (.advanceStart key)).starts[key]? =
      some (progress.step run.client run.store.connect).1 := by
  obtain ⟨below, -⟩ := List.getElem?_eq_some_iff.mp found
  simp only [step, advanceStart, found]
  exact List.getElem?_set_self below

theorem advanceStart_client {key : Nat} {progress : StartProgress}
    (found : run.starts[key]? = some progress) :
    (run.step (.advanceStart key)).client = (progress.step run.client run.store.connect).2 := by
  simp [step, advanceStart, found]

/-- A start that waits waited before the turn, or has just looked at a client that was created. -/
theorem waiting_of_step {action : ClientAction} {key : Nat} {progress : StartProgress}
    (found : (run.step action).starts[key]? = some progress) (waiting : progress.isWaiting = true) :
    (∃ before, run.starts[key]? = some before ∧ before.isWaiting = true) ∨
      (run.step action).client.state = .created := by
  by_cases own : action = .advanceStart key
  · subst own
    cases atKey : run.starts[key]? with
    | none =>
        have unmoved : run.step (.advanceStart key) = run := by simp [step, advanceStart, atKey]
        rw [unmoved, atKey] at found
        cases found
    | some before =>
        rw [advanceStart_starts atKey] at found
        obtain rfl := Option.some.inj found
        cases before with
        | entering =>
            rw [advanceStart_client atKey]
            exact .inr (StartProgress.created_of_enter_waiting waiting)
        | connecting | pausing => exact .inl ⟨_, rfl, rfl⟩
        | finished => cases waiting
  · rcases step_starts run own found with same | entering
    · exact .inl ⟨progress, same, waiting⟩
    · rw [entering] at waiting
      cases waiting

/-! ### Closes under a start -/

/-- In the course of actions a close takes effect while a start waits. -/
def ClosedUnder (begun : ClientRun) (actions : List ClientAction) (key : Nat) : Prop :=
  ∃ earlier later progress, actions = earlier ++ .close :: later ∧
    (begun.after earlier).starts[key]? = some progress ∧ progress.isWaiting = true ∧
    (begun.after earlier).client.state ≠ .closed ∧
    (begun.after (earlier ++ [.close])).client.state = .closed

variable {begun : ClientRun} {actions : List ClientAction} {key : Nat}

theorem after_append (begun : ClientRun) (earlier later : List ClientAction) :
    begun.after (earlier ++ later) = (begun.after earlier).after later := by
  simp [after, List.foldl_append]

theorem ClosedUnder.append (closed : begun.ClosedUnder actions key) (more : List ClientAction) :
    begun.ClosedUnder (actions ++ more) key := by
  obtain ⟨earlier, later, progress, rfl, waiting⟩ := closed
  exact ⟨earlier, later ++ more, progress, by simp, waiting⟩

theorem ClosedUnder.closed (closed : begun.ClosedUnder actions key) :
    (begun.after actions).client.state = .closed := by
  obtain ⟨earlier, later, progress, rfl, -, -, -, atClose⟩ := closed
  rw [List.append_cons, after_append]
  exact closed_after atClose later

/-- If no start has begun yet, a client that is found closed by a start that waits was closed under
it. -/
theorem closedUnder_of_waiting (fresh : begun.starts = []) {progress : StartProgress}
    (found : (begun.after actions).starts[key]? = some progress) (waiting : progress.isWaiting = true)
    (closed : (begun.after actions).client.state = .closed) : begun.ClosedUnder actions key := by
  induction actions using List.reverseRecOn generalizing progress with
  | nil => simp [after, fresh] at found
  | append_singleton earlier action inductionHypothesis =>
      have last : begun.after (earlier ++ [action]) = (begun.after earlier).step action := by
        rw [after_append]
        rfl
      rw [last] at found closed
      rcases waiting_of_step found waiting with ⟨before, foundBefore, waited⟩ | created
      · by_cases closedBefore : (begun.after earlier).client.state = .closed
        · exact (inductionHypothesis foundBefore waited closedBefore).append [action]
        · obtain rfl := eq_close_of_closed closedBefore closed
          exact ⟨earlier, [], before, rfl, foundBefore, waited, closedBefore, last ▸ closed⟩
      · rw [closed] at created
        cases created

/-- However starts and closes of a client take turns, and whenever its store opens or shuts: a start that
answers without an error leaves the client started exactly if no close took effect while the start
waited. When its attempt succeeds a start answers without an error in any case, also to a client that
was closed. -/
theorem started_iff_not_closedUnder (client : Client) (store : Store) (actions : List ClientAction)
    (key : Nat) :
    let begun := ofClient client store
    let run := begun.after actions
    let next := run.step (.advanceStart key)
    (∀ progress, run.starts[key]? = some progress → (∀ result, progress ≠ .finished result) →
      next.starts[key]? = some (.finished (.ok ())) →
        (next.client.state = .started ↔ ¬ begun.ClosedUnder actions key)) ∧
      ∀ retry position, run.starts[key]? = some (.connecting retry) →
        run.store.connect = .ok position → next.starts[key]? = some (.finished (.ok ())) := by
  intro begun run next
  refine ⟨fun progress found unfinished ok => ?_, fun retry position found connected => ?_⟩
  · rw [advanceStart_starts found] at ok
    have client := advanceStart_client found
    rcases StartProgress.of_step_ok unfinished (Option.some.inj ok) with
      ⟨-, started, same⟩ | ⟨retry, position, rfl, connected⟩
    · have stillStarted : next.client.state = .started := by rw [client, same, started]
      refine ⟨fun _ closed => ?_, fun _ => stillStarted⟩
      rw [closed.closed] at started
      cases started
    · rw [connected, StartProgress.step_connecting_ok] at client
      rw [client, Client.connected_started_iff]
      refine ⟨fun isOpen closed => isOpen closed.closed, fun undisturbed closed => undisturbed ?_⟩
      exact closedUnder_of_waiting rfl found rfl closed
  · rw [advanceStart_starts found, connected]
    rfl

/-- A client whose store is shut at first. -/
def shut : ClientRun :=
  ofClient (.fresh "localhost" "main" .default) { Store.empty with available := false }

/-- A start that has to wait until the store opens. -/
def waitForStore : List ClientAction :=
  [.beginStart, .advanceStart 0, .advanceStart 0, .store (.setAvailable true), .advanceStart 0]

theorem started_of_waitForStore :
    (shut.after waitForStore).starts[0]? = some (.connecting 1) ∧
      ((shut.after waitForStore).step (.advanceStart 0)).client.state = .started := by
  have atConnect : (shut.after waitForStore).starts[0]? = some (.connecting 1) := rfl
  obtain ⟨startedIff, succeeds⟩ := started_iff_not_closedUnder (.fresh "localhost" "main" .default)
    { Store.empty with available := false } waitForStore 0
  refine ⟨atConnect, (startedIff _ atConnect (by simp) (succeeds 1 0 atConnect rfl)).mpr ?_⟩
  intro closed
  cases closed.closed

/-- A client that is closed while its start waits: the start answers without an error, and nothing is
started. -/
theorem closed_after_successful_start :
    let actions : List ClientAction :=
      [.beginStart, .advanceStart 0, .advanceStart 0, .close, .store (.setAvailable true),
        .advanceStart 0, .advanceStart 0]
    (shut.after actions).starts[0]? = some (.finished (.ok ())) ∧
      (shut.after actions).client.state = .closed := ⟨rfl, rfl⟩

end ClientRun

end LiveConfig
