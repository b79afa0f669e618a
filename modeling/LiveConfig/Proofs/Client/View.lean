import LiveConfig.Proofs.Client.Receipts

/-!
Contract: a run as one watch sees it.

The view of a watch is the run without all other watches and listeners, and without what was delivered.
Every turn does to the view what it does to the run, so what becomes of a watch does not depend on the
other watches of the table. Owns: the view, its turns, and the turns that it does not see. Does not own:
what the watch is told.
-/

namespace LiveConfig

/-- What takes away another watch, or another listener than that of a watch. -/
inductive ClientAction.Spares (watch : Watch) : ClientAction → Prop where
  | unwatch {id : Nat} (other : id ≠ watch.id) : Spares watch (.unwatch id)
  | lose {listener : Listener} (other : listener ≠ watch.listener) : Spares watch (.lose listener)

namespace Client

/-- The client without all watches but one. -/
def only (watch : Watch) (client : Client) : Client :=
  { client with watches := client.watches.filter (· = watch) }

variable (watch : Watch) (client : Client)

theorem only_only : (client.only watch).only watch = client.only watch := by
  simp [only]

theorem requireStarted_only : (client.only watch).requireStarted = client.requireStarted := rfl

theorem connected_only (position : Nat) :
    (client.only watch).connected position = (client.connected position).only watch := by
  cases state : client.state <;> simp [connected, only, state]

theorem close_only (fails : Bool) :
    (client.only watch).close fails = ((client.close fails).1, (client.close fails).2.only watch) := by
  cases state : client.state <;> cases fails <;> simp [close, only, state]

theorem watch_only (path : String) (listener : Listener) :
    ((client.only watch).watch path listener).2.only watch =
      (client.watch path listener).2.only watch := by
  unfold Client.watch
  rw [requireStarted_only]
  split
  · exact client.only_only watch
  · split
    · exact client.only_only watch
    · simp [only]

theorem unwatch_only (id : Nat) :
    ((client.only watch).unwatch id).2 = ((client.unwatch id).2).only watch := by
  simp [unwatch, only, List.filter_filter, Bool.and_comm]

theorem step_only (progress : StartProgress) (outcome : Except StoreError Nat) :
    progress.step (client.only watch) outcome =
      ((progress.step client outcome).1, (progress.step client outcome).2.only watch) := by
  cases progress with
  | entering | pausing | finished => rfl
  | connecting retry =>
      cases outcome with
      | ok position => simp only [StartProgress.step, StartProgress.attempt, connected_only]
      | error error =>
          simp only [StartProgress.step, StartProgress.attempt]
          have sameRetry : (client.only watch).retry = client.retry := rfl
          rw [sameRetry]
          split <;> rfl

/-- What a step of the dispatcher makes of its client depends on the feed and on the position alone. -/
theorem dispatchNext?_snd (isAlive : Listener → Bool) (feed : Array Notification) :
    (client.dispatchNext? isAlive feed).map Prod.snd =
      client.position.bind fun position =>
        match readFeed Store.feedCapacity feed position with
        | (.nothing, _) => none
        | (_, next) =>
            some { client with position := some next, watches := client.liveWatches isAlive } := by
  unfold dispatchNext?
  cases client.position with
  | none => rfl
  | some position =>
      simp only [Option.bind_some]
      split
      · simp [*]
      · simp [*, dispatch, liveWatches]
      · rename_i count next read
        have lagged := ({ client with position := some next } :
          Client).dispatchEach_lagEvents_snd isAlive count
        simp only [read, Option.map_some]
        exact congrArg some lagged

end Client

namespace ClientRun

variable {run : ClientRun} {watch : Watch}

/-- The run as a watch sees it. -/
def viewOf (watch : Watch) (run : ClientRun) : ClientRun :=
  { run with
    client := run.client.only watch
    gone := run.gone.filter (· = watch.listener)
    delivered := [] }

theorem isAlive_viewOf : (run.viewOf watch).isAlive watch.listener = run.isAlive watch.listener := by
  simp [isAlive, viewOf]

theorem registered_viewOf : (run.viewOf watch).Registered watch ↔ run.Registered watch := by
  unfold Registered
  rw [isAlive_viewOf]
  simp [viewOf, Client.only]

theorem step_dispatch_client (run : ClientRun) :
    (run.step .dispatch).client =
      ((run.client.dispatchNext? run.isAlive run.store.feed).map Prod.snd).getD run.client := by
  simp only [step, dispatch]
  split <;> rename_i next <;> simp [next]

theorem liveWatches_viewOf (run : ClientRun) (watch : Watch) :
    ((run.viewOf watch).client.liveWatches (run.viewOf watch).isAlive).filter (· = watch) =
      (run.client.liveWatches run.isAlive).filter (· = watch) := by
  have inView : (run.viewOf watch).client.watches = run.client.watches.filter (· = watch) := rfl
  rw [Client.liveWatches, Client.liveWatches, inView, List.filter_filter, List.filter_filter,
    List.filter_filter]
  -- Only the listener of the watch itself matters, and the view knows whether it is there.
  refine List.filter_congr fun other _ => ?_
  by_cases own : other = watch
  · subst own
    simp [isAlive_viewOf]
  · simp [own]

/-- The dispatcher moves in the view as it moves in the run. -/
theorem step_dispatch_only (run : ClientRun) (watch : Watch) :
    ((run.viewOf watch).step .dispatch).client.only watch =
      (run.step .dispatch).client.only watch := by
  have live := run.liveWatches_viewOf watch
  have sameFeed : (run.viewOf watch).store.feed = run.store.feed := rfl
  have samePosition : (run.viewOf watch).client.position = run.client.position := rfl
  rw [step_dispatch_client, step_dispatch_client, Client.dispatchNext?_snd, Client.dispatchNext?_snd,
    sameFeed, samePosition]
  cases run.client.position with
  | none => exact run.client.only_only watch
  | some position =>
      simp only [Option.bind_some]
      split
      · exact run.client.only_only watch
      · simp only [Option.getD_some, Client.only, live]
        rfl

/-- A turn does to the view what it does to the run. -/
theorem step_viewOf (run : ClientRun) (watch : Watch) (action : ClientAction) :
    ((run.viewOf watch).step action).viewOf watch = (run.step action).viewOf watch := by
  cases action with
  | store command => simp [step, viewOf, Client.only_only]
  | create path data =>
      simp only [step, ask, Client.serve, viewOf, Client.requireStarted_only]
      split <;> simp [Client.only_only]
  | beginStart => simp [step, viewOf, Client.only_only]
  | advanceStart key =>
      simp only [step, advanceStart, viewOf]
      split
      · simp [Client.only_only]
      · simp [Client.step_only, Client.only_only]
  | close => simp [step, viewOf, Client.close_only, Client.only_only]
  | watch path listener =>
      simp only [step, ask, Client.serve, viewOf, Client.requireStarted_only]
      split <;> simp [Client.only_only, Client.watch_only]
  | unwatch id => simp [step, viewOf, Client.unwatch_only, Client.only_only]
  | lose listener => simp [step, viewOf, Client.only_only, List.filter_cons]
  | dispatch =>
      have around : ∀ other : ClientRun, (other.step .dispatch).viewOf watch =
          { other with
            client := (other.step .dispatch).client.only watch
            gone := other.gone.filter (· = watch.listener)
            delivered := [] } := by
        intro other
        obtain ⟨client, delivered, after⟩ := other.dispatch_around
        simp only [step, after, viewOf]
      have sameGone : (run.viewOf watch).gone.filter (· = watch.listener) =
          run.gone.filter (· = watch.listener) := by simp [viewOf]
      rw [around, around, sameGone, step_dispatch_only]
      rfl

theorem viewOf_of_spares {action : ClientAction} (spares : action.Spares watch) :
    (run.step action).viewOf watch = run.viewOf watch := by
  cases spares with
  | @unwatch id other =>
      have kept : (run.client.watches.filter (·.id ≠ id)).filter (· = watch) =
          run.client.watches.filter (· = watch) := by
        rw [List.filter_filter]
        refine List.filter_congr fun candidate _ => ?_
        by_cases own : candidate = watch
        · simp [own, Ne.symm other]
        · simp [own]
      simp only [step, viewOf, Client.unwatch, Client.only, kept]
  | lose other => simp [step, viewOf, other]

end ClientRun

end LiveConfig
