import LiveConfig.Proofs.Client.View
import LiveConfig.Proofs.Store.Journal

/-!
Contract: what a watch is told while the dispatcher keeps up.

As long as no event is lost before it is dispatched, the dispatcher passes the feed on from the position
at which the client was started, in order and without a gap. Owns: what a watch is told of it from its
registration to its end, and that other watches make no difference to it. Does not own: lagging clients.
-/

namespace LiveConfig

namespace ClientRun

variable {run : ClientRun}

/-- The feed does not keep the next event of the dispatcher any more. -/
def Lags (run : ClientRun) : Prop :=
  ∃ position ∈ run.client.position, position + Store.feedCapacity < run.store.feed.size

instance (run : ClientRun) : Decidable run.Lags :=
  inferInstanceAs (Decidable (∃ position ∈ run.client.position, _))

/-- No turn of the dispatcher finds that events were lost. -/
def KeepsUp : ClientRun → List ClientAction → Prop
  | _, [] => True
  | run, action :: rest => (action = .dispatch → ¬ run.Lags) ∧ (run.step action).KeepsUp rest

instance KeepsUp.decidable : (run : ClientRun) → (actions : List ClientAction) →
    Decidable (run.KeepsUp actions)
  | _, [] => .isTrue trivial
  | run, action :: rest =>
      have := KeepsUp.decidable (run.step action) rest
      inferInstanceAs (Decidable ((action = .dispatch → ¬ run.Lags) ∧ _))

theorem KeepsUp.of_append {earlier later : List ClientAction}
    (keepsUp : run.KeepsUp (earlier ++ later)) : (run.after earlier).KeepsUp later := by
  induction earlier generalizing run with
  | nil => exact keepsUp
  | cons action rest inductionHypothesis => exact inductionHypothesis keepsUp.2

theorem dispatches_of_unlost (unlost : ¬ run.Lags) :
    run.dispatches .dispatch =
      (run.client.position.bind fun position => run.store.feed[position]?).toList := by
  cases follows : run.client.position with
  | none => simp [dispatches, follows]
  | some position =>
      have kept : ¬ position + Store.feedCapacity < run.store.feed.size := fun behind =>
        unlost ⟨position, follows, behind⟩
      simp only [dispatches, follows, readFeed, if_neg kept, Option.bind_some]
      cases run.store.feed[position]? <;> rfl

/-! ### The order of the feed -/

theorem after_reached (reached : run.Reached) (actions : List ClientAction) :
    (run.after actions).Reached :=
  after_keeps (P := Reached) (fun _ action before => step_reached before action) reached actions

/-- A close apart, a turn that finds nothing lost moves the dispatcher behind what it dispatches, however
the feed grows. -/
theorem step_inOrder (wellFormed : run.client.WellFormed) {action : ClientAction}
    (unlost : action = .dispatch → ¬ run.Lags) {position : Nat}
    (follows : run.client.position = some position) :
    (run.step action).client.state = .closed ∧ run.dispatches action = [] ∨
      ∃ next, (run.step action).client.position = some next ∧
        ∀ log, run.store.feed.toList <+: log →
          log.drop position = run.dispatches action ++ log.drop next := by
  by_cases own : action = .dispatch
  · subst own
    right
    have turn := run.step_dispatch
    generalize run.step .dispatch = after at turn ⊢
    cases turn with
    | drained atEnd => exact ⟨position, follows, by simp [dispatches_drained atEnd]⟩
    | @told _ _ event moved found kept =>
        obtain rfl := Option.some.inj (follows.symm.trans moved.follows)
        refine ⟨_, moved.moved, fun log grown => ?_⟩
        -- What stands in the feed stands at the same place in every longer log.
        obtain ⟨below, here⟩ := Array.getElem?_eq_some_iff.mp found
        have inFeed : position < run.store.feed.toList.length := by simpa using below
        have inLog : position < log.length := Nat.lt_of_lt_of_le inFeed grown.length_le
        have sameEvent : log[position] = event := by
          rw [← grown.getElem inFeed]
          simpa using here
        rw [dispatches_told moved.follows found kept, List.drop_eq_getElem_cons inLog, sameEvent]
        rfl
    | lagged moved behind => exact absurd ⟨_, moved.follows, behind⟩ (unlost rfl)
  · have started := wellFormed.follows.mp (by simp [follows])
    rw [dispatches_of_ne own]
    rcases step_position own with same | ⟨created, -⟩ | ⟨closed, -⟩
    · exact .inr ⟨position, same.trans follows, fun _ _ => rfl⟩
    · cases started.symm.trans created
    · exact .inl ⟨closed, rfl⟩

theorem dispatched_of_closed (wellFormed : run.client.WellFormed)
    (closed : run.client.state = .closed) (actions : List ClientAction) :
    run.dispatched actions = [] := by
  induction actions generalizing run with
  | nil => rfl
  | cons action rest inductionHypothesis =>
      have nothing : run.dispatches action = [] := by
        by_cases own : action = .dispatch
        · simp [own, dispatches, wellFormed.position_of_closed closed]
        · exact dispatches_of_ne own
      rw [dispatched, nothing, List.nil_append]
      exact inductionHypothesis (step_wellFormed wellFormed action) (closed_step closed action)

theorem after_feed (run : ClientRun) (actions : List ClientAction) :
    run.store.feed.toList <+: (run.after actions).store.feed.toList := by
  obtain ⟨-, events, grown, -⟩ := Store.feed_append (run.after_changes actions)
  exact ⟨events, grown.symm⟩

/-- A dispatcher that keeps up passes the feed on from where it stands to where it comes. -/
theorem dispatched_inOrder (wellFormed : run.client.WellFormed) {actions : List ClientAction}
    (keepsUp : run.KeepsUp actions) {position : Nat}
    (follows : run.client.position = some position) :
    ∃ next, (∀ place, (run.after actions).client.position = some place → place = next) ∧
      (run.after actions).store.feed.toList.drop position =
        run.dispatched actions ++ (run.after actions).store.feed.toList.drop next := by
  induction actions generalizing run position with
  | nil => exact ⟨position, fun place found => Option.some.inj (found.symm.trans follows), rfl⟩
  | cons action rest inductionHypothesis =>
      obtain ⟨unlost, restKeepsUp⟩ := keepsUp
      have stillWellFormed := step_wellFormed wellFormed action
      have grown := run.after_feed (action :: rest)
      rcases step_inOrder wellFormed unlost follows with ⟨closed, nothing⟩ | ⟨between, moved, passed⟩
      · -- Nothing is dispatched behind a close, and no position is left to compare.
        have closedAtEnd := (after_wellFormed stillWellFormed rest).position_of_closed
          (closed_after closed rest)
        refine ⟨position, fun place found => ?_, ?_⟩
        · exact absurd (closedAtEnd.symm.trans found) (by simp)
        · rw [dispatched, nothing, dispatched_of_closed stillWellFormed closed]
          rfl
      · obtain ⟨next, atEnd, others⟩ := inductionHypothesis stillWellFormed restKeepsUp moved
        refine ⟨next, atEnd, ?_⟩
        calc (run.after (action :: rest)).store.feed.toList.drop position
            = run.dispatches action ++ (run.after (action :: rest)).store.feed.toList.drop between :=
              passed _ grown
          _ = run.dispatches action ++ ((run.step action).dispatched rest ++
                (run.after (action :: rest)).store.feed.toList.drop next) :=
              congrArg (run.dispatches action ++ ·) others
          _ = run.dispatched (action :: rest) ++
                (run.after (action :: rest)).store.feed.toList.drop next :=
              (List.append_assoc _ _ _).symm

/-! ### Other watches -/

theorem dispatches_of_viewOf_eq {other : ClientRun} {watch : Watch}
    (same : run.viewOf watch = other.viewOf watch) {action : ClientAction}
    (unlost : action = .dispatch → ¬ run.Lags) :
    run.dispatches action = other.dispatches action := by
  by_cases own : action = .dispatch
  · subst own
    have sameStore : run.store = other.store := congrArg (fun view => view.store) same
    have samePosition : run.client.position = other.client.position :=
      congrArg (fun view => view.client.position) same
    have othersUnlost : ¬ other.Lags := by
      rintro ⟨position, follows, behind⟩
      exact unlost rfl ⟨position, samePosition.trans follows, sameStore ▸ behind⟩
    rw [dispatches_of_unlost (unlost rfl), dispatches_of_unlost othersUnlost, sameStore, samePosition]
  · rw [dispatches_of_ne own, dispatches_of_ne own]

/-- While nothing is lost, what a watch is told depends on its view alone. Behind a lag it does not: each
watch of a path lets all watches of the path be told of the loss once more. -/
theorem toldTo_of_viewOf_eq {other : ClientRun} {watch : Watch} (numbered : run.client.Numbered)
    (otherNumbered : other.client.Numbered) (same : run.viewOf watch = other.viewOf watch)
    {actions : List ClientAction} (keepsUp : run.KeepsUp actions) :
    run.toldTo actions watch = other.toldTo actions watch := by
  induction actions generalizing run other with
  | nil => rfl
  | cons action rest inductionHypothesis =>
      obtain ⟨unlost, restKeepsUp⟩ := keepsUp
      have sameAfter : (run.step action).viewOf watch = (other.step action).viewOf watch := by
        rw [← step_viewOf, same, step_viewOf]
      have others := inductionHypothesis ((run.step_retabled action).numbered numbered)
        ((other.step_retabled action).numbered otherNumbered) sameAfter restKeepsUp
      have sameRegistered : run.Registered watch ↔ other.Registered watch := by
        rw [← registered_viewOf, same, registered_viewOf]
      have now : run.toldTo [action] watch = other.toldTo [action] watch := by
        rw [toldTo_turn numbered, toldTo_turn otherNumbered, dispatches_of_viewOf_eq same unlost]
        simp only [sameRegistered]
      rw [run.toldTo_cons, other.toldTo_cons action rest, now, others]

theorem toldTo_of_spares (numbered : run.client.Numbered) {watch : Watch} {action : ClientAction}
    (spares : action.Spares watch) {earlier later : List ClientAction}
    (keepsUp : run.KeepsUp (earlier ++ later)) :
    run.toldTo (earlier ++ action :: later) watch = run.toldTo (earlier ++ later) watch := by
  have numberedBetween := after_numbered numbered earlier
  have silent : (run.after earlier).dispatches action = [] := by cases spares <;> rfl
  have nothing : (run.after earlier).toldTo [action] watch = [] := by
    rw [toldTo_turn numberedBetween, silent]
    simp
  have others : (run.after earlier).toldTo later watch =
      ((run.after earlier).step action).toldTo later watch :=
    toldTo_of_viewOf_eq numberedBetween
      (((run.after earlier).step_retabled action).numbered numberedBetween)
      (viewOf_of_spares spares).symm keepsUp.of_append
  rw [toldTo_append, toldTo_cons, nothing, List.nil_append, ← others, ← toldTo_append]

/-! ### What a watch is told -/

/-- What a watch of the table is told by turns, from a run whose dispatcher stands at a position. -/
structure Told (run : ClientRun) (position : Nat) (actions : List ClientAction) (watch : Watch) :
    Prop where
  /-- The dispatcher passes the feed on. -/
  inOrder : run.dispatched actions <+: (run.after actions).store.feed.toList.drop position
  /-- Nothing of another path, nothing twice, and nothing in another order. -/
  ownPath : (run.toldTo actions watch).Sublist
    ((run.dispatched actions).filter (·.path = watch.path))
  ascending : ((run.toldTo actions watch).filterMap Notification.version?).Pairwise (· < ·)
  /-- Everything that is dispatched on the path while the watch is registered. -/
  everything : (run.after actions).Registered watch →
    run.toldTo actions watch = (run.dispatched actions).filter (·.path = watch.path)
  /-- Everything that was published on the path, when the feed is drained. -/
  drained : (run.after actions).Registered watch → (run.after actions).isDrained = true →
    run.toldTo actions watch =
      ((run.after actions).store.feed.toList.drop position).filter (·.path = watch.path)
  /-- Nothing more when the watch is not registered any more. -/
  ended : ¬ (run.after actions).Registered watch → ∀ more, (run.after actions).toldTo more watch = []

theorem told_of_mem (wellFormed : run.client.WellFormed) (numbered : run.client.Numbered)
    (logged : run.store.Logged) {actions : List ClientAction} (keepsUp : run.KeepsUp actions)
    {position : Nat} (follows : run.client.position = some position) {watch : Watch}
    (member : watch ∈ run.client.watches) : run.Told position actions watch := by
  have old := numbered.below watch member
  obtain ⟨next, atEnd, passed⟩ := dispatched_inOrder wellFormed keepsUp follows
  have ownPath := toldTo_sublist numbered watch actions
  have inOrder : run.dispatched actions <+: (run.after actions).store.feed.toList.drop position :=
    ⟨_, passed.symm⟩
  refine ⟨inOrder, ownPath, ?_, toldTo_of_registered numbered old, fun registered drained => ?_,
    fun ended more => ?_⟩
  · -- What was told stands in the feed, whose versions rise.
    have inFeed : (run.toldTo actions watch).Sublist (run.after actions).store.feed.toList :=
      ((ownPath.trans List.filter_sublist).trans inOrder.sublist).trans (List.drop_sublist _ _)
    exact (logged.changes (run.after_changes actions)).ascending.sublist (inFeed.filterMap _)
  · obtain ⟨place, followsAtEnd⟩ :=
      (after_wellFormed wellFormed actions).position_of_watch registered.1
    obtain rfl := atEnd place followsAtEnd
    have nothing : (run.after actions).client.dispatchNext? (run.after actions).isAlive
        (run.after actions).store.feed = none := by simpa [isDrained] using drained
    have beyond := Client.dispatchNext?_eq_none_iff.mp nothing place followsAtEnd
    have rest : (run.after actions).store.feed.toList.drop place = [] :=
      List.drop_eq_nil_of_le (by simpa using beyond)
    rw [toldTo_of_registered numbered old registered, passed, rest, List.append_nil]
  · refine toldTo_of_not_registered (after_numbered numbered actions) ?_ ended more
    exact Nat.lt_of_lt_of_le old (after_next_le run actions)

/-- However writes, starts, closes, watches, losses of listeners and the steps of a dispatcher that keeps
up take turns: what is delivered are the receipts of the watches, and a watch has one only of a turn at
which it is registered. From any moment on, a watch of the table is told every event on its path that is
dispatched while it is registered, once and in the order of the feed, so in the order of its versions,
and nothing else; when the feed is drained it was told all that was published on its path since then. To
take away another watch or another listener makes no difference to what it is told. -/
theorem watches_told_once_in_order (connectString name : String) (retry : RetryPolicy)
    (commands : List StoreCommand) (actions : List ClientAction)
    (keepsUp : (ofClient (.fresh connectString name retry) (Store.empty.run commands)).KeepsUp
      actions) :
    let begun := ofClient (.fresh connectString name retry) (Store.empty.run commands)
    (begun.after actions).delivered = (begun.receipts actions).map Receipt.delivery ∧
      (∀ receipt ∈ begun.receipts actions, ∃ earlier action later,
        actions = earlier ++ action :: later ∧ (begun.after earlier).Registered receipt.watch ∧
          receipt.event ∈ (begun.after earlier).dispatches action) ∧
      (∀ earlier later, actions = earlier ++ later →
        ∀ watch ∈ (begun.after earlier).client.watches, ∃ position,
          (begun.after earlier).client.position = some position ∧
          position ≤ (begun.after earlier).store.feed.size ∧
          (begun.after earlier).Told position later watch) ∧
      ∀ earlier later, actions = earlier ++ later → ∀ (watch : Watch) (action : ClientAction),
        action.Spares watch →
          begun.toldTo (earlier ++ action :: later) watch = begun.toldTo actions watch := by
  intro begun
  have wellFormed : begun.client.WellFormed := .fresh connectString name retry
  have numbered : begun.client.Numbered := .fresh connectString name retry
  have logged : begun.store.Logged := Store.Logged.empty.run commands
  have reached : begun.Reached := fun _ follows => nomatch follows
  refine ⟨begun.after_delivered actions, fun receipt received => exists_turn_of_receipt received,
    fun earlier later split watch member => ?_, fun earlier later split watch action spares => ?_⟩
  · subst split
    have wellFormedThen := after_wellFormed wellFormed earlier
    obtain ⟨position, follows⟩ := wellFormedThen.position_of_watch member
    refine ⟨position, follows, after_reached reached earlier position follows, ?_⟩
    exact told_of_mem wellFormedThen (after_numbered numbered earlier)
      (logged.changes (begun.after_changes earlier)) keepsUp.of_append follows member
  · subst split
    exact toldTo_of_spares numbered spares keepsUp

/-- Two starts that both connect, and two watches of one node by different recorders. -/
def watchedTwice : List ClientAction :=
  [.beginStart, .beginStart, .advanceStart 0, .advanceStart 1, .advanceStart 0, .advanceStart 1,
    .watch "/a" (.recorder 0), .watch "/a" (.recorder 1)]

/-- Writes to this node and to another one, all dispatched; one recorder goes on the way. -/
def rewritten : List ClientAction :=
  [.create "/b" [], .store (.write "/a" [0x31]), .dispatch, .lose (.recorder 1),
    .store (.delete "/a"), .dispatch, .dispatch]

theorem watchedTwice_told :
    let begun := ofClient (.fresh "localhost" "main" .default) (Store.empty.run [.create "/a" []])
    let run := begun.after watchedTwice
    let watch : Watch := ⟨1, "/a", .recorder 0⟩
    begun.KeepsUp (watchedTwice ++ rewritten) ∧
      run.toldTo rewritten watch = [.dataChanged "/a" [0x31] 3, .deleted "/a" 4] ∧
      begun.toldTo (watchedTwice ++ .unwatch 2 :: rewritten) watch =
        begun.toldTo (watchedTwice ++ rewritten) watch := by
  intro begun run watch
  have keepsUp : begun.KeepsUp (watchedTwice ++ rewritten) := by decide
  obtain ⟨-, -, told, unmoved⟩ := watches_told_once_in_order "localhost" "main" .default
    [.create "/a" []] (watchedTwice ++ rewritten) keepsUp
  have member : watch ∈ run.client.watches := by decide
  obtain ⟨position, follows, -, told⟩ := told watchedTwice rewritten rfl watch member
  have atFirst : some 1 = some position := follows
  obtain rfl := Option.some.inj atFirst
  refine ⟨keepsUp, ?_, unmoved watchedTwice rewritten rfl watch _ (.unwatch (by decide))⟩
  exact told.drained (by decide) (by decide)

end ClientRun

end LiveConfig
