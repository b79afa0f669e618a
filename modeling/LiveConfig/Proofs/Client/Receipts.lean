import LiveConfig.Proofs.Client.Starts

/-!
Contract: what each watch of a client is told.

A delivery names a listener, and a listener can have several watches. A receipt names the watch, so that
the deliveries of a run are its receipts without the watches. A watch of the table whose listener is
there is told the events of its path among those that a turn dispatches, once each; any other watch is
told nothing. Owns: the receipts, the identifiers of watches, and what one turn tells one watch. Does not
own: which events are dispatched when.
-/

namespace LiveConfig

/-- An event that a watch was told. -/
structure Receipt where
  watch : Watch
  event : Notification
deriving DecidableEq, Repr

/-- The receipt as its listener sees it. -/
def Receipt.delivery (receipt : Receipt) : Delivery := ⟨receipt.watch.listener, receipt.event⟩

namespace Client

variable (client : Client) (isAlive : Listener → Bool)

def receipts (event : Notification) : List Receipt :=
  ((client.liveWatches isAlive).filter (·.path = event.path)).map fun watch => ⟨watch, event⟩

theorem receipts_delivery (event : Notification) :
    (client.receipts isAlive event).map Receipt.delivery = client.deliveries isAlive event := by
  simp [receipts, deliveries, Receipt.delivery]

def eventsOf (watch : Watch) (receipts : List Receipt) : List Notification :=
  (receipts.filter (·.watch = watch)).map (·.event)

theorem eventsOf_append (watch : Watch) (first others : List Receipt) :
    eventsOf watch (first ++ others) = eventsOf watch first ++ eventsOf watch others := by
  simp [eventsOf]

/-! ### The identifiers of watches -/

/-- The identifiers in the table rise, and the next one is new. -/
structure Numbered (client : Client) : Prop where
  ascending : client.watches.Pairwise fun earlier later => earlier.id < later.id
  below : ∀ watch ∈ client.watches, watch.id < client.nextWatch

variable {client}

theorem Numbered.fresh (connectString store : String) (retry : RetryPolicy) :
    (Client.fresh connectString store retry).Numbered := ⟨.nil, fun _ member => nomatch member⟩

theorem Numbered.nodup (numbered : client.Numbered) : client.watches.Nodup :=
  numbered.ascending.imp fun {earlier later} less same => by
    rw [same] at less
    exact Nat.lt_irrefl _ less

variable {isAlive : Listener → Bool}

/-- An event reaches a watch once if the watch is in the table and on the path, and its listener is
there. -/
theorem Numbered.eventsOf_receipts (numbered : client.Numbered) (watch : Watch)
    (event : Notification) :
    eventsOf watch (client.receipts isAlive event) =
      if (watch ∈ client.watches ∧ isAlive watch.listener = true) ∧ event.path = watch.path then [event]
      else [] := by
  -- No two identifiers are the same, so the table holds a watch at most once.
  have once : client.watches.filter (· = watch) = if watch ∈ client.watches then [watch] else [] := by
    rw [List.filter_eq, numbered.nodup.count]
    split <;> rfl
  have own : eventsOf watch (client.receipts isAlive event) =
      ((client.watches.filter (· = watch)).filter fun watch =>
        watch.path = event.path ∧ isAlive watch.listener = true).map fun _ => event := by
    simp only [eventsOf, receipts, liveWatches, List.filter_map, List.map_map, List.filter_filter]
    congr 2
    funext watch
    simp [Bool.and_comm, Bool.and_left_comm]
  rw [own, once]
  by_cases member : watch ∈ client.watches
  · by_cases alive : isAlive watch.listener = true
    · by_cases onPath : event.path = watch.path
      · simp [member, alive, onPath]
      · simp [member, alive, onPath, Ne.symm onPath]
    · simp [alive]
  · simp [member]

theorem Numbered.eventsOf_flatMap (numbered : client.Numbered) (watch : Watch)
    (events : List Notification) :
    eventsOf watch (events.flatMap (client.receipts isAlive)) =
      if watch ∈ client.watches ∧ isAlive watch.listener = true then
        events.filter (·.path = watch.path)
      else [] := by
  induction events with
  | nil => simp [eventsOf]
  | cons event rest inductionHypothesis =>
      rw [List.flatMap_cons, eventsOf_append, numbered.eventsOf_receipts, inductionHypothesis]
      by_cases told : watch ∈ client.watches ∧ isAlive watch.listener = true
      · by_cases onPath : event.path = watch.path <;> simp [told, onPath]
      · simp [told]

/-- What can happen to the table: watches go, or one comes behind the others under the next
identifier. -/
inductive Retabled (client : Client) : Client → Prop where
  | fewer {after : Client} (watches : after.watches.Sublist client.watches)
      (next : after.nextWatch = client.nextWatch) : Retabled client after
  | another {after : Client} {watch : Watch} (id : watch.id = client.nextWatch)
      (watches : after.watches = client.watches ++ [watch])
      (next : after.nextWatch = client.nextWatch + 1) : Retabled client after

namespace Retabled

variable {after : Client}

theorem next_le (retabled : client.Retabled after) : client.nextWatch ≤ after.nextWatch := by
  cases retabled <;> omega

theorem numbered (retabled : client.Retabled after) (numbered : client.Numbered) :
    after.Numbered := by
  cases retabled with
  | fewer watches next =>
      exact ⟨numbered.ascending.sublist watches, fun watch member =>
        next ▸ numbered.below watch (watches.subset member)⟩
  | another id watches next =>
      refine ⟨?_, fun watch member => ?_⟩
      · rw [watches, List.pairwise_append]
        refine ⟨numbered.ascending, List.pairwise_singleton _ _, fun earlier member later last => ?_⟩
        rw [List.mem_singleton.mp last, id]
        exact numbered.below earlier member
      · rw [watches] at member
        rw [next]
        rcases List.mem_append.mp member with old | new
        · exact Nat.lt_succ_of_lt (numbered.below watch old)
        · rw [List.mem_singleton.mp new, id]
          exact Nat.lt_succ_self _

/-- A watch that is in the table afterwards and is not the newest one was there before. -/
theorem mem_of_mem (retabled : client.Retabled after) {watch : Watch}
    (old : watch.id < client.nextWatch) (member : watch ∈ after.watches) :
    watch ∈ client.watches := by
  cases retabled with
  | fewer watches next => exact watches.subset member
  | another id watches next =>
      rw [watches] at member
      refine (List.mem_append.mp member).resolve_right fun new => ?_
      rw [List.mem_singleton.mp new, id] at old
      exact Nat.lt_irrefl _ old

end Retabled

end Client

namespace ClientRun

variable {run : ClientRun}

theorem step_retabled (run : ClientRun) (action : ClientAction) :
    run.client.Retabled (run.step action).client := by
  have left := run.step_leaves action
  generalize (run.step action).client = client at left ⊢
  cases left with
  | same => exact .fewer (.refl _) rfl
  | connected =>
      unfold Client.connected
      split <;> exact .fewer (.refl _) rfl
  | closed =>
      unfold Client.close
      split
      · exact .fewer (.refl _) rfl
      all_goals
        split
        · exact .fewer (.refl _) rfl
        · exact .fewer (List.nil_sublist _) rfl
  | watched path listener =>
      unfold Client.watch
      split
      · exact .fewer (.refl _) rfl
      · split
        · exact .fewer (.refl _) rfl
        · exact .another rfl rfl rfl
  | unwatched id => exact .fewer List.filter_sublist rfl
  | dispatched dispatched => cases dispatched <;> exact .fewer List.filter_sublist rfl

theorem after_numbered (numbered : run.client.Numbered) (actions : List ClientAction) :
    (run.after actions).client.Numbered :=
  after_keeps (P := fun run => run.client.Numbered)
    (fun before action kept => (before.step_retabled action).numbered kept) numbered actions

theorem after_next_le (run : ClientRun) (actions : List ClientAction) :
    run.client.nextWatch ≤ (run.after actions).client.nextWatch :=
  after_keeps (P := fun later => run.client.nextWatch ≤ later.client.nextWatch)
    (fun between action before => Nat.le_trans before (between.step_retabled action).next_le)
    (Nat.le_refl _) actions

/-- The watch is in the table and its listener is there. -/
def Registered (run : ClientRun) (watch : Watch) : Prop :=
  watch ∈ run.client.watches ∧ run.isAlive watch.listener = true

instance (run : ClientRun) (watch : Watch) : Decidable (run.Registered watch) := by
  unfold Registered
  infer_instance

/-- A watch or a listener that is gone never comes back. -/
theorem registered_of_step {watch : Watch} (old : watch.id < run.client.nextWatch)
    {action : ClientAction} (registered : (run.step action).Registered watch) :
    run.Registered watch := by
  obtain ⟨member, alive⟩ := registered
  exact ⟨(run.step_retabled action).mem_of_mem old member, alive_of_step alive⟩

theorem registered_of_after {watch : Watch} (old : watch.id < run.client.nextWatch)
    {actions : List ClientAction} (registered : (run.after actions).Registered watch) :
    run.Registered watch := by
  induction actions generalizing run with
  | nil => exact registered
  | cons action rest inductionHypothesis =>
      have known := Nat.lt_of_lt_of_le old (run.step_retabled action).next_le
      exact registered_of_step old (inductionHypothesis known registered)

/-! ### What is dispatched -/

/-- The events that a turn dispatches: the next of the feed, or the failures that tell of lost ones. -/
def dispatches (run : ClientRun) : ClientAction → List Notification
  | .dispatch =>
      match run.client.position with
      | none => []
      | some position =>
          match (readFeed Store.feedCapacity run.store.feed position).1 with
          | .nothing => []
          | .entry event => [event]
          | .missed count => run.client.lagEvents count
  | _ => []

def dispatched : ClientRun → List ClientAction → List Notification
  | _, [] => []
  | run, action :: rest => run.dispatches action ++ (run.step action).dispatched rest

def receipts : ClientRun → List ClientAction → List Receipt
  | _, [] => []
  | run, action :: rest =>
      (run.dispatches action).flatMap (run.client.receipts run.isAlive) ++
        (run.step action).receipts rest

/-- What turns tell a watch, oldest first. -/
def toldTo (run : ClientRun) (actions : List ClientAction) (watch : Watch) : List Notification :=
  Client.eventsOf watch (run.receipts actions)

theorem dispatches_of_ne {action : ClientAction} (others : action ≠ .dispatch) :
    run.dispatches action = [] := by
  cases action <;> first | rfl | exact absurd rfl others

theorem dispatches_told {position : Nat} {event : Notification}
    (follows : run.client.position = some position)
    (found : run.store.feed[position]? = some event)
    (kept : run.store.feed.size ≤ position + Store.feedCapacity) :
    run.dispatches .dispatch = [event] := by
  simp [dispatches, follows, readFeed, found, Nat.not_lt.mpr kept]

theorem dispatches_lagged {position : Nat} (follows : run.client.position = some position)
    (behind : position + Store.feedCapacity < run.store.feed.size) :
    run.dispatches .dispatch =
      run.client.lagEvents (run.store.feed.size - Store.feedCapacity - position) := by
  simp [dispatches, follows, readFeed, behind]

theorem dispatches_drained (atEnd : run.isDrained = true) : run.dispatches .dispatch = [] := by
  have nothing : run.client.dispatchNext? run.isAlive run.store.feed = none := by
    simpa [isDrained] using atEnd
  have beyond := Client.dispatchNext?_eq_none_iff.mp nothing
  cases follows : run.client.position with
  | none => simp [dispatches, follows]
  | some position =>
      have atEnd := beyond position follows
      have unlost : ¬ position + Store.feedCapacity < run.store.feed.size := by omega
      simp [dispatches, follows, readFeed, unlost, Array.getElem?_eq_none atEnd]

theorem step_delivered (run : ClientRun) (action : ClientAction) :
    (run.step action).delivered = run.delivered ++
      ((run.dispatches action).flatMap (run.client.receipts run.isAlive)).map Receipt.delivery := by
  have delivery : ((run.dispatches action).flatMap (run.client.receipts run.isAlive)).map
      Receipt.delivery = (run.dispatches action).flatMap (run.client.deliveries run.isAlive) := by
    rw [List.map_flatMap]
    congr 1
    funext event
    exact run.client.receipts_delivery run.isAlive event
  rw [delivery]
  by_cases own : action = .dispatch
  · subst own
    have turn := run.step_dispatch
    generalize run.step .dispatch = after at turn ⊢
    cases turn with
    | drained atEnd => simp [dispatches_drained atEnd]
    | told moved found kept delivered =>
        rw [delivered, dispatches_told moved.follows found kept]
        simp
    | lagged moved behind delivered =>
        rw [delivered, dispatches_lagged moved.follows behind]
  · rw [step_silent own, dispatches_of_ne own]
    simp

/-! ### What watches are told -/

theorem after_delivered (run : ClientRun) (actions : List ClientAction) :
    (run.after actions).delivered =
      run.delivered ++ (run.receipts actions).map Receipt.delivery := by
  induction actions generalizing run with
  | nil => simp [after, receipts]
  | cons action rest inductionHypothesis =>
      have others := inductionHypothesis (run.step action)
      rw [step_delivered, List.append_assoc, ← List.map_append] at others
      exact others

theorem toldTo_append (run : ClientRun) (earlier later : List ClientAction) (watch : Watch) :
    run.toldTo (earlier ++ later) watch =
      run.toldTo earlier watch ++ (run.after earlier).toldTo later watch := by
  induction earlier generalizing run with
  | nil => rfl
  | cons action rest inductionHypothesis =>
      have others := inductionHypothesis (run.step action)
      simp only [toldTo] at others ⊢
      rw [List.cons_append, receipts, receipts, Client.eventsOf_append, Client.eventsOf_append,
        List.append_assoc, others]
      rfl

theorem toldTo_cons (run : ClientRun) (action : ClientAction) (rest : List ClientAction)
    (watch : Watch) :
    run.toldTo (action :: rest) watch =
      run.toldTo [action] watch ++ (run.step action).toldTo rest watch :=
  run.toldTo_append [action] rest watch

/-- A turn tells a watch of the table whose listener is there the events of its path that it
dispatches, and any other watch nothing. -/
theorem toldTo_turn (numbered : run.client.Numbered) (action : ClientAction) (watch : Watch) :
    run.toldTo [action] watch =
      if run.Registered watch then (run.dispatches action).filter (·.path = watch.path) else [] := by
  rw [toldTo, receipts, receipts, List.append_nil, numbered.eventsOf_flatMap]
  rfl

theorem toldTo_of_registered (numbered : run.client.Numbered) {watch : Watch}
    (old : watch.id < run.client.nextWatch) {actions : List ClientAction}
    (registered : (run.after actions).Registered watch) :
    run.toldTo actions watch = (run.dispatched actions).filter (·.path = watch.path) := by
  induction actions generalizing run with
  | nil => rfl
  | cons action rest inductionHypothesis =>
      have retabled := run.step_retabled action
      have others := inductionHypothesis (retabled.numbered numbered)
        (Nat.lt_of_lt_of_le old retabled.next_le) registered
      -- Nothing comes back, so what is registered at the end was so all the time.
      have before : run.Registered watch := registered_of_after old registered
      rw [toldTo_cons, toldTo_turn numbered, if_pos before, others, dispatched, List.filter_append]

theorem toldTo_of_not_registered (numbered : run.client.Numbered) {watch : Watch}
    (old : watch.id < run.client.nextWatch) (ended : ¬ run.Registered watch)
    (actions : List ClientAction) : run.toldTo actions watch = [] := by
  induction actions generalizing run with
  | nil => rfl
  | cons action rest inductionHypothesis =>
      have retabled := run.step_retabled action
      have others := inductionHypothesis (retabled.numbered numbered)
        (Nat.lt_of_lt_of_le old retabled.next_le) fun again => ended (registered_of_step old again)
      rw [toldTo_cons, toldTo_turn numbered, if_neg ended, others, List.nil_append]

/-- Whatever a watch is told was dispatched, and is told in that order. -/
theorem toldTo_sublist (numbered : run.client.Numbered) (watch : Watch)
    (actions : List ClientAction) :
    (run.toldTo actions watch).Sublist ((run.dispatched actions).filter (·.path = watch.path)) := by
  induction actions generalizing run with
  | nil => exact .refl _
  | cons action rest inductionHypothesis =>
      have others := inductionHypothesis ((run.step_retabled action).numbered numbered)
      have first : (run.toldTo [action] watch).Sublist
          ((run.dispatches action).filter (·.path = watch.path)) := by
        rw [toldTo_turn numbered]
        split
        · exact .refl _
        · exact List.nil_sublist _
      rw [toldTo_cons, dispatched, List.filter_append]
      exact first.append others

/-- A watch is told something only while it is registered. -/
theorem exists_turn_of_receipt {actions : List ClientAction} {receipt : Receipt}
    (received : receipt ∈ run.receipts actions) :
    ∃ earlier action later, actions = earlier ++ action :: later ∧
      (run.after earlier).Registered receipt.watch ∧
      receipt.event ∈ (run.after earlier).dispatches action := by
  induction actions generalizing run with
  | nil => cases received
  | cons action rest inductionHypothesis =>
      rcases List.mem_append.mp received with now | later
      · obtain ⟨event, dispatched, here⟩ := List.mem_flatMap.mp now
        obtain ⟨watch, onPath, rfl⟩ := List.mem_map.mp here
        obtain ⟨member, alive⟩ := List.mem_filter.mp (List.mem_filter.mp onPath).1
        exact ⟨[], action, rest, rfl, ⟨member, alive⟩, dispatched⟩
      · obtain ⟨earlier, turn, others, rfl, told⟩ := inductionHypothesis later
        exact ⟨action :: earlier, turn, others, rfl, told⟩

end ClientRun

end LiveConfig
