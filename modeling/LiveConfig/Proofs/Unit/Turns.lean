import LiveConfig.Proofs.Client.Lifecycle
import LiveConfig.Proofs.Unit.Snapshot
import LiveConfig.Unit.Life
import Mathlib.Data.List.Basic

/-!
Contract: what one step of the life of a unit does.

Owns: the kinds of step with everything that they leave, and the shape of the table of watches that
makes a told event reach the unit once. Later proofs about the life of a unit look at its turns and not
at its actions. Does not own: what a turn means for the values of the unit.
-/

namespace LiveConfig

namespace UnitRun

variable (following : UnitRun)

theorem received_of_delivered {after : ClientRun} {deliveries : List Delivery}
    (delivered : after.delivered = following.run.delivered ++ deliveries) :
    following.received after = Client.eventsFor following.unit.listener deliveries := by
  simp [received, ClientRun.deliveredTo, Client.eventsFor, delivered]

theorem received_of_silent {after : ClientRun} (silent : after.delivered = following.run.delivered) :
    following.received after = [] := by
  simp [received, ClientRun.deliveredTo, silent]

end UnitRun

namespace ConfigUnit

/-- The watch of the unit as its client keeps it. -/
def ownWatch (unit : ConfigUnit) : List Watch :=
  (unit.watch.map fun id => ⟨id, unit.path, unit.listener⟩).toList

theorem SameBinding.ownWatch {unit other : ConfigUnit} (binding : unit.SameBinding other) :
    other.ownWatch = unit.ownWatch := by
  rw [ConfigUnit.ownWatch, ConfigUnit.ownWatch, binding.watch, binding.path, binding.listener]

/-- A unit that is told of failures remembers the last of them. -/
theorem receiveEach_failures (unit : ConfigUnit) {events : List Notification}
    (failures : ∀ event ∈ events, ∃ path message, event = .failed path message) :
    ∃ lastError, (unit.receiveEach events).1 = { unit with lastError := lastError } ∧
      (events ≠ [] → lastError.isSome) := by
  induction events generalizing unit with
  | nil => exact ⟨unit.lastError, rfl, fun someEvent => absurd rfl someEvent⟩
  | cons event rest inductionHypothesis =>
      obtain ⟨path, message, rfl⟩ := failures event List.mem_cons_self
      obtain ⟨lastError, after, remembers⟩ :=
        inductionHypothesis (unit.receive (.failed path message)).1
          fun other member => failures other (List.mem_cons_of_mem _ member)
      cases rest with
      | nil => exact ⟨some message, rfl, fun _ => rfl⟩
      | cons next rest =>
          refine ⟨lastError, ?_, fun _ => remembers (by simp)⟩
          simp only [receiveEach] at after ⊢
          rw [after]
          rfl

end ConfigUnit

namespace UnitLife

variable {life : UnitLife}

/-- The unit is told what happens to its node: it has its watch, and its listener is there. -/
def Follows (life : UnitLife) : Prop :=
  life.following.run.isAlive life.unit.listener = true ∧
    ∃ id, life.unit.watch = some id ∧ ⟨id, life.unit.path, life.unit.listener⟩ ∈ life.client.watches

/-- A unit that is to follow its node, beside a client in whose table it has its own watch at most. -/
structure Regular (life : UnitLife) : Prop where
  wellFormed : life.client.WellFormed
  own : (life.client.watchesOf life.unit.listener).Sublist life.unit.ownWatch
  autoRefreshed : life.unit.autoRefreshed = true

namespace Regular

theorem watchesOf_of_follows (regular : life.Regular) (follows : life.Follows) :
    life.client.watchesOf life.unit.listener = life.unit.ownWatch := by
  obtain ⟨-, id, watching, member⟩ := follows
  have own := regular.own
  simp only [ConfigUnit.ownWatch, watching, Option.map_some, Option.toList_some] at own ⊢
  rcases List.sublist_singleton.mp own with noWatch | same
  · have inTable : (⟨id, life.unit.path, life.unit.listener⟩ : Watch) ∈
        life.client.watchesOf life.unit.listener := List.mem_filter.mpr ⟨member, by simp⟩
    rw [noWatch] at inTable
    cases inTable
  · exact same

theorem watchesOf_of_not_follows (regular : life.Regular)
    (alive : life.following.run.isAlive life.unit.listener = true) (lost : ¬ life.Follows) :
    life.client.watchesOf life.unit.listener = [] := by
  have own := regular.own
  cases watching : life.unit.watch with
  | none => simpa [ConfigUnit.ownWatch, watching] using own
  | some id =>
      simp only [ConfigUnit.ownWatch, watching, Option.map_some, Option.toList_some] at own
      rcases List.sublist_singleton.mp own with noWatch | same
      · exact noWatch
      · have inTable : (⟨id, life.unit.path, life.unit.listener⟩ : Watch) ∈
            life.client.watchesOf life.unit.listener := by simp [same]
        exact absurd ⟨alive, id, watching, (List.mem_filter.mp inTable).1⟩ lost

/-- An event reaches a unit that follows its node once, if it is about this node. -/
theorem eventsFor_of_follows (regular : life.Regular) (follows : life.Follows)
    (event : Notification) :
    Client.eventsFor life.unit.listener
      (life.client.deliveries life.following.run.isAlive event) =
        if event.path = life.unit.path then [event] else [] := by
  have own := regular.watchesOf_of_follows follows
  obtain ⟨alive, id, watching, -⟩ := follows
  rw [Client.eventsFor_deliveries, if_pos alive, own]
  by_cases onPath : event.path = life.unit.path
  · simp [ConfigUnit.ownWatch, watching, onPath]
  · simp [ConfigUnit.ownWatch, watching, onPath, Ne.symm onPath]

/-- Nothing reaches a unit that does not follow its node. -/
theorem eventsFor_of_not_follows (regular : life.Regular) (lost : ¬ life.Follows)
    (event : Notification) :
    Client.eventsFor life.unit.listener
      (life.client.deliveries life.following.run.isAlive event) = [] := by
  rw [Client.eventsFor_deliveries]
  split
  · rename_i alive
    rw [regular.watchesOf_of_not_follows alive lost]
    rfl
  · rfl

end Regular

/-- What one step does. -/
inductive Turn (life : UnitLife) : UnitAction → UnitLife → Prop where
  /-- Nothing that concerns the unit. -/
  | quiet {action : ClientAction} {published : List ChangeEvent}
      (drained : action = .dispatch → life.following.run.isDrained = true)
      (wellFormed : (life.following.run.step action).client.WellFormed)
      (quiet : ClientRun.Quiet life.unit.listener life.following.run
        (life.following.run.step action)) :
      Turn life (.client action)
        ⟨⟨life.following.run.step action, life.unit, published⟩, life.attachment, life.results⟩
  /-- The next event of the feed, which is about the node. -/
  | told {run : ClientRun} {published : List ChangeEvent} {position : Nat} {event : Notification}
      (moved : life.following.run.Moved position (position + 1) run)
      (found : life.store.feed[position]? = some event)
      (kept : life.store.feed.size ≤ position + Store.feedCapacity)
      (follows : life.Follows) (onPath : event.path = life.unit.path) :
      Turn life (.client .dispatch)
        ⟨⟨run, (life.unit.receive event).1, published⟩, life.attachment, life.results⟩
  /-- The next event of the feed, which is not for the unit. -/
  | passed {run : ClientRun} {published : List ChangeEvent} {position : Nat} {event : Notification}
      (moved : life.following.run.Moved position (position + 1) run)
      (found : life.store.feed[position]? = some event)
      (kept : life.store.feed.size ≤ position + Store.feedCapacity)
      (apart : life.Follows → event.path ≠ life.unit.path) :
      Turn life (.client .dispatch)
        ⟨⟨run, life.unit, published⟩, life.attachment, life.results⟩
  /-- The report that events were lost. -/
  | lagged {run : ClientRun} {published : List ChangeEvent} {position : Nat}
      {lastError : Option String}
      (moved : life.following.run.Moved position (life.store.feed.size - Store.feedCapacity) run)
      (behind : position + Store.feedCapacity < life.store.feed.size)
      (remembers : life.Follows → lastError.isSome) :
      Turn life (.client .dispatch)
        ⟨⟨run, { life.unit with lastError := lastError }, published⟩, life.attachment, life.results⟩
  /-- The watch of an attachment. -/
  | registered {published : List ChangeEvent} (idle : life.attachment = .idle)
      (unwatched : life.unit.watch = none) (started : life.client.state = .started) :
      Turn life .attach ⟨⟨{ life.following.run with
        client.watches := life.client.watches ++
          [⟨life.client.nextWatch, life.unit.path, life.unit.listener⟩]
        client.nextWatch := life.client.nextWatch + 1 },
        { life.unit with watch := some life.client.nextWatch }, published⟩, .reading, life.results⟩
  /-- The beginning of an attachment for which the watch is there. -/
  | resumed {published : List ChangeEvent} (idle : life.attachment = .idle) {id : Nat}
      (watching : life.unit.watch = some id) :
      Turn life .attach ⟨⟨life.following.run, life.unit, published⟩, .reading, life.results⟩
  /-- The end of an attachment whose request was refused. -/
  | refused {published : List ChangeEvent} (error : ConfigError) :
      Turn life .attach
        ⟨⟨life.following.run, life.unit, published⟩, .idle, life.results ++ [.error error]⟩
  /-- The reading of an attachment. -/
  | read {published : List ChangeEvent} (reading : life.attachment = .reading) :
      Turn life .attach ⟨⟨life.following.run, life.unit, published⟩,
        .settling (life.store.contents? life.unit.path), life.results⟩
  /-- The end of an attachment that has read. -/
  | settled {published : List ChangeEvent} {contents : Option NodeContents}
      (settling : life.attachment = .settling contents) :
      Turn life .attach ⟨⟨life.following.run, life.unit.observed contents, published⟩, .idle,
        life.results ++ [(life.unit.observe contents).1]⟩

/-- An attachment between whose steps nothing happens is these steps in a row. -/
theorem steps_of_attach (idle : life.attachment = .idle) :
    ∃ steps ≤ 3, life.after (List.replicate steps .attach) =
      ⟨life.following.attach.2, .idle, life.results ++ [life.following.attach.1]⟩ := by
  obtain ⟨⟨run, unit, published⟩, attachment, results⟩ := life
  obtain rfl : attachment = .idle := idle
  cases registering : unit.register Client.service (run.client, run.store) with
  | mk result state =>
      cases result with
      | error error =>
          refine ⟨1, by omega, ?_⟩
          simp [after, step, advance, register, UnitLife.unit, client, store, registering,
            UnitRun.attach, ConfigUnit.attach, conclude, withServed]
      | ok registered =>
          cases reading : Client.service (.read registered.path) state with
          | mk result final =>
              cases result with
              | error error =>
                  refine ⟨2, by omega, ?_⟩
                  simp [after, step, advance, register, UnitLife.unit, client, store, registering,
                    UnitRun.attach, ConfigUnit.attach, conclude, withServed, read,
                    ConfigUnit.refresh, reading]
              | ok contents =>
                  refine ⟨3, by omega, ?_⟩
                  simp [after, step, advance, register, UnitLife.unit, client, store, registering,
                    UnitRun.attach, ConfigUnit.attach, conclude, withServed, read,
                    ConfigUnit.refresh, reading, settle]

/-! ### Every step is a turn -/

theorem step_client_of_silent {action : ClientAction}
    (silent : (life.following.run.step action).delivered = life.following.run.delivered) :
    life.step (.client action) =
      ⟨⟨life.following.run.step action, life.unit, life.following.published ++ []⟩,
        life.attachment, life.results⟩ := by
  simp only [step, UnitRun.step, UnitRun.received_of_silent _ silent]
  rfl

theorem step_client_of_delivered {action : ClientAction} {deliveries : List Delivery}
    (delivered : (life.following.run.step action).delivered =
      life.following.run.delivered ++ deliveries) :
    life.step (.client action) =
      ⟨⟨life.following.run.step action,
        (life.unit.receiveEach (Client.eventsFor life.unit.listener deliveries)).1,
        life.following.published ++
          (life.unit.receiveEach (Client.eventsFor life.unit.listener deliveries)).2⟩,
        life.attachment, life.results⟩ := by
  simp only [step, UnitRun.step, UnitRun.received_of_delivered _ delivered]
  rfl

theorem step_dispatch_turn (regular : life.Regular) :
    life.Turn (.client .dispatch) (life.step (.client .dispatch)) := by
  have turn := life.following.run.step_dispatch
  generalize after : life.following.run.step .dispatch = run at turn
  cases turn with
  | drained atEnd =>
      rw [step_client_of_silent (by rw [after])]
      refine .quiet (fun _ => atEnd) ?_ ?_
      · exact ClientRun.step_wellFormed regular.wellFormed .dispatch
      · rw [after]
        exact .refl _ _
  | told moved found kept delivered =>
      rename_i position event
      rw [step_client_of_delivered (by rw [after, delivered]), after]
      by_cases follows : life.Follows
      · have events := regular.eventsFor_of_follows follows event
        by_cases onPath : event.path = life.unit.path
        · rw [if_pos onPath] at events
          simp only [client] at events
          rw [events]
          exact .told moved found kept follows onPath
        · rw [if_neg onPath] at events
          simp only [client] at events
          rw [events]
          exact .passed moved found kept fun _ => onPath
      · have events := regular.eventsFor_of_not_follows follows event
        simp only [client] at events
        rw [events]
        exact .passed moved found kept fun reached => absurd reached follows
  | lagged moved behind delivered =>
      rw [step_client_of_delivered (by rw [after, delivered]), after]
      obtain ⟨lastError, remembering, remembers⟩ :=
        life.unit.receiveEach_failures fun event member => Client.failed_of_mem_lagEvents member
      rw [remembering]
      refine .lagged moved behind fun follows => remembers ?_
      obtain ⟨alive, id, -, member⟩ := follows
      exact Client.lagEvents_reach _ alive (List.mem_filter.mpr ⟨member, by simp⟩)

theorem register_turn (regular : life.Regular) (idle : life.attachment = .idle) :
    life.Turn .attach life.register := by
  cases watching : life.unit.watch with
  | some id =>
      have resumed : life.unit.register Client.service (life.client, life.store) =
          (.ok life.unit, (life.client, life.store)) := by
        simp [ConfigUnit.register, ConfigUnit.isWatching, watching]
      simp only [register, resumed]
      exact .resumed idle watching
  | none =>
      have registering : (life.unit.autoRefreshed && !life.unit.isWatching) = true := by
        simp [regular.autoRefreshed, ConfigUnit.isWatching, watching]
      simp only [register, ConfigUnit.register, registering, if_true, Client.service, Client.serve,
        Client.watch]
      cases served : life.client.requireStarted with
      | error error => exact .refused (.store error)
      | ok =>
          cases Path.validate life.unit.path with
          | error error => exact .refused (.store error)
          | ok => exact .registered idle watching (Client.started_of_requireStarted served)

theorem read_turn (reading : life.attachment = .reading) : life.Turn .attach life.read := by
  simp only [read, Client.service, Client.serve]
  cases life.client.requireStarted with
  | error error => exact .refused (.store error)
  | ok started =>
      simp only [Store.read]
      cases Path.validate life.unit.path with
      | error error => exact .refused (.store error)
      | ok valid => exact .read reading

theorem advance_turn (regular : life.Regular) : life.Turn .attach life.advance := by
  unfold advance
  split
  · rename_i idle
    exact register_turn regular idle
  · rename_i reading
    exact read_turn reading
  · rename_i contents settling
    exact .settled settling

/-- Every step is a turn, if nobody else registers the listener of the unit. -/
theorem step_turn (regular : life.Regular) {action : UnitAction}
    (others : ∀ path, action ≠ .client (.watch path life.unit.listener)) :
    life.Turn action (life.step action) := by
  cases action with
  | attach => exact advance_turn regular
  | client action =>
      by_cases isDispatch : action = .dispatch
      · subst isDispatch
        exact step_dispatch_turn regular
      · have quiet := ClientRun.step_quiet regular.wellFormed isDispatch
          fun path same => others path (by rw [same])
        rw [step_client_of_silent quiet.silent]
        exact .quiet (fun same => absurd same isDispatch)
          (ClientRun.step_wellFormed regular.wellFormed action) quiet

/-! ### What a turn keeps -/

section

variable {action : UnitAction} {after : UnitLife}

theorem Turn.sameNode (turn : life.Turn action after) : life.unit.SameNode after.unit := by
  cases turn with
  | told => exact (life.unit.receive_sameBinding _).toSameNode
  | settled => exact (life.unit.observed_sameBinding _).toSameNode
  | quiet | passed | lagged | registered | resumed | refused | read => exact ⟨rfl, rfl, rfl, rfl⟩

theorem Turn.own (turn : life.Turn action after) (regular : life.Regular) :
    (after.client.watchesOf after.unit.listener).Sublist after.unit.ownWatch := by
  have dispatched {run : ClientRun} {position next : Nat} {unit : ConfigUnit}
      (moved : life.following.run.Moved position next run)
      (binding : life.unit.SameBinding unit) :
      (run.client.watchesOf unit.listener).Sublist unit.ownWatch := by
    rw [binding.listener, binding.ownWatch]
    refine List.Sublist.trans ?_ regular.own
    rw [Client.watchesOf, moved.watches]
    exact List.filter_sublist.filter _
  cases turn with
  | quiet drained wellFormed quiet => exact quiet.watches.trans regular.own
  | told moved => exact dispatched moved (life.unit.receive_sameBinding _)
  | passed moved => exact dispatched moved (.refl _)
  | lagged moved => exact dispatched moved ⟨⟨rfl, rfl, rfl, rfl⟩, rfl⟩
  | registered idle unwatched =>
      have noWatch : life.client.watchesOf life.unit.listener = [] := by
        simpa [ConfigUnit.ownWatch, unwatched] using regular.own
      have onlyOwn (own : Watch) :
          ((life.client.watches ++ [own]).filter (·.listener = life.unit.listener)).Sublist
            [own] := by
        rw [List.filter_append, ← Client.watchesOf, noWatch]
        exact List.filter_sublist
      exact onlyOwn ⟨life.client.nextWatch, life.unit.path, life.unit.listener⟩
  | resumed | refused | read => exact regular.own
  | @settled _ contents =>
      have binding := life.unit.observed_sameBinding contents
      have own : (life.client.watchesOf (life.unit.observed contents).listener).Sublist
          (life.unit.observed contents).ownWatch := by
        rw [binding.listener, binding.ownWatch]
        exact regular.own
      exact own

theorem Turn.wellFormed (turn : life.Turn action after) (regular : life.Regular) :
    after.client.WellFormed := by
  cases turn with
  | quiet drained wellFormed => exact wellFormed
  | told moved | passed moved | lagged moved => exact moved.wellFormed regular.wellFormed
  | registered idle unwatched started =>
      exact ⟨regular.wellFormed.follows, fun notStarted => absurd started notStarted⟩
  | resumed | refused | read | settled => exact regular.wellFormed

theorem Regular.turn (regular : life.Regular) (turn : life.Turn action after) :
    after.Regular where
  wellFormed := turn.wellFormed regular
  own := turn.own regular
  autoRefreshed := turn.sameNode.autoRefreshed.trans regular.autoRefreshed

/-- A unit does not come to follow its node but by an attachment. -/
theorem Turn.follows_before (turn : life.Turn action after) (follows : after.Follows)
    (sameWatch : after.unit.watch = life.unit.watch) : life.Follows := by
  have dispatched {run : ClientRun} {position next : Nat}
      (moved : life.following.run.Moved position next run) {id : Nat}
      (alive : run.isAlive life.unit.listener = true) (registered : life.unit.watch = some id)
      (member : ⟨id, life.unit.path, life.unit.listener⟩ ∈ run.client.watches) :
      life.Follows := by
    rw [moved.watches] at member
    refine ⟨?_, id, registered, (List.mem_filter.mp member).1⟩
    simpa [ClientRun.isAlive, moved.gone] using alive
  cases turn with
  | quiet drained wellFormed quiet =>
      obtain ⟨alive, id, registered, member⟩ := follows
      have inTable := quiet.watches.subset (List.mem_filter.mpr ⟨member, by simp [unit]⟩)
      exact ⟨quiet.alive alive, id, registered, (List.mem_filter.mp inTable).1⟩
  | told moved found kept following => exact following
  | passed moved | lagged moved =>
      obtain ⟨alive, id, registered, member⟩ := follows
      exact dispatched moved alive registered member
  | registered idle unwatched =>
      rw [unwatched] at sameWatch
      cases sameWatch
  | resumed | refused | read => exact follows
  | @settled _ contents =>
      have binding := life.unit.observed_sameBinding contents
      obtain ⟨alive, id, registered, member⟩ := follows
      refine ⟨binding.listener ▸ alive, id, binding.watch ▸ registered, ?_⟩
      rw [← binding.listener, ← binding.path]
      exact member

theorem Turn.changes (turn : life.Turn action after) : Store.Changes life.store after.store := by
  cases turn with
  | quiet drained wellFormed quiet => exact quiet.changes
  | told moved | passed moved | lagged moved =>
      have store := moved.store
      simp only [UnitLife.store, store]
      exact .refl
  | registered | resumed | refused | read | settled => exact .refl

end

/-! ### Runs -/

/-- Nobody but the unit itself registers its listener. -/
def Unshared (listener : Listener) (actions : List UnitAction) : Prop :=
  ∀ path, .client (.watch path listener) ∉ actions

theorem Unshared.turn {action : UnitAction} {rest : List UnitAction} (regular : life.Regular)
    (unshared : Unshared life.unit.listener (action :: rest)) : life.Turn action (life.step action) :=
  step_turn regular fun path same => unshared path (same ▸ List.mem_cons_self)

theorem Unshared.rest {action : UnitAction} {rest : List UnitAction} (regular : life.Regular)
    (unshared : Unshared life.unit.listener (action :: rest)) :
    Unshared (life.step action).unit.listener rest := by
  rw [(unshared.turn regular).sameNode.listener]
  exact fun path member => unshared path (List.mem_cons_of_mem _ member)

/-- What every turn keeps, every run keeps. -/
theorem after_of_turn (kept : UnitLife → Prop)
    (turn : ∀ {life after : UnitLife} {action : UnitAction}, life.Regular → kept life →
      life.Turn action after → kept after)
    (regular : life.Regular) (holds : kept life) {actions : List UnitAction}
    (unshared : Unshared life.unit.listener actions) : kept (life.after actions) := by
  induction actions generalizing life with
  | nil => exact holds
  | cons action rest inductionHypothesis =>
      have first := unshared.turn regular
      exact inductionHypothesis (regular.turn first) (turn regular holds first)
        (unshared.rest regular)

theorem Regular.after (regular : life.Regular) {actions : List UnitAction}
    (unshared : Unshared life.unit.listener actions) : (life.after actions).Regular :=
  after_of_turn Regular (fun _ regular turn => regular.turn turn) regular regular unshared

theorem sameNode_after (regular : life.Regular) {actions : List UnitAction}
    (unshared : Unshared life.unit.listener actions) :
    life.unit.SameNode (life.after actions).unit :=
  after_of_turn (fun later => life.unit.SameNode later.unit)
    (fun _ same turn => same.trans turn.sameNode) regular (.refl _) unshared

theorem changes_after (regular : life.Regular) {actions : List UnitAction}
    (unshared : Unshared life.unit.listener actions) :
    Store.Changes life.store (life.after actions).store :=
  after_of_turn (fun later => Store.Changes life.store later.store)
    (fun _ changes turn => changes.trans turn.changes) regular .refl unshared

end UnitLife

end LiveConfig
