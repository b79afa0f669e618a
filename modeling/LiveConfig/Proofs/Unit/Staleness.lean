import LiveConfig.Proofs.Unit.Accounted
import LiveConfig.Proofs.Unit.Kept

/-!
Contract: a unit that follows its node is not silently behind its store.

Owns: the invariant of the life of a unit that relates its snapshot, a reading under way, the store and
the undelivered part of the feed, and what it says when nothing is undelivered.
-/

namespace LiveConfig

namespace ConfigUnit

/-- How a unit that follows its node stands to the store, at a position of the dispatcher. -/
structure UpToDate (unit : ConfigUnit) (attachment : AttachProgress)
    (results : List (Except ConfigError Unit)) (store : Store) (position : Nat) : Prop where
  shown : unit.snapshot = .unread ∨ unit.Accounted store position
  /-- A reading that waits will leave the unit accounted for. -/
  settling : ∀ contents, attachment = .settling contents → (unit.observe contents).1 = .ok () →
    (unit.observed contents).Accounted store position
  initialized : .ok () ∈ results → unit.Accounted store position

namespace UpToDate

variable {unit : ConfigUnit} {attachment : AttachProgress} {results : List (Except ConfigError Unit)}
  {store : Store} {position : Nat}

/-- Changes of the store leave a unit up to date: what it misses is still to be told. -/
theorem changes {after : Store} (upToDate : unit.UpToDate attachment results store position)
    (changes : Store.Changes store after) (reached : position ≤ store.feed.size) :
    unit.UpToDate attachment results after position where
  shown := upToDate.shown.imp_right fun accounted => accounted.changes changes reached
  settling := fun contents settling ok =>
    (upToDate.settling contents settling ok).changes changes reached
  initialized := fun initialized => (upToDate.initialized initialized).changes changes reached

/-- A told event leaves a unit up to date: it is taken over, or fails, or is old. -/
theorem receive {event : Notification} (upToDate : unit.UpToDate attachment results store position)
    (logged : store.Logged) (traced : unit.Traced store)
    (logs : ∀ contents, attachment = .settling contents → unit.Logs store contents)
    (found : store.feed[position]? = some event) (onPath : event.path = unit.path) :
    (unit.receive event).1.UpToDate attachment results store (position + 1) := by
  have noReading : unit.Logs store none := fun _ isHeld => nomatch isHeld
  have outcome := receive_accounted logged found onPath traced noReading
  rw [observed_none] at outcome
  refine ⟨?_, fun contents settling ok => ?_, fun initialized => ?_⟩
  · rcases outcome with accounted | ⟨version, told, notOlder, same⟩
    · exact .inr accounted
    · rw [same]
      exact upToDate.shown.imp_right fun accounted =>
        accounted.ignore logged found onPath told traced notOlder
  · have read := logs contents settling
    rcases receive_accounted logged found onPath traced read with
      accounted | ⟨version, told, notOlder, same⟩
    · exact accounted
    · rw [same] at ok ⊢
      have path := (unit.observed_sameBinding contents).path
      exact (upToDate.settling contents settling ok).ignore logged found (onPath.trans path.symm)
        told (traced.observed read) (observed_not_older contents notOlder)
  · rcases outcome with accounted | ⟨version, told, notOlder, same⟩
    · exact accounted
    · rw [same]
      exact (upToDate.initialized initialized).ignore logged found onPath told traced notOlder

/-- An event of another path leaves a unit up to date. -/
theorem pass {event : Notification} (upToDate : unit.UpToDate attachment results store position)
    (found : store.feed[position]? = some event) (elsewhere : event.path ≠ unit.path) :
    unit.UpToDate attachment results store (position + 1) where
  shown := upToDate.shown.imp_right fun accounted => accounted.pass found elsewhere
  settling := by
    intro contents settling ok
    have path := (unit.observed_sameBinding contents).path
    exact (upToDate.settling contents settling ok).pass found (path ▸ elsewhere)
  initialized := fun initialized => (upToDate.initialized initialized).pass found elsewhere

/-- A unit that remembers a failure is up to date. -/
theorem ofFailure (failed : unit.lastError.isSome) :
    unit.UpToDate attachment results store position where
  shown := .inr (.inl failed)
  settling := fun contents _ _ => .inl (by rw [observed_lastError]; exact failed)
  initialized := fun _ => .inl failed

/-- No reading waits while an attachment begins or is refused. -/
theorem withoutReading {other : AttachProgress} {others : List (Except ConfigError Unit)}
    (upToDate : unit.UpToDate attachment results store position)
    (noReading : ∀ contents, other ≠ .settling contents)
    (sameSuccess : .ok () ∈ others → .ok () ∈ results) :
    unit.UpToDate other others store position where
  shown := upToDate.shown
  settling := fun contents settling => absurd settling (noReading contents)
  initialized := fun initialized => upToDate.initialized (sameSuccess initialized)

/-- A reading of the store as it is will leave the unit accounted for. -/
theorem read (upToDate : unit.UpToDate attachment results store position) (logged : store.Logged)
    (traced : unit.Traced store) :
    unit.UpToDate (.settling (store.contents? unit.path)) results store position where
  shown := upToDate.shown
  settling := by
    intro contents settling ok
    obtain rfl := AttachProgress.settling.inj settling
    cases found : store.contents? unit.path with
    | none =>
        rcases upToDate.shown with unread | accounted
        · have noValues : unit.values = .empty := by rw [values, unread]; rfl
          exact .inr (.inr (by simpa [InStep, found] using noValues))
        · exact accounted
    | some held =>
        rw [found] at ok
        obtain ⟨values, decoded⟩ := observe_some_ok ok
        exact .inr (.inr (inStep_of_reading logged traced found decoded))
  initialized := upToDate.initialized

/-- The end of an attachment leaves a unit up to date. -/
theorem settled {contents : Option NodeContents}
    (upToDate : unit.UpToDate (.settling contents) results store position) :
    (unit.observed contents).UpToDate .idle (results ++ [(unit.observe contents).1]) store
      position := by
  cases result : (unit.observe contents).1 with
  | error error =>
      rw [observed_of_error result]
      exact upToDate.withoutReading (by simp) (by simp)
  | ok answer =>
      have accounted := upToDate.settling contents rfl result
      exact ⟨.inr accounted, fun _ noReading => (nomatch noReading), fun _ => accounted⟩

end UpToDate

end ConfigUnit

namespace UnitLife

variable {life : UnitLife}

/-- The unit, its client and its store agree. -/
structure Sound (life : UnitLife) : Prop where
  logged : life.store.Logged
  reached : life.following.run.Reached
  traced : life.unit.Traced life.store
  read : ∀ contents, life.attachment = .settling contents → life.unit.Logs life.store contents
  unwatched : life.unit.watch = none →
    life.unit.snapshot = .unread ∧ life.attachment = .idle ∧ .ok () ∉ life.results
  upToDate : life.Follows → ∀ position, life.client.position = some position →
    life.unit.UpToDate life.attachment life.results life.store position

/-- A move of the dispatcher keeps the agreement, if what it tells leaves the unit up to date. -/
theorem Sound.moved {run : ClientRun} {unit : ConfigUnit} {published : List ChangeEvent}
    {position next : Nat} (sound : life.Sound) (moved : life.following.run.Moved position next run)
    (le : next ≤ life.store.feed.size) (binding : life.unit.SameBinding unit)
    (traced : unit.Traced life.store)
    (untold : life.unit.watch = none → unit.snapshot = life.unit.snapshot)
    (upToDate : Follows ⟨⟨run, unit, published⟩, life.attachment, life.results⟩ →
      unit.UpToDate life.attachment life.results life.store next) :
    Sound ⟨⟨run, unit, published⟩, life.attachment, life.results⟩ := by
  have sameStore : run.store = life.store := moved.store
  refine ⟨?_, moved.reached le, ?_, ?_, ?_, ?_⟩
  · change run.store.Logged
    rw [sameStore]
    exact sound.logged
  · change unit.Traced run.store
    rw [sameStore]
    exact traced
  · intro contents settling
    change unit.Logs run.store contents
    rw [sameStore]
    exact (sound.read contents settling).congr binding.path
  · intro unwatched
    have wasUnwatched := binding.watch.symm.trans unwatched
    obtain ⟨unread, idle, noResult⟩ := sound.unwatched wasUnwatched
    exact ⟨(untold wasUnwatched).trans unread, idle, noResult⟩
  · intro follows place atPlace
    have samePlace := Option.some.inj (moved.moved.symm.trans atPlace)
    change unit.UpToDate life.attachment life.results run.store place
    rw [sameStore, ← samePlace]
    exact upToDate follows

/-- Every turn keeps the agreement. -/
theorem Sound.turn {action : UnitAction} {after : UnitLife} (sound : life.Sound)
    (turn : life.Turn action after) : after.Sound := by
  have before := turn.follows_before
  cases turn with
  | quiet drained wellFormed quiet =>
      refine ⟨sound.logged.changes quiet.changes, quiet.reached sound.reached,
        sound.traced.changes quiet.changes, fun contents settling => ?_, sound.unwatched,
        fun follows position atPosition => ?_⟩
      · exact (sound.read contents settling).changes quiet.changes
      · obtain ⟨-, id, -, member⟩ := id follows
        have samePosition := quiet.position
          (List.ne_nil_of_mem (List.mem_filter.mpr ⟨member, by simp [unit]⟩))
        have followed := samePosition.symm.trans atPosition
        exact (sound.upToDate (before follows rfl) position followed).changes quiet.changes
          (sound.reached position followed)
  | told moved found kept follows onPath =>
      obtain ⟨below, -⟩ := Array.getElem?_eq_some_iff.mp found
      refine sound.moved moved below (life.unit.receive_sameBinding _)
        (sound.traced.receive (Store.mem_history_of_found found) onPath) ?_ ?_
      · intro unwatched
        obtain ⟨-, id, watching, -⟩ := follows
        rw [watching] at unwatched
        cases unwatched
      · intro _
        exact (sound.upToDate follows _ moved.follows).receive sound.logged sound.traced sound.read
          found onPath
  | passed moved found kept apart =>
      obtain ⟨below, -⟩ := Array.getElem?_eq_some_iff.mp found
      refine sound.moved moved below (.refl life.unit) sound.traced (fun _ => rfl) ?_
      intro follows
      have following := before follows rfl
      exact (sound.upToDate following _ moved.follows).pass found (apart following)
  | lagged moved behind remembers =>
      refine sound.moved moved (Nat.sub_le _ _) ⟨⟨rfl, rfl, rfl, rfl⟩, rfl⟩ sound.traced
        (fun _ => rfl) ?_
      intro follows
      exact .ofFailure (remembers (before follows rfl))
  | registered idle unwatched started =>
      obtain ⟨unread, -, noResult⟩ := sound.unwatched unwatched
      refine ⟨sound.logged, sound.reached, sound.traced, fun _ noReading => (by cases noReading),
        fun noWatch => (by cases noWatch), fun _ position _ => ?_⟩
      exact ⟨.inl unread, fun _ noReading => (by cases noReading),
        fun initialized => absurd initialized noResult⟩
  | resumed idle watching =>
      refine ⟨sound.logged, sound.reached, sound.traced, fun _ noReading => (by cases noReading),
        fun noWatch => ?_, fun follows position atPosition => ?_⟩
      · have unwatched := watching.symm.trans noWatch
        cases unwatched
      · exact (sound.upToDate follows position atPosition).withoutReading (by simp) id
  | refused error =>
      refine ⟨sound.logged, sound.reached, sound.traced, fun _ noReading => (by cases noReading),
        fun noWatch => ?_, fun follows position atPosition => ?_⟩
      · obtain ⟨unread, -, noResult⟩ := sound.unwatched noWatch
        exact ⟨unread, rfl, by simpa using noResult⟩
      · exact (sound.upToDate follows position atPosition).withoutReading (by simp) (by simp)
  | read reading =>
      refine ⟨sound.logged, sound.reached, sound.traced, fun contents settling => ?_,
        fun noWatch => ?_, fun follows position atPosition => ?_⟩
      · intro held isHeld
        have found := (AttachProgress.settling.inj settling).trans isHeld
        exact (sound.logged.exists_of_contents? found).1
      · obtain ⟨-, idle, -⟩ := sound.unwatched noWatch
        rw [reading] at idle
        cases idle
      · exact (sound.upToDate follows position atPosition).read sound.logged sound.traced
  | @settled published contents settling =>
      have binding := life.unit.observed_sameBinding contents
      have traced := sound.traced.observed (sound.read contents settling)
      refine ⟨sound.logged, sound.reached, traced, fun _ noReading => (by cases noReading),
        fun noWatch => ?_, fun follows position atPosition => ?_⟩
      · obtain ⟨-, idle, -⟩ := sound.unwatched (binding.watch.symm.trans noWatch)
        rw [settling] at idle
        cases idle
      · have upToDate := sound.upToDate (before follows binding.watch) position atPosition
        exact (settling ▸ upToDate).settled

/-! ### Runs -/

/-- A unit that is to follow its node, with its client and their store, to all of which nothing has
happened yet. -/
def New (life : UnitLife) : Prop :=
  ∃ connectString storeName retry key client channel name path format,
    life = .ofUnit (.fresh connectString storeName retry) .empty
      (.fresh key client channel name path true format)

theorem New.regular (new : life.New) : life.Regular := by
  obtain ⟨connectString, storeName, retry, key, client, channel, name, path, format, rfl⟩ := new
  exact ⟨.fresh connectString storeName retry, .refl _, rfl⟩

theorem New.kept (new : life.New) : life.Kept := by
  obtain ⟨connectString, storeName, retry, key, client, channel, name, path, format, rfl⟩ := new
  exact .ofUnit _ _ rfl

theorem New.sound (new : life.New) : life.Sound := by
  obtain ⟨connectString, storeName, retry, key, client, channel, name, path, format, rfl⟩ := new
  refine ⟨.empty, fun _ follows => (nomatch follows), .inl rfl, fun _ reading => (nomatch reading),
    fun _ => ⟨rfl, rfl, List.not_mem_nil⟩, fun follows => ?_⟩
  obtain ⟨-, id, watching, -⟩ := follows
  cases watching

theorem Sound.after (sound : life.Sound) (regular : life.Regular) {actions : List UnitAction}
    (unshared : Unshared life.unit.listener actions) : (life.after actions).Sound :=
  after_of_turn Sound (fun _ sound turn => sound.turn turn) regular sound unshared

/-- Once initialized, a unit over a started client is in step with its store, or remembers a failure,
or is going to be told of a write to its node. -/
theorem accounted_after (new : life.New) {actions : List UnitAction}
    (undisturbed : life.Undisturbed actions) (initialized : .ok () ∈ (life.after actions).results)
    (started : (life.after actions).client.state = .started) :
    ∃ position, (life.after actions).client.position = some position ∧
      (life.after actions).unit.Accounted (life.after actions).store position := by
  have unshared := undisturbed.unshared new.regular
  have regular := new.regular.after unshared
  have sound := new.sound.after new.regular unshared
  have kept := new.kept.after new.regular undisturbed
  obtain ⟨position, followed⟩ :=
    Option.isSome_iff_exists.mp (regular.wellFormed.follows.mpr started)
  have watching : (life.after actions).unit.watch ≠ none := by
    intro unwatched
    obtain ⟨-, -, noResult⟩ := sound.unwatched unwatched
    exact noResult initialized
  have follows := kept.follows started watching
  exact ⟨position, followed, (sound.upToDate follows position followed).initialized initialized⟩

/-- A unit is never silently stale: once it is initialized, whenever the dispatcher of its started
client has nothing left to dispatch, it is in step with the store or remembers a failure. -/
theorem inStep_or_lastError_of_drained (new : life.New) {actions : List UnitAction}
    (undisturbed : life.Undisturbed actions) (initialized : .ok () ∈ (life.after actions).results)
    (started : (life.after actions).client.state = .started)
    (drained : (life.after actions).following.run.isDrained = true) :
    (life.after actions).unit.InStep (life.after actions).store ∨
      (life.after actions).unit.lastError.isSome := by
  obtain ⟨position, followed, accounted⟩ := accounted_after new undisturbed initialized started
  have atEnd := Client.dispatchNext?_eq_none_iff.mp (Option.isNone_iff_eq_none.mp drained) position
    followed
  rcases accounted with failed | ⟨event, member, -⟩ | inStep
  · exact .inr failed
  · have nothing : (life.after actions).store.feed.toList.drop position = [] :=
      List.drop_eq_nil_of_le (by rw [Array.length_toList]; exact atEnd)
    rw [nothing] at member
    cases member
  · exact .inl inStep

/-- A unit of rate limits. -/
def limits : UnitLife :=
  .ofUnit (.fresh "localhost" "main" .default) .empty
    (.fresh 0 0 0 "limits" "/limits" true .properties)

/-- The client is started and creates the node, the unit is attached, somebody else watches the node for
a while, and the node is rewritten, deleted and created again before anything is dispatched. -/
def limitsRewritten : List UnitAction :=
  [.client .beginStart, .client (.advanceStart 0), .client (.advanceStart 0),
    .client (.create "/limits" [0x61, 0x3d, 0x31]), .attach, .attach, .attach,
    .client (.watch "/limits" (.recorder 0)),
    .client (.store (.write "/limits" [0x61, 0x3d, 0x32])), .client (.unwatch 2),
    .client (.store (.delete "/limits")),
    .client (.store (.create "/limits" [0x61, 0x3d, 0x33])),
    .client .dispatch, .client .dispatch, .client .dispatch, .client .dispatch]

theorem limits_inStep_or_lastError :
    limits.New ∧ limits.Undisturbed limitsRewritten ∧
      .ok () ∈ (limits.after limitsRewritten).results ∧
      (limits.after limitsRewritten).client.state = .started ∧
      (limits.after limitsRewritten).following.run.isDrained = true ∧
      ((limits.after limitsRewritten).unit.InStep (limits.after limitsRewritten).store ∨
        (limits.after limitsRewritten).unit.lastError.isSome) := by
  have new : limits.New := ⟨_, _, _, _, _, _, _, _, _, rfl⟩
  have undisturbed : limits.Undisturbed limitsRewritten := by
    refine ⟨trivial, trivial, trivial, trivial, trivial, trivial, trivial, ?_, trivial, ?_, trivial,
      trivial, trivial, trivial, trivial, trivial, trivial⟩
    · exact fun same => nomatch same
    · exact fun same => nomatch same
  have initialized : .ok () ∈ (limits.after limitsRewritten).results := by
    have results : (limits.after limitsRewritten).results = [.ok ()] := rfl
    rw [results]
    exact List.mem_singleton_self _
  have started : (limits.after limitsRewritten).client.state = .started := rfl
  have drained : (limits.after limitsRewritten).following.run.isDrained = true := rfl
  exact ⟨new, undisturbed, initialized, started, drained,
    inStep_or_lastError_of_drained new undisturbed initialized started drained⟩

end UnitLife

end LiveConfig
