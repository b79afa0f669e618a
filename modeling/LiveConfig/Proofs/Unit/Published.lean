import LiveConfig.Proofs.Unit.LastError

/-!
Contract: the change events that a unit publishes of what it is told.

A notification puts a new snapshot in place, or fails, or does neither; the unit publishes one event in
each of the first two cases and none in the third. Owns: that the events account for every change of the
snapshot and for every failed refresh, and that their versions rise above that of the reading which the
unit began with. Does not own: the event of that reading, and who receives events.
-/

namespace LiveConfig

/-- The kind of change that a notification brings when it is taken over. -/
def Notification.operation : Notification → ChangeOperation
  | .dataChanged .. => .updated
  | .deleted .. => .deleted
  | .failed .. => .refreshFailed

/-- A version is newer than whatever the snapshot holds. -/
def Snapshot.Precedes (snapshot : Snapshot) (version : Int) : Prop :=
  ∀ current, snapshot.version = some current → (current : Int) < version

theorem Snapshot.precedes_of_isOlderThan {snapshot : Snapshot} {version : Nat}
    (older : snapshot.isOlderThan version = true) : snapshot.Precedes version := by
  intro current held
  simp only [isOlderThan, held] at older
  exact Int.ofNat_lt.mpr (of_decide_eq_true older)

namespace ConfigUnit

/-- What is published of a notification accounts for what becomes of the unit: one event with the new
version for a snapshot that is replaced, one with the message for a refresh that fails, nothing
otherwise, and so nothing for a notification that is not newer than the snapshot. -/
structure Accounts (unit : ConfigUnit) (event : Notification) (after : ConfigUnit)
    (published : List ChangeEvent) : Prop where
  replaced : after.snapshot ≠ unit.snapshot → ∃ version, event.version? = some version ∧
    after.snapshot.version = some version ∧
    published = [unit.event event.operation (some version) none]
  failed : ∀ message, unit.Fails (.told event) message →
    published = [unit.event .refreshFailed none (some message)]
  silent : after.snapshot = unit.snapshot → (∀ message, ¬ unit.Fails (.told event) message) →
    published = []
  stale : ∀ version, event.version? = some version → unit.snapshot.isOlderThan version = false →
    published = []
  versioned : ∀ change ∈ published, ∀ version, change.version = some version →
    (change.operation = .updated ∨ change.operation = .deleted) ∧
      after.snapshot.version.map Int.ofNat = some version

/-- What a notification makes of a unit, and what the unit publishes of it. -/
inductive Announced (unit : ConfigUnit) (event : Notification) :
    ConfigUnit × List ChangeEvent → Prop where
  /-- It is newer, and its snapshot is put in place. -/
  | replaced {version : Nat} {after : ConfigUnit} (told : event.version? = some version)
      (older : unit.snapshot.isOlderThan version = true)
      (sound : ∀ message, ¬ unit.Fails (.told event) message)
      (held : after.snapshot.version = some version) :
      Announced unit event (after, [unit.event event.operation (some version) none])
  /-- The refresh fails. -/
  | failed {message : String} (fails : unit.Fails (.told event) message) :
      Announced unit event (unit.refreshFailed message)
  /-- It is not newer. -/
  | ignored {version : Nat} (told : event.version? = some version)
      (notOlder : unit.snapshot.isOlderThan version = false) : Announced unit event (unit, [])

variable {unit : ConfigUnit} {event : Notification}

theorem not_fails_of_not_older {version : Nat} {message : String}
    (told : event.version? = some version) (notOlder : unit.snapshot.isOlderThan version = false) :
    ¬ unit.Fails (.told event) message := by
  intro fails
  cases fails with
  | told => cases told
  | undecoded newer _ =>
      obtain rfl := Option.some.inj told
      exact absurd newer (by simp [notOlder])

theorem operation_of_version {version : Nat} (told : event.version? = some version) :
    event.operation = .updated ∨ event.operation = .deleted := by
  cases event with
  | dataChanged => exact .inl rfl
  | deleted => exact .inr rfl
  | failed => cases told

theorem announced (unit : ConfigUnit) (event : Notification) :
    unit.Announced event (unit.receive event) := by
  cases event with
  | failed path message => exact .failed .told
  | deleted path version =>
      simp only [receive, receiveDeletion]
      split
      · rename_i older
        exact .replaced rfl older (fun _ fails => by cases fails) rfl
      · rename_i notOlder
        exact .ignored rfl (by simpa using notOlder)
  | dataChanged path data version =>
      simp only [receive, receiveData]
      split
      · rename_i older
        split
        · rename_i values decoded
          refine .replaced rfl older (fun message fails => ?_) rfl
          cases fails with
          | undecoded _ undecodable => cases decoded.symm.trans undecodable
        · rename_i error undecodable
          exact .failed (.undecoded older undecodable)
      · rename_i notOlder
        exact .ignored rfl (by simpa using notOlder)

theorem accounts_receive (unit : ConfigUnit) (event : Notification) :
    unit.Accounts event (unit.receive event).1 (unit.receive event).2 := by
  generalize outcome : unit.receive event = received
  cases outcome ▸ unit.announced event with
  | @replaced version after told older sound held =>
      have swapped : after.snapshot ≠ unit.snapshot := by
        intro same
        simp [← same, Snapshot.isOlderThan, held] at older
      refine ⟨fun _ => ⟨version, told, held, rfl⟩, fun message fails => absurd fails (sound message),
        fun same => absurd same swapped, fun other also notOlder => ?_,
        fun change member other carried => ?_⟩
      · obtain rfl := Option.some.inj (told.symm.trans also)
        exact absurd older (by simp [notOlder])
      · cases List.mem_singleton.mp member
        refine ⟨operation_of_version told, ?_⟩
        rw [held]
        exact carried
  | @failed message fails =>
      refine ⟨fun swapped => absurd rfl swapped, fun other alsoFails => ?_,
        fun _ sound => absurd fails (sound message), fun version told notOlder => ?_,
        fun change member version carried => ?_⟩
      · rw [fails.unique alsoFails]
        rfl
      · exact absurd fails (not_fails_of_not_older told notOlder)
      · cases List.mem_singleton.mp member
        cases carried
  | ignored told notOlder =>
      exact ⟨fun swapped => absurd rfl swapped,
        fun message fails => absurd fails (not_fails_of_not_older told notOlder),
        fun _ _ => rfl, fun _ _ _ => rfl, fun _ member => absurd member List.not_mem_nil⟩

/-! ### All notifications -/

theorem receiveEach_concat (unit : ConfigUnit) (earlier : List Notification) (event : Notification) :
    unit.receiveEach (earlier ++ [event]) =
      (((unit.receiveEach earlier).1.receive event).1,
        (unit.receiveEach earlier).2 ++ ((unit.receiveEach earlier).1.receive event).2) := by
  induction earlier generalizing unit with
  | nil => simp [receiveEach]
  | cons first earlier inductionHypothesis =>
      simp only [List.cons_append, receiveEach, inductionHypothesis, List.append_assoc]

/-- The versions of the changes that a unit publishes rise from above its first snapshot. -/
theorem versions_receiveEach (unit : ConfigUnit) (events : List Notification) :
    ((unit.receiveEach events).2.filterMap (·.version)).Pairwise (· < ·) ∧
      ∀ change ∈ (unit.receiveEach events).2, ∀ version, change.version = some version →
        unit.snapshot.Precedes version := by
  induction events generalizing unit with
  | nil => exact ⟨.nil, nofun⟩
  | cons event events inductionHypothesis =>
      simp only [receiveEach]
      generalize outcome : unit.receive event = received
      cases outcome ▸ unit.announced event with
      | @replaced version after told older sound held =>
          obtain ⟨rising, above⟩ := inductionHypothesis after
          have newer : unit.snapshot.Precedes version := Snapshot.precedes_of_isOlderThan older
          have beyond : ∀ change ∈ (after.receiveEach events).2, ∀ next,
              change.version = some next → (version : Int) < next := fun change member next carried =>
            above change member next carried version held
          refine ⟨List.pairwise_cons.mpr ⟨fun next later => ?_, rising⟩, ?_⟩
          · obtain ⟨change, member, carried⟩ := List.mem_filterMap.mp later
            exact beyond change member next carried
          · rintro change member next carried current isHeld
            rcases List.mem_cons.mp member with rfl | later
            · obtain rfl := Option.some.inj carried
              exact newer current isHeld
            · exact Int.lt_trans (newer current isHeld) (beyond change later next carried)
      | failed fails =>
          obtain ⟨rising, above⟩ := inductionHypothesis (unit.refreshFailed _).1
          refine ⟨rising, fun change member next carried => ?_⟩
          rcases List.mem_cons.mp member with rfl | later
          · cases carried
          · exact above change later next carried
      | ignored told notOlder => exact inductionHypothesis unit

/-! ### Readings -/

/-- A reading publishes something only if it succeeds, and then the version that it found. -/
theorem observe_of_event {contents : Option NodeContents} {change : ChangeEvent}
    (loaded : change ∈ (unit.observe contents).2.2) :
    (unit.observe contents).1 = .ok () ∧
      change.version = contents.map fun data => (data.version : Int) := by
  cases contents with
  | none =>
      cases List.mem_singleton.mp loaded
      exact ⟨rfl, rfl⟩
  | some data =>
      simp only [observe] at loaded ⊢
      split at loaded
      · cases loaded
      · cases List.mem_singleton.mp loaded
        simp [ConfigUnit.event]

/-- An attachment that tells of a version leaves the unit at least as new. -/
theorem loaded_version {σ : Type} {serve : Service σ} {state : σ} {change : ChangeEvent} {version : Int}
    (loaded : change ∈ (unit.attach serve state).1.events) (carried : change.version = some version) :
    ∃ current, (unit.attach serve state).1.unit.snapshot.version = some current ∧
      version ≤ (current : Int) := by
  have refreshed (registered : ConfigUnit) (before : σ)
      (here : change ∈ (registered.refresh serve before).1.events) :
      ∃ current, (registered.refresh serve before).1.unit.snapshot.version = some current ∧
        version ≤ (current : Int) := by
    unfold refresh at here ⊢
    split at here
    · cases here
    · rename_i contents _ _
      obtain ⟨ok, isVersion⟩ := observe_of_event here
      rw [isVersion] at carried
      obtain ⟨data, rfl, rfl⟩ := Option.map_eq_some_iff.mp carried
      obtain ⟨current, held, le⟩ :=
        Snapshot.exists_version_of_not_older (observed_not_older_of_ok ok)
      exact ⟨current, held, Int.ofNat_le.mpr le⟩
  unfold attach at loaded ⊢
  split at loaded
  · cases loaded
  · exact refreshed _ _ loaded

/-- Whatever a unit is told after it was attached to its node, whoever served that: of each notification
it publishes one event if the notification replaces its snapshot, one if it makes a refresh fail, and
none otherwise. Only the changes of the snapshot have versions, those of the new snapshots, which rise
from above the version that the unit was loaded at. -/
theorem changes_accounted {σ : Type} (bound : ConfigUnit) (serve : Service σ) (state : σ)
    (told : List Notification) :
    let loading := (bound.attach serve state).1
    let unit := loading.unit
    (∀ earlier event, earlier ++ [event] <+: told →
      ∃ published, (unit.receiveEach (earlier ++ [event])).2 =
          (unit.receiveEach earlier).2 ++ published ∧
        (unit.receiveEach earlier).1.Accounts event (unit.receiveEach (earlier ++ [event])).1
          published) ∧
      ((unit.receiveEach told).2.filterMap (·.version)).Pairwise (· < ·) ∧
      ∀ change ∈ (unit.receiveEach told).2, ∀ version, change.version = some version →
        unit.snapshot.Precedes version ∧
          ∀ loaded ∈ loading.events, ∀ readAt, loaded.version = some readAt → readAt < version := by
  intro loading unit
  obtain ⟨rising, above⟩ := unit.versions_receiveEach told
  refine ⟨fun earlier event _ => ?_, rising, fun change member version carried => ?_⟩
  · rw [receiveEach_concat]
    exact ⟨_, rfl, accounts_receive _ event⟩
  · have newer := above change member version carried
    refine ⟨newer, fun loaded isLoaded readAt read => ?_⟩
    obtain ⟨current, held, le⟩ := loaded_version isLoaded read
    exact Int.lt_of_le_of_lt le (newer current held)

end ConfigUnit

end LiveConfig
