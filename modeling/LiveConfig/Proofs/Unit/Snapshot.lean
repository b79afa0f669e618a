import LiveConfig.Proofs.Store.Log
import LiveConfig.Unit.Basic

/-!
Contract: what notifications and readings do to the snapshot of a unit.

A notification is ignored, fails, or is shown; a reading is shown unless the snapshot is as new. Owns:
when a unit shows a write, the three outcomes of a notification, and the outcome of a reading. Does not
own: which notifications a unit receives.
-/

namespace LiveConfig

namespace Snapshot

/-- A snapshot that is not older than a version was read at one that is as new. -/
theorem exists_version_of_not_older {snapshot : Snapshot} {version : Nat}
    (notOlder : snapshot.isOlderThan version = false) :
    ∃ current, snapshot.version = some current ∧ version ≤ current := by
  unfold isOlderThan at notOlder
  split at notOlder
  · cases notOlder
  · rename_i current held
    have notLess := of_decide_eq_false notOlder
    exact ⟨current, held, by omega⟩

theorem not_older_of_le {snapshot : Snapshot} {current version : Nat}
    (held : snapshot.version = some current) (le : version ≤ current) :
    snapshot.isOlderThan version = false := by
  simp only [isOlderThan, held]
  exact decide_eq_false (by omega)

end Snapshot

namespace ConfigUnit

variable (unit : ConfigUnit)

/-- The unit holds what a write left: its decoded bytes at its version, or nothing at the version of a
deletion. -/
def Shows : Notification → Prop
  | .dataChanged _ data version =>
      ∃ values, decode unit.path data unit.format = .ok values ∧
        unit.snapshot = ⟨values, some version⟩
  | .deleted _ version => unit.snapshot = .deleted version
  | .failed _ _ => False

/-- The unit is in step with a store: it holds exactly the decoded bytes of its node at the version of
the node, or no values if there is no node. -/
def InStep (store : Store) : Prop :=
  match store.contents? unit.path with
  | none => unit.values = .empty
  | some contents =>
      ∃ values, decode unit.path contents.bytes unit.format = .ok values ∧
        unit.snapshot = ⟨values, some contents.version⟩

variable {unit}

theorem Shows.version {event : Notification} (shows : unit.Shows event) :
    unit.snapshot.version = event.version? := by
  cases event with
  | dataChanged path data version =>
      obtain ⟨values, -, held⟩ := shows
      rw [held]
      rfl
  | deleted path version =>
      have held : unit.snapshot = .deleted version := shows
      rw [held]
      rfl
  | failed path message => exact shows.elim

/-- A unit that shows the last write to its node is in step. -/
theorem Shows.inStep {event : Notification} {store : Store} (shows : unit.Shows event)
    (last : store.contents? unit.path = event.contents?) : unit.InStep store := by
  unfold InStep
  rw [last]
  cases event with
  | dataChanged path data version => exact shows
  | deleted path version =>
      have held : unit.snapshot = .deleted version := shows
      simp [Notification.contents?, values, held, Snapshot.deleted]
  | failed path message => exact shows.elim

/-- Whether a unit shows a write depends on its node, its format and its snapshot. -/
theorem Shows.congr {other : ConfigUnit} {event : Notification} (shows : unit.Shows event)
    (path : other.path = unit.path) (format : other.format = unit.format)
    (snapshot : other.snapshot = unit.snapshot) : other.Shows event := by
  cases event with
  | dataChanged node data version =>
      obtain ⟨values, decoded, held⟩ := shows
      exact ⟨values, by rw [path, format, decoded], snapshot.trans held⟩
  | deleted node version => exact snapshot.trans shows
  | failed node message => exact shows.elim

theorem InStep.congr {other : ConfigUnit} {store after : Store} (inStep : unit.InStep store)
    (path : other.path = unit.path) (format : other.format = unit.format)
    (snapshot : other.snapshot = unit.snapshot)
    (contents : after.contents? unit.path = store.contents? unit.path) : other.InStep after := by
  simpa [InStep, values, path, format, snapshot, contents] using inStep

/-! ### Notifications -/

theorem snapshot_ne_of_older {version : Nat} (values : PropertyMap)
    (older : unit.snapshot.isOlderThan version = true) : ⟨values, some version⟩ ≠ unit.snapshot := by
  intro same
  simp [← same, Snapshot.isOlderThan] at older

/-- Two units are one unit at different times. -/
structure SameNode (unit other : ConfigUnit) : Prop where
  key : other.key = unit.key
  path : other.path = unit.path
  format : other.format = unit.format
  autoRefreshed : other.autoRefreshed = unit.autoRefreshed

theorem SameNode.refl (unit : ConfigUnit) : SameNode unit unit := ⟨rfl, rfl, rfl, rfl⟩

theorem SameNode.trans {first second third : ConfigUnit} (left : SameNode first second)
    (right : SameNode second third) : SameNode first third :=
  ⟨right.key.trans left.key, right.path.trans left.path, right.format.trans left.format,
    right.autoRefreshed.trans left.autoRefreshed⟩

theorem SameNode.symm {unit other : ConfigUnit} (same : unit.SameNode other) :
    other.SameNode unit :=
  ⟨same.key.symm, same.path.symm, same.format.symm, same.autoRefreshed.symm⟩

theorem SameNode.listener {unit other : ConfigUnit} (same : unit.SameNode other) :
    other.listener = unit.listener := by rw [ConfigUnit.listener, ConfigUnit.listener, same.key]

/-- The same unit with the same watch: only what it holds and remembers may have changed. -/
structure SameBinding (unit other : ConfigUnit) : Prop extends SameNode unit other where
  watch : other.watch = unit.watch

theorem SameBinding.refl (unit : ConfigUnit) : SameBinding unit unit := ⟨.refl unit, rfl⟩

theorem SameBinding.trans {first second third : ConfigUnit} (left : SameBinding first second)
    (right : SameBinding second third) : SameBinding first third :=
  ⟨left.toSameNode.trans right.toSameNode, right.watch.trans left.watch⟩

theorem receive_sameBinding (unit : ConfigUnit) (event : Notification) :
    SameBinding unit (unit.receive event).1 := by
  cases event with
  | dataChanged path data version =>
      simp only [receive, receiveData]
      split
      · split <;> exact ⟨⟨rfl, rfl, rfl, rfl⟩, rfl⟩
      · exact .refl unit
  | deleted path version =>
      simp only [receive, receiveDeletion]
      split <;> exact ⟨⟨rfl, rfl, rfl, rfl⟩, rfl⟩
  | failed path message => exact ⟨⟨rfl, rfl, rfl, rfl⟩, rfl⟩

/-- What becomes of a notification. -/
inductive Received (unit : ConfigUnit) (event : Notification) : ConfigUnit → Prop where
  /-- It is not newer than the snapshot. -/
  | ignored {version : Nat} (told : event.version? = some version)
      (notOlder : unit.snapshot.isOlderThan version = false) : Received unit event unit
  /-- It tells of a failure, or of bytes that cannot be decoded. -/
  | failed (message : String) : Received unit event { unit with lastError := some message }
  /-- It is newer, and the unit shows it. -/
  | shown {after : ConfigUnit} {version : Nat} (told : event.version? = some version)
      (older : unit.snapshot.isOlderThan version = true) (shows : after.Shows event) :
      Received unit event after

theorem received (unit : ConfigUnit) (event : Notification) :
    Received unit event (unit.receive event).1 := by
  cases event with
  | dataChanged path data version =>
      simp only [receive, receiveData]
      split
      · rename_i older
        split
        · rename_i values decoded
          exact .shown rfl older ⟨values, decoded, rfl⟩
        · exact .failed _
      · rename_i notOlder
        exact .ignored rfl (by simpa using notOlder)
  | deleted path version =>
      simp only [receive, receiveDeletion]
      split
      · rename_i older
        exact .shown rfl older rfl
      · rename_i notOlder
        exact .ignored rfl (by simpa using notOlder)
  | failed path message => exact .failed message

/-! ### Readings -/

/-- The unit after a reading. -/
def observed (unit : ConfigUnit) (contents : Option NodeContents) : ConfigUnit :=
  (unit.observe contents).2.1

@[simp] theorem observed_none (unit : ConfigUnit) : unit.observed none = unit := rfl

/-- A reading whose bytes decode leaves the newer of the snapshot and what was read. -/
theorem observed_some {contents : NodeContents} {values : PropertyMap}
    (decoded : decode unit.path contents.bytes unit.format = .ok values) :
    unit.observed (some contents) =
      { unit with snapshot := unit.snapshot.updated values contents.version } := by
  simp [observed, observe, decoded]

theorem observe_some_ok {contents : NodeContents}
    (ok : (unit.observe (some contents)).1 = .ok ()) :
    ∃ values, decode unit.path contents.bytes unit.format = .ok values := by
  simp only [observe] at ok
  split at ok
  · cases ok
  · rename_i values decoded
    exact ⟨values, decoded⟩

theorem observed_of_error {contents : Option NodeContents} {error : ConfigError}
    (failed : (unit.observe contents).1 = .error error) : unit.observed contents = unit := by
  cases contents with
  | none => rfl
  | some contents =>
      simp only [observed, observe] at failed ⊢
      split at failed
      · rfl
      · cases failed

theorem observed_sameBinding (unit : ConfigUnit) (contents : Option NodeContents) :
    SameBinding unit (unit.observed contents) := by
  cases contents with
  | none => exact .refl unit
  | some contents =>
      simp only [observed, observe]
      split <;> exact ⟨⟨rfl, rfl, rfl, rfl⟩, rfl⟩

@[simp] theorem observed_lastError (unit : ConfigUnit) (contents : Option NodeContents) :
    (unit.observed contents).lastError = unit.lastError := by
  cases contents with
  | none => rfl
  | some contents =>
      simp only [observed, observe]
      split <;> rfl

/-- A reading leaves the snapshot, or is newer and shown. -/
theorem observed_snapshot (unit : ConfigUnit) (contents : NodeContents) :
    (unit.observed (some contents)).snapshot = unit.snapshot ∨
      unit.snapshot.isOlderThan contents.version = true ∧
        (unit.observed (some contents)).Shows
          (.dataChanged unit.path contents.bytes contents.version) := by
  cases decoded : decode unit.path contents.bytes unit.format with
  | error error => exact .inl (by simp [observed, observe, decoded])
  | ok values =>
      rw [observed_some decoded]
      simp only [Snapshot.updated]
      split
      · rename_i older
        exact .inr ⟨older, values, decoded, rfl⟩
      · exact .inl rfl

/-- No reading makes a snapshot older. -/
theorem observed_not_older {version : Nat} (contents : Option NodeContents)
    (notOlder : unit.snapshot.isOlderThan version = false) :
    (unit.observed contents).snapshot.isOlderThan version = false := by
  cases contents with
  | none => exact notOlder
  | some contents =>
      rcases unit.observed_snapshot contents with same | ⟨older, shows⟩
      · rw [same]
        exact notOlder
      · obtain ⟨current, held, le⟩ := Snapshot.exists_version_of_not_older notOlder
        refine Snapshot.not_older_of_le shows.version (Nat.le_of_lt ?_)
        simp only [Snapshot.isOlderThan, held] at older
        exact Nat.lt_of_le_of_lt le (of_decide_eq_true older)

/-- A reading of bytes leaves the unit at least as new as they are. -/
theorem observed_not_older_of_ok {contents : NodeContents}
    (ok : (unit.observe (some contents)).1 = .ok ()) :
    (unit.observed (some contents)).snapshot.isOlderThan contents.version = false := by
  obtain ⟨values, decoded⟩ := observe_some_ok ok
  rw [observed_some decoded, Snapshot.updated]
  split
  · simp [Snapshot.isOlderThan]
  · rename_i notOlder
    simpa using notOlder

end ConfigUnit

end LiveConfig
