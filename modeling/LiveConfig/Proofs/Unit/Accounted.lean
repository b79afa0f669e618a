import LiveConfig.Proofs.Unit.Snapshot

/-!
Contract: how far a unit may be behind its store.

A unit is accounted for if it is in step, or remembers a failure, or a write to its node is still to be
dispatched. Its snapshot is always traced to a write of the log. Owns: how changes of the store and
notifications in the order of the feed keep both, also while a reading waits to be taken over. Does not
own: the client that delivers.
-/

namespace LiveConfig.ConfigUnit

/-- The snapshot was never filled, or holds what some write to the node left. -/
def Traced (unit : ConfigUnit) (store : Store) : Prop :=
  unit.snapshot = .unread ∨
    ∃ event ∈ store.history, event.Writes unit.path ∧ unit.Shows event

/-- A reading is nothing, or what some write to the node left. -/
def Logs (unit : ConfigUnit) (store : Store) (contents : Option NodeContents) : Prop :=
  ∀ held, contents = some held →
    .dataChanged unit.path held.bytes held.version ∈ store.history

/-- If the unit is behind its store, then it says so, or it is going to be told. -/
def Accounted (unit : ConfigUnit) (store : Store) (position : Nat) : Prop :=
  unit.lastError.isSome ∨ store.Pending position unit.path ∨ unit.InStep store

variable {unit : ConfigUnit} {store : Store} {position : Nat}

/-! ### Changes of the store -/

theorem mem_history_of_changes {after : Store} (changes : Store.Changes store after)
    {event : Notification} (member : event ∈ store.history) : event ∈ after.history := by
  obtain ⟨-, events, grown, -⟩ := Store.feed_append changes
  rw [Store.history, grown, ← List.cons_append]
  exact List.mem_append_left _ member

theorem Traced.changes {after : Store} (traced : unit.Traced store)
    (changes : Store.Changes store after) : unit.Traced after := by
  rcases traced with unread | ⟨event, member, writes, shows⟩
  · exact .inl unread
  · exact .inr ⟨event, mem_history_of_changes changes member, writes, shows⟩

theorem Logs.changes {after : Store} {contents : Option NodeContents}
    (logs : unit.Logs store contents) (changes : Store.Changes store after) :
    unit.Logs after contents :=
  fun held isHeld => mem_history_of_changes changes (logs held isHeld)

theorem Logs.congr {other : ConfigUnit} {contents : Option NodeContents}
    (logs : unit.Logs store contents) (path : other.path = unit.path) :
    other.Logs store contents := by
  intro held isHeld
  rw [path]
  exact logs held isHeld

/-- A write to the node of a unit is going to be told; all other changes leave the node as it is. -/
theorem Accounted.change {after : Store} (accounted : unit.Accounted store position)
    (change : store.Change after) (reached : position ≤ store.feed.size) :
    unit.Accounted after position := by
  rcases change.published with ⟨sameFeed, -, sameContents⟩ | ⟨event, pushed, -, -, contents⟩
  · rcases accounted with failed | pending | inStep
    · exact .inl failed
    · refine .inr (.inl ?_)
      unfold Store.Pending at pending ⊢
      rw [sameFeed]
      exact pending
    · exact .inr (.inr (inStep.congr rfl rfl rfl (sameContents _)))
  · have behind : after.feed.toList.drop position =
        store.feed.toList.drop position ++ [event] := by
      rw [pushed, Array.toList_push, List.drop_append_of_le_length (by simpa using reached)]
    by_cases writes : event.Writes unit.path
    · exact .inr (.inl ⟨event, by simp [behind], writes⟩)
    · rcases accounted with failed | ⟨other, member, otherWrites⟩ | inStep
      · exact .inl failed
      · exact .inr (.inl ⟨other, by simp [behind, member], otherWrites⟩)
      · refine .inr (.inr (inStep.congr rfl rfl rfl ?_))
        rw [contents, if_neg writes]

theorem Accounted.changes {after : Store} (accounted : unit.Accounted store position)
    (changes : Store.Changes store after) (reached : position ≤ store.feed.size) :
    unit.Accounted after position := by
  induction changes with
  | refl => exact accounted
  | tail earlier last inductionHypothesis =>
      exact inductionHypothesis.change last
        (Nat.le_trans reached (Store.feed_size_le earlier))

/-! ### Notifications and readings -/

theorem Traced.observed (traced : unit.Traced store) {contents : Option NodeContents}
    (logs : unit.Logs store contents) : (unit.observed contents).Traced store := by
  have binding := unit.observed_sameBinding contents
  have keeps (same : (unit.observed contents).snapshot = unit.snapshot) :
      (unit.observed contents).Traced store := by
    rcases traced with unread | ⟨event, member, writes, shows⟩
    · exact .inl (same.trans unread)
    · exact .inr ⟨event, member, binding.path ▸ writes,
        shows.congr binding.path binding.format same⟩
  cases contents with
  | none => exact keeps rfl
  | some held =>
      rcases unit.observed_snapshot held with same | ⟨-, shows⟩
      · exact keeps same
      · exact .inr ⟨_, logs held rfl, by simp [Notification.Writes, Notification.path,
          Notification.version?, binding.path], shows⟩

theorem Traced.receive {event : Notification} (traced : unit.Traced store)
    (member : event ∈ store.history) (onPath : event.path = unit.path) :
    (unit.receive event).1.Traced store := by
  have binding := unit.receive_sameBinding event
  have outcome := unit.received event
  generalize (unit.receive event).1 = after at binding outcome ⊢
  cases outcome with
  | ignored => exact traced
  | failed message =>
      rcases traced with unread | ⟨earlier, earlierMember, writes, shows⟩
      · exact .inl unread
      · exact .inr ⟨earlier, earlierMember, writes, shows.congr rfl rfl rfl⟩
  | shown told older shows =>
      exact .inr ⟨event, member, ⟨onPath.trans binding.path.symm, by simp [told]⟩, shows⟩

/-- A unit that is not older than the last write to its node is in step. -/
theorem inStep_of_last {event : Notification} {version : Nat} (logged : store.Logged)
    (found : store.feed[position]? = some event) (writes : event.Writes unit.path)
    (told : event.version? = some version) (last : ¬ store.Pending (position + 1) unit.path)
    (traced : unit.Traced store) (notOlder : unit.snapshot.isOlderThan version = false) :
    unit.InStep store := by
  obtain ⟨current, held, le⟩ := Snapshot.exists_version_of_not_older notOlder
  rcases traced with unread | ⟨shown, member, shownWrites, shows⟩
  · rw [unread] at held
    cases held
  · have shownTold : shown.version? = some current := shows.version ▸ held
    have ge := logged.version_le_of_last found last told member shownWrites shownTold
    have sameVersion : current = version := Nat.le_antisymm ge le
    have same : shown = event :=
      logged.eq_of_version member (Store.mem_history_of_found found) shownTold (sameVersion ▸ told)
    exact (same ▸ shows).inStep (logged.contents?_eq_of_last found writes last)

/-- What the next event of the feed does to a unit on whose path it is: the unit is accounted for
afterwards, or the event was old and changed nothing. A reading that waits makes no difference. -/
theorem receive_accounted {event : Notification} {contents : Option NodeContents}
    (logged : store.Logged) (found : store.feed[position]? = some event)
    (onPath : event.path = unit.path) (traced : unit.Traced store)
    (logs : unit.Logs store contents) :
    ((unit.receive event).1.observed contents).Accounted store (position + 1) ∨
      ∃ version, event.version? = some version ∧
        unit.snapshot.isOlderThan version = false ∧ (unit.receive event).1 = unit := by
  have member := Store.mem_history_of_found found
  have tracedAfter := traced.receive member onPath
  have binding := unit.receive_sameBinding event
  have outcome := unit.received event
  generalize (unit.receive event).1 = after at tracedAfter binding outcome ⊢
  have observedBinding := after.observed_sameBinding contents
  cases outcome with
  | ignored told notOlder => exact .inr ⟨_, told, notOlder, rfl⟩
  | failed message => exact .inl (.inl (by simp))
  | @shown _ version told older shows =>
      refine .inl (.inr ?_)
      have path : (after.observed contents).path = unit.path :=
        observedBinding.path.trans binding.path
      by_cases pending : store.Pending (position + 1) unit.path
      · exact .inl (path ▸ pending)
      · have logsAfter := logs.congr binding.path
        have writes : event.Writes (after.observed contents).path :=
          ⟨onPath.trans path.symm, by simp [told]⟩
        have notOlder : after.snapshot.isOlderThan version = false :=
          Snapshot.not_older_of_le (shows.version.trans told) (Nat.le_refl version)
        exact .inr (inStep_of_last logged found writes told (path ▸ pending)
          (tracedAfter.observed logsAfter) (observed_not_older contents notOlder))

/-- An old event leaves a unit accounted for. -/
theorem Accounted.ignore {event : Notification} {version : Nat}
    (accounted : unit.Accounted store position) (logged : store.Logged)
    (found : store.feed[position]? = some event) (onPath : event.path = unit.path)
    (told : event.version? = some version) (traced : unit.Traced store)
    (notOlder : unit.snapshot.isOlderThan version = false) :
    unit.Accounted store (position + 1) := by
  rcases accounted with failed | - | inStep
  · exact .inl failed
  · refine .inr ?_
    by_cases pending : store.Pending (position + 1) unit.path
    · exact .inl pending
    · exact .inr (inStep_of_last logged found ⟨onPath, by simp [told]⟩ told pending traced notOlder)
  · exact .inr (.inr inStep)

/-- An event of another path leaves a unit accounted for. -/
theorem Accounted.pass {event : Notification} (accounted : unit.Accounted store position)
    (found : store.feed[position]? = some event) (elsewhere : event.path ≠ unit.path) :
    unit.Accounted store (position + 1) := by
  rcases accounted with failed | ⟨other, member, writes⟩ | inStep
  · exact .inl failed
  · refine .inr (.inl ⟨other, ?_, writes⟩)
    have inList : store.feed.toList[position]? = some event := by simpa using found
    obtain ⟨below, atPosition⟩ := List.getElem?_eq_some_iff.mp inList
    rw [List.drop_eq_getElem_cons below, atPosition] at member
    rcases List.mem_cons.mp member with same | later
    · exact absurd (same ▸ writes.1) elsewhere
    · exact later
  · exact .inr (.inr inStep)

/-- A reading of the store as it is leaves a unit in step, or finds no node. -/
theorem inStep_of_reading {contents : NodeContents} {values : PropertyMap} (logged : store.Logged)
    (traced : unit.Traced store) (read : store.contents? unit.path = some contents)
    (decoded : decode unit.path contents.bytes unit.format = .ok values) :
    (unit.observed (some contents)).InStep store := by
  obtain ⟨wrote, newest⟩ := logged.exists_of_contents? read
  rw [observed_some decoded, Snapshot.updated]
  split
  · simp [InStep, read, decoded]
  · rename_i notOlder
    obtain ⟨current, held, le⟩ :=
      Snapshot.exists_version_of_not_older (by simpa using notOlder)
    rcases traced with unread | ⟨event, member, writes, shows⟩
    · rw [unread] at held
      cases held
    · have told : event.version? = some current := shows.version ▸ held
      have sameVersion : current = contents.version :=
        Nat.le_antisymm (newest event member writes current told) le
      have same := logged.eq_of_version member wrote told (sameVersion ▸ rfl)
      exact (same ▸ shows).inStep read

end LiveConfig.ConfigUnit
