import LiveConfig.Proofs.Unit.Staleness

/-!
Contract: when the undelivered part of the feed can overturn what a unit has read.

The dispatcher looks at the table of watches when it tells an event, so a unit is also told of writes
that are older than its watch. A reading that found bytes is newer than all of them. A reading that
found no node carries no version, and is overturned by the first of them that the unit takes over. Owns:
the exact condition under which nothing that is older than a reading changes the snapshot afterwards.
-/

namespace LiveConfig

namespace ConfigUnit

variable {unit : ConfigUnit}

/-- The snapshot stays as it is when the unit is told of an event. -/
def Ignores (unit : ConfigUnit) (event : Notification) : Prop :=
  (unit.receive event).1.snapshot = unit.snapshot

/-- A unit ignores bytes exactly if they are not newer than its snapshot or cannot be decoded. -/
theorem ignores_data_iff {path : String} {data : Payload} {version : Nat} :
    unit.Ignores (.dataChanged path data version) ↔
      (unit.snapshot.isOlderThan version = true →
        ∃ error, decode unit.path data unit.format = .error error) := by
  simp only [Ignores, receive, receiveData]
  by_cases older : unit.snapshot.isOlderThan version = true
  · cases decoded : decode unit.path data unit.format with
    | error error => simp [older, refreshFailed]
    | ok values => simpa [older] using snapshot_ne_of_older values older
  · simp [older]

/-- A unit ignores a deletion exactly if it is not newer than its snapshot. -/
theorem ignores_deletion_iff {path : String} {version : Nat} :
    unit.Ignores (.deleted path version) ↔ unit.snapshot.isOlderThan version = false := by
  simp only [Ignores, receive, receiveDeletion]
  by_cases older : unit.snapshot.isOlderThan version = true
  · simpa [older, Snapshot.deleted] using snapshot_ne_of_older .empty older
  · simp [older]

theorem ignores_of_not_older {event : Notification} {version : Nat}
    (told : event.version? = some version) (notOlder : unit.snapshot.isOlderThan version = false) :
    unit.Ignores event := by
  cases event with
  | dataChanged path data given =>
      obtain rfl := Option.some.inj told
      exact ignores_data_iff.mpr fun older => by simp [notOlder] at older
  | deleted path given =>
      obtain rfl := Option.some.inj told
      exact ignores_deletion_iff.mpr notOlder
  | failed path message => cases told

/-- What a unit ignores, it ignores with a newer snapshot too. -/
theorem Ignores.newer {other : ConfigUnit} {event : Notification} (ignores : unit.Ignores event)
    (same : unit.SameNode other)
    (newer : ∀ version, unit.snapshot.isOlderThan version = false →
      other.snapshot.isOlderThan version = false) : other.Ignores event := by
  cases event with
  | dataChanged path data version =>
      refine ignores_data_iff.mpr fun older => ?_
      rw [same.path, same.format]
      refine ignores_data_iff.mp ignores ?_
      by_contra notOlder
      rw [newer version (by simpa using notOlder)] at older
      cases older
  | deleted path version =>
      exact ignores_deletion_iff.mpr (newer version (ignores_deletion_iff.mp ignores))
  | failed path message => rfl

end ConfigUnit

namespace UnitLife

variable {life : UnitLife} {last : Nat}

/-- What the dispatcher has still to tell: the undelivered events that the feed has kept. -/
def backlog (life : UnitLife) : List Notification :=
  match life.client.position with
  | none => []
  | some position =>
      life.store.feed.toList.drop (max position (life.store.feed.size - Store.feedCapacity))

/-- No write up to a version of which the unit is still to be told would change its snapshot. -/
def BacklogIgnored (life : UnitLife) (last : Nat) : Prop :=
  life.Follows → ∀ event ∈ life.backlog, event.path = life.unit.path →
    ∀ version, event.version? = some version → version ≤ last → life.unit.Ignores event

/-- Whatever happens, a turn of the dispatcher that takes up a write up to a version does not change
the snapshot. -/
def Unmoved (life : UnitLife) (last : Nat) : Prop :=
  ∀ actions, Unshared life.unit.listener actions → ∀ position event version,
    (life.after actions).client.position = some position →
    (life.after actions).store.feed[position]? = some event →
    event.version? = some version → version ≤ last →
    ((life.after actions).step (.client .dispatch)).unit.snapshot =
      (life.after actions).unit.snapshot

/-! ### The backlog shrinks, but for newer events -/

theorem mem_backlog_of_found {position : Nat} {event : Notification}
    (followed : life.client.position = some position)
    (found : life.store.feed[position]? = some event)
    (kept : life.store.feed.size ≤ position + Store.feedCapacity) : event ∈ life.backlog := by
  have inList : life.store.feed.toList[position]? = some event := by simpa using found
  obtain ⟨below, atPosition⟩ := List.getElem?_eq_some_iff.mp inList
  have fromHere : max position (life.store.feed.size - Store.feedCapacity) = position := by omega
  simp only [backlog, followed, fromHere]
  rw [List.drop_eq_getElem_cons below, atPosition]
  exact List.mem_cons_self

theorem mem_backlog_of_moved {run : ClientRun} {unit : ConfigUnit} {published : List ChangeEvent}
    {attachment : AttachProgress} {results : List (Except ConfigError Unit)} {position next : Nat}
    (moved : life.following.run.Moved position next run) (le : position ≤ next)
    {event : Notification}
    (member : event ∈ backlog ⟨⟨run, unit, published⟩, attachment, results⟩) :
    event ∈ life.backlog := by
  have followed : life.client.position = some position := moved.follows
  simp only [backlog, client, store, moved.moved, moved.store] at member
  simp only [backlog, followed]
  exact (List.drop_sublist_drop_left _ (by simp only [store]; omega)).subset member

theorem mem_backlog_of_grown {after : UnitLife} {events : List Notification}
    (samePosition : after.client.position = life.client.position)
    (grown : after.store.feed.toList = life.store.feed.toList ++ events) {event : Notification}
    (member : event ∈ after.backlog) : event ∈ life.backlog ∨ event ∈ events := by
  have sizes : after.store.feed.size = life.store.feed.size + events.length := by
    simpa using congrArg List.length grown
  unfold backlog at member ⊢
  rw [samePosition] at member
  cases followed : life.client.position with
  | none =>
      rw [followed] at member
      cases member
  | some position =>
      simp only [followed, grown, List.drop_append] at member
      rcases List.mem_append.mp member with old | new
      · exact .inl ((List.drop_sublist_drop_left _ (by omega)).subset old)
      · exact .inr (List.mem_of_mem_drop new)

/-- A settled unit: its watch is there, and nothing up to a version can still change its snapshot. -/
structure Settled (life : UnitLife) (last : Nat) : Prop where
  given : last ≤ life.store.lastVersion
  watching : life.unit.watch ≠ none
  ignored : life.BacklogIgnored last

/-- If a write is ignored and stands behind an event in the feed, then so is this event. -/
theorem BacklogIgnored.next {position : Nat} {event : Notification}
    (ignored : life.BacklogIgnored last) (logged : life.store.Logged) (follows : life.Follows)
    (followed : life.client.position = some position)
    (found : life.store.feed[position]? = some event)
    (kept : life.store.feed.size ≤ position + Store.feedCapacity)
    (onPath : event.path = life.unit.path) {later : Notification} {version : Nat}
    (member : later ∈ life.store.feed.toList.drop (position + 1))
    (told : later.version? = some version) (le : version ≤ last) : life.unit.Ignores event := by
  cases first : event.version? with
  | none =>
      cases event with
      | failed path message => rfl
      | dataChanged | deleted => cases first
  | some earlier =>
      have less := logged.version_lt_of_behind found member first told
      exact ignored follows event (mem_backlog_of_found followed found kept) onPath earlier first
        (by omega)

theorem Settled.turn {action : UnitAction} {after : UnitLife} (settled : life.Settled last)
    (logged : life.store.Logged) (turn : life.Turn action after) : after.Settled last := by
  have before := turn.follows_before
  cases turn with
  | @quiet action published drained wellFormed quiet =>
      obtain ⟨le, events, grown, newer⟩ := Store.feed_append quiet.changes
      refine ⟨Nat.le_trans settled.given le, settled.watching,
        fun follows event member onPath version told small => ?_⟩
      obtain ⟨-, id, -, inTable⟩ := id follows
      have samePosition := quiet.position
        (List.ne_nil_of_mem (List.mem_filter.mpr ⟨inTable, by simp [unit]⟩))
      have remaining := @mem_backlog_of_grown life
        ⟨⟨_, life.unit, published⟩, life.attachment, life.results⟩ _ samePosition grown event member
      rcases remaining with old | new
      · exact settled.ignored (before follows rfl) event old onPath version told small
      · have beyond : life.store.lastVersion < version := newer event new version told
        have given := settled.given
        omega
  | @told run published position event moved found kept follows onPath =>
      have binding := life.unit.receive_sameBinding event
      refine ⟨?_, ?_, fun _ later member laterOnPath version told le => ?_⟩
      · simp only [store, moved.store]
        exact settled.given
      · rw [unit, binding.watch]
        exact settled.watching
      · have behind : later ∈ life.store.feed.toList.drop (position + 1) := by
          simp only [backlog, client, store, moved.moved, moved.store] at member
          exact (List.drop_sublist_drop_left _ (Nat.le_max_left _ _)).subset member
        have same := settled.ignored.next logged follows moved.follows found kept onPath behind told
          le
        have ignores := settled.ignored follows later
          (mem_backlog_of_moved moved (Nat.le_succ _) member) (laterOnPath.trans binding.path)
          version told le
        refine ignores.newer binding.toSameNode fun given notOlder => ?_
        rw [ConfigUnit.Ignores] at same
        rw [unit, same]
        exact notOlder
  | passed moved found kept apart =>
      refine ⟨?_, settled.watching, fun follows event member => ?_⟩
      · simp only [store, moved.store]
        exact settled.given
      · exact settled.ignored (before follows rfl) event
          (mem_backlog_of_moved moved (Nat.le_succ _) member)
  | lagged moved behind remembers =>
      refine ⟨?_, settled.watching, fun follows event member onPath version told le => ?_⟩
      · simp only [store, moved.store]
        exact settled.given
      · have ignores := settled.ignored (before follows rfl) event
          (mem_backlog_of_moved moved (by omega) member) onPath version told le
        exact ignores.newer ⟨rfl, rfl, rfl, rfl⟩ fun _ notOlder => notOlder
  | registered idle unwatched => exact absurd unwatched settled.watching
  | resumed | refused | read => exact ⟨settled.given, settled.watching, settled.ignored⟩
  | @settled published contents settling =>
      have binding := life.unit.observed_sameBinding contents
      refine ⟨settled.given, ?_, fun follows event member onPath version told le => ?_⟩
      · rw [unit, binding.watch]
        exact settled.watching
      · have ignores := settled.ignored (before follows binding.watch) event member
          (onPath.trans binding.path) version told le
        exact ignores.newer binding.toSameNode fun _ notOlder =>
          ConfigUnit.observed_not_older contents notOlder

/-- A settled unit is not moved by anything old. -/
theorem Settled.unmoved (settled : life.Settled last) (regular : life.Regular)
    (sound : life.Sound) : life.Unmoved last := by
  intro actions unshared position event version followed found told le
  have laterRegular := regular.after unshared
  have later := after_of_turn (fun life => life.Sound ∧ life.Settled last)
    (fun _ both turn => ⟨both.1.turn turn, both.2.turn both.1.logged turn⟩) regular
    ⟨sound, settled⟩ unshared
  have turn := step_dispatch_turn laterRegular
  generalize life.after actions = life at followed found later turn ⊢
  generalize life.step (.client .dispatch) = after at turn ⊢
  cases turn with
  | quiet | passed | lagged => rfl
  | @told run published place other moved atPlace kept follows onPath =>
      obtain rfl : place = position := Option.some.inj (moved.follows.symm.trans followed)
      obtain rfl : other = event := Option.some.inj (atPlace.symm.trans found)
      exact later.2.ignored follows other (mem_backlog_of_found followed found kept) onPath version
        told le

/-! ### Dispatching the backlog -/

theorem Unmoved.step (unmoved : life.Unmoved last) {action : UnitAction}
    (others : ∀ path, action ≠ .client (.watch path life.unit.listener))
    (sameListener : (life.step action).unit.listener = life.unit.listener) :
    (life.step action).Unmoved last := by
  intro actions unshared
  refine unmoved (action :: actions) fun path member => ?_
  rcases List.mem_cons.mp member with same | later
  · exact others path same.symm
  · exact unshared path (sameListener.symm ▸ later)

theorem Follows.moved {run : ClientRun} {unit : ConfigUnit} {published : List ChangeEvent}
    {position next : Nat} (follows : life.Follows)
    (moved : life.following.run.Moved position next run) (binding : life.unit.SameBinding unit) :
    Follows ⟨⟨run, unit, published⟩, life.attachment, life.results⟩ := by
  obtain ⟨alive, id, watching, member⟩ := follows
  refine ⟨?_, id, binding.watch.trans watching, ?_⟩
  · have sameListener : unit.listener = life.unit.listener := binding.listener
    simpa [ClientRun.isAlive, moved.gone, sameListener, UnitLife.unit] using alive
  · have live : (⟨id, life.unit.path, life.unit.listener⟩ : Watch) ∈ run.client.watches := by
      rw [moved.watches]
      exact List.mem_filter.mpr ⟨member, alive⟩
    rw [← binding.path, ← binding.listener] at live
    exact live

/-- What a turn of the dispatcher that finds an event does to a unit that follows its node. -/
theorem Follows.dispatch {after : UnitLife} (follows : life.Follows)
    (turn : life.Turn (.client .dispatch) after) {position : Nat} {event : Notification}
    (followed : life.client.position = some position)
    (found : life.store.feed[position]? = some event)
    (kept : life.store.feed.size ≤ position + Store.feedCapacity) :
    after.Follows ∧ after.client.position = some (position + 1) ∧ after.store = life.store ∧
      (after.unit = (life.unit.receive event).1 ∧ event.path = life.unit.path ∨
        after.unit = life.unit ∧ event.path ≠ life.unit.path) := by
  cases turn with
  | quiet drained =>
      have atEnd := Client.dispatchNext?_eq_none_iff.mp
        (Option.isNone_iff_eq_none.mp (drained rfl)) position followed
      obtain ⟨below, -⟩ := Array.getElem?_eq_some_iff.mp found
      exact absurd below (Nat.not_lt_of_le atEnd)
  | @told run published place other moved atPlace inReach following onPath =>
      obtain rfl : place = position := Option.some.inj (moved.follows.symm.trans followed)
      obtain rfl : other = event := Option.some.inj (atPlace.symm.trans found)
      exact ⟨follows.moved moved (life.unit.receive_sameBinding other), moved.moved, moved.store,
        .inl ⟨rfl, onPath⟩⟩
  | @passed run published place other moved atPlace inReach apart =>
      obtain rfl : place = position := Option.some.inj (moved.follows.symm.trans followed)
      obtain rfl : other = event := Option.some.inj (atPlace.symm.trans found)
      exact ⟨follows.moved moved (.refl _), moved.moved, moved.store, .inr ⟨rfl, apart follows⟩⟩
  | @lagged run published place lastError moved behind =>
      obtain rfl : place = position := Option.some.inj (moved.follows.symm.trans followed)
      exact absurd behind (Nat.not_lt_of_le kept)

/-- What a report of lost events does to a unit that follows its node. -/
theorem Follows.lag {after : UnitLife} (follows : life.Follows)
    (turn : life.Turn (.client .dispatch) after) {position : Nat}
    (followed : life.client.position = some position)
    (behind : position + Store.feedCapacity < life.store.feed.size) :
    after.Follows ∧ after.client.position = some (life.store.feed.size - Store.feedCapacity) ∧
      after.store = life.store ∧ after.unit.snapshot = life.unit.snapshot := by
  cases turn with
  | quiet drained =>
      have atEnd := Client.dispatchNext?_eq_none_iff.mp
        (Option.isNone_iff_eq_none.mp (drained rfl)) position followed
      exact absurd (Nat.le_trans atEnd (Nat.le_add_right _ _)) (Nat.not_le_of_lt behind)
  | @told run published place other moved atPlace inReach
  | @passed run published place other moved atPlace inReach =>
      obtain rfl : place = position := Option.some.inj (moved.follows.symm.trans followed)
      exact absurd inReach (Nat.not_le_of_lt behind)
  | lagged moved =>
      exact ⟨follows.moved moved ⟨⟨rfl, rfl, rfl, rfl⟩, rfl⟩, moved.moved, moved.store, rfl⟩

theorem Unmoved.next (unmoved : life.Unmoved last) {position : Nat} {event : Notification}
    {version : Nat} (followed : life.client.position = some position)
    (found : life.store.feed[position]? = some event) (told : event.version? = some version)
    (le : version ≤ last) :
    (life.step (.client .dispatch)).unit.snapshot = life.unit.snapshot :=
  unmoved [] (fun _ member => nomatch member) position event version followed found told le

/-- If nothing moves the unit, then it ignores every event that the dispatcher comes to. -/
theorem Unmoved.ignores {steps : Nat} (unmoved : life.Unmoved last) (regular : life.Regular)
    (logged : life.store.Logged) (follows : life.Follows) {position : Nat} {event : Notification}
    {version : Nat} (followed : life.client.position = some position)
    (kept : life.store.feed.size ≤ position + Store.feedCapacity)
    (found : life.store.feed[position + steps]? = some event)
    (onPath : event.path = life.unit.path) (told : event.version? = some version)
    (le : version ≤ last) : life.unit.Ignores event := by
  induction steps generalizing life position with
  | zero =>
      have same := unmoved.next followed found told le
      obtain ⟨-, -, -, dispatched⟩ :=
        follows.dispatch (step_dispatch_turn regular) followed found kept
      rcases dispatched with ⟨received, -⟩ | ⟨-, elsewhere⟩
      · rw [received] at same
        exact same
      · exact absurd onPath elsewhere
  | succ steps inductionHypothesis =>
      obtain ⟨next, foundNext⟩ : ∃ next, life.store.feed[position]? = some next := by
        obtain ⟨below, -⟩ := Array.getElem?_eq_some_iff.mp found
        exact ⟨_, Array.getElem?_eq_getElem (by omega)⟩
      have turn := step_dispatch_turn regular
      obtain ⟨later, moved, store, dispatched⟩ := follows.dispatch turn followed foundNext kept
      have foundLater : life.store.feed[position + 1 + steps]? = some event := by
        rw [Nat.add_assoc, Nat.add_comm 1 steps]
        exact found
      -- The unit ignores the next event too, which is older than the one in question.
      have same : (life.step (.client .dispatch)).unit.snapshot = life.unit.snapshot := by
        cases toldNext : next.version? with
        | some earlier =>
            have less := logged.version_lt_of_behind foundNext
              (Store.mem_drop_of_found foundLater) toldNext told
            exact unmoved.next followed foundNext toldNext (by omega)
        | none =>
            rcases dispatched with ⟨received, -⟩ | ⟨unchanged, -⟩
            · cases next with
              | failed path message => rw [received]; rfl
              | dataChanged | deleted => cases toldNext
            · rw [unchanged]
      have ignores := inductionHypothesis
        (unmoved.step (by simp) turn.sameNode.listener) (regular.turn turn) (store ▸ logged) later
        moved (by rw [store]; omega) (by rw [store]; exact foundLater)
        (onPath.trans turn.sameNode.path.symm)
      have back : (life.step (.client .dispatch)).unit.SameNode life.unit :=
        turn.sameNode.symm
      exact ignores.newer back fun version notOlder => by rw [← same]; exact notOlder

/-- If nothing moves the unit, then it ignores the backlog: the dispatcher can come to all of it. -/
theorem Unmoved.backlogIgnored (unmoved : life.Unmoved last) (regular : life.Regular)
    (logged : life.store.Logged) : life.BacklogIgnored last := by
  intro follows event member onPath version told le
  obtain ⟨position, followed⟩ : ∃ position, life.client.position = some position := by
    obtain ⟨-, id, -, inTable⟩ := follows
    exact regular.wellFormed.position_of_watch inTable
  simp only [backlog, followed] at member
  obtain ⟨steps, found⟩ := Store.found_of_mem_drop member
  by_cases behind : position + Store.feedCapacity < life.store.feed.size
  · have turn := step_dispatch_turn regular
    obtain ⟨later, moved, store, same⟩ := follows.lag turn followed behind
    have fromOldest : max position (life.store.feed.size - Store.feedCapacity) =
        life.store.feed.size - Store.feedCapacity := by omega
    rw [fromOldest] at found
    have ignores := (unmoved.step (by simp) turn.sameNode.listener).ignores (regular.turn turn)
      (store ▸ logged) later moved (by rw [store]; omega) (by rw [store]; exact found)
      (onPath.trans turn.sameNode.path.symm) told le
    exact ignores.newer turn.sameNode.symm fun version notOlder => by rw [← same]; exact notOlder
  · have fromHere : max position (life.store.feed.size - Store.feedCapacity) = position := by omega
    rw [fromHere] at found
    exact unmoved.ignores regular logged follows followed (Nat.le_of_not_lt behind) found onPath told
      le

/-! ### Attachments -/

/-- What can become of a new unit. -/
def Reachable (life : UnitLife) : Prop :=
  ∃ start actions, New start ∧ Unshared start.unit.listener actions ∧ start.after actions = life

theorem Reachable.regular (reachable : life.Reachable) : life.Regular := by
  obtain ⟨start, actions, new, unshared, rfl⟩ := reachable
  exact new.regular.after unshared

theorem Reachable.sound (reachable : life.Reachable) : life.Sound := by
  obtain ⟨start, actions, new, unshared, rfl⟩ := reachable
  exact new.sound.after new.regular unshared

/-- A life in which the attachment under way reads now, and takes over what it has read after other
things have happened. -/
def attached (life : UnitLife) (between : List ClientAction) : UnitLife :=
  ((life.step .attach).after (between.map .client)).step .attach

theorem after_client (actions : List ClientAction) :
    (life.after (actions.map .client)).attachment = life.attachment ∧
      (life.after (actions.map .client)).results = life.results := by
  induction actions generalizing life with
  | nil => exact ⟨rfl, rfl⟩
  | cons action rest inductionHypothesis => exact @inductionHypothesis (life.step (.client action))

theorem Turn.results {action : UnitAction} {after : UnitLife} (turn : life.Turn action after) :
    ∃ more, after.results = life.results ++ more := by
  cases turn with
  | quiet | told | passed | lagged | registered | resumed | read => exact ⟨[], by simp⟩
  | refused | settled => exact ⟨_, rfl⟩

theorem attached_eq_after (between : List ClientAction) :
    life.attached between = life.after (.attach :: (between.map .client ++ [.attach])) := by
  simp [attached, after]

theorem unshared_attached {between : List ClientAction}
    (unshared : Unshared life.unit.listener (between.map .client)) :
    Unshared life.unit.listener (.attach :: (between.map .client ++ [.attach])) := by
  intro path member
  simp only [List.mem_cons, List.mem_append, reduceCtorEq, false_or, List.not_mem_nil, or_false]
    at member
  exact unshared path member

/-- The end of an attachment that began to read. -/
theorem settle_of_results {contents : Option NodeContents} {after : UnitLife}
    (settling : life.attachment = .settling contents)
    (turn : life.Turn .attach after) (results : after.results = life.results ++ [.ok ()]) :
    (life.unit.observe contents).1 = .ok () ∧ after.unit = life.unit.observed contents := by
  cases turn with
  | registered idle | resumed idle =>
      rw [settling] at idle
      cases idle
  | refused error => simp at results
  | read reading =>
      rw [settling] at reading
      cases reading
  | settled other =>
      rw [settling] at other
      obtain rfl := AttachProgress.settling.inj other
      exact ⟨by simpa using results, rfl⟩

/-- An attachment that succeeds takes over what it has read. -/
theorem attached_of_initialized (regular : life.Regular) (reading : life.attachment = .reading)
    {between : List ClientAction} (unshared : Unshared life.unit.listener (between.map .client))
    (initialized : (life.attached between).results = life.results ++ [.ok ()]) :
    ∃ middle : ConfigUnit, middle.path = life.unit.path ∧
      (middle.observe (life.store.contents? life.unit.path)).1 = .ok () ∧
      (life.attached between).unit = middle.observed (life.store.contents? life.unit.path) := by
  have turn : life.Turn .attach (life.step .attach) := advance_turn regular
  unfold attached at initialized ⊢
  generalize life.step .attach = first at turn initialized ⊢
  obtain ⟨sameAttachment, sameResults⟩ := @after_client first between
  have firstRegular := regular.turn turn
  have unsharedFirst : Unshared first.unit.listener (between.map .client) :=
    turn.sameNode.listener ▸ unshared
  have path := (turn.sameNode.trans (sameNode_after firstRegular unsharedFirst)).path
  have lastTurn := advance_turn (firstRegular.after unsharedFirst)
  generalize first.after (between.map .client) = middle at *
  cases turn with
  | registered idle | resumed idle =>
      rw [reading] at idle
      cases idle
  | settled settling =>
      rw [reading] at settling
      cases settling
  | refused error =>
      obtain ⟨more, grown⟩ := lastTurn.results
      have both : life.results ++ [.error error] ++ more = life.results ++ [.ok ()] :=
        (congrArg (· ++ more) sameResults).symm.trans (grown.symm.trans initialized)
      simp at both
  | read =>
      have settled := settle_of_results sameAttachment lastTurn
        (initialized.trans (congrArg (· ++ [.ok ()]) sameResults.symm))
      exact ⟨middle.unit, path, settled⟩

/-- The writes up to the last version that was given out are those of the log. -/
theorem mem_history_of_le {store after : Store} (changes : Store.Changes store after)
    {event : Notification} (member : event ∈ after.history) {version : Nat}
    (told : event.version? = some version) (le : version ≤ store.lastVersion) :
    event ∈ store.history := by
  obtain ⟨-, events, grown, newer⟩ := Store.feed_append changes
  rw [Store.history, grown, ← List.cons_append] at member
  rcases List.mem_append.mp member with old | new
  · exact old
  · have beyond := newer event new version told
    omega

theorem mem_history_of_backlog {event : Notification} (member : event ∈ life.backlog) :
    event ∈ life.store.history := by
  unfold backlog at member
  split at member
  · cases member
  · exact List.mem_cons_of_mem _ (List.mem_of_mem_drop member)

/-- A unit that has taken over bytes ignores whatever was written before they were read. -/
theorem backlogIgnored_of_bytes (reachable : life.Reachable) (reading : life.attachment = .reading)
    {between : List ClientAction} (unshared : Unshared life.unit.listener (between.map .client))
    (initialized : (life.attached between).results = life.results ++ [.ok ()])
    (someBytes : life.store.contents? life.unit.path ≠ none) :
    (life.attached between).BacklogIgnored life.store.lastVersion := by
  obtain ⟨held, found⟩ := Option.ne_none_iff_exists'.mp someBytes
  obtain ⟨middle, path, ok, after⟩ :=
    attached_of_initialized reachable.regular reading unshared initialized
  rw [found] at ok after
  have changes : Store.Changes life.store (life.attached between).store := by
    rw [attached_eq_after]
    exact changes_after reachable.regular (unshared_attached unshared)
  obtain ⟨-, newest⟩ := reachable.sound.logged.exists_of_contents? found
  intro _ event member onPath version told le
  have logged := mem_history_of_le changes (mem_history_of_backlog member) told le
  have samePath : event.path = life.unit.path := by
    rw [onPath, after, (middle.observed_sameBinding _).path, path]
  have older := newest event logged ⟨samePath, by simp [told]⟩ version told
  obtain ⟨current, atVersion, ge⟩ :=
    Snapshot.exists_version_of_not_older (ConfigUnit.observed_not_older_of_ok ok)
  refine ConfigUnit.ignores_of_not_older told ?_
  rw [after]
  exact Snapshot.not_older_of_le atVersion (Nat.le_trans older ge)

/-- When an attachment has succeeded that read its node when `last` was the last version given out, no
write up to `last` changes the snapshot afterwards, provided that the node was there. In all cases this
holds exactly if the unit ignores what the feed still keeps for it of these writes. -/
theorem unmoved_iff_backlogIgnored (reachable : life.Reachable)
    (reading : life.attachment = .reading) {between : List ClientAction}
    (unshared : Unshared life.unit.listener (between.map .client))
    (initialized : (life.attached between).results = life.results ++ [.ok ()]) :
    (life.store.contents? life.unit.path ≠ none →
        (life.attached between).Unmoved life.store.lastVersion) ∧
      ((life.attached between).Unmoved life.store.lastVersion ↔
        (life.attached between).BacklogIgnored life.store.lastVersion) := by
  have run := unshared_attached unshared
  have regular : (life.attached between).Regular := by
    rw [attached_eq_after]
    exact reachable.regular.after run
  have sound : (life.attached between).Sound := by
    rw [attached_eq_after]
    exact reachable.sound.after reachable.regular run
  have changes : Store.Changes life.store (life.attached between).store := by
    rw [attached_eq_after]
    exact changes_after reachable.regular run
  have given := (Store.feed_append changes).1
  have watching : (life.attached between).unit.watch ≠ none := by
    intro unwatched
    obtain ⟨-, -, noResult⟩ := sound.unwatched unwatched
    exact noResult (by simp [initialized])
  have unmoved (ignored : (life.attached between).BacklogIgnored life.store.lastVersion) :
      (life.attached between).Unmoved life.store.lastVersion :=
    Settled.unmoved ⟨given, watching, ignored⟩ regular sound
  refine ⟨fun someBytes => ?_, fun still => still.backlogIgnored regular sound.logged, unmoved⟩
  exact unmoved (backlogIgnored_of_bytes reachable reading unshared initialized someBytes)

/-- The client is started, and the node is created and rewritten before the unit registers its watch. -/
def limitsWritten : List UnitAction :=
  [.client .beginStart, .client (.advanceStart 0), .client (.advanceStart 0),
    .client (.create "/limits" [0x61, 0x3d, 0x31]),
    .client (.store (.write "/limits" [0x61, 0x3d, 0x32])), .attach]

/-- The reading of the rewritten node is not overturned by the write that it missed. -/
theorem limits_unmoved :
    (limits.after limitsWritten).Reachable ∧
      (limits.after limitsWritten).attachment = .reading ∧
      ((limits.after limitsWritten).attached [.dispatch]).results =
        (limits.after limitsWritten).results ++ [.ok ()] ∧
      ((limits.after limitsWritten).attached [.dispatch]).Unmoved 2 := by
  have new : limits.New := ⟨_, _, _, _, _, _, _, _, _, rfl⟩
  have reachable : (limits.after limitsWritten).Reachable :=
    ⟨limits, limitsWritten, new, fun path => by simp [limitsWritten], rfl⟩
  have reading : (limits.after limitsWritten).attachment = .reading := rfl
  have initialized : ((limits.after limitsWritten).attached [.dispatch]).results =
      (limits.after limitsWritten).results ++ [.ok ()] := rfl
  have unshared : Unshared (limits.after limitsWritten).unit.listener
      ([ClientAction.dispatch].map .client) := fun path => by simp
  have found : (limits.after limitsWritten).store.contents?
      (limits.after limitsWritten).unit.path = some ⟨[0x61, 0x3d, 0x32], 2⟩ := rfl
  have both := unmoved_iff_backlogIgnored reachable reading unshared initialized
  exact ⟨reachable, reading, initialized, both.1 (by rw [found]; exact Option.some_ne_none _)⟩

/-- The client is started, and the node is created and deleted before the unit registers its watch. -/
def limitsDeleted : List UnitAction :=
  [.client .beginStart, .client (.advanceStart 0), .client (.advanceStart 0),
    .client (.create "/limits" [0x61, 0x3d, 0x31]), .client (.store (.delete "/limits")), .attach]

/-- The reading that finds no node is overturned by the creation, which the unit is still to be told
of. -/
theorem backlog_overturns_absence :
    (limits.after limitsDeleted).Reachable ∧
      (limits.after limitsDeleted).attachment = .reading ∧
      (limits.after limitsDeleted).store.contents? "/limits" = none ∧
      ((limits.after limitsDeleted).attached []).results =
        (limits.after limitsDeleted).results ++ [.ok ()] ∧
      (limits.after limitsDeleted).store.lastVersion = 2 ∧
      ¬ ((limits.after limitsDeleted).attached []).Unmoved 2 := by
  have new : limits.New := ⟨_, _, _, _, _, _, _, _, _, rfl⟩
  refine ⟨⟨limits, limitsDeleted, new, fun path => by simp [limitsDeleted], rfl⟩, rfl, rfl, rfl, rfl,
    fun unmoved => ?_⟩
  have same := unmoved [] (fun path member => nomatch member) 0
    (.dataChanged "/limits" [0x61, 0x3d, 0x31] 1) 1 rfl rfl rfl (by omega)
  have unread : ((limits.after limitsDeleted).attached []).unit.snapshot.version = none := rfl
  have told : (((limits.after limitsDeleted).attached []).step
      (.client .dispatch)).unit.snapshot.version = some 1 := rfl
  have versions := congrArg Snapshot.version same
  exact absurd (told.symm.trans (versions.trans unread)) (by simp)

end UnitLife

end LiveConfig
