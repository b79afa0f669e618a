import LiveConfig.Proofs.Store.Change
import Mathlib.Data.List.Induction

/-!
Contract: the feed of a store as the log of its nodes.

The history of a store is its feed behind the fresh root. Its versions rise, none is beyond the last
one that was given out, and replaying it gives what is read at every path. Owns: this invariant and what
it says about the last write to a path. Does not own: who reads the feed.
-/

namespace LiveConfig

namespace Notification

/-- Whether an event tells of a write to a path. -/
def Writes (event : Notification) (path : String) : Prop :=
  event.path = path ∧ event.version?.isSome

instance (event : Notification) (path : String) : Decidable (event.Writes path) := by
  unfold Writes
  infer_instance

/-- What the write that an event tells of left at its path. -/
def contents? : Notification → Option NodeContents
  | .dataChanged _ data version => some ⟨data, version⟩
  | .deleted _ _ | .failed _ _ => none

theorem Writes.version {event : Notification} {path : String} (writes : event.Writes path) :
    ∃ version, event.version? = some version :=
  Option.isSome_iff_exists.mp writes.2

theorem eq_dataChanged_of_writes {event : Notification} {path : String} {contents : NodeContents}
    (writes : event.Writes path) (left : event.contents? = some contents) :
    event = .dataChanged path contents.bytes contents.version := by
  cases event with
  | dataChanged other data version =>
      obtain ⟨rfl, -⟩ := writes
      cases left
      rfl
  | deleted | failed => cases left

end Notification

namespace Store

/-! ### Replaying a log -/

/-- What is at a path after events in turn, if nothing was there before. -/
def replay (events : List Notification) (path : String) : Option NodeContents :=
  events.foldl (fun contents event => if event.Writes path then event.contents? else contents) none

theorem replay_push (events : List Notification) (event : Notification) (path : String) :
    replay (events ++ [event]) path =
      if event.Writes path then event.contents? else replay events path := by
  simp [replay]

/-- Events that write elsewhere change nothing at a path. -/
theorem replay_append_silent {path : String} (events : List Notification) {later : List Notification}
    (silent : ∀ event ∈ later, ¬ event.Writes path) :
    replay (events ++ later) path = replay events path := by
  induction later using List.reverseRecOn with
  | nil => simp
  | append_singleton later event inductionHypothesis =>
      rw [← List.append_assoc, replay_push, if_neg (silent event (by simp))]
      exact inductionHypothesis fun other member => silent other (by simp [member])

/-- The last write to a path decides what is there. -/
theorem replay_last {path : String} {event : Notification} (events : List Notification)
    {later : List Notification} (writes : event.Writes path)
    (silent : ∀ other ∈ later, ¬ other.Writes path) :
    replay (events ++ event :: later) path = event.contents? := by
  have split : events ++ event :: later = (events ++ [event]) ++ later := by simp
  rw [split, replay_append_silent _ silent, replay_push, if_pos writes]

/-- What is at a path was put there by the last write to it. -/
theorem exists_last_of_replay {path : String} {events : List Notification} {contents : NodeContents}
    (found : replay events path = some contents) :
    ∃ before later, events = before ++ .dataChanged path contents.bytes contents.version :: later ∧
      ∀ event ∈ later, ¬ event.Writes path := by
  induction events using List.reverseRecOn with
  | nil => cases found
  | append_singleton events event inductionHypothesis =>
      rw [replay_push] at found
      by_cases writes : event.Writes path
      · rw [if_pos writes] at found
        exact ⟨events, [], by rw [Notification.eq_dataChanged_of_writes writes found], by simp⟩
      · rw [if_neg writes] at found
        obtain ⟨before, later, rfl, silent⟩ := inductionHypothesis found
        refine ⟨before, later ++ [event], by simp, fun other member => ?_⟩
        rcases List.mem_append.mp member with old | new
        · exact silent other old
        · rw [List.mem_singleton.mp new]
          exact writes

/-! ### The history of a store -/

/-- The fresh root, then everything that was published. -/
def history (store : Store) : List Notification :=
  .dataChanged Path.root [] 0 :: store.feed.toList

/-- Of two writes, the earlier one has the smaller version. -/
def Precedes (earlier later : Notification) : Prop :=
  ∀ first, earlier.version? = some first → ∀ second, later.version? = some second → first < second

/-- The history of a store tells its nodes. -/
structure Logged (store : Store) : Prop where
  ordered : store.history.Pairwise Precedes
  bounded : ∀ event ∈ store.history, ∀ version, event.version? = some version →
    version ≤ store.lastVersion
  replayed : ∀ path, store.contents? path = replay store.history path

/-- What a change does to the log and to the contents: it publishes nothing and leaves the contents, or
it publishes one event, and the contents change as this event says. -/
theorem Change.published {store after : Store} (change : Change store after) :
    (after.feed = store.feed ∧ after.lastVersion = store.lastVersion ∧
      ∀ path, after.contents? path = store.contents? path) ∨
    ∃ event, after.feed = store.feed.push event ∧
      after.lastVersion = event.version?.getD store.lastVersion ∧
      (∀ version, event.version? = some version → version = store.nextVersion) ∧
      ∀ path, after.contents? path =
        if event.Writes path then event.contents? else store.contents? path := by
  cases change with
  | configured => exact .inl ⟨rfl, rfl, fun _ => rfl⟩
  | @created path parent parentNode data valid hasParent missing parentPresent =>
      refine .inr ⟨.dataChanged path data store.nextVersion, rfl, rfl, by simp [Notification.version?],
        fun other => ?_⟩
      rw [contents?_addNode store data parentPresent]
      simp [Notification.Writes, Notification.path, Notification.version?, Notification.contents?,
        eq_comm]
  | @written path node data valid present =>
      refine .inr ⟨.dataChanged path data store.nextVersion, rfl, rfl, by simp [Notification.version?],
        fun other => ?_⟩
      refine (store.contents?_insert { node with data := data, version := store.nextVersion }
        other).trans ?_
      simp [Notification.Writes, Notification.path, Notification.version?, Notification.contents?,
        eq_comm]
  | @deleted path node valid notRoot present leaf =>
      refine .inr ⟨.deleted path store.nextVersion, rfl, rfl, by simp [Notification.version?],
        fun other => ?_⟩
      refine (store.contents?_unlink path other).trans ?_
      simp [Notification.Writes, Notification.path, Notification.version?, Notification.contents?,
        eq_comm]
  | reported path message =>
      refine .inr ⟨.failed path message, rfl, rfl, by simp [Notification.version?], fun other => ?_⟩
      rw [if_neg (by simp [Notification.Writes, Notification.version?])]
      rfl

/-- The feed only grows, and whatever it grows by is newer than all that was given out before. -/
theorem feed_append {store after : Store} (changes : Changes store after) :
    store.lastVersion ≤ after.lastVersion ∧
      ∃ events, after.feed.toList = store.feed.toList ++ events ∧
        ∀ event ∈ events, ∀ version, event.version? = some version →
          store.lastVersion < version := by
  induction changes with
  | refl => exact ⟨Nat.le_refl _, [], by simp, by simp⟩
  | @tail middle final _ last inductionHypothesis =>
      obtain ⟨le, events, grown, newer⟩ := inductionHypothesis
      rcases last.published with ⟨sameFeed, sameVersion, -⟩ | ⟨event, pushed, version, next, -⟩
      · exact ⟨sameVersion ▸ le, events, by rw [sameFeed, grown], newer⟩
      · refine ⟨?_, events ++ [event], by simp [pushed, grown], fun other member given told => ?_⟩
        · rw [version]
          cases told : event.version? with
          | none => exact le
          | some given =>
              have := next given told
              simp only [nextVersion] at this
              simp only [Option.getD_some]
              omega
        · rcases List.mem_append.mp member with old | new
          · exact newer other old given told
          · rw [List.mem_singleton.mp new] at told
            have := next given told
            simp only [nextVersion] at this
            omega

theorem feed_size_le {store after : Store} (changes : Changes store after) :
    store.feed.size ≤ after.feed.size := by
  obtain ⟨-, events, grown, -⟩ := feed_append changes
  have lengths := congrArg List.length grown
  simp at lengths
  omega

namespace Logged

theorem empty : Logged Store.empty where
  ordered := by simp [history, Store.empty]
  bounded := by
    intro event member version told
    simp only [history, Store.empty, List.mem_singleton] at member
    subst member
    cases told
    exact Nat.le_refl _
  replayed := by
    intro path
    by_cases isRoot : Path.root = path
    · subst isRoot
      rfl
    · simp [contents?, node?, Store.empty, Entries.find?, history, replay, Notification.Writes,
        Notification.path, isRoot]

theorem change {store after : Store} (logged : Logged store) (change : Change store after) :
    Logged after := by
  rcases change.published with ⟨sameFeed, sameVersion, sameContents⟩ |
      ⟨event, pushed, version, next, contents⟩
  · have sameHistory : after.history = store.history := by rw [history, history, sameFeed]
    refine ⟨sameHistory ▸ logged.ordered, ?_, fun path => ?_⟩
    · rw [sameHistory, sameVersion]
      exact logged.bounded
    · rw [sameContents, sameHistory]
      exact logged.replayed path
  · have longer : after.history = store.history ++ [event] := by simp [history, pushed]
    have grown : store.lastVersion ≤ after.lastVersion := by
      rw [version]
      cases told : event.version? with
      | none => exact Nat.le_refl _
      | some given =>
          rw [next given told]
          exact Nat.le_succ _
    refine ⟨?_, ?_, fun path => ?_⟩
    · rw [longer, List.pairwise_append]
      refine ⟨logged.ordered, List.pairwise_singleton _ _, ?_⟩
      intro earlier member later isEvent first firstTold second secondTold
      rw [List.mem_singleton.mp isEvent] at secondTold
      rw [next second secondTold]
      exact Nat.lt_succ_of_le (logged.bounded earlier member first firstTold)
    · intro other member given told
      rw [longer] at member
      rcases List.mem_append.mp member with old | new
      · exact Nat.le_trans (logged.bounded other old given told) grown
      · rw [List.mem_singleton.mp new] at told
        simp [version, told]
    · rw [contents, longer, replay_push, logged.replayed]

theorem changes {store after : Store} (logged : Logged store) (changes : Changes store after) :
    Logged after := by
  induction changes with
  | refl => exact logged
  | tail _ last inductionHypothesis => exact inductionHypothesis.change last

/-- No two events of the history tell of one version. -/
theorem eq_of_version {store : Store} (logged : Logged store) {event other : Notification}
    (member : event ∈ store.history) (otherMember : other ∈ store.history) {version : Nat}
    (told : event.version? = some version) (otherTold : other.version? = some version) :
    event = other := by
  obtain ⟨i, below, atI⟩ := List.mem_iff_getElem.mp member
  obtain ⟨j, otherBelow, atJ⟩ := List.mem_iff_getElem.mp otherMember
  have inOrder := List.pairwise_iff_getElem.mp logged.ordered
  rcases Nat.lt_trichotomy i j with before | same | behind
  · have less := inOrder i j below otherBelow before version (atI ▸ told) version (atJ ▸ otherTold)
    exact absurd less (Nat.lt_irrefl version)
  · subst same
    exact atI.symm.trans atJ
  · have less := inOrder j i otherBelow below behind version (atJ ▸ otherTold) version (atI ▸ told)
    exact absurd less (Nat.lt_irrefl version)

end Logged

/-! ### What is undelivered -/

/-- A write to a path stands in the feed at a position or behind it. -/
def Pending (store : Store) (position : Nat) (path : String) : Prop :=
  ∃ event ∈ store.feed.toList.drop position, event.Writes path

theorem history_split {store : Store} {position : Nat} {event : Notification}
    (found : store.feed[position]? = some event) :
    store.history = (.dataChanged Path.root [] 0 :: store.feed.toList.take position) ++
      event :: store.feed.toList.drop (position + 1) := by
  have inList : store.feed.toList[position]? = some event := by simpa using found
  obtain ⟨below, atPosition⟩ := List.getElem?_eq_some_iff.mp inList
  have split := (List.take_append_drop position store.feed.toList).symm
  rw [List.drop_eq_getElem_cons below, atPosition] at split
  rw [history, List.cons_append, ← split]

theorem mem_drop_of_found {store : Store} {position steps : Nat} {event : Notification}
    (found : store.feed[position + steps]? = some event) :
    event ∈ store.feed.toList.drop position := by
  have atSteps : (store.feed.toList.drop position)[steps]? = some event := by
    rw [List.getElem?_drop]
    simpa using found
  exact List.mem_of_getElem? atSteps

theorem found_of_mem_drop {store : Store} {position : Nat} {event : Notification}
    (member : event ∈ store.feed.toList.drop position) :
    ∃ steps, store.feed[position + steps]? = some event := by
  obtain ⟨steps, atSteps⟩ := List.mem_iff_getElem?.mp member
  rw [List.getElem?_drop] at atSteps
  exact ⟨steps, by simpa using atSteps⟩

theorem mem_history_of_found {store : Store} {position : Nat} {event : Notification}
    (found : store.feed[position]? = some event) : event ∈ store.history := by
  rw [history_split found]
  simp

namespace Logged

variable {store : Store} {position : Nat} {event : Notification} {path : String}

/-- The last write to a path left what is there. -/
theorem contents?_eq_of_last (logged : Logged store) (found : store.feed[position]? = some event)
    (writes : event.Writes path) (last : ¬ store.Pending (position + 1) path) :
    store.contents? path = event.contents? := by
  rw [logged.replayed, history_split found]
  exact replay_last _ writes fun other member otherWrites => last ⟨other, member, otherWrites⟩

/-- Writes behind an event in the feed are newer. -/
theorem version_lt_of_behind (logged : Logged store)
    (found : store.feed[position]? = some event) {later : Notification}
    (behind : later ∈ store.feed.toList.drop (position + 1)) {first second : Nat}
    (told : event.version? = some first) (laterTold : later.version? = some second) :
    first < second := by
  have ordered := logged.ordered
  rw [history_split found] at ordered
  have fromEvent := (List.pairwise_append.mp ordered).2.1
  exact (List.pairwise_cons.mp fromEvent).1 later behind first told second laterTold

/-- No write to a path is newer than the last one. -/
theorem version_le_of_last (logged : Logged store) (found : store.feed[position]? = some event)
    (last : ¬ store.Pending (position + 1) path) {version : Nat}
    (told : event.version? = some version) {other : Notification} {otherVersion : Nat}
    (member : other ∈ store.history) (writes : other.Writes path)
    (otherTold : other.version? = some otherVersion) : otherVersion ≤ version := by
  have ordered := logged.ordered
  rw [history_split found] at member ordered
  rcases List.mem_append.mp member with before | fromEvent
  · have less := (List.pairwise_append.mp ordered).2.2 other before event List.mem_cons_self
    exact Nat.le_of_lt (less otherVersion otherTold version told)
  · rcases List.mem_cons.mp fromEvent with same | later
    · rw [same, told] at otherTold
      exact Nat.le_of_eq (Option.some.inj otherTold).symm
    · exact absurd ⟨other, later, writes⟩ last

/-- What is read at a path was put there by the last write to it. -/
theorem exists_of_contents? (logged : Logged store) {contents : NodeContents}
    (held : store.contents? path = some contents) :
    .dataChanged path contents.bytes contents.version ∈ store.history ∧
      ∀ other ∈ store.history, other.Writes path → ∀ version, other.version? = some version →
        version ≤ contents.version := by
  rw [logged.replayed] at held
  obtain ⟨before, later, split, silent⟩ := exists_last_of_replay held
  refine ⟨by rw [split]; simp, fun other member writes version told => ?_⟩
  have ordered := logged.ordered
  rw [split] at member ordered
  rcases List.mem_append.mp member with isBefore | fromEvent
  · have less := (List.pairwise_append.mp ordered).2.2 other isBefore _ List.mem_cons_self
    exact Nat.le_of_lt (less version told _ rfl)
  · rcases List.mem_cons.mp fromEvent with same | isLater
    · rw [same] at told
      exact Nat.le_of_eq (Option.some.inj told).symm
    · exact absurd writes (silent other isLater)

end Logged

end Store

end LiveConfig
