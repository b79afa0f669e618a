import LiveConfig.Client.Run

/-!
Contract: what one step of a dispatcher delivers.

A step takes the next event of the feed, or reports how many were lost. Owns: the two kinds of step with
everything they leave, and what of it reaches one listener. Does not own: what listeners do with it.
-/

namespace LiveConfig

namespace Client

variable (client : Client) (isAlive : Listener → Bool)

/-- The watches of one listener. -/
def watchesOf (listener : Listener) : List Watch :=
  client.watches.filter (·.listener = listener)

/-! ### Several events in turn -/

theorem dispatch_deliveries (event next : Notification) :
    (client.dispatch isAlive next).2.deliveries isAlive event = client.deliveries isAlive event := by
  simp [dispatch, deliveries, liveWatches]

theorem dispatchEach_fst (events : List Notification) :
    (client.dispatchEach isAlive events).1 = events.flatMap (client.deliveries isAlive) := by
  induction events generalizing client with
  | nil => rfl
  | cons event rest inductionHypothesis =>
      have others : rest.flatMap ((client.dispatch isAlive event).2.deliveries isAlive) =
          rest.flatMap (client.deliveries isAlive) := by
        congr 1
        funext next
        exact client.dispatch_deliveries isAlive next event
      simp only [dispatchEach, List.flatMap_cons, inductionHypothesis, others]
      rfl

theorem dispatchEach_snd (events : List Notification) (someEvent : events ≠ []) :
    (client.dispatchEach isAlive events).2 =
      { client with watches := client.liveWatches isAlive } := by
  induction events generalizing client with
  | nil => exact absurd rfl someEvent
  | cons event rest inductionHypothesis =>
      cases rest with
      | nil => rfl
      | cons next rest =>
          have last := inductionHypothesis (client.dispatch isAlive event).2 (by simp)
          simp only [dispatchEach] at last ⊢
          rw [last]
          simp [dispatch, liveWatches]

/-- After the report of a lag the table holds the watches whose listener is there. -/
theorem dispatchEach_lagEvents_snd (missed : Nat) :
    (client.dispatchEach isAlive (client.lagEvents missed)).2 =
      { client with watches := client.liveWatches isAlive } := by
  by_cases noWatch : client.watches = []
  · have noEvent : client.lagEvents missed = [] := by simp [lagEvents, noWatch]
    have sameTable : client.liveWatches isAlive = client.watches := by simp [liveWatches, noWatch]
    rw [noEvent, sameTable]
    rfl
  · exact client.dispatchEach_snd isAlive _ (by simpa [lagEvents] using noWatch)

/-! ### One step -/

/-- What a step of the dispatcher delivers and leaves. -/
inductive Dispatched (feed : Array Notification) : List Delivery → Client → Prop where
  | told {position : Nat} {event : Notification} (follows : client.position = some position)
      (found : feed[position]? = some event)
      (kept : feed.size ≤ position + Store.feedCapacity) :
      Dispatched feed (client.deliveries isAlive event)
        { client with position := some (position + 1), watches := client.liveWatches isAlive }
  | lagged {position : Nat} (follows : client.position = some position)
      (behind : position + Store.feedCapacity < feed.size) :
      Dispatched feed
        ((client.lagEvents (feed.size - Store.feedCapacity - position)).flatMap
          (client.deliveries isAlive))
        { client with
          position := some (feed.size - Store.feedCapacity)
          watches := client.liveWatches isAlive }

variable {client isAlive}

theorem dispatched_of_dispatchNext? {feed : Array Notification} {deliveries : List Delivery}
    {after : Client} (next : client.dispatchNext? isAlive feed = some (deliveries, after)) :
    client.Dispatched isAlive feed deliveries after := by
  unfold dispatchNext? at next
  split at next
  · cases next
  · rename_i position follows
    by_cases behind : position + Store.feedCapacity < feed.size
    · simp only [readFeed, behind, if_true] at next
      have events := ({ client with position := some (feed.size - Store.feedCapacity) } :
        Client).dispatchEach_fst isAlive
          (client.lagEvents (feed.size - Store.feedCapacity - position))
      have table := ({ client with position := some (feed.size - Store.feedCapacity) } :
        Client).dispatchEach_lagEvents_snd isAlive
          (feed.size - Store.feedCapacity - position)
      obtain ⟨rfl, rfl⟩ := Prod.mk.inj (Option.some.inj next)
      rw [events]
      exact table ▸ .lagged follows behind
    · simp only [readFeed, behind, if_false] at next
      cases found : feed[position]? with
      | none =>
          rw [found] at next
          cases next
      | some event =>
          rw [found] at next
          obtain ⟨rfl, rfl⟩ := Prod.mk.inj (Option.some.inj next)
          exact .told follows found (Nat.le_of_not_lt behind)

/-- A dispatcher has nothing to do exactly if there is none or it is at the end of the feed. -/
theorem dispatchNext?_eq_none_iff {feed : Array Notification} :
    client.dispatchNext? isAlive feed = none ↔
      ∀ position, client.position = some position → feed.size ≤ position := by
  unfold dispatchNext?
  split
  · rename_i notFollowing
    simp [notFollowing]
  · rename_i position follows
    by_cases behind : position + Store.feedCapacity < feed.size
    · simp only [readFeed, behind, if_true, follows, Option.some.injEq, reduceCtorEq, false_iff]
      intro atEnd
      have := atEnd position rfl
      omega
    · simp only [readFeed, behind, if_false]
      cases found : feed[position]? with
      | none => simpa [follows] using found
      | some event =>
          obtain ⟨below, -⟩ := Array.getElem?_eq_some_iff.mp found
          simp [follows, below]

/-! ### What reaches one listener -/

/-- The events among deliveries that are for a listener. -/
def eventsFor (listener : Listener) (deliveries : List Delivery) : List Notification :=
  (deliveries.filter (·.listener = listener)).map (·.event)

/-- An event reaches a listener once for each of its watches on the path. -/
theorem eventsFor_deliveries (listener : Listener) (event : Notification) :
    eventsFor listener (client.deliveries isAlive event) =
      if isAlive listener then
        ((client.watchesOf listener).filter (·.path = event.path)).map fun _ => event
      else [] := by
  unfold eventsFor deliveries liveWatches watchesOf
  induction client.watches with
  | nil => simp
  | cons watch rest inductionHypothesis =>
      by_cases own : watch.listener = listener
      · subst own
        by_cases alive : isAlive watch.listener
        · by_cases onPath : watch.path = event.path <;>
            simpa [alive, onPath] using inductionHypothesis
        · simpa [alive] using inductionHypothesis
      · by_cases alive : isAlive watch.listener
        · by_cases onPath : watch.path = event.path <;>
            simpa [alive, onPath, own] using inductionHypothesis
        · simpa [alive, own] using inductionHypothesis

/-- Whatever the report of a lag tells a listener is a failure on a path that the listener watches. -/
theorem failed_of_mem_lagEvents {listener : Listener} {missed : Nat} {event : Notification}
    (reached : event ∈ eventsFor listener
      ((client.lagEvents missed).flatMap (client.deliveries isAlive))) :
    ∃ path message, event = .failed path message := by
  simp only [eventsFor, lagEvents, deliveries, List.mem_map, List.mem_filter, List.mem_flatMap]
    at reached
  obtain ⟨delivery, ⟨⟨lag, ⟨watch, -, rfl⟩, other, -, rfl⟩, -⟩, rfl⟩ := reached
  exact ⟨_, _, rfl⟩

/-- The report of a lag reaches every listener that is there and watches something. -/
theorem lagEvents_reach {listener : Listener} (missed : Nat) {watch : Watch}
    (alive : isAlive listener = true) (own : watch ∈ client.watchesOf listener) :
    eventsFor listener ((client.lagEvents missed).flatMap (client.deliveries isAlive)) ≠ [] := by
  obtain ⟨inTable, isOwn⟩ := List.mem_filter.mp own
  have ownListener : watch.listener = listener := by simpa using isOwn
  have reached : Notification.failed watch.path
      ("missed " ++ toString missed ++ " change notifications") ∈
      eventsFor listener ((client.lagEvents missed).flatMap (client.deliveries isAlive)) := by
    simp only [eventsFor, List.mem_map, List.mem_filter, List.mem_flatMap]
    refine ⟨⟨listener, _⟩, ⟨⟨_, List.mem_map.mpr ⟨watch, inTable, rfl⟩, ?_⟩, by simp⟩, rfl⟩
    simp only [deliveries, liveWatches, List.mem_map, List.mem_filter]
    exact ⟨watch, by simp [inTable, ownListener, alive, Notification.path], by rw [ownListener]⟩
  exact List.ne_nil_of_mem reached

end Client

end LiveConfig
