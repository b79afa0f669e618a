import LiveConfig.Proofs.Client.Receipts

/-!
Contract: what the report of a lag tells the watches of a client.

The report goes through the table and sends one failure to the path of each watch, and a failure reaches
all watches of its path. So a watch is told as often as there are watches of its path, those included
whose listener is gone. Owns: the number of reports that each watch is told, and that it is one exactly
for a watch that is alone on its path. Does not own: how far a client falls behind.
-/

namespace LiveConfig

namespace Client

variable {client : Client} {isAlive : Listener → Bool}

/-- The failure that tells the watches of a path how many events were lost. -/
def lossReport (path : String) (missed : Nat) : Notification :=
  .failed path ("missed " ++ toString missed ++ " change notifications")

/-- How many watches of the table are on a path, whether their listeners are there or not. -/
def watchesOn (client : Client) (path : String) : Nat :=
  client.watches.countP fun watch => watch.path = path

theorem lagEvents_on (client : Client) (missed : Nat) (path : String) :
    (client.lagEvents missed).filter (fun event => event.path = path) =
      List.replicate (client.watchesOn path) (lossReport path missed) := by
  have reports : (client.lagEvents missed).filter (fun event => event.path = path) =
      (client.watches.filter fun watch => watch.path = path).map fun watch =>
        lossReport watch.path missed := List.filter_map
  rw [reports, watchesOn, List.countP_eq_length_filter]
  refine List.eq_replicate_of_mem ?_ |>.trans (by rw [List.length_map])
  intro report member
  obtain ⟨watch, onPath, rfl⟩ := List.mem_map.mp member
  have same : watch.path = path := by simpa using (List.mem_filter.mp onPath).2
  rw [same]

theorem Numbered.watchesOn_eq_one_iff (numbered : client.Numbered) {watch : Watch}
    (member : watch ∈ client.watches) :
    client.watchesOn watch.path = 1 ↔
      ∀ other ∈ client.watches, other.path = watch.path → other = watch := by
  rw [watchesOn, List.countP_eq_length_filter]
  constructor
  · intro single other otherMember samePath
    obtain ⟨only, isOnly⟩ := List.length_eq_one_iff.mp single
    have own : watch ∈ [only] := isOnly ▸ List.mem_filter.mpr ⟨member, by simp⟩
    have also : other ∈ [only] :=
      isOnly ▸ List.mem_filter.mpr ⟨otherMember, by simpa using samePath⟩
    rw [List.mem_singleton.mp own, List.mem_singleton.mp also]
  · intro alone
    have onlyOwn : (client.watches.filter fun other => other.path = watch.path) =
        client.watches.filter fun other => other = watch := by
      refine List.filter_congr fun other otherMember => ?_
      rw [decide_eq_decide]
      exact ⟨alone other otherMember, fun same => same ▸ rfl⟩
    rw [onlyOwn, List.filter_eq, numbered.nodup.count, if_pos member]
    rfl

end Client

namespace ClientRun

open Client

variable {run : ClientRun} {position : Nat}

/-- A turn of the dispatcher that finds events lost tells a watch of it as often as there are watches
on its path, and a watch that is not registered nothing. -/
theorem toldTo_lag (numbered : run.client.Numbered) (follows : run.client.position = some position)
    (behind : position + Store.feedCapacity < run.store.feed.size) (watch : Watch) :
    run.toldTo [.dispatch] watch =
      if run.Registered watch then
        List.replicate (run.client.watchesOn watch.path)
          (lossReport watch.path (run.store.feed.size - Store.feedCapacity - position))
      else [] := by
  rw [toldTo_turn numbered, dispatches_lagged follows behind, lagEvents_on]

/-- The report of a lag reaches every registered watch, and nothing else reaches it in this turn. It
reaches it once exactly if no other watch of the table, with a listener or without, is on its path. -/
theorem lag_told_once_iff_alone (run : ClientRun) (position : Nat)
    (numbered : run.client.Numbered) (follows : run.client.position = some position)
    (behind : position + Store.feedCapacity < run.store.feed.size) :
    let missed := run.store.feed.size - Store.feedCapacity - position
    (run.step .dispatch).delivered =
        run.delivered ++ (run.receipts [.dispatch]).map Receipt.delivery ∧
      ∀ watch,
        (run.toldTo [.dispatch] watch =
          if run.Registered watch then
            List.replicate (run.client.watchesOn watch.path) (lossReport watch.path missed)
          else []) ∧
        (run.Registered watch →
          (run.toldTo [.dispatch] watch = [lossReport watch.path missed] ↔
            ∀ other ∈ run.client.watches, other.path = watch.path → other = watch)) := by
  intro missed
  refine ⟨run.after_delivered [.dispatch], fun watch => ?_⟩
  refine ⟨toldTo_lag numbered follows behind watch, fun registered => ?_⟩
  have told := toldTo_lag numbered follows behind watch
  rw [if_pos registered] at told
  rw [told, ← numbered.watchesOn_eq_one_iff registered.1]
  constructor
  · intro once
    have lengths := congrArg List.length once
    rwa [List.length_replicate] at lengths
  · intro single
    rw [single]
    rfl

/-! ### Watches that share a path -/

/-- A started client with two watches on one path, of which one has lost its listener, and a third
watch elsewhere. -/
def sharing : List ClientAction :=
  [.beginStart, .advanceStart 0, .advanceStart 0, .watch "/a" (.recorder 0),
    .watch "/a" (.recorder 1), .watch "/b" (.recorder 2), .lose (.recorder 1)]

/-- One event more than the feed keeps. -/
def flood : List ClientAction :=
  List.replicate (Store.feedCapacity + 1) (.store (.reportFailure "/c" "lost"))

theorem after_replicate_store (run : ClientRun) (command : StoreCommand) (count : Nat) :
    run.after (List.replicate count (.store command)) =
      { run with store := run.store.run (List.replicate count command) } := by
  induction count generalizing run with
  | zero => rfl
  | succ count inductionHypothesis => exact inductionHypothesis _

theorem size_feed_reports (store : Store) (path message : String) (count : Nat) :
    (store.run (List.replicate count (.reportFailure path message))).feed.size =
      store.feed.size + count := by
  induction count generalizing store with
  | zero => rfl
  | succ count inductionHypothesis =>
      have others := inductionHypothesis (store.reportFailure path message)
      have published : (store.reportFailure path message).feed.size = store.feed.size + 1 :=
        Array.size_push _
      rw [published] at others
      exact others.trans (by omega)

/-- The client of `sharing` behind this flood. -/
def flooded : ClientRun :=
  (ofClient (.fresh "localhost" "main" .default) .empty).after (sharing ++ flood)

theorem flooded_eq :
    flooded = { (ofClient (.fresh "localhost" "main" .default) .empty).after sharing with
      store := Store.empty.run
        (List.replicate (Store.feedCapacity + 1) (.reportFailure "/c" "lost")) } := by
  rw [flooded, after_append, flood, after_replicate_store]
  rfl

theorem flooded_numbered : flooded.client.Numbered :=
  after_numbered (.fresh "localhost" "main" .default) _

theorem flooded_position : flooded.client.position = some 0 := by
  rw [flooded_eq]
  rfl

theorem flooded_feed : flooded.store.feed.size = Store.feedCapacity + 1 := by
  rw [flooded_eq]
  exact (size_feed_reports _ _ _ _).trans (Nat.zero_add _)

theorem flooded_registered :
    flooded.Registered ⟨1, "/a", .recorder 0⟩ ∧ flooded.Registered ⟨3, "/b", .recorder 2⟩ := by
  rw [flooded_eq]
  decide

/-- One event is lost, and the watch that shares its path with a lost listener is told so twice. -/
theorem lag_told_twice_on_shared_path :
    flooded.Registered ⟨1, "/a", .recorder 0⟩ ∧
      flooded.toldTo [.dispatch] ⟨1, "/a", .recorder 0⟩ =
        [.failed "/a" "missed 1 change notifications",
          .failed "/a" "missed 1 change notifications"] := by
  have behind : 0 + Store.feedCapacity < flooded.store.feed.size := by
    rw [flooded_feed]
    decide
  have told := toldTo_lag flooded_numbered flooded_position behind ⟨1, "/a", .recorder 0⟩
  rw [if_pos flooded_registered.1, flooded_feed] at told
  refine ⟨flooded_registered.1, told.trans ?_⟩
  rw [flooded_eq]
  rfl

theorem flooded_told_once_iff :
    let shared : Watch := ⟨1, "/a", .recorder 0⟩
    let alone : Watch := ⟨3, "/b", .recorder 2⟩
    flooded.toldTo [.dispatch] shared ≠ [lossReport "/a" 1] ∧
      flooded.toldTo [.dispatch] alone = [lossReport "/b" 1] := by
  intro shared alone
  have behind : 0 + Store.feedCapacity < flooded.store.feed.size := by
    rw [flooded_feed]
    decide
  obtain ⟨-, told⟩ := lag_told_once_iff_alone flooded 0 flooded_numbered flooded_position behind
  have missed : flooded.store.feed.size - Store.feedCapacity - 0 = 1 := by
    rw [flooded_feed]
    rfl
  rw [missed] at told
  constructor
  · intro once
    have only := ((told shared).2 flooded_registered.1).mp once
    have other : (⟨2, "/a", .recorder 1⟩ : Watch) ∈ flooded.client.watches := by
      rw [flooded_eq]
      decide
    exact absurd (only _ other rfl) (by decide)
  · refine ((told alone).2 flooded_registered.2).mpr ?_
    rw [flooded_eq]
    decide

end ClientRun

end LiveConfig
