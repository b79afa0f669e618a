import LiveConfig.Proofs.Store.Log
import LiveConfig.Proofs.Store.Outcome

/-!
Contract: the feed of a store as the journal of its operations.

A command goes through single operations, each of which succeeds or fails. An operation that succeeds in
changing a node tells one event, with the version of its write, and an operation that fails tells
nothing. Owns: the journal of what a run of commands told, its equality with the feed, and the replay of
the feed over the fresh tree. Does not own: who reads the feed.
-/

namespace LiveConfig

/-- Whether a command is one operation and not several. -/
def StoreCommand.isSingle : StoreCommand → Bool
  | .createWithAncestors .. | .writeMany .. => false
  | _ => true

namespace Store

variable {store : Store}

/-! ### Single operations -/

/-- The single operations that a command goes through: a creation with ancestors creates what is
missing, from the shallowest node to the deepest, and a row of writes writes its numbers in turn. -/
def operations (store : Store) : StoreCommand → List StoreCommand
  | .createWithAncestors path data =>
      match Path.validate path with
      | .error _ => []
      | .ok () => (store.missingChain path).reverse.map fun missing =>
          .create missing (if missing = path then data else [])
  | .writeMany path template count => (List.range count).map fun number =>
      .write path (Text.Utf8.encode (fillIn (Nat.toDigits 10 number) template.toList))
  | command => [command]

/-- The single operations that commands in turn go through. -/
def operationsOf : Store → List StoreCommand → List StoreCommand
  | _, [] => []
  | store, command :: rest => store.operations command ++ (store.perform command).2.operationsOf rest

theorem operations_single (store : Store) (command : StoreCommand) :
    ∀ operation ∈ store.operations command, operation.isSingle = true := by
  intro operation member
  unfold operations at member
  split at member
  · split at member
    · cases member
    · obtain ⟨missing, -, rfl⟩ := List.mem_map.mp member
      rfl
  · obtain ⟨number, -, rfl⟩ := List.mem_map.mp member
    rfl
  · obtain rfl := List.mem_singleton.mp member
    unfold StoreCommand.isSingle
    split <;> simp_all

theorem operationsOf_single (store : Store) (commands : List StoreCommand) :
    ∀ operation ∈ store.operationsOf commands, operation.isSingle = true := by
  induction commands generalizing store with
  | nil => exact fun _ member => nomatch member
  | cons command rest inductionHypothesis =>
      intro operation member
      rcases List.mem_append.mp member with first | others
      · exact store.operations_single command operation first
      · exact inductionHypothesis _ operation others

theorem run_append (store : Store) (first others : List StoreCommand) :
    store.run (first ++ others) = (store.run first).run others := by
  simp [run, List.foldl_append]

theorem writeEach_snd (store : Store) (path : String) (template : List Char) (numbers : List Nat) :
    (store.writeEach path template numbers).2 = store.run (numbers.map fun number =>
      .write path (Text.Utf8.encode (fillIn (Nat.toDigits 10 number) template))) := by
  induction numbers generalizing store with
  | nil => rfl
  | cons number rest inductionHypothesis =>
      have others := inductionHypothesis (store.write path
        (Text.Utf8.encode (fillIn (Nat.toDigits 10 number) template))).2
      simp only [writeEach]
      split
      · rename_i last
        rw [last] at others
        exact others
      · exact others

theorem createEach_snd {nodes : List (String × Payload)} {after : Store}
    (created : store.createEach nodes = (.ok (), after)) :
    after = store.run (nodes.map fun node => .create node.1 node.2) := by
  induction nodes generalizing store with
  | nil => exact (Prod.mk.inj created).2.symm
  | cons head rest inductionHypothesis =>
      obtain ⟨path, data⟩ := head
      have next : store.run (.create path data :: rest.map fun node => .create node.1 node.2) =
          (store.create path data).2.run (rest.map fun node => .create node.1 node.2) := rfl
      rw [List.map_cons, next]
      simp only [createEach] at created
      split at created
      · rename_i first
        rw [first]
        exact inductionHypothesis created
      · rename_i first
        rw [first]
        exact inductionHypothesis created
      · cases created

/-- A command does what its single operations do in turn. -/
theorem run_operations (rootPresent : store.contains Path.root) (command : StoreCommand) :
    store.run (store.operations command) = (store.perform command).2 := by
  unfold operations
  split
  · rename_i path data
    cases valid : Path.validate path with
    | error error =>
        simp only [perform, createWithAncestors, valid]
        rfl
    | ok answer =>
        obtain ⟨after, created, -⟩ := createEach_missingChain rootPresent
          (fun missing => if missing = path then data else []) path valid
        simp only [perform, createWithAncestors, valid, created]
        rw [createEach_snd created, List.map_map]
        rfl
  · rename_i path template count
    rw [← writeEach_snd]
    simp only [perform]
    split <;> rename_i last <;> rw [last]
  · rfl

theorem run_operationsOf (tree : store.IsTree) (commands : List StoreCommand) :
    store.run (store.operationsOf commands) = store.run commands := by
  induction commands generalizing store with
  | nil => rfl
  | cons command rest inductionHypothesis =>
      rw [operationsOf, run_append, run_operations tree.rootPresent]
      exact inductionHypothesis (tree.changes (store.perform_changes command))

/-! ### The journal -/

/-- What a single operation tells, by its answer: one event if it changes a node or reports a failure,
and nothing if it fails. -/
def told? (store : Store) (operation : StoreCommand) : Option Notification :=
  match operation, (store.perform operation).1 with
  | .create path data, .ok _ => some (.dataChanged path data store.nextVersion)
  | .write path data, .ok (.version version) => some (.dataChanged path data version)
  | .delete path, .ok _ => some (.deleted path store.nextVersion)
  | .reportFailure path message, .ok _ => some (.failed path message)
  | _, _ => none

/-- What single operations in turn tell. -/
def journal : Store → List StoreCommand → List Notification
  | _, [] => []
  | store, operation :: rest =>
      (store.told? operation).toList ++ (store.perform operation).2.journal rest

/-- A single operation publishes what it tells. -/
theorem feed_perform {operation : StoreCommand} (single : operation.isSingle = true) :
    (store.perform operation).2.feed.toList =
      store.feed.toList ++ (store.told? operation).toList := by
  cases operation with
  | createWithAncestors | writeMany => cases single
  | «exists» | read | failNextListing | setAvailable | setCloseFails =>
      simp [perform, told?, failNextListing]
  | reportFailure => simp [perform, told?, reportFailure, publish]
  | create path data =>
      rcases store.create_outcome path data with ⟨error, refused⟩ | ⟨_, _, -, created⟩
      · simp [perform, told?, refused, Except.map]
      · simp [perform, told?, created, Except.map, addNode, publish]
  | write path data =>
      rcases store.write_outcome path with ⟨error, refused⟩ | ⟨node, valid, there⟩
      · simp [perform, told?, refused, Except.map]
      · simp [perform, told?, write_eq valid there, Except.map, publish]
  | delete path =>
      rcases store.delete_outcome path with ⟨error, refused⟩ | ⟨-, deleted⟩
      · simp [perform, told?, refused, Except.map]
      · simp [perform, told?, deleted, Except.map, publish]
  | list path =>
      have sameFeed : (store.list path).2.feed = store.feed := by rw [store.list_snd path]
      simp [perform, told?, sameFeed]

theorem feed_run {operations : List StoreCommand}
    (single : ∀ operation ∈ operations, operation.isSingle = true) :
    (store.run operations).feed.toList = store.feed.toList ++ store.journal operations := by
  induction operations generalizing store with
  | nil => simp [run, journal]
  | cons operation rest inductionHypothesis =>
      calc (store.run (operation :: rest)).feed.toList
          = (store.perform operation).2.feed.toList ++ (store.perform operation).2.journal rest :=
            inductionHypothesis fun other member => single other (List.mem_cons_of_mem _ member)
        _ = store.feed.toList ++ store.journal (operation :: rest) := by
            rw [feed_perform (single operation List.mem_cons_self), List.append_assoc, journal]

/-- The feed grows by the journal of the operations that commands go through. -/
theorem feed_run_commands (tree : store.IsTree) (commands : List StoreCommand) :
    (store.run commands).feed.toList =
      store.feed.toList ++ store.journal (store.operationsOf commands) := by
  rw [← run_operationsOf tree, feed_run (store.operationsOf_single commands)]

/-! ### The replay -/

/-- The contents of all paths after an event: new bytes with their version, or nothing. -/
def applyTo (contents : String → Option NodeContents) : Notification → String → Option NodeContents
  | .dataChanged path data version => Function.update contents path (some ⟨data, version⟩)
  | .deleted path _ => Function.update contents path none
  | .failed _ _ => contents

theorem applyTo_apply (contents : String → Option NodeContents) (event : Notification)
    (path : String) :
    applyTo contents event path = if event.Writes path then event.contents? else contents path := by
  cases event with
  | dataChanged written data version =>
      simp [applyTo, Function.update_apply, Notification.Writes, Notification.path,
        Notification.version?, Notification.contents?, eq_comm]
  | deleted written version =>
      simp [applyTo, Function.update_apply, Notification.Writes, Notification.path,
        Notification.version?, Notification.contents?, eq_comm]
  | failed reported message => simp [applyTo, Notification.Writes, Notification.version?]

theorem foldl_applyTo (contents : String → Option NodeContents) (events : List Notification)
    (path : String) :
    events.foldl applyTo contents path =
      events.foldl (fun left event => if event.Writes path then event.contents? else left)
        (contents path) := by
  induction events generalizing contents with
  | nil => rfl
  | cons event rest inductionHypothesis =>
      rw [List.foldl_cons, inductionHypothesis, applyTo_apply, List.foldl_cons]

/-- The replay of the feed over the fresh tree is the replay of the history. -/
theorem replay_history (store : Store) (path : String) :
    replay store.history path = store.feed.toList.foldl applyTo Store.empty.contents? path := by
  have root : (if Notification.Writes (.dataChanged Path.root [] 0) path then
      Notification.contents? (.dataChanged Path.root [] 0) else none) =
        Store.empty.contents? path :=
    (Logged.empty.replayed path).symm
  rw [replay, history, List.foldl_cons, root, foldl_applyTo]

theorem read_eq (store : Store) (path : String) :
    store.read path = (Path.validate path).map fun () => store.contents? path := by
  unfold read contents?
  split <;> rename_i checked <;> rw [checked] <;> rfl

theorem Logged.run (logged : store.Logged) (commands : List StoreCommand) :
    (store.run commands).Logged := by
  induction commands generalizing store with
  | nil => exact logged
  | cons command rest inductionHypothesis =>
      exact inductionHypothesis (logged.changes (store.perform_changes command))

theorem Logged.ascending (logged : store.Logged) :
    (store.feed.toList.filterMap Notification.version?).Pairwise (· < ·) := by
  refine List.Pairwise.filterMap _ (fun earlier later precedes first told second alsoTold => ?_)
    (List.pairwise_cons.mp logged.ordered).2
  exact precedes first told second alsoTold

/-- The feed of a store is a faithful log. Whatever a fresh store is told, it does what the single
operations of its commands do in turn, and its feed is their journal: one event for each operation that
changes a node, in the order of the operations and of their versions, and none for an operation or a
command that fails. Replaying the feed over the fresh tree gives what is read, at every path. -/
theorem feed_eq_journal (commands : List StoreCommand) :
    let store := Store.empty.run commands
    let operations := Store.empty.operationsOf commands
    (∀ operation ∈ operations, operation.isSingle = true) ∧
      Store.empty.run operations = store ∧
      store.feed.toList = Store.empty.journal operations ∧
      (store.feed.toList.filterMap Notification.version?).Pairwise (· < ·) ∧
      (∀ command error, (store.perform command).1 = .error error →
        (store.perform command).2.feed = store.feed) ∧
      ∀ path, store.read path = (Path.validate path).map fun () =>
        store.feed.toList.foldl applyTo Store.empty.contents? path := by
  intro store operations
  have tree : store.IsTree := run_isTree commands
  have logged : store.Logged := Logged.empty.run commands
  refine ⟨Store.empty.operationsOf_single commands, run_operationsOf .empty commands,
    feed_run_commands .empty commands, logged.ascending, fun command error failed => ?_,
    fun path => ?_⟩
  · rw [perform_of_error tree.rootPresent failed]
  · rw [read_eq, logged.replayed, replay_history]

/-- A node that is made again after its deletion, ways that are created below it and elsewhere, and a
root that is rewritten. A node without parent is refused on the way. -/
def rebuilt : List StoreCommand :=
  [.create "/a" [0x31], .createWithAncestors "/b/c" [0x32], .delete "/a", .create "/a/d" [],
    .create "/a" [0x33], .createWithAncestors "/a/d/e" [0x34], .write "/" [0x35],
    .reportFailure "/b" "lost"]

theorem rebuilt_journal :
    let store := Store.empty.run rebuilt
    store.feed.toList = Store.empty.journal (Store.empty.operationsOf rebuilt) ∧
      (store.perform (.delete "/a/d")).1 = .error (.notEmpty "/a/d") ∧
      (store.perform (.delete "/a/d")).2.feed = store.feed ∧
      store.read "/a" = .ok (some ⟨[0x33], 5⟩) ∧
      store.feed.toList.foldl applyTo Store.empty.contents? "/a" = some ⟨[0x33], 5⟩ := by
  intro store
  obtain ⟨-, -, journaled, -, ofFailure, replayed⟩ := feed_eq_journal rebuilt
  have refused : (store.perform (.delete "/a/d")).1 = .error (.notEmpty "/a/d") := rfl
  have found : store.read "/a" = .ok (some ⟨[0x33], 5⟩) := rfl
  exact ⟨journaled, refused, ofFailure _ _ refused, found,
    Except.ok.inj ((replayed "/a").symm.trans found)⟩

end Store

end LiveConfig
