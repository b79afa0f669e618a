import LiveConfig.Proofs.Store.Journal

/-!
Contract: the versions of the nodes of a store.

No two nodes have one version, none is beyond the last that was given out, and the version of a node is
zero exactly if it is the root and was never rewritten. Owns: these facts, and the tree of nodes with
their versions as one statement about whatever a store was told. Does not own: the order of children.
-/

namespace LiveConfig

/-- Whether a command rewrites the bytes at a path, if a node is there. -/
def StoreCommand.Rewrites (path : String) : StoreCommand → Prop
  | .write other _ => other = path
  | .writeMany other _ count => other = path ∧ count ≠ 0
  | _ => False

namespace Store

variable {store : Store} {path other : String} {contents otherContents : NodeContents}

/-! ### What the history says of versions -/

namespace Logged

theorem version_le (logged : store.Logged) (held : store.contents? path = some contents) :
    contents.version ≤ store.lastVersion :=
  logged.bounded _ (logged.exists_of_contents? held).1 _ rfl

/-- Different nodes have different versions. -/
theorem path_eq_of_version (logged : store.Logged) (held : store.contents? path = some contents)
    (alsoHeld : store.contents? other = some otherContents)
    (sameVersion : contents.version = otherContents.version) : path = other := by
  have told := (logged.exists_of_contents? held).1
  have alsoTold := (logged.exists_of_contents? alsoHeld).1
  have sameEvent := logged.eq_of_version told alsoTold rfl (congrArg some sameVersion.symm)
  exact (Notification.dataChanged.inj sameEvent).1

/-- Whatever is published is newer than the fresh root. -/
theorem version_pos (logged : store.Logged) {event : Notification}
    (published : event ∈ store.feed.toList) {version : Nat} (told : event.version? = some version) :
    0 < version :=
  (List.pairwise_cons.mp logged.ordered).1 event published 0 rfl version told

/-- A node has version zero exactly if it is the root and no event writes to it. -/
theorem version_eq_zero_iff (logged : store.Logged) (held : store.contents? path = some contents) :
    contents.version = 0 ↔
      path = Path.root ∧ ¬ ∃ event ∈ store.feed.toList, event.Writes Path.root := by
  obtain ⟨told, newest⟩ := logged.exists_of_contents? held
  constructor
  · intro isZero
    rcases List.mem_cons.mp told with isFresh | published
    · obtain ⟨rfl, -, -⟩ := Notification.dataChanged.inj isFresh
      refine ⟨rfl, fun ⟨event, published, writes⟩ => ?_⟩
      obtain ⟨version, given⟩ := writes.version
      have le := newest event (List.mem_cons_of_mem _ published) writes version given
      have pos := logged.version_pos published given
      omega
    · exact absurd isZero (Nat.ne_of_gt (logged.version_pos published rfl))
  · rintro ⟨rfl, unwritten⟩
    rcases List.mem_cons.mp told with isFresh | published
    · exact (Notification.dataChanged.inj isFresh).2.2
    · exact absurd ⟨_, published, rfl, rfl⟩ unwritten

end Logged

/-! ### Writes to the root -/

/-- Of single operations only a write tells of a write to the root, and it always does. -/
theorem told?_writes_root (tree : store.IsTree) {operation : StoreCommand}
    (single : operation.isSingle = true) :
    (∃ event ∈ (store.told? operation).toList, event.Writes Path.root) ↔
      operation.Rewrites Path.root := by
  cases operation with
  | createWithAncestors | writeMany => cases single
  | «exists» | read | list | failNextListing | setAvailable | setCloseFails =>
      simp [told?, StoreCommand.Rewrites]
  | reportFailure path message =>
      simp [told?, perform, StoreCommand.Rewrites, Notification.Writes, Notification.version?]
  | create path data =>
      rcases store.create_outcome path data with ⟨error, refused⟩ | ⟨parent, _, hasParent, created⟩
      · simp [told?, perform, refused, Except.map, StoreCommand.Rewrites]
      · have notRoot : path ≠ Path.root := by
          rintro rfl
          cases Path.parent?_root.symm.trans hasParent
        simp [told?, perform, created, Except.map, StoreCommand.Rewrites, Notification.Writes,
          Notification.path, notRoot]
  | delete path =>
      rcases store.delete_outcome path with ⟨error, refused⟩ | ⟨notRoot, deleted⟩
      · simp [told?, perform, refused, Except.map, StoreCommand.Rewrites]
      · simp [told?, perform, deleted, Except.map, StoreCommand.Rewrites, Notification.Writes,
          Notification.path, notRoot]
  | write path data =>
      rcases store.write_outcome path with ⟨error, refused⟩ | ⟨node, valid, there⟩
      · have notRoot : path ≠ Path.root := by
          rintro rfl
          obtain ⟨node, there⟩ := Option.isSome_iff_exists.mp tree.rootPresent
          cases (refused data).symm.trans (write_eq Path.validate_root there data)
        simp [told?, perform, refused, Except.map, StoreCommand.Rewrites, notRoot]
      · simp [told?, perform, write_eq valid there, Except.map, StoreCommand.Rewrites,
          Notification.Writes, Notification.path, Notification.version?]

theorem journal_writes_root (tree : store.IsTree) {operations : List StoreCommand}
    (single : ∀ operation ∈ operations, operation.isSingle = true) :
    (∃ event ∈ store.journal operations, event.Writes Path.root) ↔
      ∃ operation ∈ operations, operation.Rewrites Path.root := by
  induction operations generalizing store with
  | nil => simp [journal]
  | cons operation rest inductionHypothesis =>
      have first := told?_writes_root tree (single operation List.mem_cons_self)
      have others := inductionHypothesis (tree.changes (store.perform_changes operation))
        fun other member => single other (List.mem_cons_of_mem _ member)
      simp only [journal, List.mem_append, or_and_right, exists_or, first, others, List.mem_cons,
        exists_eq_left]

theorem operations_rewrite (store : Store) (command : StoreCommand) (path : String) :
    (∃ operation ∈ store.operations command, operation.Rewrites path) ↔ command.Rewrites path := by
  unfold operations
  split
  · split
    · simp [StoreCommand.Rewrites]
    · simp [StoreCommand.Rewrites]
  · rename_i written template count
    constructor
    · rintro ⟨operation, member, same⟩
      obtain ⟨number, inRange, rfl⟩ := List.mem_map.mp member
      exact ⟨same, Nat.ne_zero_of_lt (List.mem_range.mp inRange)⟩
    · rintro ⟨same, someWrite⟩
      have first : 0 ∈ List.range count := List.mem_range.mpr (Nat.pos_of_ne_zero someWrite)
      exact ⟨_, List.mem_map.mpr ⟨0, first, rfl⟩, same⟩
  · simp

theorem operationsOf_rewrite (store : Store) (commands : List StoreCommand) (path : String) :
    (∃ operation ∈ store.operationsOf commands, operation.Rewrites path) ↔
      ∃ command ∈ commands, command.Rewrites path := by
  induction commands generalizing store with
  | nil => simp [operationsOf]
  | cons command rest inductionHypothesis =>
      simp only [operationsOf, List.mem_append, or_and_right, exists_or, operations_rewrite,
        inductionHypothesis, List.mem_cons, exists_eq_left]

/-- The root is written to exactly by the commands that rewrite it. -/
theorem feed_writes_root (commands : List StoreCommand) :
    (∃ event ∈ (Store.empty.run commands).feed.toList, event.Writes Path.root) ↔
      ∃ command ∈ commands, command.Rewrites Path.root := by
  have journaled : (Store.empty.run commands).feed.toList =
      Store.empty.journal (Store.empty.operationsOf commands) := feed_run_commands .empty commands
  rw [journaled, journal_writes_root .empty (Store.empty.operationsOf_single commands),
    operationsOf_rewrite]

/-! ### The tree with its versions -/

/-- How a node stands in the tree of its store. -/
structure Placed (store : Store) (path : String) (node : Node) : Prop where
  valid : Path.validate path = .ok ()
  /-- The parent names the node once. -/
  named : path ≠ Path.root → ∃ parent parentNode, Path.parent? path = some parent ∧
    store.node? parent = some parentNode ∧ parentNode.children.count (Path.name path) = 1
  childPresent : ∀ name ∈ node.children, store.contains (Path.join path name)
  bounded : node.version ≤ store.lastVersion

theorem contents?_of_node? {node : Node} (there : store.node? path = some node) :
    store.contents? path = some ⟨node.data, node.version⟩ := by
  simp [contents?, there]

theorem IsTree.placed (tree : store.IsTree) (logged : store.Logged) {node : Node}
    (there : store.node? path = some node) : store.Placed path node := by
  have present : store.contains path := by simp [contains, there]
  have childrenOf : store.children? path = some node.children := by simp [children?, there]
  refine ⟨tree.valid present, fun notRoot => ?_, fun name named => (tree.child childrenOf named).1,
    logged.version_le (contents?_of_node? there)⟩
  obtain ⟨parent, parentNode, hasParent, parentThere⟩ := tree.exists_parent present notRoot
  have parentChildren : store.children? parent = some parentNode.children := by
    simp [children?, parentThere]
  refine ⟨parent, parentNode, hasParent, parentThere, ?_⟩
  exact List.count_eq_one_of_mem (tree.distinct parentChildren)
    ((tree.linked parentChildren _).mpr ⟨path, present, hasParent, rfl⟩)

/-- Whatever a fresh store is told, its nodes form a tree with distinct versions: the root exists, every
node has an accepted path and is named once by its parent, every named child exists, no version is
beyond the last, and only a root that no command has rewritten has version zero. -/
theorem nodes_form_versioned_tree (commands : List StoreCommand) :
    let store := Store.empty.run commands
    store.contains Path.root ∧
      (∀ path node, store.node? path = some node → store.Placed path node ∧
        (node.version = 0 ↔ path = Path.root ∧ ∀ command ∈ commands, ¬ command.Rewrites Path.root)) ∧
      ∀ path node other otherNode, store.node? path = some node →
        store.node? other = some otherNode → node.version = otherNode.version → path = other := by
  intro store
  have tree : store.IsTree := run_isTree commands
  have logged : store.Logged := Logged.empty.run commands
  refine ⟨tree.rootPresent, fun path node there => ⟨tree.placed logged there, ?_⟩,
    fun path node other otherNode there otherThere sameVersion => ?_⟩
  · rw [logged.version_eq_zero_iff (contents?_of_node? there), feed_writes_root]
    simp
  · exact logged.path_eq_of_version (contents?_of_node? there) (contents?_of_node? otherThere)
      sameVersion

theorem rebuilt_placed :
    let store := Store.empty.run rebuilt
    store.node? "/a/d" = some ⟨[], 6, ["e"]⟩ ∧ store.Placed "/a/d" ⟨[], 6, ["e"]⟩ ∧
      store.node? Path.root = some ⟨[0x35], 8, ["b", "a"]⟩ ∧
      ¬ ∀ command ∈ rebuilt, ¬ command.Rewrites Path.root := by
  intro store
  obtain ⟨-, placed, -⟩ := nodes_form_versioned_tree rebuilt
  have there : store.node? "/a/d" = some ⟨[], 6, ["e"]⟩ := rfl
  have rootThere : store.node? Path.root = some ⟨[0x35], 8, ["b", "a"]⟩ := rfl
  obtain ⟨-, zeroIff⟩ := placed _ _ rootThere
  exact ⟨there, (placed _ _ there).1, rootThere, fun unwritten => by
    cases zeroIff.mpr ⟨rfl, unwritten⟩⟩

end Store

end LiveConfig
