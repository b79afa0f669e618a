import LiveConfig.Proofs.Store.Outcome

/-!
Contract: the refusals of a store.

The operations on nodes are refused at malformed paths, where a node is in the way or missing, and where a
node cannot go. Owns: these cases, that a store refuses an operation in exactly these, and that a refused
operation leaves everything as it was. Does not own: listings, which can use up a failure.
-/

namespace LiveConfig

/-- The path of the node that a command is an operation on. Listings and rows of writes are none. -/
def StoreCommand.node? : StoreCommand → Option String
  | .exists path | .create path _ | .createWithAncestors path _ | .read path | .write path _
  | .delete path => some path
  | .writeMany .. | .list _ | .failNextListing .. | .reportFailure .. | .setAvailable _
  | .setCloseFails _ => none

namespace Store

/-- The cases in which a store refuses an operation on a node, each with its error. Questions, readings and
creations with ancestors are refused at malformed paths only. -/
inductive Refuses (store : Store) : StoreCommand → StoreError → Prop
  | malformed {command : StoreCommand} {path : String} {error : StoreError}
      (about : command.node? = some path) (invalid : Path.validate path = .error error) :
      Refuses store command error
  /-- The root is there from the beginning, so that it is never created either. -/
  | occupied {path : String} (present : store.contains path) (data : Payload) :
      Refuses store (.create path data) (.nodeExists path)
  | orphaned {path parent : String} (valid : Path.validate path = .ok ())
      (hasParent : Path.parent? path = some parent) (parentAbsent : ¬ store.contains parent)
      (data : Payload) : Refuses store (.create path data) (.noParent path)
  | unwritable {path : String} (valid : Path.validate path = .ok ()) (absent : ¬ store.contains path)
      (data : Payload) : Refuses store (.write path data) (.noNode path)
  | root : Refuses store (.delete Path.root) (.invalidPath Path.root "cannot delete root")
  | missing {path : String} (valid : Path.validate path = .ok ()) (absent : ¬ store.contains path) :
      Refuses store (.delete path) (.noNode path)
  | inUse {path child : String} (notRoot : path ≠ Path.root) (below : store.contains child)
      (hasParent : Path.parent? child = some path) : Refuses store (.delete path) (.notEmpty path)

theorem map_eq_error_iff {α β ε : Type} {result : Except ε α} {change : α → β} {error : ε} :
    result.map change = .error error ↔ result = .error error := by
  cases result <;> simp [Except.map]

variable {store : Store} {path : String} {error : StoreError}

theorem not_contains_iff : ¬ store.contains path ↔ store.node? path = none := by
  simp [contains]

theorem exists?_refused_iff : store.exists? path = .error error ↔ Path.validate path = .error error := by
  cases valid : Path.validate path <;> simp [exists?, valid]

theorem read_refused_iff : store.read path = .error error ↔ Path.validate path = .error error := by
  cases valid : Path.validate path <;> simp [read, valid]

theorem write_refused_iff (store : Store) (path : String) (data : Payload) (error : StoreError) :
    (store.write path data).1 = .error error ↔ store.Refuses (.write path data) error := by
  constructor
  · intro refused
    unfold write at refused
    split at refused
    · rename_i invalid
      cases refused
      exact .malformed rfl invalid
    · rename_i valid
      split at refused
      · rename_i missing
        cases refused
        exact .unwritable valid (not_contains_iff.mpr missing) data
      · cases refused
  · intro refuses
    cases refuses with
    | malformed about invalid =>
        cases about
        simp [write, invalid]
    | unwritable valid absent => simp [write, valid, not_contains_iff.mp absent]

namespace IsTree

variable (tree : store.IsTree)

include tree

/-- A node that names children is the parent of one. -/
theorem children_ne_nil_iff {node : Node} (there : store.node? path = some node) :
    node.children ≠ [] ↔ ∃ child, store.contains child ∧ Path.parent? child = some path := by
  have childrenOf : store.children? path = some node.children := by simp [children?, there]
  constructor
  · intro named
    obtain ⟨name, member⟩ := List.exists_mem_of_ne_nil _ named
    obtain ⟨child, below, hasParent, -⟩ := (tree.linked childrenOf name).mp member
    exact ⟨child, below, hasParent⟩
  · rintro ⟨child, below, hasParent⟩
    exact List.ne_nil_of_mem ((tree.linked childrenOf _).mpr ⟨child, below, hasParent, rfl⟩)

theorem create_refused_iff (path : String) (data : Payload) (error : StoreError) :
    (store.create path data).1 = .error error ↔ store.Refuses (.create path data) error := by
  constructor
  · intro refused
    unfold create at refused
    split at refused
    · rename_i invalid
      cases refused
      exact .malformed rfl invalid
    · rename_i valid
      split at refused
      · rename_i noParent
        cases refused
        -- Only the root has no parent.
        have isRoot : path = Path.root := by
          by_contra notRoot
          obtain ⟨parent, hasParent⟩ := Path.exists_parent? valid notRoot
          cases noParent.symm.trans hasParent
        exact .occupied (isRoot ▸ tree.rootPresent) data
      · rename_i parent hasParent
        split at refused
        · rename_i present
          cases refused
          exact .occupied present data
        · split at refused
          · rename_i parentMissing
            cases refused
            exact .orphaned valid hasParent (not_contains_iff.mpr parentMissing) data
          · cases refused
  · intro refuses
    cases refuses with
    | malformed about invalid =>
        cases about
        simp [create, invalid]
    | occupied present => rw [create_of_contains (tree.valid present) present]
    | orphaned valid hasParent parentAbsent =>
        have absent : ¬ store.contains path := fun present =>
          parentAbsent (tree.parentPresent present hasParent)
        simp [create, valid, hasParent, absent, not_contains_iff.mp parentAbsent]

theorem delete_refused_iff (path : String) (error : StoreError) :
    (store.delete path).1 = .error error ↔ store.Refuses (.delete path) error := by
  constructor
  · intro refused
    unfold delete at refused
    split at refused
    · rename_i invalid
      cases refused
      exact .malformed rfl invalid
    · rename_i valid
      split at refused
      · rename_i isRoot
        cases refused
        exact isRoot ▸ .root
      · rename_i notRoot
        split at refused
        · rename_i missing
          cases refused
          exact .missing valid (not_contains_iff.mpr missing)
        · rename_i node there
          split at refused
          · rename_i named
            cases refused
            obtain ⟨child, below, hasParent⟩ :=
              (tree.children_ne_nil_iff there).mp (by simpa using named)
            exact .inUse notRoot below hasParent
          · cases refused
  · intro refuses
    cases refuses with
    | malformed about invalid =>
        cases about
        simp [delete, invalid]
    | root => simp [delete, Path.validate_root]
    | missing valid absent =>
        have notRoot : path ≠ Path.root := fun isRoot => absent (isRoot ▸ tree.rootPresent)
        simp [delete, valid, notRoot, not_contains_iff.mp absent]
    | inUse notRoot below hasParent =>
        have present := tree.parentPresent below hasParent
        obtain ⟨node, there⟩ := Option.isSome_iff_exists.mp present
        have named : node.children ≠ [] :=
          (tree.children_ne_nil_iff there).mpr ⟨_, below, hasParent⟩
        simp [delete, tree.valid present, notRoot, there, named]

/-- Ancestors are made before what stands below them, so that a creation with ancestors cannot stop
halfway. -/
theorem createWithAncestors_refused_iff (path : String) (data : Payload) (error : StoreError) :
    (store.createWithAncestors path data).1 = .error error ↔ Path.validate path = .error error := by
  rw [createWithAncestors_fst tree.rootPresent]

/-- A store refuses an operation on a node in exactly the cases that are listed, each with its error. -/
theorem perform_refused_iff {command : StoreCommand} (about : command.node? = some path)
    (error : StoreError) :
    (store.perform command).1 = .error error ↔ store.Refuses command error := by
  cases command with
  | «exists» path =>
      exact (map_eq_error_iff.trans exists?_refused_iff).trans
        ⟨.malformed rfl, fun | .malformed rfl invalid => invalid⟩
  | read path =>
      exact (map_eq_error_iff.trans read_refused_iff).trans
        ⟨.malformed rfl, fun | .malformed rfl invalid => invalid⟩
  | createWithAncestors path data =>
      exact (map_eq_error_iff.trans (tree.createWithAncestors_refused_iff path data error)).trans
        ⟨.malformed rfl, fun | .malformed rfl invalid => invalid⟩
  | create path data => exact map_eq_error_iff.trans (tree.create_refused_iff path data error)
  | write path data => exact map_eq_error_iff.trans (store.write_refused_iff path data error)
  | delete path => exact map_eq_error_iff.trans (tree.delete_refused_iff path error)
  | writeMany | list | failNextListing | reportFailure | setAvailable | setCloseFails => cases about

end IsTree

/-! ### What a refused operation leaves -/

theorem listFailures_createEach (nodes : List (String × Payload)) :
    (store.createEach nodes).2.listFailures = store.listFailures := by
  induction nodes generalizing store with
  | nil => rfl
  | cons head rest inductionHypothesis =>
      obtain ⟨path, data⟩ := head
      have created := store.listFailures_create path data
      simp only [createEach]
      split
      all_goals
        rename_i creating
        rw [creating] at created
      · exact inductionHypothesis.trans created
      · exact inductionHypothesis.trans created
      · exact created

/-- An operation on a node uses up no failure that was laid up for a listing. -/
theorem listFailures_perform {command : StoreCommand} (about : command.node? = some path) :
    (store.perform command).2.listFailures = store.listFailures := by
  cases command with
  | «exists» | read => rfl
  | create path data => exact store.listFailures_create path data
  | createWithAncestors path data =>
      simp only [perform, createWithAncestors]
      split
      · rfl
      · exact listFailures_createEach _
  | write path data =>
      simp only [perform, write]
      split
      · rfl
      · split <;> rfl
  | delete path =>
      rcases store.delete_outcome path with ⟨error, refused⟩ | ⟨-, deleted⟩
      · simp only [perform, refused]
      · simp only [perform, deleted, publish]
  | writeMany | list | failNextListing | reportFailure | setAvailable | setCloseFails => cases about

theorem perform_of_refused (rootPresent : store.contains Path.root) {command : StoreCommand}
    (about : command.node? = some path) (refused : (store.perform command).1 = .error error) :
    (store.perform command).2 = store := by
  rw [perform_of_error rootPresent refused, listFailures_perform about]

/-- Whatever a store was told before, it refuses an operation on a node in exactly the cases that are
listed, each with its error, and a refused operation leaves everything as it was: the nodes with their
bytes, versions and children, the last version, and the feed. -/
theorem operations_refused_exactly (commands : List StoreCommand) (command : StoreCommand) (path : String)
    (about : command.node? = some path) (error : StoreError) :
    let store := Store.empty.run commands
    ((store.perform command).1 = .error error ↔ store.Refuses command error) ∧
      ((store.perform command).1 = .error error → (store.perform command).2 = store) := by
  intro store
  have tree : store.IsTree := run_isTree commands
  exact ⟨tree.perform_refused_iff about error, perform_of_refused tree.rootPresent about⟩

/-- What a store is told in which one node stands below another, and one has gone. -/
def nested : List StoreCommand :=
  [.createWithAncestors "/app/eu" [0x6b], .create "/old" [], .delete "/old"]

theorem nested_refuses :
    let store := Store.empty.run nested
    (store.Refuses (.delete "/app") (.notEmpty "/app") ∧
        (store.perform (.delete "/app")).2 = store) ∧
      (store.Refuses (.create "/" []) (.nodeExists "/") ∧
        (store.perform (.create "/" [])).2 = store) ∧
      (store.Refuses (.create "/old/eu" []) (.noParent "/old/eu") ∧
        (store.perform (.create "/old/eu" [])).2 = store) := by
  intro store
  have refused {command : StoreCommand} {path : String} {error : StoreError}
      (about : command.node? = some path) (failed : (store.perform command).1 = .error error) :
      store.Refuses command error ∧ (store.perform command).2 = store := by
    obtain ⟨cases, unchanged⟩ := operations_refused_exactly nested command path about error
    exact ⟨cases.mp failed, unchanged failed⟩
  exact ⟨refused rfl rfl, refused rfl rfl, refused rfl rfl⟩

end Store

end LiveConfig
