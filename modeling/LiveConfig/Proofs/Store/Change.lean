import LiveConfig.Proofs.Entries
import LiveConfig.Store.Command
import Mathlib.Logic.Relation

/-!
Contract: what a command can do to a store.

Owns: the kinds of change with what each of them requires, the proof that every command is a chain of
changes, and what a change does to the contents that are read. Later proofs about stores look at
changes and not at commands.
-/

namespace LiveConfig.Store

/-- What is read at a path. -/
def contents? (store : Store) (path : String) : Option NodeContents :=
  (store.node? path).map fun node => ⟨node.data, node.version⟩

/-- One change of a store. -/
inductive Change (store : Store) : Store → Prop where
  /-- The failures that are laid up, and the switches. -/
  | configured (listFailures : Entries StoreError) (available closeFails : Bool) :
      Change store { store with
        listFailures := listFailures, available := available, closeFails := closeFails }
  /-- A new node under an existing parent. -/
  | created {path parent : String} {parentNode : Node} (data : Payload)
      (valid : Path.validate path = .ok ()) (hasParent : Path.parent? path = some parent)
      (missing : store.node? path = none) (parentPresent : store.node? parent = some parentNode) :
      Change store (store.addNode path parent parentNode data)
  /-- New bytes for a node. -/
  | written {path : String} {node : Node} (data : Payload)
      (valid : Path.validate path = .ok ()) (present : store.node? path = some node) :
      Change store ({ store with
        nodes := store.nodes.insert path { node with data := data, version := store.nextVersion }
        lastVersion := store.nextVersion }.publish (.dataChanged path data store.nextVersion))
  /-- The end of a node without children. -/
  | deleted {path : String} {node : Node} (valid : Path.validate path = .ok ())
      (notRoot : path ≠ Path.root) (present : store.node? path = some node)
      (leaf : node.children = []) :
      Change store ({ store with
        nodes := unlink store.nodes path
        lastVersion := store.nextVersion }.publish (.deleted path store.nextVersion))
  /-- A report that a change could not be told. -/
  | reported (path message : String) : Change store (store.reportFailure path message)

/-- Any number of changes in turn. -/
abbrev Changes : Store → Store → Prop := Relation.ReflTransGen Change

variable (store : Store)

/-! ### Every command is a chain of changes -/

theorem create_changes (path : String) (data : Payload) :
    Changes store (store.create path data).2 := by
  unfold create
  split
  · exact .refl
  · rename_i valid
    split
    · exact .refl
    · rename_i hasParent
      split
      · exact .refl
      · rename_i absent
        have missing : store.node? path = none := by simpa [contains] using absent
        split
        · exact .refl
        · rename_i parentPresent
          exact .single (.created data valid hasParent missing parentPresent)

theorem createEach_changes (nodes : List (String × Payload)) :
    Changes store (store.createEach nodes).2 := by
  induction nodes generalizing store with
  | nil => exact .refl
  | cons head rest inductionHypothesis =>
      obtain ⟨path, data⟩ := head
      have first := store.create_changes path data
      unfold createEach
      split
      · rename_i created
        rw [created] at first
        exact first.trans (inductionHypothesis _)
      · rename_i existing
        rw [existing] at first
        exact first.trans (inductionHypothesis _)
      · rename_i failed
        rw [failed] at first
        exact first

theorem createWithAncestors_changes (path : String) (data : Payload) :
    Changes store (store.createWithAncestors path data).2 := by
  unfold createWithAncestors
  split
  · exact .refl
  · exact store.createEach_changes _

theorem write_changes (path : String) (data : Payload) :
    Changes store (store.write path data).2 := by
  unfold write
  split
  · exact .refl
  · rename_i valid
    split
    · exact .refl
    · rename_i present
      exact .single (.written data valid present)

theorem writeEach_changes (path : String) (template : List Char) (numbers : List Nat) :
    Changes store (store.writeEach path template numbers).2 := by
  induction numbers generalizing store with
  | nil => exact .refl
  | cons number rest inductionHypothesis =>
      have first := store.write_changes path
        (Text.Utf8.encode (fillIn (Nat.toDigits 10 number) template))
      have others := inductionHypothesis (store.write path
        (Text.Utf8.encode (fillIn (Nat.toDigits 10 number) template))).2
      unfold writeEach
      dsimp only
      split
      · rename_i final last
        rw [last] at others
        exact first.trans others
      · exact first.trans others

theorem delete_changes (path : String) : Changes store (store.delete path).2 := by
  unfold delete
  split
  · exact .refl
  · rename_i valid
    split
    · exact .refl
    · rename_i notRoot
      split
      · exact .refl
      · rename_i present
        split
        · exact .refl
        · rename_i notEmpty
          exact .single (.deleted valid notRoot present (by simpa using notEmpty))

theorem list_changes (path : String) : Changes store (store.list path).2 := by
  unfold list
  split
  · exact .refl
  · split
    · exact .single (.configured _ store.available store.closeFails)
    · split <;> exact .refl

/-- Whatever a store is told, it goes through a chain of changes. -/
theorem perform_changes (command : StoreCommand) :
    Changes store (store.perform command).2 := by
  cases command with
  | «exists» path => exact .refl
  | create path data => exact store.create_changes path data
  | createWithAncestors path data => exact store.createWithAncestors_changes path data
  | read path => exact .refl
  | write path data => exact store.write_changes path data
  | writeMany path template count =>
      have chain := store.writeEach_changes path template.toList (List.range count)
      simp only [perform]
      split <;> rename_i last <;> rw [last] at chain <;> exact chain
  | delete path => exact store.delete_changes path
  | list path => exact store.list_changes path
  | failNextListing path error => exact .single (.configured _ store.available store.closeFails)
  | reportFailure path message => exact .single (.reported path message)
  | setAvailable value => exact .single (.configured store.listFailures value store.closeFails)
  | setCloseFails value => exact .single (.configured store.listFailures store.available value)

/-! ### What a change does to the contents -/

theorem contents?_addNode {path parent : String} {parentNode : Node} (data : Payload)
    (parentPresent : store.node? parent = some parentNode) (other : String) :
    (store.addNode path parent parentNode data).contents? other =
      if other = path then some ⟨data, store.nextVersion⟩ else store.contents? other := by
  simp only [node?] at parentPresent
  simp only [contents?, node?, addNode, publish, Entries.find?_insert]
  by_cases created : other = path
  · simp [created]
  · by_cases isParent : other = parent
    · subst isParent
      simp [created, parentPresent]
    · simp [created, isParent]

theorem contents?_insert {path : String} (node : Node) (other : String) :
    ({ store with nodes := store.nodes.insert path node } : Store).contents? other =
      if other = path then some ⟨node.data, node.version⟩ else store.contents? other := by
  simp only [contents?, node?, Entries.find?_insert]
  split <;> rfl

/-- Unlinking a node takes away its contents and no others: its parent only loses a name. -/
theorem contents?_unlink (path other : String) :
    ({ store with nodes := unlink store.nodes path } : Store).contents? other =
      if other = path then none else store.contents? other := by
  simp only [contents?, node?, unlink]
  cases Path.parent? path with
  | none =>
      simp only [Entries.find?_erase]
      split <;> rfl
  | some parent =>
      dsimp only
      cases found : (Entries.erase path store.nodes).find? parent with
      | none =>
          simp only [Entries.find?_erase]
          split <;> rfl
      | some node =>
          rw [Entries.find?_erase] at found
          simp only [Entries.find?_insert, Entries.find?_erase]
          by_cases isParent : other = parent
          · subst isParent
            split at found
            · cases found
            · rename_i differs
              simp [differs, found]
          · simp only [isParent, if_false]
            split <;> rfl

end LiveConfig.Store
