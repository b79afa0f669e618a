import LiveConfig.Proofs.Path.Ancestors
import LiveConfig.Proofs.Store.Change
import Mathlib.Data.List.Nodup

/-!
Contract: the nodes of a store form a tree below its root.

Every node has an accepted path, its parent exists and names it, and nobody names anything else. Owns:
the tree as an invariant of everything a store can be told, and what it says of children and
ancestors. Does not own: the bytes of nodes.
-/

namespace LiveConfig.Store

/-- The names of the children of a node. -/
def children? (store : Store) (path : String) : Option (List String) :=
  (store.node? path).map (·.children)

/-- The nodes of a store form a tree. -/
structure IsTree (store : Store) : Prop where
  rootPresent : store.contains Path.root
  valid : ∀ {path : String}, store.contains path → Path.validate path = .ok ()
  parentPresent : ∀ {path parent : String}, store.contains path →
    Path.parent? path = some parent → store.contains parent
  /-- A node names exactly the nodes whose parent it is. -/
  linked : ∀ {parent : String} {names : List String}, store.children? parent = some names →
    ∀ name, name ∈ names ↔
      ∃ path, store.contains path ∧ Path.parent? path = some parent ∧ Path.name path = name
  distinct : ∀ {path : String} {names : List String}, store.children? path = some names → names.Nodup

theorem contains_iff {store : Store} {path : String} :
    store.contains path ↔ ∃ names, store.children? path = some names := by
  simp [contains, children?, Option.isSome_iff_exists]

/-! ### What a change does to the names -/

section Changes

variable {store : Store} {path parent : String} {parentNode : Node}

theorem children?_addNode (data : Payload) (other : String) :
    (store.addNode path parent parentNode data).children? other =
      if other = path then some []
      else if other = parent then some (withChild parentNode.children (Path.name path))
      else store.children? other := by
  simp only [children?, node?, addNode, publish, Entries.find?_insert]
  split
  · rfl
  · split <;> rfl

theorem contains_addNode (path : String) (data : Payload)
    (parentThere : store.node? parent = some parentNode) (other : String) :
    (store.addNode path parent parentNode data).contains other ↔
      other = path ∨ store.contains other := by
  rw [contains_iff, children?_addNode]
  split
  · simp_all
  · split
    · simp_all [contains]
    · simp_all [contains_iff]

theorem children?_unlink (hasParent : Path.parent? path = some parent) (differs : parent ≠ path)
    (parentPresent : store.node? parent = some parentNode) (other : String) :
    ({ store with nodes := unlink store.nodes path } : Store).children? other =
      if other = path then none
      else if other = parent then some (parentNode.children.erase (Path.name path))
      else store.children? other := by
  have left : (Entries.erase path store.nodes).find? parent = some parentNode := by
    rw [Entries.find?_erase, if_neg differs]
    exact parentPresent
  simp only [children?, node?, unlink, hasParent, left, Entries.find?_insert, Entries.find?_erase]
  by_cases isParent : other = parent
  · rw [if_pos isParent, if_neg (isParent ▸ differs), if_pos isParent]
    rfl
  · rw [if_neg isParent, if_neg isParent]
    split <;> rfl

theorem contains_unlink (hasParent : Path.parent? path = some parent) (differs : parent ≠ path)
    (parentPresent : store.node? parent = some parentNode) (other : String) :
    ({ store with nodes := unlink store.nodes path } : Store).contains other ↔
      other ≠ path ∧ store.contains other := by
  rw [contains_iff, children?_unlink hasParent differs parentPresent]
  split
  · simp_all
  · split
    · simp_all [contains]
    · simp_all [contains_iff]

theorem mem_withChild {names : List String} {name other : String} :
    other ∈ withChild names name ↔ other ∈ names ∨ other = name := by
  unfold withChild
  split
  · rename_i present
    exact ⟨.inl, fun either => either.elim id (· ▸ present)⟩
  · simp

theorem nodup_withChild {names : List String} (distinct : names.Nodup) (name : String) :
    (withChild names name).Nodup := by
  unfold withChild
  split
  · exact distinct
  · rename_i absent
    exact distinct.append (List.nodup_singleton name) (by simpa using absent)

end Changes

/-! ### The tree is kept -/

namespace IsTree

variable {store after : Store}

theorem of_children? (tree : store.IsTree)
    (same : ∀ path, after.children? path = store.children? path) : after.IsTree := by
  have present : ∀ path, after.contains path ↔ store.contains path := by simp [contains_iff, same]
  constructor
  · exact (present _).mpr tree.rootPresent
  · exact fun there => tree.valid ((present _).mp there)
  · exact fun there hasParent =>
      (present _).mpr (tree.parentPresent ((present _).mp there) hasParent)
  · intro parent names childrenOf name
    rw [same] at childrenOf
    simpa only [present] using tree.linked childrenOf name
  · intro path names childrenOf
    rw [same] at childrenOf
    exact tree.distinct childrenOf

variable {path parent : String} {parentNode : Node}

theorem addNode (tree : store.IsTree) (data : Payload) (valid : Path.validate path = .ok ())
    (hasParent : Path.parent? path = some parent) (missing : store.node? path = none)
    (parentThere : store.node? parent = some parentNode) :
    (store.addNode path parent parentNode data).IsTree := by
  have absent : ¬ store.contains path := by simp [contains, missing]
  have parentContained : store.contains parent := by simp [contains, parentThere]
  have parentChildren : store.children? parent = some parentNode.children := by
    simp [children?, parentThere]
  have differs : parent ≠ path := fun same => absent (same ▸ parentContained)
  have present := contains_addNode path data parentThere
  constructor
  · exact (present _).mpr (.inr tree.rootPresent)
  · intro other there
    rcases (present _).mp there with rfl | before
    · exact valid
    · exact tree.valid before
  · intro other upper there hasUpper
    rcases (present _).mp there with rfl | before
    · cases hasParent.symm.trans hasUpper
      exact (present _).mpr (.inr parentContained)
    · exact (present _).mpr (.inr (tree.parentPresent before hasUpper))
  · intro upper names childrenOf name
    simp only [present, or_and_right, exists_or, exists_eq_left, hasParent]
    rw [children?_addNode] at childrenOf
    split at childrenOf
    · -- The new node has no children: nodes below it would have had a missing parent.
      rename_i isNew
      cases childrenOf
      simp only [isNew, List.not_mem_nil, false_iff, not_or, not_exists, Option.some.injEq]
      exact ⟨fun both => differs both.1, fun other both =>
        absent (tree.parentPresent both.1 both.2.1)⟩
    · split at childrenOf
      · rename_i isParent
        cases childrenOf
        rw [mem_withChild, tree.linked parentChildren name, isParent]
        simp only [true_and]
        rw [or_comm, eq_comm]
      · rename_i notParent
        rw [tree.linked childrenOf name]
        simp [Ne.symm notParent]
  · intro other names childrenOf
    rw [children?_addNode] at childrenOf
    split at childrenOf
    · cases childrenOf
      exact List.nodup_nil
    · split at childrenOf
      · cases childrenOf
        exact nodup_withChild (tree.distinct parentChildren) _
      · exact tree.distinct childrenOf

theorem parent?_ne_of_leaf (tree : store.IsTree) (leaf : store.children? path = some [])
    {other : String} (present : store.contains other) : Path.parent? other ≠ some path := by
  intro hasPath
  cases (tree.linked leaf (Path.name other)).mpr ⟨other, present, hasPath, rfl⟩

theorem exists_parent (tree : store.IsTree) (present : store.contains path)
    (notRoot : path ≠ Path.root) :
    ∃ parent parentNode, Path.parent? path = some parent ∧ store.node? parent = some parentNode := by
  obtain ⟨parent, hasParent⟩ := Path.exists_parent? (tree.valid present) notRoot
  obtain ⟨parentNode, parentThere⟩ :=
    Option.isSome_iff_exists.mp (tree.parentPresent present hasParent)
  exact ⟨parent, parentNode, hasParent, parentThere⟩

theorem unlink {node : Node} (tree : store.IsTree) (notRoot : path ≠ Path.root)
    (there : store.node? path = some node) (noChildren : node.children = []) :
    ({ store with nodes := unlink store.nodes path } : Store).IsTree := by
  have present : store.contains path := by simp [contains, there]
  have leaf : store.children? path = some [] := by simp [children?, there, noChildren]
  obtain ⟨parent, parentNode, hasParent, parentThere⟩ := tree.exists_parent present notRoot
  have parentChildren : store.children? parent = some parentNode.children := by
    simp [children?, parentThere]
  have differs : parent ≠ path := fun same => tree.parent?_ne_of_leaf leaf present (same ▸ hasParent)
  have names := children?_unlink hasParent differs parentThere
  have remaining := contains_unlink hasParent differs parentThere
  constructor
  · exact (remaining _).mpr ⟨Ne.symm notRoot, tree.rootPresent⟩
  · exact fun still => tree.valid ((remaining _).mp still).2
  · intro other upper still hasUpper
    obtain ⟨-, before⟩ := (remaining _).mp still
    refine (remaining _).mpr ⟨fun isPath => ?_, tree.parentPresent before hasUpper⟩
    exact tree.parent?_ne_of_leaf leaf before (isPath ▸ hasUpper)
  · intro upper list childrenOf name
    rw [names] at childrenOf
    simp only [remaining]
    split at childrenOf
    · cases childrenOf
    · split at childrenOf
      · rename_i isParent
        cases childrenOf
        rw [(tree.distinct parentChildren).mem_erase_iff, tree.linked parentChildren name, isParent]
        constructor
        · rintro ⟨otherName, other, before, hasOther, named⟩
          exact ⟨other, ⟨fun isPath => otherName (isPath ▸ named.symm), before⟩, hasOther, named⟩
        · rintro ⟨other, ⟨notPath, before⟩, hasOther, named⟩
          refine ⟨fun sameName => notPath ?_, other, before, hasOther, named⟩
          exact Path.eq_of_name (tree.valid present) hasParent (tree.valid before) hasOther
            (named.trans sameName)
      · rename_i notParent
        rw [tree.linked childrenOf name]
        constructor
        · rintro ⟨other, before, hasOther, named⟩
          refine ⟨other, ⟨fun isPath => notParent ?_, before⟩, hasOther, named⟩
          rw [isPath, hasParent] at hasOther
          exact (Option.some.inj hasOther).symm
        · rintro ⟨other, ⟨-, before⟩, hasOther, named⟩
          exact ⟨other, before, hasOther, named⟩
  · intro other list childrenOf
    rw [names] at childrenOf
    split at childrenOf
    · cases childrenOf
    · split at childrenOf
      · cases childrenOf
        exact (tree.distinct parentChildren).erase _
      · exact tree.distinct childrenOf

theorem change (tree : store.IsTree) (change : Change store after) : after.IsTree := by
  cases change with
  | configured => exact tree.of_children? fun _ => rfl
  | created data valid hasParent missing parentPresent =>
      exact tree.addNode data valid hasParent missing parentPresent
  | @written path node data _ present =>
      refine tree.of_children? fun other => ?_
      simp only [children?, node?, publish, Entries.find?_insert] at present ⊢
      split
      · rename_i isWritten
        simp [isWritten, present]
      · rfl
  | deleted _ notRoot present leaf => exact (tree.unlink notRoot present leaf).of_children? fun _ => rfl
  | reported => exact tree.of_children? fun _ => rfl

theorem changes (tree : store.IsTree) (chain : Changes store after) : after.IsTree := by
  induction chain with
  | refl => exact tree
  | tail _ last inductionHypothesis => exact inductionHypothesis.change last

theorem empty : Store.empty.IsTree := by
  have onlyRoot : ∀ path, Store.empty.children? path = if path = Path.root then some [] else none := by
    intro path
    by_cases isRoot : path = Path.root
    · simp [children?, node?, Store.empty, Entries.find?, isRoot]
    · simp [children?, node?, Store.empty, Entries.find?, isRoot, Ne.symm isRoot]
  have present : ∀ path, Store.empty.contains path ↔ path = Path.root := by
    simp [contains_iff, onlyRoot]
  constructor
  · exact (present _).mpr rfl
  · intro path there
    rw [(present _).mp there]
    exact Path.validate_root
  · intro path parent there hasParent
    rw [(present _).mp there] at hasParent
    cases hasParent
  · intro parent names childrenOf name
    rw [onlyRoot] at childrenOf
    split at childrenOf
    · cases childrenOf
      simp [present, Path.parent?_root]
    · cases childrenOf
  · intro path names childrenOf
    rw [onlyRoot] at childrenOf
    split at childrenOf
    · cases childrenOf
      exact List.nodup_nil
    · cases childrenOf

theorem run (tree : store.IsTree) (commands : List StoreCommand) : (store.run commands).IsTree := by
  induction commands generalizing store with
  | nil => exact tree
  | cons command rest inductionHypothesis =>
      exact inductionHypothesis (tree.changes (store.perform_changes command))

/-! ### Children and ancestors -/

theorem contains_ancestor (tree : store.IsTree) (present : store.contains path) :
    ∀ ancestor ∈ Path.ancestors path, store.contains ancestor := by
  have valid := tree.valid present
  induction path, valid using Path.descending_induction with
  | atRoot => simp [Path.ancestors_root]
  | below valid hasParent inductionHypothesis =>
      rw [Path.ancestors_of_parent? valid hasParent]
      have parentPresent := tree.parentPresent present hasParent
      intro ancestor member
      rcases List.mem_cons.mp member with rfl | above
      · exact parentPresent
      · exact inductionHypothesis parentPresent ancestor above

/-- A child that a node names is found below it. -/
theorem child {names : List String} {name : String} (tree : store.IsTree)
    (childrenOf : store.children? path = some names) (named : name ∈ names) :
    store.contains (Path.join path name) ∧ Path.parent? (Path.join path name) = some path ∧
      Path.name (Path.join path name) = name := by
  obtain ⟨child, there, hasParent, rfl⟩ := (tree.linked childrenOf name).mp named
  rw [Path.join_parent_name (tree.valid there) hasParent]
  exact ⟨there, hasParent, rfl⟩

/-- The children of a node have different paths. -/
theorem nodup_children {names : List String} (tree : store.IsTree)
    (childrenOf : store.children? path = some names) : (names.map (Path.join path)).Nodup := by
  refine List.Nodup.map_on ?_ (tree.distinct childrenOf)
  intro name named other otherNamed same
  rw [← (tree.child childrenOf named).2.2, same, (tree.child childrenOf otherNamed).2.2]

end IsTree

/-- Whatever a store has been told, its nodes form a tree. -/
theorem run_isTree (commands : List StoreCommand) : (Store.empty.run commands).IsTree :=
  IsTree.empty.run commands

end LiveConfig.Store
