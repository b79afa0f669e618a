import LiveConfig.Proofs.Store.Journal
import Mathlib.Data.List.Perm.Subperm

/-!
Contract: the order in which a store lists the children of a node.

A creation puts the name of the new node behind those of its siblings, a deletion takes a name out from
between the others, and nothing else touches the names. So they stand in the order in which their nodes
were last created. Owns: the creations of a run, what every command makes of the names of a node, and the
order of a listing. Does not own: the errors of commands.
-/

namespace LiveConfig

/-- Whether a command can take a node away. -/
def StoreCommand.isDeletion : StoreCommand → Bool
  | .delete _ => true
  | _ => false

namespace Store

variable {store after : Store} {path parent : String} {names later : List String}

/-! ### Creations and deletions that succeed -/

theorem create_of_ok {data : Payload} (ok : (store.create path data).1 = .ok ()) :
    ∃ parent parentNode, Path.validate path = .ok () ∧ Path.parent? path = some parent ∧
      store.node? path = none ∧ store.node? parent = some parentNode ∧
      (store.create path data).2 = store.addNode path parent parentNode data := by
  unfold create at ok ⊢
  split at ok
  · cases ok
  · rename_i valid
    split at ok
    · cases ok
    · rename_i parent hasParent
      split at ok
      · cases ok
      · rename_i absent
        split at ok
        · cases ok
        · rename_i parentNode parentThere
          have missing : store.node? path = none := by simpa [contains] using absent
          exact ⟨parent, parentNode, valid, hasParent, missing, parentThere, by simp [absent]⟩

theorem delete_of_ok (tree : store.IsTree) (ok : (store.delete path).1 = .ok ()) :
    ∃ parent names, Path.validate path = .ok () ∧ Path.parent? path = some parent ∧
      parent ≠ path ∧ store.children? path = some [] ∧ store.children? parent = some names ∧
      ∀ other, (store.delete path).2.children? other =
        if other = path then none
        else if other = parent then some (names.erase (Path.name path))
        else store.children? other := by
  unfold delete at ok ⊢
  split at ok
  · cases ok
  · rename_i valid
    split at ok
    · cases ok
    · rename_i notRoot
      split at ok
      · cases ok
      · rename_i node there
        split at ok
        · cases ok
        · rename_i notEmpty
          have noChildren : node.children = [] := by simpa using notEmpty
          have present : store.contains path := by simp [contains, there]
          have leaf : store.children? path = some [] := by simp [children?, there, noChildren]
          obtain ⟨parent, parentNode, hasParent, parentThere⟩ := tree.exists_parent present notRoot
          have differs : parent ≠ path := fun same =>
            tree.parent?_ne_of_leaf leaf present (same ▸ hasParent)
          have siblings : store.children? parent = some parentNode.children := by
            simp [children?, parentThere]
          refine ⟨parent, parentNode.children, valid, hasParent, differs, leaf, siblings, ?_⟩
          intro other
          simp only [notRoot, if_false, notEmpty]
          exact children?_unlink hasParent differs parentThere other

/-! ### The creations of a run -/

/-- Where a single operation creates a node, if it does. -/
def created? (store : Store) (operation : StoreCommand) : Option String :=
  match operation, (store.perform operation).1 with
  | .create path _, .ok _ => some path
  | _, _ => none

/-- Where single operations in turn create nodes, oldest first. -/
def creations : Store → List StoreCommand → List String
  | _, [] => []
  | store, operation :: rest =>
      (store.created? operation).toList ++ (store.perform operation).2.creations rest

/-- The names of the paths right below another. -/
def namesBelow (parent : String) (paths : List String) : List String :=
  (paths.filter fun path => Path.parent? path = some parent).map Path.name

theorem namesBelow_append (parent : String) (front back : List String) :
    namesBelow parent (front ++ back) = namesBelow parent front ++ namesBelow parent back := by
  simp [namesBelow]

/-- What a single operation makes of the names of children: a new node comes behind its siblings, a
node without children goes, or the names stay. -/
inductive Relists (store : Store) : StoreCommand → Store → Prop where
  | kept {operation : StoreCommand} {after : Store} (nothing : store.created? operation = none)
      (relisted : ∀ path, after.children? path = store.children? path) :
      Relists store operation after
  | grown {path parent : String} {names : List String} {data : Payload} {after : Store}
      (created : store.created? (.create path data) = some path)
      (valid : Path.validate path = .ok ()) (hasParent : Path.parent? path = some parent)
      (absent : store.children? path = none) (siblings : store.children? parent = some names)
      (relisted : ∀ other, after.children? other =
        if other = path then some []
        else if other = parent then some (names ++ [Path.name path])
        else store.children? other) :
      Relists store (.create path data) after
  | shrunk {path parent : String} {names : List String} {after : Store}
      (hasParent : Path.parent? path = some parent) (leaf : store.children? path = some [])
      (siblings : store.children? parent = some names)
      (relisted : ∀ other, after.children? other =
        if other = path then none
        else if other = parent then some (names.erase (Path.name path))
        else store.children? other) :
      Relists store (.delete path) after

/-- Siblings have different names, so that the name of a new node is none of theirs. -/
theorem IsTree.name_not_mem (tree : store.IsTree) (valid : Path.validate path = .ok ())
    (hasParent : Path.parent? path = some parent) (absent : ¬ store.contains path)
    (siblings : store.children? parent = some names) : Path.name path ∉ names := by
  intro named
  obtain ⟨other, present, hasOther, sameName⟩ := (tree.linked siblings _).mp named
  have same := Path.eq_of_name (tree.valid present) hasOther valid hasParent sameName.symm
  exact absent (same ▸ present)

theorem relists (tree : store.IsTree) {operation : StoreCommand}
    (single : operation.isSingle = true) :
    store.Relists operation (store.perform operation).2 := by
  cases operation with
  | createWithAncestors | writeMany => cases single
  | «exists» | read | failNextListing | reportFailure | setAvailable | setCloseFails =>
      exact .kept rfl fun _ => rfl
  | list path =>
      refine .kept rfl fun other => ?_
      show (store.list path).2.children? other = store.children? other
      rw [store.list_snd path]
      rfl
  | create path data =>
      show store.Relists (.create path data) (store.create path data).2
      cases result : (store.create path data).1 with
      | error error =>
          have nothing : store.created? (.create path data) = none := by
            simp [created?, perform, result, Except.map]
          rcases store.create_outcome path data with ⟨_, refused⟩ | ⟨_, _, -, grown⟩
          · rw [refused]
            exact .kept nothing fun _ => rfl
          · rw [grown] at result
            cases result
      | ok answer =>
          obtain ⟨parent, parentNode, valid, hasParent, missing, parentThere, grown⟩ :=
            create_of_ok result
          have absent : ¬ store.contains path := by simp [contains, missing]
          have siblings : store.children? parent = some parentNode.children := by
            simp [children?, parentThere]
          have new := tree.name_not_mem valid hasParent absent siblings
          have created : store.created? (.create path data) = some path := by
            simp [created?, perform, result, Except.map]
          rw [grown]
          refine .grown created valid hasParent (by simp [children?, missing]) siblings fun other => ?_
          rw [children?_addNode, withChild, if_neg new]
  | write path data =>
      refine .kept rfl fun other => ?_
      show (store.write path data).2.children? other = store.children? other
      rcases store.write_outcome path with ⟨_, refused⟩ | ⟨node, valid, there⟩
      · rw [refused]
      · rw [write_eq valid there]
        simp only [node?] at there
        simp only [children?, node?, publish, Entries.find?_insert]
        split
        · rename_i isWritten
          simp [isWritten, there]
        · rfl
  | delete path =>
      show store.Relists (.delete path) (store.delete path).2
      rcases store.delete_outcome path with ⟨_, refused⟩ | ⟨-, deleted⟩
      · rw [refused]
        exact .kept rfl fun _ => rfl
      · obtain ⟨parent, names, -, hasParent, -, leaf, siblings, relisted⟩ :=
          delete_of_ok tree (congrArg Prod.fst deleted)
        exact .shrunk hasParent leaf siblings relisted

namespace Relists

variable {operation : StoreCommand}

theorem exists_names (relists : store.Relists operation after)
    (keeps : operation.isDeletion = false) (before : store.children? path = some names) :
    after.children? path = some (names ++ namesBelow path (store.created? operation).toList) := by
  cases relists with
  | kept nothing relisted => simp [nothing, relisted, before, namesBelow]
  | @grown new parent siblings _ _ created valid hasParent absent siblingsOf relisted =>
      have differs : path ≠ new := by
        rintro rfl
        cases absent.symm.trans before
      rw [relisted, if_neg differs, created]
      by_cases isParent : path = parent
      · subst isParent
        obtain rfl := Option.some.inj (siblingsOf.symm.trans before)
        simp [namesBelow, hasParent]
      · simp [namesBelow, hasParent, before, isParent, Ne.symm isParent]
  | shrunk => cases keeps

theorem created_or_contains (relists : store.Relists operation after)
    (present : after.contains path) :
    store.created? operation = some path ∨ store.contains path := by
  obtain ⟨names, childrenOf⟩ := contains_iff.mp present
  cases relists with
  | kept nothing relisted =>
      rw [relisted] at childrenOf
      exact .inr (contains_iff.mpr ⟨_, childrenOf⟩)
  | grown created valid hasParent absent siblingsOf relisted =>
      rw [relisted] at childrenOf
      split at childrenOf
      · rename_i isNew
        exact .inl (isNew ▸ created)
      · refine .inr (contains_iff.mpr ?_)
        split at childrenOf
        · rename_i isParent
          exact ⟨_, isParent ▸ siblingsOf⟩
        · exact ⟨_, childrenOf⟩
  | shrunk hasParent leaf siblingsOf relisted =>
      rw [relisted] at childrenOf
      split at childrenOf
      · cases childrenOf
      · refine .inr (contains_iff.mpr ?_)
        split at childrenOf
        · rename_i isParent
          exact ⟨_, isParent ▸ siblingsOf⟩
        · exact ⟨_, childrenOf⟩

/-- A deletion only takes names out. -/
theorem sublist_of_deletion (relists : store.Relists operation after)
    (deletes : operation.isDeletion = true) (before : store.children? path = some names)
    (still : after.children? path = some later) : later.Sublist names := by
  cases relists with
  | kept nothing relisted =>
      obtain rfl := Option.some.inj ((relisted path).symm.trans still |>.symm.trans before)
      exact .refl _
  | grown => cases deletes
  | shrunk hasParent leaf siblingsOf relisted =>
      rw [relisted] at still
      split at still
      · cases still
      · split at still
        · rename_i isParent
          cases still
          obtain rfl := Option.some.inj (siblingsOf.symm.trans (isParent ▸ before))
          exact List.erase_sublist
        · obtain rfl := Option.some.inj (still.symm.trans before)
          exact .refl _

end Relists

/-! ### What a command makes of the names -/

theorem filter_mem_of_sublist (distinct : names.Nodup) (sublist : later.Sublist names) :
    (names.filter fun name => name ∈ later) = later := by
  have within : later.Sublist (names.filter fun name => name ∈ later) := by
    have kept := sublist.filter fun name => decide (name ∈ later)
    rwa [List.filter_eq_self.mpr fun name member => decide_eq_true member] at kept
  have others : (names.filter fun name => name ∈ later).Subperm later :=
    (distinct.filter _).subperm fun name member => by simpa using (List.mem_filter.mp member).2
  exact (within.eq_of_length_le others.length_le).symm

/-- In a tree, those of the names that a node still has are the names of the nodes that still exist. -/
theorem IsTree.filter_contains (tree : store.IsTree) (treeAfter : after.IsTree)
    (before : store.children? path = some names) (still : after.children? path = some later) :
    (names.filter fun name => after.contains (Path.join path name)) =
      names.filter fun name => name ∈ later := by
  refine List.filter_congr fun name named => ?_
  obtain ⟨-, hasParent, sameName⟩ := tree.child before named
  rw [Bool.eq_iff_iff, decide_eq_true_iff]
  constructor
  · intro present
    exact (treeAfter.linked still name).mpr ⟨_, present, hasParent, sameName⟩
  · intro stillNamed
    exact (treeAfter.child still stillNamed).1

theorem operations_keep {command : StoreCommand} (keeps : command.isDeletion = false) :
    ∀ operation ∈ store.operations command, operation.isDeletion = false := by
  intro operation member
  unfold operations at member
  split at member
  · split at member
    · cases member
    · obtain ⟨missing, -, rfl⟩ := List.mem_map.mp member
      rfl
  · obtain ⟨number, -, rfl⟩ := List.mem_map.mp member
    rfl
  · rw [List.mem_singleton.mp member]
    exact keeps

theorem children?_run (tree : store.IsTree) {operations : List StoreCommand}
    (single : ∀ operation ∈ operations, operation.isSingle = true)
    (keep : ∀ operation ∈ operations, operation.isDeletion = false)
    (before : store.children? path = some names) :
    (store.run operations).children? path =
      some (names ++ namesBelow path (store.creations operations)) := by
  induction operations generalizing store names with
  | nil => simpa [run, creations, namesBelow] using before
  | cons operation rest inductionHypothesis =>
      have first := (relists tree (single operation List.mem_cons_self)).exists_names
        (keep operation List.mem_cons_self) before
      have others := inductionHypothesis (tree.changes (store.perform_changes operation))
        (fun other member => single other (List.mem_cons_of_mem _ member))
        (fun other member => keep other (List.mem_cons_of_mem _ member)) first
      rw [creations, namesBelow_append, ← List.append_assoc]
      exact others

/-- A command leaves the names of the nodes that still exist as they stood, and puts those of the nodes
that it creates behind them. -/
theorem names_perform (tree : store.IsTree) (command : StoreCommand)
    (before : store.children? path = some names)
    (still : (store.perform command).2.children? path = some later) :
    later = (names.filter fun name => (store.perform command).2.contains (Path.join path name)) ++
      namesBelow path (store.creations (store.operations command)) := by
  have treeAfter := tree.changes (store.perform_changes command)
  rw [tree.filter_contains treeAfter before still]
  cases deletes : command.isDeletion with
  | false =>
      have grown := children?_run tree (store.operations_single command)
        (operations_keep deletes) before
      rw [run_operations tree.rootPresent, still] at grown
      obtain rfl := Option.some.inj grown
      congr 1
      exact (List.filter_eq_self.mpr fun name named => by simp [named]).symm
  | true =>
      cases command with
      | delete target =>
          have sublist := (relists tree rfl).sublist_of_deletion deletes before still
          have nothing : namesBelow path (store.creations (store.operations (.delete target))) = [] :=
            rfl
          rw [nothing, List.append_nil, filter_mem_of_sublist (tree.distinct before) sublist]
      | _ => cases deletes

/-! ### The order of a run -/

/-- The last creation at one path comes before a creation at another. -/
def LastBefore (created : List String) (first second : String) : Prop :=
  ∃ earlier later, created = earlier ++ first :: later ∧ first ∉ later ∧ second ∈ later

namespace LastBefore

variable {created : List String} {first second new : String}

theorem concat (before : LastBefore created first second) (differs : first ≠ new) :
    LastBefore (created ++ [new]) first second := by
  obtain ⟨earlier, later, rfl, last, follows⟩ := before
  refine ⟨earlier, later ++ [new], by simp, ?_, List.mem_append_left _ follows⟩
  simpa using ⟨last, differs⟩

theorem of_mem (made : first ∈ created) (differs : first ≠ new) :
    LastBefore (created ++ [new]) first new := by
  induction created with
  | nil => cases made
  | cons head rest inductionHypothesis =>
      by_cases again : first ∈ rest
      · obtain ⟨earlier, later, split, last, follows⟩ := inductionHypothesis again
        exact ⟨head :: earlier, later, by rw [List.cons_append, split]; rfl, last, follows⟩
      · obtain rfl : first = head := (List.mem_cons.mp made).resolve_right again
        exact ⟨[], rest ++ [new], rfl, by simpa using ⟨again, differs⟩, by simp⟩

end LastBefore

/-- Every node but the root was created, and children stand in the order of their last creations. -/
structure InOrder (store : Store) (created : List String) : Prop where
  made : ∀ {path : String}, store.contains path → path ≠ Path.root → path ∈ created
  ordered : ∀ {path : String} {names : List String}, store.children? path = some names →
    names.Pairwise fun first second =>
      LastBefore created (Path.join path first) (Path.join path second)

namespace InOrder

variable {created : List String} {operation : StoreCommand}

theorem empty : Store.empty.InOrder [] where
  made := by
    intro path present notRoot
    simp [contains, node?, Store.empty, Entries.find?, Ne.symm notRoot] at present
  ordered := by
    intro path names childrenOf
    simp only [children?, node?, Store.empty, Entries.find?] at childrenOf
    split at childrenOf
    · cases childrenOf
      exact .nil
    · cases childrenOf

theorem step (inOrder : store.InOrder created) (tree : store.IsTree)
    (relists : store.Relists operation after) :
    after.InOrder (created ++ (store.created? operation).toList) := by
  refine ⟨fun {path} present notRoot => ?_, fun {path names} childrenOf => ?_⟩
  · rcases relists.created_or_contains present with isCreated | old
    · simp [isCreated]
    · exact List.mem_append_left _ (inOrder.made old notRoot)
  cases relists with
  | kept nothing relisted =>
      rw [nothing, Option.toList_none, List.append_nil]
      rw [relisted] at childrenOf
      exact inOrder.ordered childrenOf
  | @grown new parent siblings _ _ isCreated valid hasParent absent siblingsOf relisted =>
      rw [isCreated, Option.toList_some]
      have old : ∀ {path names name}, store.children? path = some names → name ∈ names →
          Path.join path name ≠ new := by
        intro path names name childrenOf named same
        obtain ⟨_, there⟩ := contains_iff.mp (tree.child childrenOf named).1
        rw [same, absent] at there
        cases there
      have kept : ∀ {path names}, store.children? path = some names →
          names.Pairwise fun first second =>
            LastBefore (created ++ [new]) (Path.join path first) (Path.join path second) := by
        intro path names childrenOf
        refine (inOrder.ordered childrenOf).imp_of_mem fun named _ before => ?_
        exact before.concat (old childrenOf named)
      rw [relisted] at childrenOf
      split at childrenOf
      · cases childrenOf
        exact .nil
      · split at childrenOf
        · -- The new name stands last, as its node was created last.
          rename_i isParent
          cases childrenOf
          rw [isParent, List.pairwise_append]
          refine ⟨kept siblingsOf, List.pairwise_singleton _ _, fun name named last isLast => ?_⟩
          rw [List.mem_singleton.mp isLast, Path.join_parent_name valid hasParent]
          obtain ⟨present, hasUpper, -⟩ := tree.child siblingsOf named
          have notRoot : Path.join parent name ≠ Path.root := by
            intro isRoot
            rw [isRoot] at hasUpper
            cases hasUpper
          exact .of_mem (inOrder.made present notRoot) (old siblingsOf named)
        · exact kept childrenOf
  | @shrunk gone parent siblings _ hasParent leaf siblingsOf relisted =>
      have nothing : store.created? (.delete gone) = none := rfl
      rw [nothing, Option.toList_none, List.append_nil]
      rw [relisted] at childrenOf
      split at childrenOf
      · cases childrenOf
      · split at childrenOf
        · rename_i isParent
          cases childrenOf
          rw [isParent]
          exact (inOrder.ordered siblingsOf).sublist List.erase_sublist
        · exact inOrder.ordered childrenOf

theorem run (inOrder : store.InOrder created) (tree : store.IsTree)
    {operations : List StoreCommand}
    (single : ∀ operation ∈ operations, operation.isSingle = true) :
    (store.run operations).InOrder (created ++ store.creations operations) := by
  induction operations generalizing store created with
  | nil => simpa [Store.run, creations] using inOrder
  | cons operation rest inductionHypothesis =>
      have first := inOrder.step tree (relists tree (single operation List.mem_cons_self))
      rw [creations, ← List.append_assoc]
      exact inductionHypothesis first (tree.changes (store.perform_changes operation))
        fun other member => single other (List.mem_cons_of_mem _ member)

end InOrder

/-- Whatever a fresh store is told, a listing that no failure waits for answers the names of exactly the
children that exist, each once, and of two children the one that was created last before the other comes
first. Whatever the store is told then, the names of the children that still exist stay in their order,
those of new children come behind them, and a child that is deleted and created again goes to the end. -/
theorem children_in_order_of_creation (commands : List StoreCommand) (path : String) :
    let store := Store.empty.run commands
    let created := Store.empty.creations (Store.empty.operationsOf commands)
    store.contains path → ∃ names,
      (store.listFailures.find? path = none → store.list path = (.ok names, store)) ∧
      names.Nodup ∧
      (∀ name, name ∈ names ↔
        ∃ child, store.contains child ∧ Path.parent? child = some path ∧ Path.name child = name) ∧
      (names.Pairwise fun first second =>
        LastBefore created (Path.join path first) (Path.join path second)) ∧
      (∀ command later, (store.perform command).2.children? path = some later →
        later = (names.filter fun name =>
            (store.perform command).2.contains (Path.join path name)) ++
          namesBelow path (store.creations (store.operations command))) ∧
      ∀ child data, Path.parent? child = some path → (store.delete child).1 = .ok () →
        ((store.delete child).2.create child data).2.children? path =
          some (names.erase (Path.name child) ++ [Path.name child]) := by
  intro store created present
  have tree : store.IsTree := run_isTree commands
  obtain ⟨names, childrenOf⟩ := contains_iff.mp present
  have inOrder : store.InOrder created := by
    have ran := InOrder.empty.run .empty (Store.empty.operationsOf_single commands)
    rwa [run_operationsOf .empty, List.nil_append] at ran
  refine ⟨names, fun noFailure => list_eq (tree.valid present) noFailure childrenOf,
    tree.distinct childrenOf, tree.linked childrenOf, inOrder.ordered childrenOf,
    fun command later still => names_perform tree command childrenOf still,
    fun child data hasParent deleted => ?_⟩
  obtain ⟨parent, siblings, valid, hasUpper, differs, -, siblingsOf, relisted⟩ :=
    delete_of_ok tree deleted
  obtain rfl := Option.some.inj (hasUpper.symm.trans hasParent)
  obtain rfl := Option.some.inj (siblingsOf.symm.trans childrenOf)
  have treeLeft : (store.delete child).2.IsTree := tree.changes (store.delete_changes child)
  have left : (store.delete child).2.children? parent = some (siblings.erase (Path.name child)) := by
    rw [relisted, if_neg differs, if_pos rfl]
  have absent : ¬ (store.delete child).2.contains child := by simp [contains_iff, relisted]
  obtain ⟨parentNode, parentThere, -⟩ := Option.map_eq_some_iff.mp left
  have made := create_of_parent valid hasParent absent parentThere data
  have isCreated : (store.delete child).2.created? (.create child data) = some child := by
    simp [created?, perform, made, Except.map]
  have single : (StoreCommand.create child data).isSingle = true := rfl
  have grown := (relists treeLeft single).exists_names rfl left
  rw [isCreated] at grown
  simpa [perform, namesBelow, hasParent] using grown

/-- The node that `rebuilt` deletes and creates again is listed behind the one that was created in
between. -/
theorem rebuilt_in_order :
    let store := Store.empty.run rebuilt
    store.contains Path.root ∧ store.list Path.root = (.ok ["b", "a"], store) ∧
      LastBefore ["/a", "/b", "/b/c", "/a", "/a/d", "/a/d/e"] "/b" "/a" := by
  intro store
  have present : store.contains Path.root := rfl
  obtain ⟨names, listed, -, -, ordered, -⟩ := children_in_order_of_creation rebuilt Path.root present
  have answered : store.list Path.root = (.ok ["b", "a"], store) := rfl
  have sameNames : names = ["b", "a"] := by
    have same := (listed rfl).symm.trans answered
    exact Except.ok.inj (Prod.mk.inj same).1
  rw [sameNames] at ordered
  exact ⟨present, answered, (List.pairwise_cons.mp ordered).1 "a" List.mem_cons_self⟩

end Store

end LiveConfig
