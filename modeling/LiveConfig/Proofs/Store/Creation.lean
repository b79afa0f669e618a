import LiveConfig.Proofs.Store.Tree

/-!
Contract: the requests of a resolution at accepted paths.

Owns: what they answer, and what a creation does to the nodes. A node that exists stays, and a creation
below an existing parent always leaves a node. Also owns what a store becomes that grows by the way to a
node. Does not own: who creates the nodes.
-/

namespace LiveConfig.Store

variable {store : Store} {path parent : String}

theorem exists?_eq (valid : Path.validate path = .ok ()) :
    store.exists? path = .ok (store.contains path) := by
  simp [exists?, valid]

theorem list_eq {names : List String} (valid : Path.validate path = .ok ())
    (noFailure : store.listFailures.find? path = none) (childrenOf : store.children? path = some names) :
    store.list path = (.ok names, store) := by
  obtain ⟨node, present, rfl⟩ := Option.map_eq_some_iff.mp childrenOf
  simp [list, valid, noFailure, present]

/-! ### Creations -/

theorem create_of_contains (valid : Path.validate path = .ok ()) (present : store.contains path)
    (data : Payload) : store.create path data = (.error (.nodeExists path), store) := by
  simp only [create, valid]
  split
  · rfl
  · rw [if_pos present]

theorem create_of_parent {parentNode : Node} (valid : Path.validate path = .ok ())
    (hasParent : Path.parent? path = some parent) (absent : ¬ store.contains path)
    (parentThere : store.node? parent = some parentNode) (data : Payload) :
    store.create path data = (.ok (), store.addNode path parent parentNode data) := by
  simp [create, valid, hasParent, absent, parentThere]

variable (store) in
/-- A creation either does nothing or puts a node without children where none was. -/
theorem create_cases (path : String) (data : Payload) :
    (store.create path data).2 = store ∨
      ∃ parent parentNode, Path.validate path = .ok () ∧ Path.parent? path = some parent ∧
        store.node? path = none ∧ store.node? parent = some parentNode ∧
        (store.create path data).2 = store.addNode path parent parentNode data := by
  unfold create
  split
  · exact .inl rfl
  · rename_i valid
    split
    · exact .inl rfl
    · rename_i parent hasParent
      split
      · exact .inl rfl
      · rename_i absent
        split
        · exact .inl rfl
        · rename_i parentNode parentThere
          exact .inr ⟨parent, parentNode, valid, hasParent, by simpa [contains] using absent,
            parentThere, rfl⟩

/-- A node that exists stays. -/
theorem contains_create {other : String} (present : store.contains other) (path : String)
    (data : Payload) : (store.create path data).2.contains other := by
  obtain same | ⟨parent, parentNode, -, -, -, parentThere, grown⟩ := store.create_cases path data
  · rwa [same]
  · rw [grown]
    exact (contains_addNode path data parentThere other).mpr (.inr present)

theorem listFailures_create (path : String) (data : Payload) :
    (store.create path data).2.listFailures = store.listFailures := by
  obtain same | ⟨parent, parentNode, -, -, -, -, grown⟩ := store.create_cases path data
  · rw [same]
  · rw [grown]
    rfl

/-! ### Growth -/

theorem contains_eq_isSome_contents? (store : Store) (path : String) :
    store.contains path = (store.contents? path).isSome := by
  simp [contains, contents?]

/-- A store after creations without bytes at some of the places that were given for them. -/
structure Sprouts (places : List String) (before after : Store) : Prop where
  changes : Changes before after
  kept : ∀ {path : String}, before.contains path → after.contents? path = before.contents? path
  new : ∀ {path : String}, ¬ before.contains path → after.contains path →
    path ∈ places ∧ ∃ version, after.contents? path = some ⟨[], version⟩

/-- A store that has grown by the way to a node: what was missing on it was created without bytes, and
nothing else has changed. -/
structure GrownTo (path : String) (before after : Store) : Prop where
  kept : ∀ {other : String}, before.contains other → after.contents? other = before.contents? other
  made : ∀ {other : String}, ¬ before.contains other → other ∈ path :: Path.ancestors path →
    ∃ version, after.contents? other = some ⟨[], version⟩
  nothingElse : ∀ {other : String}, ¬ before.contains other → other ∉ path :: Path.ancestors path →
    ¬ after.contains other
  isTree : after.IsTree

namespace Sprouts

variable {places : List String} {before after : Store}

theorem refl (places : List String) (store : Store) : Sprouts places store store where
  changes := .refl
  kept _ := rfl
  new absent present := absurd present absent

theorem create (sprouts : Sprouts places before store) (given : path ∈ places) :
    Sprouts places before (store.create path []).2 := by
  obtain same | ⟨parent, parentNode, -, -, missing, parentThere, grown⟩ := store.create_cases path []
  · rwa [same]
  · have contents : ∀ other, (store.addNode path parent parentNode []).contents? other =
        if other = path then some ⟨[], store.nextVersion⟩ else store.contents? other :=
      store.contents?_addNode [] parentThere
    constructor
    · exact sprouts.changes.trans (store.create_changes path [])
    · intro other present
      have differs : other ≠ path := by
        rintro rfl
        have still := sprouts.kept present
        rw [contains_eq_isSome_contents?, ← still] at present
        simp [contents?, missing] at present
      rw [grown, contents, if_neg differs, sprouts.kept present]
    · intro other absent present
      rw [grown] at present ⊢
      rw [contents]
      split
      · rename_i isNew
        exact ⟨isNew ▸ given, _, rfl⟩
      · rename_i differs
        rcases (contains_addNode path [] parentThere other).mp present with isNew | already
        · exact absurd isNew differs
        · exact sprouts.new absent already

/-- A node on whose way alone something was created is there with all of its way. -/
theorem grownTo (sprouts : Sprouts (path :: Path.ancestors path) before after) (tree : before.IsTree)
    (present : after.contains path) : GrownTo path before after := by
  have isTree := tree.changes sprouts.changes
  refine ⟨sprouts.kept, fun absent onTheWay => ?_, fun absent off present => ?_, isTree⟩
  · have there : ∀ other ∈ path :: Path.ancestors path, after.contains other := by
      intro other member
      rcases List.mem_cons.mp member with rfl | above
      · exact present
      · exact isTree.contains_ancestor present other above
    exact (sprouts.new absent (there _ onTheWay)).2
  · exact off (sprouts.new absent present).1

end Sprouts

/-- A new node at the end of the way has no children. -/
theorem GrownTo.children? {before after : Store} {names : List String}
    (grown : GrownTo path before after) (tree : before.IsTree) (absent : ¬ before.contains path)
    (childrenOf : after.children? path = some names) : names = [] := by
  have valid := grown.isTree.valid (contains_iff.mpr ⟨names, childrenOf⟩)
  refine List.eq_nil_iff_forall_not_mem.mpr fun name named => ?_
  obtain ⟨childThere, hasParent, -⟩ := grown.isTree.child childrenOf named
  by_cases before : before.contains (Path.join path name)
  · exact absent (tree.parentPresent before hasParent)
  · by_cases onTheWay : Path.join path name ∈ path :: Path.ancestors path
    · exact Path.not_mem_ancestors valid (Path.parent?_mem_ancestors valid onTheWay hasParent)
    · exact grown.nothingElse before onTheWay childThere

end LiveConfig.Store
