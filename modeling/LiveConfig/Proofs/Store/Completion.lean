import LiveConfig.Proofs.Store.Outcome

/-!
Contract: what a creation with ancestors makes of a store.

It walks up to the first place where a node exists, and creates what is missing on the way back down, so
that the parent of each new node is there before it. Owns: the contents and the versions of all nodes
afterwards, the events that were published, and that a second creation does nothing. Does not own: paths
that are not accepted.
-/

namespace LiveConfig.Store

variable {store before middle after : Store} {path : String} {payload : String → Payload}
  {made : List String}

/-! ### Creations in a row -/

/-- What creations at some places in turn make of a store: each takes the next version, and nothing else
changes. -/
structure Filled (payload : String → Payload) (made : List String) (before after : Store) : Prop where
  contents : ∀ place, after.contents? place =
    if place ∈ made then some ⟨payload place, before.lastVersion + made.idxOf place + 1⟩
    else before.contents? place
  lastVersion : after.lastVersion = before.lastVersion + made.length
  feed : after.feed.toList = before.feed.toList ++ made.mapIdx fun index place =>
    .dataChanged place (payload place) (before.lastVersion + index + 1)

namespace Filled

theorem refl (payload : String → Payload) (store : Store) : Filled payload [] store store where
  contents _ := rfl
  lastVersion := rfl
  feed := by simp

theorem contains_iff (filled : Filled payload made before after) (place : String) :
    after.contains place ↔ before.contains place ∨ place ∈ made := by
  rw [contains_eq_isSome_contents?, contains_eq_isSome_contents?, filled.contents]
  by_cases isMade : place ∈ made
  · simp [isMade]
  · simp [isMade]

/-- One more creation, at a new place. -/
theorem concat {parent : String} {parentNode : Node} (filled : Filled payload made before middle)
    (isNew : path ∉ made) (parentThere : middle.node? parent = some parentNode) :
    Filled payload (made ++ [path]) before
      (middle.addNode path parent parentNode (payload path)) where
  contents place := by
    rw [contents?_addNode middle (payload path) parentThere, nextVersion, filled.lastVersion,
      filled.contents]
    by_cases isPath : place = path
    · subst isPath
      simp [isNew, List.idxOf_append]
    · by_cases isMade : place ∈ made
      · simp [isPath, isMade, List.idxOf_append]
      · simp [isPath, isMade]
  lastVersion := by
    show middle.lastVersion + 1 = before.lastVersion + (made ++ [path]).length
    rw [filled.lastVersion, List.length_append, List.length_singleton]
    omega
  feed := by
    show (middle.feed.push (.dataChanged path (payload path) (middle.lastVersion + 1))).toList = _
    rw [Array.toList_push, filled.feed, filled.lastVersion, List.mapIdx_append]
    simp

end Filled

/-! ### The missing chain -/

/-- In a tree nothing is missing above a node, so that the walk up to the first node finds everything
that is missing. -/
theorem missingChain_eq_filter (tree : store.IsTree) (valid : Path.validate path = .ok ()) :
    store.missingChain path = (path :: Path.ancestors path).filter (!store.contains ·) := by
  induction path, valid using Path.descending_induction with
  | atRoot => simp [missingChain_of_contains tree.rootPresent, Path.ancestors_root, tree.rootPresent]
  | @below path parent valid hasParent inductionHypothesis =>
      by_cases present : store.contains path
      · have above := tree.contains_ancestor present
        rw [missingChain_of_contains present, eq_comm, List.filter_eq_nil_iff]
        intro place member
        rcases List.mem_cons.mp member with rfl | isAbove
        · simp [present]
        · simp [above place isAbove]
      · rw [missingChain_of_parent? valid hasParent present, inductionHypothesis,
          Path.ancestors_of_parent? valid hasParent]
        simp [present]

theorem mem_missingChain_iff (tree : store.IsTree) (valid : Path.validate path = .ok ())
    {place : String} : place ∈ store.missingChain path ↔
      (place = path ∨ Path.Above place path) ∧ ¬ store.contains place := by
  rw [missingChain_eq_filter tree valid, List.mem_filter, List.mem_cons, Path.mem_ancestors_iff valid]
  simp

/-- The missing nodes of an accepted path can be created from the shallowest to the deepest, whatever
bytes they get, and nothing else changes. -/
theorem createEach_missingChain_filled (tree : store.IsTree) (payload : String → Payload)
    (path : String) (valid : Path.validate path = .ok ()) :
    ∃ after, store.createEach ((store.missingChain path).reverse.map fun missing =>
        (missing, payload missing)) = (.ok (), after) ∧
      Filled payload (store.missingChain path).reverse store after := by
  induction path, valid using Path.descending_induction with
  | atRoot =>
      rw [missingChain_of_contains tree.rootPresent]
      exact ⟨store, rfl, .refl payload store⟩
  | @below path parent valid hasParent inductionHypothesis =>
      by_cases present : store.contains path
      · rw [missingChain_of_contains present]
        exact ⟨store, rfl, .refl payload store⟩
      · obtain ⟨middle, created, filled⟩ := inductionHypothesis
        have parentValid := Path.validate_parent valid hasParent
        -- Whether the parent was there or not, it is there now.
        have parentPresent : middle.contains parent := by
          rw [filled.contains_iff, List.mem_reverse, mem_missingChain_iff tree parentValid]
          by_cases parentBefore : store.contains parent
          · exact .inl parentBefore
          · exact .inr ⟨.inl rfl, parentBefore⟩
        obtain ⟨parentNode, parentThere⟩ := Option.isSome_iff_exists.mp parentPresent
        have isNew : path ∉ (store.missingChain parent).reverse := by
          intro member
          have below := List.mem_of_mem_filter
            (missingChain_eq_filter tree parentValid ▸ List.mem_reverse.mp member)
          rw [← Path.ancestors_of_parent? valid hasParent] at below
          exact Path.not_mem_ancestors valid below
        have absent : ¬ middle.contains path := by
          rw [filled.contains_iff]
          exact fun either => either.elim present isNew
        rw [missingChain_of_parent? valid hasParent present, List.reverse_cons, List.map_append,
          createEach_append created]
        refine ⟨middle.addNode path parent parentNode (payload path), ?_, filled.concat isNew parentThere⟩
        simp [createEach, create_of_parent valid hasParent absent parentThere]

/-! ### Creations with ancestors -/

/-- A store after the creation of a node with its missing ancestors: `made` are the new places, from the
shallowest to the deepest. -/
structure Completed (path : String) (data : Payload) (made : List String) (before after : Store) :
    Prop where
  missing : ∀ place, place ∈ made ↔
    (place = path ∨ Path.Above place path) ∧ ¬ before.contains place
  descending : made.Pairwise Path.Above
  present : ∀ place, after.contains place ↔
    before.contains place ∨ place = path ∨ Path.Above place path
  kept : ∀ place, before.contains place → after.contents? place = before.contents? place
  /-- Each new node takes the next version, and only the node itself gets the bytes. -/
  new : ∀ (index : Nat) (place : String), made[index]? = some place →
    after.contents? place =
      some ⟨if place = path then data else [], before.lastVersion + index + 1⟩
  lastVersion : after.lastVersion = before.lastVersion + made.length
  told : after.feed.toList = before.feed.toList ++ made.mapIdx fun index place =>
    .dataChanged place (if place = path then data else []) (before.lastVersion + index + 1)

theorem Filled.completed {data : Payload} (tree : before.IsTree) (valid : Path.validate path = .ok ())
    (filled : Filled (fun missing => if missing = path then data else [])
      (before.missingChain path).reverse before after) :
    Completed path data (before.missingChain path).reverse before after where
  missing place := by
    rw [List.mem_reverse, mem_missingChain_iff tree valid]
  descending := by
    rw [List.pairwise_reverse, missingChain_eq_filter tree valid]
    exact (Path.pairwise_above valid).filter _
  present place := by
    rw [filled.contains_iff, List.mem_reverse, mem_missingChain_iff tree valid]
    tauto
  kept place there := by
    have notMade : place ∉ (before.missingChain path).reverse := by
      rw [List.mem_reverse, mem_missingChain_iff tree valid]
      exact fun both => both.2 there
    rw [filled.contents, if_neg notMade]
  new index place found := by
    have distinct : (before.missingChain path).reverse.Nodup := by
      rw [List.nodup_reverse, missingChain_eq_filter tree valid]
      exact (Path.nodup_way valid).filter _
    obtain ⟨below, isPlace⟩ := List.getElem?_eq_some_iff.mp found
    have position : (before.missingChain path).reverse.idxOf place = index := by
      rw [← isPlace]
      exact distinct.idxOf_getElem index below
    rw [filled.contents, if_pos (List.mem_of_getElem? found), position]
  lastVersion := filled.lastVersion
  told := filled.feed

theorem createWithAncestors_of_contains (valid : Path.validate path = .ok ())
    (present : store.contains path) (data : Payload) :
    store.createWithAncestors path data = (.ok (), store) := by
  simp [createWithAncestors, valid, missingChain_of_contains present, createEach]

/-- Whatever a store was told before, a creation with ancestors succeeds at every accepted path. What is
missing of the path and of everything above it is made, from the shallowest to the deepest in consecutive
versions, and nothing else changes: where the node is there already, nothing at all, and neither does
anything when the creation is repeated. -/
theorem createWithAncestors_completes (commands : List StoreCommand) (path : String) (data : Payload)
    (valid : Path.validate path = .ok ()) :
    let store := Store.empty.run commands
    ∃ after made, store.createWithAncestors path data = (.ok (), after) ∧
      Completed path data made store after ∧
      (store.contains path → after = store) ∧
      ∀ again, after.createWithAncestors path again = (.ok (), after) := by
  intro store
  have tree : store.IsTree := run_isTree commands
  obtain ⟨after, created, filled⟩ := createEach_missingChain_filled tree
    (fun missing => if missing = path then data else []) path valid
  have completed := filled.completed tree valid
  have present : after.contains path := (completed.present path).mpr (.inr (.inl rfl))
  have answered : store.createWithAncestors path data = (.ok (), after) := by
    simp only [createWithAncestors, valid, created]
  refine ⟨after, _, answered, completed, fun already => ?_,
    createWithAncestors_of_contains valid present⟩
  rw [createWithAncestors_of_contains valid already] at answered
  exact (Prod.mk.inj answered).2.symm

/-- What a store is told in which the upper part of a way exists. -/
def begun : List StoreCommand :=
  [.createWithAncestors "/app/eu" [0x6b], .write "/app" [0x6d]]

theorem begun_completed :
    let store := Store.empty.run begun
    Path.validate "/app/eu/db/pool" = .ok () ∧
      ∃ after made, store.createWithAncestors "/app/eu/db/pool" [0x78] = (.ok (), after) ∧
        Completed "/app/eu/db/pool" [0x78] made store after ∧
        (store.contains "/app/eu/db/pool" → after = store) ∧
        (∀ again, after.createWithAncestors "/app/eu/db/pool" again = (.ok (), after)) ∧
        after.contents? "/app" = some ⟨[0x6d], 3⟩ ∧
        after.contents? "/app/eu/db" = some ⟨[], 4⟩ ∧
        after.contents? "/app/eu/db/pool" = some ⟨[0x78], 5⟩ := by
  intro store
  have valid : Path.validate "/app/eu/db/pool" = .ok () := rfl
  obtain ⟨after, made, answered, completed, unchanged, repeated⟩ :=
    createWithAncestors_completes begun "/app/eu/db/pool" [0x78] valid
  obtain rfl : (store.createWithAncestors "/app/eu/db/pool" [0x78]).2 = after :=
    congrArg Prod.snd answered
  exact ⟨valid, _, made, answered, completed, unchanged, repeated, rfl, rfl, rfl⟩

end LiveConfig.Store
