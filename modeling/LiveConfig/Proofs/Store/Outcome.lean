import LiveConfig.Proofs.Store.Creation

/-!
Contract: how the operations of a store end.

Each of them fails and leaves the store as it was, or succeeds and makes one change. Owns: the two ends
of every operation, the success of creations with ancestors at every accepted path, and what is left of
a store after a command that failed. Does not own: which error an operation fails with.
-/

namespace LiveConfig.Store

variable {store : Store} {path : String}

/-! ### Single operations -/

section Operations

variable (store) (path)

theorem create_outcome (data : Payload) :
    (∃ error, store.create path data = (.error error, store)) ∨
      ∃ parent parentNode, Path.parent? path = some parent ∧
        store.create path data = (.ok (), store.addNode path parent parentNode data) := by
  unfold create
  split
  · exact .inl ⟨_, rfl⟩
  · split
    · exact .inl ⟨_, rfl⟩
    · rename_i parent hasParent
      split
      · exact .inl ⟨_, rfl⟩
      · split
        · exact .inl ⟨_, rfl⟩
        · rename_i parentNode _
          exact .inr ⟨parent, parentNode, hasParent, rfl⟩

/-- Whether a write fails does not depend on the bytes. -/
theorem write_outcome :
    (∃ error, ∀ data, store.write path data = (.error error, store)) ∨
      ∃ node, Path.validate path = .ok () ∧ store.node? path = some node := by
  cases valid : Path.validate path with
  | error error => exact .inl ⟨error, fun data => by simp [write, valid]⟩
  | ok answer =>
      cases there : store.node? path with
      | none => exact .inl ⟨.noNode path, fun data => by simp [write, valid, there]⟩
      | some node => exact .inr ⟨node, rfl, rfl⟩

theorem delete_outcome :
    (∃ error, store.delete path = (.error error, store)) ∨
      path ≠ Path.root ∧ store.delete path = (.ok (), { store with
        nodes := unlink store.nodes path
        lastVersion := store.nextVersion }.publish (.deleted path store.nextVersion)) := by
  unfold delete
  split
  · exact .inl ⟨_, rfl⟩
  · split
    · exact .inl ⟨_, rfl⟩
    · rename_i notRoot
      split
      · exact .inl ⟨_, rfl⟩
      · split
        · exact .inl ⟨_, rfl⟩
        · exact .inr ⟨notRoot, rfl⟩

/-- A listing uses up a failure at most. -/
theorem list_snd :
    (store.list path).2 = { store with listFailures := (store.list path).2.listFailures } := by
  unfold list
  split
  · rfl
  · split
    · rfl
    · split <;> rfl

end Operations

theorem write_eq {node : Node} (valid : Path.validate path = .ok ())
    (there : store.node? path = some node) (data : Payload) :
    store.write path data = (.ok store.nextVersion, { store with
      nodes := store.nodes.insert path { node with data := data, version := store.nextVersion }
      lastVersion := store.nextVersion }.publish (.dataChanged path data store.nextVersion)) := by
  simp [write, valid, there]

/-! ### Writes in a row -/

theorem writeEach_of_refused {error : StoreError}
    (refused : ∀ data, store.write path data = (.error error, store)) (template : List Char)
    (numbers : List Nat) : (store.writeEach path template numbers).2 = store := by
  induction numbers with
  | nil => rfl
  | cons number rest inductionHypothesis =>
      simp only [writeEach, refused]
      split
      · rename_i others
        rw [others] at inductionHypothesis
        exact inductionHypothesis
      · exact inductionHypothesis

/-- Writes in a row to a node that exists succeed. -/
theorem exists_version_of_writeEach (valid : Path.validate path = .ok ())
    (present : store.contains path) {template : List Char} {numbers : List Nat}
    {result : Except StoreError Nat}
    (last : (store.writeEach path template numbers).1 = some result) :
    ∃ version, result = .ok version := by
  induction numbers generalizing store with
  | nil => cases last
  | cons number rest inductionHypothesis =>
      obtain ⟨node, there⟩ := Option.isSome_iff_exists.mp present
      simp only [writeEach, write_eq valid there] at last
      split at last
      · cases last
        exact ⟨_, rfl⟩
      · refine inductionHypothesis ?_ last
        simp [contains, node?, publish, Entries.find?_insert]

/-! ### Creations with ancestors -/

theorem missingChain_of_contains (present : store.contains path) : store.missingChain path = [] := by
  simp [missingChain, present]

theorem missingChain_of_parent? {parent : String} (valid : Path.validate path = .ok ())
    (hasParent : Path.parent? path = some parent) (absent : ¬ store.contains path) :
    store.missingChain path = path :: store.missingChain parent := by
  simp [missingChain, Path.ancestors_of_parent? valid hasParent, absent]

theorem createEach_append {nodes more : List (String × Payload)} {middle : Store}
    (first : store.createEach nodes = (.ok (), middle)) :
    store.createEach (nodes ++ more) = middle.createEach more := by
  induction nodes generalizing store with
  | nil =>
      cases first
      rfl
  | cons head rest inductionHypothesis =>
      obtain ⟨path, data⟩ := head
      simp only [List.cons_append, createEach] at first ⊢
      split at first
      · exact inductionHypothesis first
      · exact inductionHypothesis first
      · cases first

/-- Below a node that exists a creation leaves a node, whether it makes it or not. -/
theorem createEach_singleton {parent : String} (valid : Path.validate path = .ok ())
    (hasParent : Path.parent? path = some parent) (parentPresent : store.contains parent)
    (data : Payload) :
    ∃ after, store.createEach [(path, data)] = (.ok (), after) ∧ after.contains path := by
  obtain ⟨parentNode, parentThere⟩ := Option.isSome_iff_exists.mp parentPresent
  by_cases present : store.contains path
  · exact ⟨store, by simp [createEach, create_of_contains valid present], present⟩
  · refine ⟨store.addNode path parent parentNode data, ?_, ?_⟩
    · simp [createEach, create_of_parent valid hasParent present parentThere]
    · exact (contains_addNode path data parentThere path).mpr (.inl rfl)

/-- In a store with a root the missing nodes of an accepted path can be created, whatever bytes they
get. -/
theorem createEach_missingChain (rootPresent : store.contains Path.root) (payload : String → Payload)
    (path : String) (valid : Path.validate path = .ok ()) :
    ∃ after, store.createEach ((store.missingChain path).reverse.map fun missing =>
        (missing, payload missing)) = (.ok (), after) ∧ after.contains path := by
  induction path, valid using Path.descending_induction with
  | atRoot => exact ⟨store, by simp [missingChain_of_contains rootPresent, createEach], rootPresent⟩
  | @below path parent valid hasParent inductionHypothesis =>
      by_cases present : store.contains path
      · exact ⟨store, by simp [missingChain_of_contains present, createEach], present⟩
      · obtain ⟨middle, created, parentPresent⟩ := inductionHypothesis
        rw [missingChain_of_parent? valid hasParent present, List.reverse_cons, List.map_append,
          createEach_append created]
        exact createEach_singleton valid hasParent parentPresent _

/-- A creation with ancestors fails at paths alone that are not accepted. -/
theorem createWithAncestors_fst (rootPresent : store.contains Path.root) (path : String)
    (data : Payload) : (store.createWithAncestors path data).1 = Path.validate path := by
  unfold createWithAncestors
  cases valid : Path.validate path with
  | error error => rfl
  | ok answer =>
      obtain ⟨after, created, -⟩ := createEach_missingChain rootPresent
        (fun missing => if missing = path then data else []) path valid
      simp only [created]

/-! ### Commands that fail -/

/-- Of a command that failed nothing is left but a listing's use of a failure. -/
theorem perform_of_error (rootPresent : store.contains Path.root) {command : StoreCommand}
    {error : StoreError} (failed : (store.perform command).1 = .error error) :
    (store.perform command).2 =
      { store with listFailures := (store.perform command).2.listFailures } := by
  cases command with
  | «exists» | read => rfl
  | failNextListing | reportFailure | setAvailable | setCloseFails => cases failed
  | create path data =>
      rcases store.create_outcome path data with ⟨refusal, refused⟩ | ⟨_, _, -, created⟩
      · simp [perform, refused]
      · simp [perform, created, Except.map] at failed
  | write path data =>
      rcases store.write_outcome path with ⟨refusal, refused⟩ | ⟨node, valid, there⟩
      · simp [perform, refused]
      · simp [perform, write_eq valid there, Except.map] at failed
  | delete path =>
      rcases store.delete_outcome path with ⟨refusal, refused⟩ | ⟨-, deleted⟩
      · simp [perform, refused]
      · simp [perform, deleted, Except.map] at failed
  | list path => exact store.list_snd path
  | createWithAncestors path data =>
      have answer := createWithAncestors_fst rootPresent path data
      cases valid : Path.validate path with
      | error refusal => simp [perform, createWithAncestors, valid]
      | ok _ => simp [perform, answer, valid, Except.map] at failed
  | writeMany path template count =>
      -- Writes never remove a node, so the first write decides whether the row fails.
      rcases store.write_outcome path with ⟨refusal, refused⟩ | ⟨node, valid, there⟩
      · have unchanged := writeEach_of_refused refused template.toList (List.range count)
        have same : (store.perform (.writeMany path template count)).2 = store := by
          simp only [perform]
          split <;> rename_i last <;> rw [last] at unchanged <;> exact unchanged
        rw [same]
      · have present : store.contains path := by simp [contains, there]
        simp only [perform] at failed
        split at failed
        · cases failed
        · rename_i result _ last
          have answered : (store.writeEach path template.toList (List.range count)).1 = some result := by
            rw [last]
          obtain ⟨version, rfl⟩ := exists_version_of_writeEach valid present answered
          cases failed

end LiveConfig.Store
