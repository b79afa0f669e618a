import LiveConfig.Proofs.Resolution.Steps
import LiveConfig.Proofs.Store.Creation

/-!
Contract: resolutions that are to create their root, over a store in which nothing is deleted.

Owns: what a resolution on its course relies on, which others can only make truer by creating nodes, and
what one step of it does: it stays on its course, and it has created the root exactly if the root came to
exist by its own step. Does not own: runs of several resolutions.
-/

namespace LiveConfig.Resolution

/-- Whether a resolution has created its root. -/
def hasCreated : Resolution → Bool
  | .creating _ created => created
  | .listing justCreated => justCreated
  | .finished (.ok (.present justCreated _)) => justCreated
  | .entering | .probing .. | .confirming | .finished _ => false

/-- What a resolution relies on to end well. It creates nodes along a descent to the root that begins at
an existing node, and creates the root last. -/
inductive OnCourse (root : String) (store : Store) : Resolution → Prop where
  | entering : OnCourse root store .entering
  | probing {place : String} {way : List String} (valid : Path.validate place = .ok ())
      (notRoot : place ≠ Path.root) (descent : Path.Descent place way root) :
      OnCourse root store (.probing (place :: way) (Path.ancestors place))
  | creating {top : String} {left : List String} {created : Bool} (present : store.contains top)
      (descent : Path.Descent top left root) (last : created = true → left = []) :
      OnCourse root store (.creating left created)
  | confirming (present : store.contains root) : OnCourse root store .confirming
  | listing {justCreated : Bool} (present : store.contains root) :
      OnCourse root store (.listing justCreated)
  | finished {justCreated : Bool} {names : List String} (present : store.contains root) :
      OnCourse root store (.finished (.ok (.present justCreated names)))

variable {root : String} {store : Store}

/-- More nodes lead no resolution off its course. -/
theorem OnCourse.grown {after : Store} {progress : Resolution}
    (kept : ∀ path, store.contains path → after.contains path) (course : OnCourse root store progress) :
    OnCourse root after progress := by
  cases course with
  | entering => exact .entering
  | probing valid notRoot descent => exact .probing valid notRoot descent
  | creating present descent last => exact .creating (kept _ present) descent last
  | confirming present => exact .confirming (kept _ present)
  | listing present => exact .listing (kept _ present)
  | finished present => exact .finished (kept _ present)

/-- The stores over which resolutions of a root are considered. -/
structure Ground (root : String) (store : Store) : Prop where
  valid : Path.validate root = .ok ()
  /-- The root of the store exists. -/
  rooted : store.contains Path.root
  noFailure : store.listFailures.find? root = none

theorem Ground.create (ground : Ground root store) (path : String) (data : Payload) :
    Ground root (store.create path data).2 where
  valid := ground.valid
  rooted := Store.contains_create ground.rooted path data
  noFailure := by rw [Store.listFailures_create, ground.noFailure]

/-- What one step does: at most one creation, which makes the root exactly if the resolution says so
afterwards. A resolution ends by listing the children that the root has then. -/
structure Stepped (root : String) (store : Store) (progress next : Resolution) (after : Store) :
    Prop where
  course : OnCourse root after next
  writes : after = store ∨ ∃ node left created,
    progress = .creating (node :: left) created ∧ after = (store.create node []).2
  created : next.hasCreated = true ↔
    progress.hasCreated = true ∨ (¬ store.contains root ∧ after.contains root)
  listed : ∀ {justCreated : Bool} {names : List String},
    next = .finished (.ok (.present justCreated names)) →
      progress = next ∨ (progress = .listing justCreated ∧ store.children? root = some names)

/-- A step that does nothing to the store, and nothing to the claim of having created the root. -/
theorem Stepped.idle {progress next : Resolution} (course : OnCourse root store next)
    (same : next.hasCreated = progress.hasCreated)
    (listed : ∀ {justCreated : Bool} {names : List String},
      next = .finished (.ok (.present justCreated names)) →
        progress = next ∨ (progress = .listing justCreated ∧ store.children? root = some names)) :
    Stepped root store progress next store where
  course := course
  writes := .inl rfl
  listed := listed
  created := by
    rw [same]
    exact ⟨.inl, fun either => either.elim id fun both => absurd both.2 both.1⟩

theorem afterProbe_ancestors {place : String} {missing : List String}
    (valid : Path.validate place = .ok ()) (notRoot : place ≠ Path.root) :
    afterProbe missing (Path.ancestors place) = .probing missing (Path.ancestors place) := by
  obtain ⟨parent, hasParent⟩ := Path.exists_parent? valid notRoot
  rw [Path.ancestors_of_parent? valid hasParent]
  rfl

/-- A creation on the way finds a node, or makes one; the node is the root exactly if none is left to
create. -/
theorem create_stepped {top node : String} {left : List String} {created : Bool}
    (present : store.contains top) (descent : Path.Descent top (node :: left) root)
    (last : created = true → node :: left = []) :
    Stepped root store (.creating (node :: left) created)
      (create Store.serve root node left created store).1
      (create Store.serve root node left created store).2 := by
  obtain rfl : created = false := by
    cases created
    · rfl
    · cases last rfl
  cases descent with
  | down valid hasParent onward =>
      by_cases already : store.contains node
      · simp only [create, Store.serve, Store.create_of_contains valid already]
        exact .idle (.creating already onward (by simp)) rfl (by simp)
      · obtain ⟨topNode, topThere⟩ := Option.isSome_iff_exists.mp present
        have made := Store.create_of_parent valid hasParent already topThere []
        have nowThere := Store.contains_addNode node [] topThere
        have isRoot : node = root ↔ left = [] := by
          constructor
          · rintro rfl
            exact onward.eq_nil
          · rintro rfl
            cases onward
            rfl
        simp only [create, Store.serve, made]
        refine ⟨.creating ((nowThere node).mpr (.inl rfl)) onward ?_,
          .inr ⟨node, left, false, rfl, by rw [made]⟩, ?_, by simp⟩
        · simpa using isRoot.mp
        · simp only [hasCreated, decide_eq_true_eq, Bool.false_eq_true, false_or, nowThere]
          constructor
          · rintro rfl
            exact ⟨already, .inl rfl⟩
          · rintro ⟨absent, isNode | before⟩
            · exact isNode.symm
            · exact absurd before absent

section Step

variable (ground : Ground root store)

include ground

theorem Ground.ne_root {path : String} (absent : store.contains path = false) :
    path ≠ Path.root := by
  rintro rfl
  rw [ground.rooted] at absent
  cases absent

theorem enter_stepped : Stepped root store .entering
    (enter Store.serve root true store).1 (enter Store.serve root true store).2 := by
  simp only [enter, ground.valid, Store.serve, Store.exists?_eq ground.valid]
  cases present : store.contains root with
  | true => exact .idle (.listing present) rfl (by simp)
  | false =>
      have notRoot := ground.ne_root present
      simp only [if_true, afterProbe_ancestors ground.valid notRoot]
      exact .idle (.probing ground.valid notRoot (.here root)) rfl (by simp)

theorem probe_stepped {place parent : String} {way : List String}
    (valid : Path.validate place = .ok ()) (hasParent : Path.parent? place = some parent)
    (descent : Path.Descent place way root) :
    Stepped root store (.probing (place :: way) (parent :: Path.ancestors parent))
      (probe Store.serve (place :: way) parent (Path.ancestors parent) store).1
      (probe Store.serve (place :: way) parent (Path.ancestors parent) store).2 := by
  have parentValid := Path.validate_parent valid hasParent
  have longer : Path.Descent parent (place :: way) root := .down valid hasParent descent
  simp only [probe, Store.serve, Store.exists?_eq parentValid]
  cases present : store.contains parent with
  | true => exact .idle (.creating present longer (by simp)) rfl (by simp)
  | false =>
      have notRoot := ground.ne_root present
      simp only [afterProbe_ancestors parentValid notRoot]
      exact .idle (.probing parentValid notRoot longer) rfl (by simp)

theorem confirm_stepped (present : store.contains root) :
    Stepped root store .confirming (confirm Store.serve root store).1
      (confirm Store.serve root store).2 := by
  simp only [confirm, Store.serve, Store.exists?_eq ground.valid, present]
  exact .idle (.listing present) rfl (by simp)

/-- The listing answers the names of the root's children. -/
theorem list_eq (justCreated : Bool) (present : store.contains root) :
    ∃ names, store.children? root = some names ∧
      list Store.serve root justCreated store =
        (.finished (.ok (.present justCreated names)), store) := by
  obtain ⟨names, childrenOf⟩ := Store.contains_iff.mp present
  refine ⟨names, childrenOf, ?_⟩
  simp only [list, Store.serve, Store.list_eq ground.valid ground.noFailure childrenOf]

/-- A resolution on its course stays on it with every step. -/
theorem step_stepped {progress : Resolution} (course : OnCourse root store progress) :
    Stepped root store progress (step Store.serve root true store progress).1
      (step Store.serve root true store progress).2 := by
  cases course with
  | entering => exact enter_stepped ground
  | probing valid notRoot descent =>
      obtain ⟨parent, hasParent⟩ := Path.exists_parent? valid notRoot
      rw [Path.ancestors_of_parent? valid hasParent]
      exact probe_stepped ground valid hasParent descent
  | @creating top left created present descent last =>
      cases left with
      | nil =>
          cases descent
          cases created
          · exact .idle (.confirming present) rfl nofun
          · exact .idle (.listing present) rfl nofun
      | cons node left => exact create_stepped present descent last
  | confirming present => exact confirm_stepped ground present
  | @listing justCreated present =>
      obtain ⟨names, childrenOf, listed⟩ := list_eq ground justCreated present
      simp only [step, listed]
      refine .idle (.finished present) rfl fun ended => .inr ?_
      cases ended
      exact ⟨rfl, childrenOf⟩
  | finished present => exact .idle (.finished present) rfl fun _ => .inl rfl

end Step

end LiveConfig.Resolution
