import LiveConfig.Proofs.Resolution.Course

/-!
Contract: a resolution that nobody interrupts, over a store.

Owns: its result and the store that it leaves, both of which are determined by the store that it finds.
Does not own: the service between a resolution and its store.
-/

namespace LiveConfig.Resolution

variable {root : String} {before store : Store}

/-- A root that exists is listed, whether it would be created or not. -/
theorem resolve_of_present {names : List String} (ground : Ground root store)
    (childrenOf : store.children? root = some names) (autoRefreshed : Bool) :
    resolve Store.serve root autoRefreshed store = (.ok (.present false names), store) := by
  have present := Store.contains_iff.mpr ⟨names, childrenOf⟩
  have entered : enter Store.serve root autoRefreshed store = (.listing false, store) := by
    simp only [enter, ground.valid, Store.serve, Store.exists?_eq ground.valid, present]
  have listed : list Store.serve root false store =
      (.finished (.ok (.present false names)), store) := by
    simp only [list, Store.serve, Store.list_eq ground.valid ground.noFailure childrenOf]
  simp only [resolve, stepBound, run, step, entered, listed]

/-- A missing root that is not to be created stays missing. -/
theorem resolve_of_static (valid : Path.validate root = .ok ()) (absent : ¬ store.contains root) :
    resolve Store.serve root false store = (.ok .absent, store) := by
  have entered : enter Store.serve root false store = (.finished (.ok .absent), store) := by
    simp only [Bool.not_eq_true] at absent
    simp only [enter, valid, Store.serve, Store.exists?_eq valid, absent, Bool.false_eq_true, if_false]
  simp only [resolve, stepBound, run, step, entered]

/-- What is known in the course of a resolution that is alone with a store without its root. -/
structure Alone (root : String) (before : Store) (progress : Resolution) (store : Store) : Prop where
  ground : Ground root store
  course : progress.OnCourse root store
  sprouts : Store.Sprouts (root :: Path.ancestors root) before store
  created : progress.hasCreated = true ↔ store.contains root
  listed : ∀ {justCreated : Bool} {names : List String},
    progress = .finished (.ok (.present justCreated names)) → store.children? root = some names

theorem Alone.step {progress : Resolution} (alone : Alone root before progress store) :
    Alone root before (step Store.serve root true store progress).1
      (step Store.serve root true store progress).2 := by
  have stepped := step_stepped alone.ground alone.course
  generalize (Resolution.step Store.serve root true store progress).1 = next at stepped ⊢
  generalize (Resolution.step Store.serve root true store progress).2 = after at stepped ⊢
  have created : next.hasCreated = true ↔
      store.contains root ∨ (¬ store.contains root ∧ after.contains root) := by
    rw [stepped.created, alone.created]
  rcases stepped.writes with rfl | ⟨node, left, wasCreated, rfl, rfl⟩
  · refine ⟨alone.ground, stepped.course, alone.sprouts, ?_, fun ended => ?_⟩
    · rw [created]
      exact or_iff_left fun both => both.1 both.2
    · rcases stepped.listed ended with already | ⟨-, childrenOf⟩
      · exact alone.listed (already.trans ended)
      · exact childrenOf
  · cases alone.course with
    | creating present descent last =>
        have onTheWay := descent.mem alone.ground.valid node (by simp)
        refine ⟨alone.ground.create node [], stepped.course, alone.sprouts.create onTheWay, ?_,
          fun ended => ?_⟩
        · rw [created]
          constructor
          · rintro (already | ⟨-, now⟩)
            · exact Store.contains_create already node []
            · exact now
          · intro now
            by_cases already : store.contains root
            · exact .inl already
            · exact .inr ⟨already, now⟩
        · rcases stepped.listed ended with already | ⟨listing, -⟩
          · cases already.trans ended
          · cases listing

/-- A missing root that is to be created is created, with its way, and listed. -/
theorem resolve_of_missing (tree : store.IsTree) (ground : Ground root store)
    (absent : ¬ store.contains root) :
    ∃ after, resolve Store.serve root true store = (.ok (.present true []), after) ∧
      Store.GrownTo root store after := by
  have start : Alone root store .entering store :=
    ⟨ground, .entering, .refl _ store, by simpa [hasCreated] using absent, nofun⟩
  have ended : Alone root store (.finished (resolve Store.serve root true store).1)
      (resolve Store.serve root true store).2 :=
    run_keeps (fun _ _ => Alone.step) (Nat.le_refl _) start
  generalize resolve Store.serve root true store = outcome at ended ⊢
  obtain ⟨result, after⟩ := outcome
  obtain ⟨-, course, sprouts, created, listed⟩ := ended
  cases course with
  | @finished justCreated names present =>
      obtain rfl : justCreated = true := created.mpr present
      have grown := sprouts.grownTo tree present
      obtain rfl := grown.children? tree absent (listed rfl)
      exact ⟨after, rfl, grown⟩

end LiveConfig.Resolution
