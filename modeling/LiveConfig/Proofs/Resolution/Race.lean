import LiveConfig.Proofs.Resolution.Course
import LiveConfig.Resolution.Race
import Mathlib.Data.List.Induction

/-!
Contract: losing a race for the creation of a root is no error.

Several resolutions of one root path and rival creators take turns in any order, and nobody deletes.
Owns: who has made the root, that every resolution ends with the root and its children, and that the
one that says it has created the root is the one that made it. Does not own: the course of a single
resolution.
-/

namespace LiveConfig.ResolutionRace

/-- The result of a resolution that is over. -/
def result? (race : ResolutionRace) (key : Nat) : Option (Except ConfigError RootState) :=
  match race.resolutions[key]? with
  | some (.finished result) => some result
  | _ => none

/-- The root came to exist by an action of a run. -/
def MakesRoot (race : ResolutionRace) (actions : List RaceAction) (maker : RaceAction) : Prop :=
  ∃ earlier later, actions = earlier ++ maker :: later ∧
    ¬ (race.after earlier).store.contains race.root ∧
      ((race.after earlier).step maker).store.contains race.root

/-- The names that the root's children had when a resolution listed them. -/
def Lists (race : ResolutionRace) (actions : List RaceAction) (key : Nat) (names : List String) :
    Prop :=
  ∃ earlier later justCreated, actions = earlier ++ .resolve key :: later ∧
    (race.after earlier).resolutions[key]? = some (.listing justCreated) ∧
      (race.after earlier).store.children? race.root = some names

variable {race : ResolutionRace} {actions : List RaceAction}

theorem after_concat (actions : List RaceAction) (action : RaceAction) :
    race.after (actions ++ [action]) = (race.after actions).step action := by
  simp [after]

/-! ### One action -/

theorem step_root (action : RaceAction) : (race.step action).root = race.root := by
  cases action with
  | resolve key =>
      simp only [step, advance]
      split <;> rfl
  | create path data => rfl

theorem after_root (actions : List RaceAction) : (race.after actions).root = race.root := by
  induction actions using List.reverseRecOn with
  | nil => rfl
  | append_singleton earlier action inductionHypothesis =>
      rw [after_concat, step_root, inductionHypothesis]

/-- What an action does to a resolution other than to advance it. -/
theorem step_resolutions_ne {action : RaceAction} {key : Nat} (other : action ≠ .resolve key) :
    (race.step action).resolutions[key]? = race.resolutions[key]? := by
  cases action with
  | resolve moved =>
      have differs : moved ≠ key := fun same => other (same ▸ rfl)
      simp only [step, advance]
      split
      · rfl
      · simp [differs]
  | create path data => rfl

theorem advance_eq {key : Nat} {progress : Resolution}
    (there : race.resolutions[key]? = some progress) :
    (race.step (.resolve key)).store = (progress.step Store.serve race.root true race.store).2 ∧
      (race.step (.resolve key)).resolutions[key]? =
        some (progress.step Store.serve race.root true race.store).1 := by
  obtain ⟨inRange, -⟩ := List.getElem?_eq_some_iff.mp there
  simp only [step, advance, there, List.getElem?_set_self inRange, and_self]

theorem advance_none {key : Nat} (nobody : race.resolutions[key]? = none) :
    race.step (.resolve key) = race := by
  simp [step, advance, nobody]

theorem length_step (action : RaceAction) :
    (race.step action).resolutions.length = race.resolutions.length := by
  cases action with
  | resolve key =>
      simp only [step, advance]
      split
      · rfl
      · exact List.length_set
  | create path data => rfl

theorem length_after (actions : List RaceAction) :
    (race.after actions).resolutions.length = race.resolutions.length := by
  induction actions using List.reverseRecOn with
  | nil => rfl
  | append_singleton earlier action inductionHypothesis =>
      rw [after_concat, length_step, inductionHypothesis]

/-- What one more action adds to the makers of the root. -/
theorem makesRoot_concat {action maker : RaceAction} :
    MakesRoot race (actions ++ [action]) maker ↔
      MakesRoot race actions maker ∨ (action = maker ∧
        ¬ (race.after actions).store.contains race.root ∧
          ((race.after actions).step action).store.contains race.root) := by
  constructor
  · rintro ⟨earlier, later, split, absent, present⟩
    rcases List.eq_nil_or_concat later with rfl | ⟨before, last, rfl⟩
    · obtain ⟨rfl, sameAction⟩ := List.append_inj' split rfl
      cases sameAction
      exact .inr ⟨rfl, absent, present⟩
    · have shifted : actions ++ [action] = (earlier ++ maker :: before) ++ [last] := by
        simpa using split
      obtain ⟨rfl, -⟩ := List.append_inj' shifted rfl
      exact .inl ⟨earlier, before, rfl, absent, present⟩
  · rintro (⟨earlier, later, rfl, absent, present⟩ | ⟨rfl, absent, present⟩)
    · exact ⟨earlier, later ++ [action], by simp, absent, present⟩
    · exact ⟨actions, [], rfl, absent, present⟩

theorem Lists.concat {key : Nat} {names : List String} (lists : Lists race actions key names)
    (action : RaceAction) : Lists race (actions ++ [action]) key names := by
  obtain ⟨earlier, later, justCreated, rfl, listing, childrenOf⟩ := lists
  exact ⟨earlier, later ++ [action], justCreated, by simp, listing, childrenOf⟩

/-- A root that was missing and is there was made by an action. -/
theorem exists_maker (absent : ¬ race.store.contains race.root)
    (present : (race.after actions).store.contains race.root) :
    ∃ maker, MakesRoot race actions maker := by
  induction actions using List.reverseRecOn with
  | nil => exact absurd present absent
  | append_singleton earlier action inductionHypothesis =>
      by_cases before : (race.after earlier).store.contains race.root
      · obtain ⟨maker, makes⟩ := inductionHypothesis before
        exact ⟨maker, makesRoot_concat.mpr (.inl makes)⟩
      · rw [after_concat] at present
        exact ⟨action, makesRoot_concat.mpr (.inr ⟨rfl, before, present⟩)⟩

/-! ### What an action does -/

/-- What one action does to a race on its course: at most one resolution makes a step, and no node
goes. -/
structure Acts (root : String) (race : ResolutionRace) (action : RaceAction) : Prop where
  ground : Resolution.Ground root (race.step action).store
  stays : ∀ path, race.store.contains path → (race.step action).store.contains path
  each : ∀ {key : Nat} {progress : Resolution},
    (race.step action).resolutions[key]? = some progress →
      (action ≠ .resolve key ∧ race.resolutions[key]? = some progress) ∨
        (action = .resolve key ∧ ∃ previous, race.resolutions[key]? = some previous ∧
          Resolution.Stepped root race.store previous progress (race.step action).store)

section Acts

variable {root : String} (ground : Resolution.Ground root race.store)

include ground

theorem acts_create (path : String) (data : Payload) : Acts root race (.create path data) where
  ground := ground.create path data
  stays _ present := Store.contains_create present path data
  each there := .inl ⟨nofun, there⟩

theorem acts_resolve (sameRoot : race.root = root) {key : Nat} {progress : Resolution}
    (there : race.resolutions[key]? = some progress) (course : progress.OnCourse root race.store) :
    Acts root race (.resolve key) := by
  obtain ⟨storeAfter, progressAfter⟩ := advance_eq there
  rw [sameRoot] at storeAfter progressAfter
  have stepped := Resolution.step_stepped ground course
  rw [← storeAfter] at stepped
  constructor
  · rcases stepped.writes with same | ⟨node, left, created, -, grown⟩
    · rwa [same]
    · rw [grown]
      exact ground.create node []
  · intro path present
    rcases stepped.writes with same | ⟨node, left, created, -, grown⟩
    · rwa [same]
    · rw [grown]
      exact Store.contains_create present node []
  · intro other state found
    by_cases moved : RaceAction.resolve key = .resolve other
    · cases moved
      cases progressAfter.symm.trans found
      exact .inr ⟨rfl, progress, there, stepped⟩
    · rw [step_resolutions_ne moved] at found
      exact .inl ⟨moved, found⟩

theorem acts (sameRoot : race.root = root)
    (course : ∀ {key : Nat} {progress : Resolution}, race.resolutions[key]? = some progress →
      progress.OnCourse root race.store)
    (action : RaceAction) : Acts root race action := by
  cases action with
  | create path data => exact acts_create ground path data
  | resolve key =>
      cases there : race.resolutions[key]? with
      | some progress => exact acts_resolve ground sameRoot there (course there)
      | none =>
          -- Nobody is there to move.
          have idle := advance_none there
          refine ⟨?_, fun path => ?_, fun found => .inl ?_⟩
          · rwa [idle]
          · rw [idle]
            exact id
          · rw [idle] at found
            refine ⟨fun same => ?_, found⟩
            cases same
            cases there.symm.trans found

end Acts

/-! ### What a run keeps -/

/-- What holds after every run of a race. -/
structure Kept (race : ResolutionRace) (actions : List RaceAction) : Prop where
  ground : Resolution.Ground race.root (race.after actions).store
  course : ∀ {key : Nat} {progress : Resolution},
    (race.after actions).resolutions[key]? = some progress →
      progress.OnCourse race.root (race.after actions).store
  created : ∀ {key : Nat} {progress : Resolution},
    (race.after actions).resolutions[key]? = some progress →
      (progress.hasCreated = true ↔ MakesRoot race actions (.resolve key))
  lists : ∀ {key : Nat} {justCreated : Bool} {names : List String},
    (race.after actions).resolutions[key]? = some (.finished (.ok (.present justCreated names))) →
      Lists race actions key names
  /-- A root that was made is still there. -/
  made : ∀ {maker : RaceAction}, MakesRoot race actions maker →
    (race.after actions).store.contains race.root
  unique : ∀ {maker other : RaceAction}, MakesRoot race actions maker →
    MakesRoot race actions other → maker = other

namespace Kept

theorem unique_concat (kept : Kept race actions) {action maker other : RaceAction}
    (first : MakesRoot race (actions ++ [action]) maker)
    (second : MakesRoot race (actions ++ [action]) other) : maker = other := by
  rcases makesRoot_concat.mp first with before | ⟨rfl, absent, -⟩
  · rcases makesRoot_concat.mp second with alsoBefore | ⟨-, absent, -⟩
    · exact kept.unique before alsoBefore
    · exact absurd (kept.made before) absent
  · rcases makesRoot_concat.mp second with before | ⟨same, -, -⟩
    · exact absurd (kept.made before) absent
    · exact same

/-- Whatever happens next, everything is kept. -/
theorem concat (kept : Kept race actions) (action : RaceAction) :
    Kept race (actions ++ [action]) := by
  have acts := acts kept.ground (after_root actions) kept.course action
  constructor
  · rw [after_concat]
    exact acts.ground
  · intro key progress there
    rw [after_concat] at there ⊢
    rcases acts.each there with ⟨-, before⟩ | ⟨-, previous, -, stepped⟩
    · exact (kept.course before).grown acts.stays
    · exact stepped.course
  · intro key progress there
    rw [after_concat] at there
    rw [makesRoot_concat]
    rcases acts.each there with ⟨another, before⟩ | ⟨own, previous, before, stepped⟩
    · rw [kept.created before]
      exact (or_iff_left fun both => another both.1).symm
    · rw [stepped.created, kept.created before]
      simp [own]
  · intro key justCreated names there
    rw [after_concat] at there
    rcases acts.each there with ⟨-, before⟩ | ⟨rfl, previous, before, stepped⟩
    · exact (kept.lists before).concat action
    · rcases stepped.listed rfl with already | ⟨listing, childrenOf⟩
      · rw [already] at before
        exact (kept.lists before).concat _
      · rw [listing] at before
        exact ⟨actions, [], justCreated, rfl, before, childrenOf⟩
  · intro maker makes
    rw [after_concat]
    rcases makesRoot_concat.mp makes with before | ⟨-, -, now⟩
    · exact acts.stays _ (kept.made before)
    · exact now
  · exact kept.unique_concat

end Kept

theorem resolutions_start {root : String} {store : Store} {count key : Nat} {progress : Resolution}
    (there : (start root store count).resolutions[key]? = some progress) : progress = .entering := by
  have member := List.mem_of_getElem? there
  exact List.eq_of_mem_replicate member

theorem kept_after {root : String} {store : Store} (ground : Resolution.Ground root store)
    (count : Nat) (actions : List RaceAction) : Kept (start root store count) actions := by
  have nobody : ∀ maker, ¬ MakesRoot (start root store count) [] maker := by
    rintro maker ⟨earlier, later, split, -⟩
    exact List.append_ne_nil_of_right_ne_nil earlier (List.cons_ne_nil maker later) split.symm
  induction actions using List.reverseRecOn with
  | nil =>
      constructor
      · exact ground
      · intro key progress there
        rw [resolutions_start there]
        exact .entering
      · intro key progress there
        rw [resolutions_start there]
        simpa [Resolution.hasCreated] using nobody _
      · intro key justCreated names there
        cases resolutions_start there
      · exact fun makes => absurd makes (nobody _)
      · exact fun makes => absurd makes (nobody _)
  | append_singleton earlier action inductionHypothesis =>
      exact inductionHypothesis.concat action

/-! ### The end of a race -/

/-- A resolution that has made so many steps has come that much nearer to its end. -/
theorem stepsLeft_after {root : String} {store : Store} {count key : Nat} {progress : Resolution}
    (there : ((start root store count).after actions).resolutions[key]? = some progress) :
    progress.stepsLeft root ≤ Resolution.stepBound root - actions.count (.resolve key) := by
  induction actions using List.reverseRecOn generalizing progress with
  | nil =>
      rw [resolutions_start there]
      exact Nat.le_refl _
  | append_singleton earlier action inductionHypothesis =>
      rw [after_concat] at there
      by_cases own : action = .resolve key
      · subst own
        rw [List.count_append, List.count_singleton_self]
        cases before : ((start root store count).after earlier).resolutions[key]? with
        | none => simp [advance_none before, before] at there
        | some previous =>
            obtain ⟨-, next⟩ := advance_eq before
            rw [after_root] at next
            cases next.symm.trans there
            have fewer := Resolution.stepsLeft_step root true Store.serve
              ((start root store count).after earlier).store previous
            have left := inductionHypothesis before
            show Resolution.stepsLeft root (Resolution.step Store.serve root true _ previous).1 ≤ _
            omega
      · rw [step_resolutions_ne own] at there
        rw [List.count_append, List.count_singleton, if_neg (by simpa using own)]
        exact inductionHypothesis there

theorem result?_eq_some {key : Nat} {result : Except ConfigError RootState}
    (ended : race.result? key = some result) : race.resolutions[key]? = some (.finished result) := by
  unfold result? at ended
  split at ended
  · rename_i there
    cases ended
    exact there
  · cases ended

namespace Kept

variable {key : Nat}

theorem present (kept : Kept race actions) {result : Except ConfigError RootState}
    (ended : (race.after actions).result? key = some result) :
    ∃ justCreated names, result = .ok (.present justCreated names) ∧
      (race.after actions).store.contains race.root ∧ Lists race actions key names ∧
      (justCreated = true ↔ MakesRoot race actions (.resolve key)) := by
  have there := result?_eq_some ended
  cases kept.course there with
  | @finished justCreated names rootThere =>
      exact ⟨justCreated, names, rfl, rootThere, kept.lists there, kept.created there⟩

theorem creator (kept : Kept race actions) {names : List String}
    (ended : (race.after actions).result? key = some (.ok (.present true names))) :
    MakesRoot race actions (.resolve key) :=
  (kept.created (result?_eq_some ended)).mp rfl

/-- Whoever makes the root by a step of its own takes part in the race. -/
theorem lt_length (makes : MakesRoot race actions (.resolve key)) :
    key < race.resolutions.length := by
  obtain ⟨earlier, later, -, before, now⟩ := makes
  by_contra outside
  rw [← length_after earlier] at outside
  rw [advance_none (List.getElem?_eq_none (Nat.le_of_not_lt outside))] at now
  exact before now

theorem exists_unique_creator (kept : Kept race actions) (somebody : 0 < race.resolutions.length)
    (absent : ¬ race.store.contains race.root)
    (noRival : ∀ path data, ¬ MakesRoot race actions (.create path data))
    (allEnded : ∀ key < race.resolutions.length,
      ∃ result, (race.after actions).result? key = some result) :
    ∃! key, ∃ names, (race.after actions).result? key = some (.ok (.present true names)) := by
  obtain ⟨result, ended⟩ := allEnded 0 somebody
  obtain ⟨-, -, -, rootThere, -⟩ := kept.present ended
  obtain ⟨maker, makes⟩ := exists_maker absent rootThere
  cases maker with
  | create path data => exact absurd makes (noRival path data)
  | resolve key =>
      obtain ⟨result, keyEnded⟩ := allEnded key (lt_length makes)
      obtain ⟨justCreated, names, rfl, -, -, made⟩ := kept.present keyEnded
      obtain rfl := made.mpr makes
      refine ⟨key, ⟨names, keyEnded⟩, ?_⟩
      rintro other ⟨otherNames, otherEnded⟩
      exact RaceAction.resolve.inj (kept.unique (kept.creator otherEnded) makes)

end Kept

/-- What a race guarantees to the resolutions that take part in it. -/
structure NeverLost (race : ResolutionRace) (actions : List RaceAction) : Prop where
  /-- A resolution that is let go on returns. -/
  returns : ∀ key < race.resolutions.length,
    Resolution.stepBound race.root ≤ actions.count (.resolve key) →
      ∃ result, (race.after actions).result? key = some result
  /-- It returns that the root is present, which it is, with the children that it listed; and that it
  has created the root exactly if it made it. -/
  present : ∀ key result, (race.after actions).result? key = some result →
    ∃ justCreated names, result = .ok (.present justCreated names) ∧
      (race.after actions).store.contains race.root ∧ Lists race actions key names ∧
      (justCreated = true ↔ MakesRoot race actions (.resolve key))
  atMostOne : ∀ key other names otherNames,
    (race.after actions).result? key = some (.ok (.present true names)) →
    (race.after actions).result? other = some (.ok (.present true otherNames)) → key = other
  exactlyOne : 0 < race.resolutions.length → ¬ race.store.contains race.root →
    (∀ path data, ¬ MakesRoot race actions (.create path data)) →
    (∀ key < race.resolutions.length, ∃ result, (race.after actions).result? key = some result) →
    ∃! key, ∃ names, (race.after actions).result? key = some (.ok (.present true names))

/-- Losing a race for the creation of a root is no error: in whatever order resolutions of it take turns
with creations by others. -/
theorem never_lost (commands : List StoreCommand) (root : String) (count : Nat)
    (actions : List RaceAction) (valid : Path.validate root = .ok ())
    (noFailure : (Store.empty.run commands).listFailures.find? root = none) :
    NeverLost (start root (Store.empty.run commands) count) actions := by
  have ground : Resolution.Ground root (Store.empty.run commands) :=
    ⟨valid, (Store.run_isTree commands).rootPresent, noFailure⟩
  have kept := kept_after ground count actions
  constructor
  · intro key inRange enough
    rw [← length_after actions] at inRange
    obtain ⟨progress, there⟩ : ∃ progress,
        ((start root (Store.empty.run commands) count).after actions).resolutions[key]? =
          some progress :=
      ⟨_, List.getElem?_eq_getElem inRange⟩
    have left := stepsLeft_after there
    have ended : progress.stepsLeft root = 0 := by
      change Resolution.stepBound root ≤ _ at enough
      omega
    obtain ⟨result, rfl⟩ := Resolution.finished_of_stepsLeft ended
    exact ⟨result, by simp [result?, there]⟩
  · exact fun key result => kept.present
  · intro key other names otherNames ended otherEnded
    exact RaceAction.resolve.inj (kept.unique (kept.creator ended) (kept.creator otherEnded))
  · exact kept.exists_unique_creator

/-- Two resolutions in turns, after whose first steps a rival creates the parent of the root. -/
def crowded : List RaceAction :=
  [.resolve 0, .resolve 1, .resolve 0, .create "/a" [1]] ++
    (List.replicate 9 [RaceAction.resolve 0, .resolve 1]).flatten

theorem crowded_never_lost :
    (start "/a/b" (Store.empty.run []) 2 |>.after crowded).result? 0 =
        some (.ok (.present false [])) ∧
      (start "/a/b" (Store.empty.run []) 2 |>.after crowded).result? 1 =
        some (.ok (.present true [])) ∧
      NeverLost (start "/a/b" (Store.empty.run []) 2) crowded :=
  ⟨rfl, rfl, never_lost [] "/a/b" 2 crowded rfl rfl⟩

end LiveConfig.ResolutionRace
