import LiveConfig.Proofs.Path.Segments

/-!
Contract: the ancestors of accepted paths, and the ways down from them.

Every accepted path but the root has an accepted parent, below which its name leads back to it. Owns:
induction from the root down, the recursion of the ancestors, that it reaches everything above a path, and
descents. Does not own: which nodes exist.
-/

namespace LiveConfig.Path

theorem validate_root : validate root = .ok () := rfl

theorem parent?_root : parent? root = none := rfl

theorem ancestors_root : ancestors root = [] := rfl

variable {path parent : String}

/-- An accepted path is the root, or is spelled from its parent and one more segment. -/
theorem root_or_concat (valid : validate path = .ok ()) :
    path = root ∨ ∃ front last, (∀ part ∈ front, Clean part) ∧ Clean last ∧
      path = spell (front ++ [last]) := by
  obtain ⟨list, clean, rfl⟩ := validate_eq_ok_iff.mp valid
  cases list using List.reverseRecOn with
  | nil => exact .inl rfl
  | append_singleton front last =>
      exact .inr ⟨front, last, fun part member => clean part (by simp [member]),
        clean last (by simp), rfl⟩

theorem validate_spell {list : List (List Char)} (clean : ∀ part ∈ list, Clean part) :
    validate (spell list) = .ok () :=
  validate_eq_ok_iff.mpr ⟨list, clean, rfl⟩

/-- Every accepted path but the root has a parent. -/
theorem exists_parent? (valid : validate path = .ok ()) (notRoot : path ≠ root) :
    ∃ parent, parent? path = some parent := by
  obtain isRoot | ⟨front, last, -, lastClean, rfl⟩ := root_or_concat valid
  · exact absurd isRoot notRoot
  · exact ⟨spell front, parent?_spell_concat front lastClean⟩

section Parent

variable (valid : validate path = .ok ()) (hasParent : parent? path = some parent)

include valid hasParent

theorem validate_parent : validate parent = .ok () := by
  obtain rfl | ⟨front, last, frontClean, lastClean, rfl⟩ := root_or_concat valid
  · cases parent?_root.symm.trans hasParent
  · cases (parent?_spell_concat front lastClean).symm.trans hasParent
    exact validate_spell frontClean

/-- The name of a path leads from its parent back to it. -/
theorem join_parent_name : join parent (name path) = path := by
  obtain rfl | ⟨front, last, frontClean, lastClean, rfl⟩ := root_or_concat valid
  · cases parent?_root.symm.trans hasParent
  · cases (parent?_spell_concat front lastClean).symm.trans hasParent
    rw [name_spell_concat front lastClean, join_spell frontClean lastClean]

/-- Paths are told apart by their parents and names. -/
theorem eq_of_name {other : String} (otherValid : validate other = .ok ())
    (otherHasParent : parent? other = some parent) (sameName : name other = name path) :
    other = path := by
  rw [← join_parent_name otherValid otherHasParent, sameName, join_parent_name valid hasParent]

end Parent

/-- Induction from the root down. -/
theorem descending_induction {motive : (path : String) → validate path = .ok () → Prop}
    (atRoot : motive root validate_root)
    (below : ∀ {path parent : String} (valid : validate path = .ok ())
      (hasParent : parent? path = some parent),
      motive parent (validate_parent valid hasParent) → motive path valid)
    (path : String) (valid : validate path = .ok ()) : motive path valid := by
  obtain ⟨list, clean, rfl⟩ := validate_eq_ok_iff.mp valid
  induction list using List.reverseRecOn with
  | nil => exact atRoot
  | append_singleton front last inductionHypothesis =>
      have frontClean : ∀ part ∈ front, Clean part := fun part member => clean part (by simp [member])
      exact below valid (parent?_spell_concat front (clean last (by simp)))
        (inductionHypothesis frontClean (validate_spell frontClean))

/-! ### Ancestors -/

/-- As soon as it exceeds the number of segments, the bound of the recursion does not matter. -/
theorem ancestorsFrom_spell {list : List (List Char)} (clean : ∀ part ∈ list, Clean part)
    {fuel other : Nat} (enough : list.length < fuel) (alsoEnough : list.length < other) :
    ancestorsFrom fuel (spell list) = ancestorsFrom other (spell list) := by
  induction list using List.reverseRecOn generalizing fuel other with
  | nil =>
      cases fuel <;> cases other <;> rfl
  | append_singleton front last inductionHypothesis =>
      have lastClean := clean last (by simp)
      have frontClean : ∀ part ∈ front, Clean part := fun part member => clean part (by simp [member])
      simp only [List.length_append, List.length_singleton] at enough alsoEnough
      obtain ⟨fuel, rfl⟩ : ∃ less, fuel = less + 1 := ⟨fuel - 1, by omega⟩
      obtain ⟨other, rfl⟩ : ∃ less, other = less + 1 := ⟨other - 1, by omega⟩
      simp only [ancestorsFrom, parent?_spell_concat front lastClean]
      exact congrArg _ (inductionHypothesis frontClean (by omega) (by omega))

theorem length_le_length_spell (list : List (List Char)) : list.length ≤ (spell list).length := by
  by_cases noSegment : list = []
  · simp [noSegment]
  · rw [← String.length_toList, spell, String.toList_ofList, ofSegments_eq_flatMap noSegment]
    clear noSegment
    induction list with
    | nil => exact Nat.zero_le _
    | cons head rest inductionHypothesis =>
        simp only [List.flatMap_cons, List.length_append, List.length_cons]
        omega

theorem ancestors_of_parent? (valid : validate path = .ok ())
    (hasParent : parent? path = some parent) : ancestors path = parent :: ancestors parent := by
  obtain rfl | ⟨front, last, frontClean, lastClean, rfl⟩ := root_or_concat valid
  · cases parent?_root.symm.trans hasParent
  · cases (parent?_spell_concat front lastClean).symm.trans hasParent
    have bound := length_le_length_spell (front ++ [last])
    have frontBound := length_le_length_spell front
    rw [List.length_append, List.length_singleton] at bound
    rw [ancestors, ancestorsFrom, hasParent]
    simp only [List.cons.injEq, true_and]
    exact ancestorsFrom_spell frontClean (by omega) (by omega)

theorem parent?_mem_ancestors {lower : String} (valid : validate path = .ok ())
    (onTheWay : lower ∈ path :: ancestors path) (hasParent : parent? lower = some parent) :
    parent ∈ ancestors path := by
  induction path, valid using descending_induction with
  | atRoot =>
      rw [ancestors_root, List.mem_singleton] at onTheWay
      rw [onTheWay] at hasParent
      cases hasParent
  | below valid hasUpper inductionHypothesis =>
      rw [ancestors_of_parent? valid hasUpper] at onTheWay ⊢
      rcases List.mem_cons.mp onTheWay with rfl | above
      · cases hasUpper.symm.trans hasParent
        exact List.mem_cons_self
      · exact List.mem_cons_of_mem _ (inductionHypothesis above)

/-- Ancestors have fewer ancestors. -/
theorem length_ancestors_lt {ancestor : String} (valid : validate path = .ok ())
    (above : ancestor ∈ ancestors path) : (ancestors ancestor).length < (ancestors path).length := by
  induction path, valid using descending_induction with
  | atRoot => cases above
  | below valid hasParent inductionHypothesis =>
      rw [ancestors_of_parent? valid hasParent] at above ⊢
      rw [List.length_cons]
      rcases List.mem_cons.mp above with rfl | further
      · exact Nat.lt_succ_self _
      · exact Nat.lt_succ_of_lt (inductionHypothesis further)

theorem not_mem_ancestors (valid : validate path = .ok ()) : path ∉ ancestors path :=
  fun above => Nat.lt_irrefl _ (length_ancestors_lt valid above)

theorem nodup_way (valid : validate path = .ok ()) : (path :: ancestors path).Nodup := by
  induction path, valid using descending_induction with
  | atRoot =>
      rw [ancestors_root]
      exact List.pairwise_singleton _ _
  | below valid hasParent inductionHypothesis =>
      refine List.nodup_cons.mpr ⟨not_mem_ancestors valid, ?_⟩
      rwa [ancestors_of_parent? valid hasParent]

/-- A path lies above another if going up to the parent, once or more often, leads from that to it. -/
inductive Above (upper : String) : (lower : String) → Prop where
  | parent {lower : String} (hasParent : parent? lower = some upper) : Above upper lower
  | onward {lower middle : String} (hasParent : parent? lower = some middle)
      (above : Above upper middle) : Above upper lower

/-- The bounded recursion reaches everything above a path. -/
theorem mem_ancestors_iff (valid : validate path = .ok ()) {upper : String} :
    upper ∈ ancestors path ↔ Above upper path := by
  induction path, valid using descending_induction with
  | atRoot =>
      rw [ancestors_root]
      constructor
      · intro member
        cases member
      · intro above
        cases above with
        | parent hasParent => cases hasParent
        | onward hasParent => cases hasParent
  | below valid hasParent inductionHypothesis =>
      rw [ancestors_of_parent? valid hasParent, List.mem_cons, inductionHypothesis]
      constructor
      · rintro (rfl | above)
        · exact .parent hasParent
        · exact .onward hasParent above
      · intro above
        cases above with
        | parent hasUpper => exact .inl (Option.some.inj (hasUpper.symm.trans hasParent))
        | onward hasMiddle above =>
            cases hasMiddle.symm.trans hasParent
            exact .inr above

/-- On the way up from a path, each place lies above the ones before it. -/
theorem pairwise_above (valid : validate path = .ok ()) :
    (path :: ancestors path).Pairwise fun lower upper => Above upper lower := by
  induction path, valid using descending_induction with
  | atRoot =>
      rw [ancestors_root]
      exact List.pairwise_singleton _ _
  | below valid hasParent inductionHypothesis =>
      rw [ancestors_of_parent? valid hasParent]
      refine List.pairwise_cons.mpr ⟨fun upper member => ?_, inductionHypothesis⟩
      apply (mem_ancestors_iff valid).mp
      rwa [ancestors_of_parent? valid hasParent]

/-! ### Descents -/

/-- The way down from a path to another, without its beginning: each path on it is the parent of the
next. -/
inductive Descent : String → List String → String → Prop where
  | here (path : String) : Descent path [] path
  | down {upper next target : String} {rest : List String} (valid : validate next = .ok ())
      (hasParent : parent? next = some upper) (onward : Descent next rest target) :
      Descent upper (next :: rest) target

namespace Descent

variable {upper target : String} {way : List String}

/-- All of a descent lies on the way from the root. -/
theorem mem (descent : Descent upper way target) (valid : validate target = .ok ()) :
    ∀ place ∈ upper :: way, place ∈ target :: ancestors target := by
  induction descent with
  | here => simp
  | down _ hasParent _ inductionHypothesis =>
      have lower := inductionHypothesis valid
      intro place member
      rcases List.mem_cons.mp member with rfl | below
      · exact List.mem_cons_of_mem _
          (parent?_mem_ancestors valid (lower _ List.mem_cons_self) hasParent)
      · exact lower place below

theorem length_ancestors (descent : Descent upper way target) :
    (ancestors target).length = (ancestors upper).length + way.length := by
  induction descent with
  | here => rfl
  | down valid hasParent _ inductionHypothesis =>
      rw [inductionHypothesis, ancestors_of_parent? valid hasParent, List.length_cons,
        List.length_cons]
      omega

/-- No descent leads back to its beginning. -/
theorem eq_nil (descent : Descent target way target) : way = [] := by
  have lengths := descent.length_ancestors
  exact List.eq_nil_of_length_eq_zero (by omega)

end Descent

end LiveConfig.Path
