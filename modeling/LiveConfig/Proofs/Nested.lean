import LiveConfig.Proofs.Entries

/-!
Contract: entries whose values may hold entries of their own.

What a value holds is the matter of its type, and is given by `inner?`; a value that holds nothing is a
leaf. Owns: where paths of keys lead, the leaves, entries whose keys ascend at every depth, and the walk
that meets all leaves of them in order. Does not own: the trees themselves.
-/

namespace LiveConfig.Entries

variable {α : Type} {inner? : α → Option (Entries α)} {entries inner : Entries α} {key : String}
  {path below : List String} {value leaf : α}

/-- What a path leads to, through values that hold entries. -/
def follow? (inner? : α → Option (Entries α)) : (path : List String) → Entries α → Option α
  | [], _ => none
  | key :: path, entries =>
      (entries.find? key).bind fun value =>
        if path = [] then some value else (inner? value).bind (follow? inner? path)

/-- Whether a path leads to a value that holds no entries. -/
def HasLeaf (inner? : α → Option (Entries α)) (entries : Entries α) (path : List String) (leaf : α) :
    Prop :=
  entries.follow? inner? path = some leaf ∧ inner? leaf = none

/-- Whether some leaf stands at a path. -/
def IsLeafPath (inner? : α → Option (Entries α)) (entries : Entries α) (path : List String) : Prop :=
  ∃ leaf, entries.HasLeaf inner? path leaf

/-- Entries with ascending keys, as are all entries below them. -/
inductive Sorted (inner? : α → Option (Entries α)) : Entries α → Prop
  | intro {entries : Entries α} (ascending : entries.Ascending)
      (below : ∀ entry ∈ entries, ∀ inner, inner? entry.2 = some inner → Sorted inner? inner) :
      Sorted inner? entries

/-- All leaves with their paths, as a walk meets them that takes keys in ascending order and what is below
a key before the next one. -/
structure Walk (inner? : α → Option (Entries α)) (entries : Entries α)
    (leaves : List (List String × α)) : Prop where
  mem_iff : ∀ path leaf, (path, leaf) ∈ leaves ↔ entries.HasLeaf inner? path leaf
  ordered : leaves.Pairwise fun earlier later => earlier.1 < later.1

/-! ### Paths -/

theorem follow?_singleton (key : String) : entries.follow? inner? [key] = entries.find? key := by
  simp [follow?]

theorem follow?_cons (found : entries.find? key = some value) (isHeld : inner? value = some inner)
    (goesOn : path ≠ []) : entries.follow? inner? (key :: path) = inner.follow? inner? path := by
  simp [follow?, found, isHeld, goesOn]

/-- A path of several keys leads through what its first key is bound to. -/
theorem exists_of_follow?_cons (goesOn : path ≠ [])
    (leads : entries.follow? inner? (key :: path) = some leaf) :
    ∃ value inner, entries.find? key = some value ∧ inner? value = some inner ∧
      inner.follow? inner? path = some leaf := by
  obtain ⟨value, found, leads⟩ := Option.bind_eq_some_iff.mp leads
  rw [if_neg goesOn] at leads
  obtain ⟨inner, isHeld, leads⟩ := Option.bind_eq_some_iff.mp leads
  exact ⟨value, inner, found, isHeld, leads⟩

theorem ne_nil_of_follow? (leads : entries.follow? inner? path = some value) : path ≠ [] := by
  rintro rfl
  cases leads

theorem follow?_append (leads : entries.follow? inner? path = some value)
    (isHeld : inner? value = some inner) (goesOn : below ≠ []) :
    entries.follow? inner? (path ++ below) = inner.follow? inner? below := by
  induction path generalizing entries with
  | nil => cases leads
  | cons key path inductionHypothesis =>
      by_cases isLast : path = []
      · subst isLast
        exact follow?_cons (follow?_singleton key ▸ leads) isHeld goesOn
      · obtain ⟨first, ahead, found, isFirst, leads⟩ := exists_of_follow?_cons isLast leads
        rw [List.cons_append, follow?_cons found isFirst (by simp [isLast])]
        exact inductionHypothesis leads

/-! ### Leaves -/

theorem not_hasLeaf_nil : ¬ entries.HasLeaf inner? [] leaf := fun isLeaf => nomatch isLeaf.1

/-- A value that holds nothing is a leaf under its own key, and the only one there. -/
theorem hasLeaf_cons_of_eq_none (found : entries.find? key = some value)
    (holdsNothing : inner? value = none) :
    entries.HasLeaf inner? (key :: path) leaf ↔ path = [] ∧ leaf = value := by
  constructor
  · rintro ⟨leads, -⟩
    by_cases isLast : path = []
    · subst isLast
      rw [follow?_singleton, found] at leads
      exact ⟨rfl, (Option.some.inj leads).symm⟩
    · obtain ⟨first, ahead, isFirst, isHeld, -⟩ := exists_of_follow?_cons isLast leads
      rw [found] at isFirst
      obtain rfl := Option.some.inj isFirst
      rw [holdsNothing] at isHeld
      cases isHeld
  · rintro ⟨rfl, rfl⟩
    exact ⟨(follow?_singleton key).trans found, holdsNothing⟩

/-- The leaves of a value that holds entries are the leaves of those. -/
theorem hasLeaf_cons_of_eq_some (found : entries.find? key = some value)
    (isHeld : inner? value = some inner) :
    entries.HasLeaf inner? (key :: path) leaf ↔ inner.HasLeaf inner? path leaf := by
  by_cases isLast : path = []
  · subst isLast
    refine ⟨fun ⟨leads, holdsNothing⟩ => ?_, fun isLeaf => absurd isLeaf not_hasLeaf_nil⟩
    rw [follow?_singleton, found] at leads
    obtain rfl := Option.some.inj leads
    rw [holdsNothing] at isHeld
    cases isHeld
  · rw [HasLeaf, HasLeaf, follow?_cons found isHeld isLast]

theorem exists_find?_of_hasLeaf_cons (isLeaf : entries.HasLeaf inner? (key :: path) leaf) :
    ∃ value, entries.find? key = some value := by
  obtain ⟨value, found, -⟩ := Option.bind_eq_some_iff.mp isLeaf.1
  exact ⟨value, found⟩

theorem hasLeaf_append (leads : entries.follow? inner? path = some value)
    (isHeld : inner? value = some inner) (isLeaf : inner.HasLeaf inner? below leaf) :
    entries.HasLeaf inner? (path ++ below) leaf :=
  ⟨(follow?_append leads isHeld (ne_nil_of_follow? isLeaf.1)).trans isLeaf.1, isLeaf.2⟩

/-! ### Paths of leaves -/

theorem not_isLeafPath_nil : ¬ entries.IsLeafPath inner? [] :=
  fun ⟨_, isLeaf⟩ => not_hasLeaf_nil isLeaf

theorem ne_nil_of_isLeafPath (isLeafPath : entries.IsLeafPath inner? path) : path ≠ [] := by
  rintro rfl
  exact not_isLeafPath_nil isLeafPath

theorem isLeafPath_cons_of_eq_none (found : entries.find? key = some value)
    (holdsNothing : inner? value = none) :
    entries.IsLeafPath inner? (key :: path) ↔ path = [] := by
  simp [IsLeafPath, hasLeaf_cons_of_eq_none found holdsNothing]

theorem isLeafPath_cons_of_eq_some (found : entries.find? key = some value)
    (isHeld : inner? value = some inner) :
    entries.IsLeafPath inner? (key :: path) ↔ inner.IsLeafPath inner? path :=
  exists_congr fun _ => hasLeaf_cons_of_eq_some found isHeld

theorem not_isLeafPath_of_find?_eq_none (missing : entries.find? key = none) :
    ¬ entries.IsLeafPath inner? (key :: path) := by
  rintro ⟨leaf, isLeaf⟩
  obtain ⟨value, found⟩ := exists_find?_of_hasLeaf_cons isLeaf
  rw [missing] at found
  cases found

theorem isLeafPath_append (leads : entries.follow? inner? path = some value)
    (isHeld : inner? value = some inner) (isLeafPath : inner.IsLeafPath inner? below) :
    entries.IsLeafPath inner? (path ++ below) :=
  isLeafPath.imp fun _ => hasLeaf_append leads isHeld

/-- No leaf stands at a value that holds entries, and none below it if these are none. -/
theorem not_isLeafPath_append_of_nil (leads : entries.follow? inner? path = some value)
    (isHeld : inner? value = some []) : ¬ entries.IsLeafPath inner? (path ++ below) := by
  rintro ⟨leaf, found, holdsNothing⟩
  by_cases isLast : below = []
  · subst isLast
    rw [List.append_nil, leads] at found
    obtain rfl := Option.some.inj found
    rw [isHeld] at holdsNothing
    cases holdsNothing
  · rw [follow?_append leads isHeld isLast] at found
    obtain ⟨key, rest, rfl⟩ := List.exists_cons_of_ne_nil isLast
    cases found

/-! ### Order of keys -/

theorem sorted_nil : Sorted inner? [] := .intro .nil nofun

theorem sorted_insert (sorted : entries.Sorted inner?)
    (isSorted : ∀ inner, inner? value = some inner → inner.Sorted inner?) :
    (entries.insert key value).Sorted inner? := by
  obtain ⟨ascending, below⟩ := sorted
  refine .intro (ascending_insert ascending) fun entry member => ?_
  rcases mem_insert member with rfl | old
  · exact isSorted
  · exact below entry old

theorem sorted_ofList {pairs : List (String × α)}
    (areSorted : ∀ pair ∈ pairs, ∀ inner, inner? pair.2 = some inner → inner.Sorted inner?) :
    (ofList pairs).Sorted inner? := by
  have behind (entries : Entries α) (sorted : entries.Sorted inner?) :
      (pairs.foldl (fun entries pair => entries.insert pair.1 pair.2) entries).Sorted inner? := by
    induction pairs generalizing entries with
    | nil => exact sorted
    | cons pair pairs inductionHypothesis =>
        obtain ⟨firstSorted, restSorted⟩ := List.forall_mem_cons.mp areSorted
        exact inductionHypothesis restSorted _ (sorted_insert sorted firstSorted)
  exact behind [] sorted_nil

/-! ### Walks -/

variable {later : List (List String × α)} {rest : Entries α}

theorem walk_nil : Walk inner? [] [] :=
  ⟨fun path _ => by cases path <;> exact ⟨nofun, fun isLeaf => nomatch isLeaf.1⟩, .nil⟩

theorem hasLeaf_cons_of_ne {other : String} (differs : other ≠ key) :
    HasLeaf inner? ((other, value) :: rest) (key :: path) leaf ↔
      rest.HasLeaf inner? (key :: path) leaf := by
  simp [HasLeaf, follow?, find?, differs]

/-- A walk meets the leaves under the first key before all others. -/
theorem walk_cons (first : List (List String × α)) (ascending : Ascending ((key, value) :: rest))
    (mem_first : ∀ path leaf,
      (path, leaf) ∈ first ↔ HasLeaf inner? ((key, value) :: rest) (key :: path) leaf)
    (ordered : first.Pairwise fun earlier later => earlier.1 < later.1)
    (isWalk : rest.Walk inner? later) :
    Walk inner? ((key, value) :: rest)
      ((first.map fun leaf => (key :: leaf.1, leaf.2)) ++ later) := by
  have behind {other : String} {path : List String} {leaf : α}
      (isLeaf : rest.HasLeaf inner? (other :: path) leaf) : key < other := by
    obtain ⟨value, found⟩ := exists_find?_of_hasLeaf_cons isLeaf
    exact (List.pairwise_cons.mp ascending).1 _ (mem_of_find? found)
  constructor
  · intro path leaf
    cases path with
    | nil => simp [not_hasLeaf_nil, isWalk.mem_iff]
    | cons other path =>
        by_cases same : key = other
        · subst same
          have notLater : (key :: path, leaf) ∉ later := by
            rw [isWalk.mem_iff]
            exact fun isLeaf => String.lt_irrefl key (behind isLeaf)
          simp [notLater, ← mem_first]
        · simp [same, hasLeaf_cons_of_ne same, isWalk.mem_iff]
  · refine List.pairwise_append.mpr ⟨List.pairwise_map.mpr ?_, isWalk.ordered, ?_⟩
    · exact ordered.imp fun less => List.cons_lt_cons_iff.mpr (.inr ⟨rfl, less⟩)
    · rintro _ isFirst ⟨path, leaf⟩ isLater
      obtain ⟨_, -, rfl⟩ := List.mem_map.mp isFirst
      have isLeaf := (isWalk.mem_iff path leaf).mp isLater
      cases path with
      | nil => exact absurd isLeaf not_hasLeaf_nil
      | cons other path => exact List.cons_lt_cons_iff.mpr (.inl (behind isLeaf))

end LiveConfig.Entries
