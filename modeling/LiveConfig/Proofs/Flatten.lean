import LiveConfig.Flatten
import LiveConfig.Proofs.Nested
import LiveConfig.Proofs.Text.Utf8

/-!
Contract: what a flat map holds of an object.

The key of a leaf joins the keys on its path with dots. Owns: that a flat map has the keys of the leaves
and holds nothing but leaves, that of several leaves with one key the last stays that a depth-first walk
meets, and that keys without dots can be told from their join. Does not own: where objects come from.
-/

namespace LiveConfig

/-- The keys on a path, joined with dots. -/
def dottedPath (path : List String) : String :=
  ".".intercalate path

variable {path : List String} {key : String}

theorem dottedKey_eq_dottedPath (base : Option String) (key : String) :
    dottedKey base key = dottedPath (base.toList ++ [key]) := by
  cases base with
  | none => exact String.intercalate_singleton.symm
  | some base =>
      rw [Option.toList_some, List.singleton_append, dottedPath, String.intercalate_cons_cons,
        String.intercalate_singleton]
      rfl

theorem dottedPath_dottedKey (base : Option String) (key : String) (path : List String) :
    dottedPath (dottedKey base key :: path) = dottedPath (base.toList ++ key :: path) := by
  cases base with
  | none => rfl
  | some base =>
      cases path with
      | nil =>
          rw [← dottedKey_eq_dottedPath]
          exact String.intercalate_singleton
      | cons next path => simp [dottedPath, dottedKey, String.append_assoc]

/-- Keys without dots can be told from their join. -/
theorem dottedPath_inj {other : List String} (someKey : path ≠ []) (someOther : other ≠ [])
    (dotFree : ∀ key ∈ path, '.' ∉ key.toList) (otherDotFree : ∀ key ∈ other, '.' ∉ key.toList)
    (same : dottedPath path = dottedPath other) : path = other := by
  have keysOf {path : List String} (someKey : path ≠ []) (dotFree : ∀ key ∈ path, '.' ∉ key.toList) :
      List.splitOn '.' (dottedPath path).toList = path.map String.toList := by
    rw [dottedPath, String.toList_intercalate]
    refine List.splitOn_intercalate '.' (List.forall_mem_map.mpr dotFree) ?_
    simpa using someKey
  have sameKeys : path.map String.toList = other.map String.toList := by
    rw [← keysOf someKey dotFree, same, keysOf someOther otherDotFree]
  exact (List.map_inj_right fun _ _ => String.toList_inj.mp).mp sameKeys

namespace Value

/-- The members of an object. -/
def members? : Value → Option (Entries Value)
  | .object members => some members
  | _ => none

theorem members?_eq_none_iff {value : Value} : value.members? = none ↔ value.isObject = false := by
  cases value <;> simp [members?, isObject]

theorem leaves_of_members?_eq_some {value : Value} {members : Entries Value}
    (isObject : value.members? = some members) :
    value.leaves key = leavesOfMembers (some key) members := by
  cases value with
  | object => obtain rfl := Option.some.inj isObject; rfl
  | _ => cases isObject

theorem leaves_of_members?_eq_none {value : Value} (noObject : value.members? = none) :
    value.leaves key = [(key, value)] := by
  cases value with
  | object => cases noObject
  | _ => rfl

/-! ### Leaves in order -/

/-- A leaf below `base`, with its key in place of its path. -/
def keyed (base : Option String) (leaf : List String × Value) : String × Value :=
  (dottedPath (base.toList ++ leaf.1), leaf.2)

/-- The leaves of an object are listed as a walk meets them. -/
def ListsWalk (members : Entries Value) : Prop :=
  ∃ leaves, members.Walk members? leaves ∧
    ∀ base, leavesOfMembers base members = leaves.map (keyed base)

/-- The leaves under the first key, with their paths behind it. -/
theorem listsWalk_first (key : String) (rest : Entries Value) {value : Value}
    (below : ∀ inner, value.members? = some inner → ListsWalk inner) :
    ∃ first : List (List String × Value),
      (∀ path leaf, (path, leaf) ∈ first ↔
        Entries.HasLeaf members? ((key, value) :: rest) (key :: path) leaf) ∧
      (first.Pairwise fun earlier later => earlier.1 < later.1) ∧
      ∀ base, value.leaves (dottedKey base key) =
        (first.map fun leaf => (key :: leaf.1, leaf.2)).map (keyed base) := by
  have found : Entries.find? key ((key, value) :: rest) = some value := if_pos rfl
  cases isObject : value.members? with
  | none =>
      refine ⟨[([], value)], fun path leaf => ?_, List.pairwise_singleton .., fun base => ?_⟩
      · rw [Entries.hasLeaf_cons_of_eq_none found isObject, List.mem_singleton, Prod.mk.injEq]
      · rw [leaves_of_members?_eq_none isObject, dottedKey_eq_dottedPath]
        rfl
  | some inner =>
      obtain ⟨first, isWalk, areFirst⟩ := below inner isObject
      refine ⟨first, fun path leaf => ?_, isWalk.ordered, fun base => ?_⟩
      · rw [Entries.hasLeaf_cons_of_eq_some found isObject, isWalk.mem_iff]
      · rw [leaves_of_members?_eq_some isObject, areFirst, List.map_map]
        refine List.map_congr_left fun leaf _ => ?_
        exact congrArg (·, leaf.2) (dottedPath_dottedKey base key leaf.1)

theorem listsWalk {members : Entries Value} (sorted : members.Sorted members?) : ListsWalk members := by
  induction sorted with
  | @intro members ascending below inductionHypothesis =>
      induction members with
      | nil => exact ⟨[], Entries.walk_nil, fun _ => rfl⟩
      | cons member rest restHypothesis =>
          obtain ⟨key, value⟩ := member
          obtain ⟨first, mem_first, ordered, areFirst⟩ := listsWalk_first key rest
            (inductionHypothesis (key, value) List.mem_cons_self)
          obtain ⟨later, isWalk, areLater⟩ := restHypothesis (List.pairwise_cons.mp ascending).2
            (fun entry member => below entry (List.mem_cons_of_mem _ member))
            (fun entry member => inductionHypothesis entry (List.mem_cons_of_mem _ member))
          refine ⟨_, Entries.walk_cons first ascending mem_first ordered isWalk, fun base => ?_⟩
          rw [leavesOfMembers, leavesOfMember, areFirst, areLater, List.map_append]

end Value

/-! ### The last of several leaves -/

/-- Whether a path comes before another one in a walk that goes depth first and takes keys in the order of
their bytes. -/
def Precedes (earlier later : List String) : Prop :=
  earlier.map (Text.Utf8.encode ·.toList) < later.map (Text.Utf8.encode ·.toList)

/-- A leaf that a walk meets as the last one of its key. -/
structure IsLastLeaf (members : Entries Value) (key : String) (path : List String) (leaf : Value) :
    Prop where
  isLeaf : members.HasLeaf Value.members? path leaf
  hasKey : dottedPath path = key
  last : ∀ other, members.IsLeafPath Value.members? other → dottedPath other = key →
    other = path ∨ Precedes other path

/-- Whether no key of an object has a dot, at any depth. -/
def DotFree (members : Entries Value) : Prop :=
  ∀ path value, members.follow? Value.members? path = some value → ∀ key ∈ path, '.' ∉ key.toList

/-- A flat map that holds the leaves of an object, and of several leaves with one key the last. -/
structure IsFlatOf (map : PropertyMap) (members : Entries Value) : Prop where
  mem_keys_iff : ∀ key,
    key ∈ map.keys ↔ ∃ path, members.IsLeafPath Value.members? path ∧ key = dottedPath path
  noObjects : ∀ key value, map.find? key = some value → value.isObject = false
  nothingOfEmpty : ∀ path, members.follow? Value.members? path = some (.object []) →
    ∀ below, ¬ members.IsLeafPath Value.members? (path ++ below)
  find?_eq_some_iff : ∀ key value,
    map.find? key = some value ↔ ∃ path, IsLastLeaf members key path value
  pathsApart : DotFree members → ∀ path other, members.IsLeafPath Value.members? path →
    members.IsLeafPath Value.members? other → dottedPath path = dottedPath other → path = other
  /-- Segments are what dots separate, so they have none themselves; they may be empty. -/
  find?_dottedPath : DotFree members → ∀ path, path ≠ [] →
    (∀ segment ∈ path, '.' ∉ segment.toList) →
    map.find? (dottedPath path) =
      (members.follow? Value.members? path).filter fun value => !value.isObject

variable {members : Entries Value} {leaf : Value} {earlier later : List String}

theorem precedes_of_lt (less : earlier < later) : Precedes earlier later :=
  List.map_lt (fun _ _ less => Text.Utf8.encode_lt_encode less) less

theorem not_precedes_of_precedes (precedes : Precedes earlier later) : ¬ Precedes later earlier :=
  List.lt_asymm precedes

/-- A flat map has the keys of the leaves. -/
theorem mem_keys_flatten_iff (sorted : members.Sorted Value.members?) :
    key ∈ (flatten members).keys ↔
      ∃ path, members.IsLeafPath Value.members? path ∧ key = dottedPath path := by
  obtain ⟨leaves, isWalk, isList⟩ := Value.listsWalk sorted
  rw [flatten, PropertyMap.mem_keys_ofList, isList]
  constructor
  · rintro ⟨leaf, member⟩
    obtain ⟨⟨path, leaf⟩, isMember, same⟩ := List.mem_map.mp member
    exact ⟨path, ⟨leaf, (isWalk.mem_iff path leaf).mp isMember⟩, (Prod.mk.inj same).1.symm⟩
  · rintro ⟨path, ⟨leaf, isLeaf⟩, rfl⟩
    exact ⟨leaf, List.mem_map.mpr ⟨(path, leaf), (isWalk.mem_iff path leaf).mpr isLeaf, rfl⟩⟩

/-- In a list in order, a search from the end finds the one item that no other item behind it follows. -/
theorem findRev?_eq_some_iff {α : Type} {before : α → α → Prop} {items : List α} {found : α}
    {property : α → Bool} (ordered : items.Pairwise before)
    (asymmetric : ∀ item other, before item other → ¬ before other item) :
    items.findRev? property = some found ↔
      found ∈ items ∧ property found = true ∧
        ∀ other ∈ items, property other = true → other = found ∨ before other found := by
  have isLast {found : α} (isFound : items.findRev? property = some found) :
      found ∈ items ∧ property found = true ∧
        ∀ other ∈ items, property other = true → other = found ∨ before other found := by
    rw [List.findRev?_eq_find?_reverse, List.find?_eq_some_iff_append] at isFound
    obtain ⟨holds, behind, front, isSplit, noneBehind⟩ := isFound
    have split : items = front.reverse ++ found :: behind.reverse := by
      rw [← List.reverse_reverse items, isSplit]
      simp
    subst split
    refine ⟨by simp, holds, fun other member otherHolds => ?_⟩
    obtain inFront | inRest := List.mem_append.mp member
    · exact .inr ((List.pairwise_append.mp ordered).2.2 other inFront found List.mem_cons_self)
    · obtain isFound | isBehind := List.mem_cons.mp inRest
      · exact .inl isFound
      · have fails := noneBehind other (List.mem_reverse.mp isBehind)
        rw [otherHolds] at fails
        cases fails
  refine ⟨isLast, fun ⟨member, holds, last⟩ => ?_⟩
  cases isFound : items.findRev? property with
  | none =>
      rw [List.findRev?_eq_find?_reverse, List.find?_eq_none] at isFound
      exact absurd holds (isFound found (List.mem_reverse.mpr member))
  | some other =>
      obtain ⟨otherMember, otherHolds, otherLast⟩ := isLast isFound
      obtain same | isBefore := last other otherMember otherHolds
      · rw [same]
      · obtain same | isBehind := otherLast found member holds
        · rw [same]
        · exact absurd isBehind (asymmetric _ _ isBefore)

/-- Of the leaves with one key, the last one stays. -/
theorem find?_flatten_eq_some_iff (sorted : members.Sorted Value.members?) :
    (flatten members).find? key = some leaf ↔ ∃ path, IsLastLeaf members key path leaf := by
  obtain ⟨leaves, isWalk, isList⟩ := Value.listsWalk sorted
  have sees : (flatten members).find? key = (leaves.findRev? (dottedPath ·.1 = key)).map Prod.snd := by
    rw [flatten, PropertyMap.find?_ofList, isList, List.findRev?_eq_find?_reverse,
      List.findRev?_eq_find?_reverse, ← List.map_reverse, List.find?_map, Option.map_map]
    rfl
  have isFound (path : List String) :
      leaves.findRev? (dottedPath ·.1 = key) = some (path, leaf) ↔ IsLastLeaf members key path leaf := by
    rw [findRev?_eq_some_iff (isWalk.ordered.imp precedes_of_lt) fun _ _ => not_precedes_of_precedes,
      isWalk.mem_iff, decide_eq_true_eq]
    constructor
    · rintro ⟨isLeaf, hasKey, last⟩
      refine ⟨isLeaf, hasKey, fun other ⟨otherLeaf, isOther⟩ otherKey => ?_⟩
      refine (last (other, otherLeaf) ((isWalk.mem_iff _ _).mpr isOther) (decide_eq_true otherKey)).imp
        (fun same => (Prod.mk.inj same).1) id
    · rintro ⟨isLeaf, hasKey, last⟩
      refine ⟨isLeaf, hasKey, fun ⟨other, otherLeaf⟩ member otherKey => ?_⟩
      have isOther := (isWalk.mem_iff _ _).mp member
      refine (last other ⟨otherLeaf, isOther⟩ (of_decide_eq_true otherKey)).imp ?_ id
      rintro rfl
      rw [Option.some.inj (isOther.1.symm.trans isLeaf.1)]
  rw [sees, Option.map_eq_some_iff]
  constructor
  · rintro ⟨⟨path, leaf⟩, found, rfl⟩
    exact ⟨path, (isFound path).mp found⟩
  · rintro ⟨path, isLast⟩
    exact ⟨(path, leaf), (isFound path).mpr isLast, rfl⟩

/-- What stands below `a` comes before `a.b`. -/
example : flatten [("a", .object [("b", .integer 1)]), ("a.b", .integer 2)] =
    .ofList [("a.b", .integer 2)] := by
  decide

/-! ### Keys without dots -/

theorem pathsApart_of_dotFree (dotFree : DotFree members) {path other : List String}
    (isLeafPath : members.IsLeafPath Value.members? path)
    (otherIsLeafPath : members.IsLeafPath Value.members? other)
    (same : dottedPath path = dottedPath other) : path = other := by
  have isFree {path : List String} (isLeafPath : members.IsLeafPath Value.members? path) :
      ∀ key ∈ path, '.' ∉ key.toList := by
    obtain ⟨leaf, leads, -⟩ := isLeafPath
    exact dotFree path leaf leads
  exact dottedPath_inj (Entries.ne_nil_of_isLeafPath isLeafPath)
    (Entries.ne_nil_of_isLeafPath otherIsLeafPath) (isFree isLeafPath) (isFree otherIsLeafPath) same

/-- With keys that have no dots, a key is answered by following its segments. -/
theorem find?_flatten_dottedPath (sorted : members.Sorted Value.members?) (dotFree : DotFree members)
    (someSegment : path ≠ []) (segmentsFree : ∀ segment ∈ path, '.' ∉ segment.toList) :
    (flatten members).find? (dottedPath path) =
      (members.follow? Value.members? path).filter fun value => !value.isObject := by
  ext leaf
  rw [find?_flatten_eq_some_iff sorted, Option.filter_eq_some_iff, Bool.not_eq_true',
    ← Value.members?_eq_none_iff]
  constructor
  · rintro ⟨other, isLast⟩
    have leads := isLast.isLeaf.1
    have same := dottedPath_inj (Entries.ne_nil_of_follow? leads) someSegment
      (dotFree other leaf leads) segmentsFree isLast.hasKey
    exact same ▸ isLast.isLeaf
  · intro isLeaf
    refine ⟨path, isLeaf, rfl, fun other isOther same => .inl ?_⟩
    exact pathsApart_of_dotFree dotFree isOther ⟨leaf, isLeaf⟩ same

theorem isFlatOf_flatten (sorted : members.Sorted Value.members?) : IsFlatOf (flatten members) members where
  mem_keys_iff _ := mem_keys_flatten_iff sorted
  noObjects key value found := by
    obtain ⟨path, isLast⟩ := (find?_flatten_eq_some_iff sorted).mp found
    exact Value.members?_eq_none_iff.mp isLast.isLeaf.2
  nothingOfEmpty path leads _ := Entries.not_isLeafPath_append_of_nil leads rfl
  find?_eq_some_iff _ _ := find?_flatten_eq_some_iff sorted
  pathsApart dotFree _ _ := pathsApart_of_dotFree dotFree
  find?_dottedPath dotFree _ := find?_flatten_dottedPath sorted dotFree

end LiveConfig
