import LiveConfig.Number.Binary64

/-!
Contract: property values and the maps that hold them.

A value is what the structured payload formats can express. `Entries` lists members by strictly
ascending key, which is the order in which every map of this library is walked. `PropertyMap` is
such a list together with the proof of its order. Owns: insertion, lookup and their laws.
-/

namespace LiveConfig

/-- A value as structured payloads hold it. Members of an object stand in the order of
`Entries`. -/
inductive Value where
  | null
  | boolean (value : Bool)
  | integer (value : Int)
  | float (value : Binary64)
  | text (value : String)
  | list (items : List Value)
  | object (members : List (String × Value))
deriving Repr, Inhabited, BEq

namespace Value

def isObject : Value → Bool
  | .object _ => true
  | _ => false

mutual
/-- Equality of values is decided member by member. -/
def decideEq : (left right : Value) → Decidable (left = right)
  | .null, right => match right with
    | .null => isTrue rfl
    | .boolean _ | .integer _ | .float _ | .text _ | .list _ | .object _ =>
        isFalse (fun equal => nomatch equal)
  | .boolean value, right => match right with
    | .boolean other => if same : value = other then isTrue (same ▸ rfl)
        else isFalse (fun equal => same (Value.boolean.inj equal))
    | .null | .integer _ | .float _ | .text _ | .list _ | .object _ =>
        isFalse (fun equal => nomatch equal)
  | .integer value, right => match right with
    | .integer other => if same : value = other then isTrue (same ▸ rfl)
        else isFalse (fun equal => same (Value.integer.inj equal))
    | .null | .boolean _ | .float _ | .text _ | .list _ | .object _ =>
        isFalse (fun equal => nomatch equal)
  | .float value, right => match right with
    | .float other => if same : value = other then isTrue (same ▸ rfl)
        else isFalse (fun equal => same (Value.float.inj equal))
    | .null | .boolean _ | .integer _ | .text _ | .list _ | .object _ =>
        isFalse (fun equal => nomatch equal)
  | .text value, right => match right with
    | .text other => if same : value = other then isTrue (same ▸ rfl)
        else isFalse (fun equal => same (Value.text.inj equal))
    | .null | .boolean _ | .integer _ | .float _ | .list _ | .object _ =>
        isFalse (fun equal => nomatch equal)
  | .list items, right => match right with
    | .list others =>
        match decideEqItems items others with
        | isTrue same => isTrue (same ▸ rfl)
        | isFalse differ => isFalse (fun equal => differ (Value.list.inj equal))
    | .null | .boolean _ | .integer _ | .float _ | .text _ | .object _ =>
        isFalse (fun equal => nomatch equal)
  | .object members, right => match right with
    | .object others =>
        match decideEqMembers members others with
        | isTrue same => isTrue (same ▸ rfl)
        | isFalse differ => isFalse (fun equal => differ (Value.object.inj equal))
    | .null | .boolean _ | .integer _ | .float _ | .text _ | .list _ =>
        isFalse (fun equal => nomatch equal)

/-- Equality of lists of values. -/
def decideEqItems : (left right : List Value) → Decidable (left = right)
  | [], [] => isTrue rfl
  | [], _ :: _ | _ :: _, [] => isFalse (fun equal => nomatch equal)
  | item :: items, other :: others =>
      match decideEq item other, decideEqItems items others with
      | isTrue same, isTrue rest => isTrue (same ▸ rest ▸ rfl)
      | isFalse differ, _ => isFalse (fun equal => differ (List.cons.inj equal).1)
      | _, isFalse differ => isFalse (fun equal => differ (List.cons.inj equal).2)

/-- Equality of lists of members. -/
def decideEqMembers : (left right : List (String × Value)) → Decidable (left = right)
  | [], [] => isTrue rfl
  | [], _ :: _ | _ :: _, [] => isFalse (fun equal => nomatch equal)
  | (key, value) :: members, (otherKey, otherValue) :: others =>
      if sameKey : key = otherKey then
        match decideEq value otherValue, decideEqMembers members others with
        | isTrue same, isTrue rest => isTrue (sameKey ▸ same ▸ rest ▸ rfl)
        | isFalse differ, _ =>
            isFalse (fun equal => differ (Prod.mk.inj (List.cons.inj equal).1).2)
        | _, isFalse differ => isFalse (fun equal => differ (List.cons.inj equal).2)
      else isFalse (fun equal => sameKey (Prod.mk.inj (List.cons.inj equal).1).1)
end

instance : DecidableEq Value := decideEq

end Value

/-- Members by key. -/
abbrev Entries (α : Type) := List (String × α)

namespace Entries

variable {α : Type}

/-- Each key is smaller than every later one; keys are compared by code point, which is also the
order of their bytes in UTF-8. -/
def Ascending (entries : Entries α) : Prop :=
  entries.Pairwise (fun earlier later => earlier.1 < later.1)

instance (entries : Entries α) : Decidable entries.Ascending := by
  unfold Ascending
  infer_instance

/-- The keys in order. -/
def keys (entries : Entries α) : List String :=
  entries.map Prod.fst

/-- The first value under a key. -/
def find? (key : String) : Entries α → Option α
  | [] => none
  | (candidate, value) :: rest => if candidate = key then some value else find? key rest

/-- The entries with `key` bound to `value`, in place of what it was bound to before. -/
def insert (key : String) (value : α) : Entries α → Entries α
  | [] => [(key, value)]
  | (candidate, old) :: rest =>
      if key < candidate then (key, value) :: (candidate, old) :: rest
      else if key = candidate then (key, value) :: rest
      else (candidate, old) :: insert key value rest

theorem mem_insert {key : String} {value : α} {entries : Entries α} {entry : String × α}
    (member : entry ∈ entries.insert key value) : entry = (key, value) ∨ entry ∈ entries := by
  induction entries with
  | nil => simpa [insert] using member
  | cons head rest inductionHypothesis =>
      obtain ⟨candidate, old⟩ := head
      simp only [insert] at member
      split at member
      · simpa using member
      · split at member
        · rcases List.mem_cons.mp member with isNew | inRest
          · exact Or.inl isNew
          · exact Or.inr (List.mem_cons_of_mem _ inRest)
        · rcases List.mem_cons.mp member with isHead | inRest
          · exact Or.inr (isHead ▸ List.mem_cons_self)
          · rcases inductionHypothesis inRest with isNew | old
            · exact Or.inl isNew
            · exact Or.inr (List.mem_cons_of_mem _ old)

/-- Insertion keeps the order of keys. -/
theorem ascending_insert {key : String} {value : α} {entries : Entries α}
    (ascending : entries.Ascending) : (entries.insert key value).Ascending := by
  induction entries with
  | nil => simp [insert, Ascending]
  | cons head rest inductionHypothesis =>
      obtain ⟨candidate, old⟩ := head
      obtain ⟨headFirst, restAscending⟩ := List.pairwise_cons.mp ascending
      simp only [insert]
      split
      · rename_i keyFirst
        refine List.pairwise_cons.mpr ⟨fun entry member => ?_, ascending⟩
        rcases List.mem_cons.mp member with isHead | inRest
        · exact isHead ▸ keyFirst
        · exact String.lt_trans keyFirst (headFirst entry inRest)
      · split
        · rename_i sameKey
          refine List.pairwise_cons.mpr ⟨fun entry member => ?_, restAscending⟩
          exact sameKey ▸ headFirst entry member
        · rename_i notBefore notSame
          refine List.pairwise_cons.mpr ⟨fun entry member => ?_, inductionHypothesis restAscending⟩
          rcases mem_insert member with isNew | inRest
          · subst isNew
            rcases Decidable.em (candidate < key) with less | notLess
            · exact less
            · exact absurd (String.le_antisymm notBefore notLess).symm notSame
          · exact headFirst entry inRest

/-- The entries without those of one key. -/
def erase (key : String) (entries : Entries α) : Entries α :=
  entries.filter (fun entry => entry.1 ≠ key)

/-- All entries of a list inserted in turn, so that of two with one key the later stays. -/
def ofList (pairs : List (String × α)) : Entries α :=
  pairs.foldl (fun entries pair => entries.insert pair.1 pair.2) []

end Entries

/-- A flat map from property keys to values. -/
structure PropertyMap where
  entries : Entries Value
  ascending : entries.Ascending
deriving DecidableEq

namespace PropertyMap

/-- The map without keys. -/
def empty : PropertyMap := ⟨[], List.Pairwise.nil⟩

instance : Inhabited PropertyMap := ⟨empty⟩

/-- The map with `key` bound to `value`. -/
def insert (map : PropertyMap) (key : String) (value : Value) : PropertyMap :=
  ⟨map.entries.insert key value, Entries.ascending_insert map.ascending⟩

/-- The map of a list of bindings, of which the later ones override the earlier. -/
def ofList (pairs : List (String × Value)) : PropertyMap :=
  pairs.foldl (fun map pair => map.insert pair.1 pair.2) empty

def find? (map : PropertyMap) (key : String) : Option Value :=
  map.entries.find? key

/-- The keys in ascending order. -/
def keys (map : PropertyMap) : List String :=
  map.entries.keys

/-- Whether the map binds a key. -/
def contains (map : PropertyMap) (key : String) : Bool :=
  (map.find? key).isSome

/-- Whether the map binds no key. -/
def isEmpty (map : PropertyMap) : Bool :=
  map.entries.isEmpty

end PropertyMap

end LiveConfig
