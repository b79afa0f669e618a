import LiveConfig.Proofs.Entries
import LiveConfig.Sources.Basic
import Mathlib.Logic.Basic

/-!
Contract: look-ups among property sources, each of which asks maps in turn.

A source asks its own map, or those of its units in order, and the first map that has the key answers; a
null is an answer like any other. Owns: that asking for a value, asking whether there is one, and listing
the keys agree for a unit, a composite and the sources together, and that what is refreshed behind a map
that has the key cannot be seen. Does not own: the order in which units come into a composite.
-/

namespace LiveConfig

/-! ### Maps -/

namespace PropertyMap

variable {map : PropertyMap} {key : String}

theorem mem_keys_iff : key ∈ map.keys ↔ map.contains key = true := Entries.mem_keys_iff

theorem ascending_keys (map : PropertyMap) : map.keys.Pairwise (· < ·) :=
  List.pairwise_map.mpr map.ascending

end PropertyMap

/-! ### Keys of composites -/

namespace Composite

variable {name other : String} {names : List String}

theorem mem_insertName : other ∈ insertName name names ↔ other = name ∨ other ∈ names := by
  induction names with
  | nil => simp [insertName]
  | cons first rest inductionHypothesis =>
      simp only [insertName]
      split
      · simp
      · split
        · rename_i same
          simp [same]
        · rw [List.mem_cons, inductionHypothesis, List.mem_cons, or_left_comm]

theorem ascending_insertName (ascending : names.Pairwise (· < ·)) (name : String) :
    (insertName name names).Pairwise (· < ·) := by
  induction names with
  | nil => exact List.pairwise_singleton _ name
  | cons first rest inductionHypothesis =>
      obtain ⟨isFirst, restAscending⟩ := List.pairwise_cons.mp ascending
      simp only [insertName]
      split
      · rename_i before
        refine List.pairwise_cons.mpr ⟨fun later member => ?_, ascending⟩
        rcases List.mem_cons.mp member with rfl | inRest
        · exact before
        · exact String.lt_trans before (isFirst later inRest)
      · split
        · exact ascending
        · rename_i notBefore notSame
          refine List.pairwise_cons.mpr ⟨fun later member => ?_, inductionHypothesis restAscending⟩
          rcases mem_insertName.mp member with rfl | inRest
          · exact String.not_le.mp fun notAfter =>
              notSame (String.le_antisymm notAfter (String.not_lt.mp notBefore))
          · exact isFirst later inRest

/-- Names put in one after the other are there, each in its place. -/
theorem foldl_insertName (added : List String) (ascending : names.Pairwise (· < ·)) :
    (added.foldl (fun names name => insertName name names) names).Pairwise (· < ·) ∧
      ∀ other, other ∈ added.foldl (fun names name => insertName name names) names ↔
        other ∈ added ∨ other ∈ names := by
  induction added generalizing names with
  | nil => exact ⟨ascending, fun other => by simp⟩
  | cons name rest inductionHypothesis =>
      obtain ⟨still, members⟩ := inductionHypothesis (ascending_insertName ascending name)
      refine ⟨still, fun other => ?_⟩
      rw [List.foldl_cons, members, mem_insertName, List.mem_cons, or_left_comm, or_assoc]

theorem ascending_keys (composite : Composite) : composite.keys.Pairwise (· < ·) :=
  (foldl_insertName _ List.Pairwise.nil).1

theorem mem_keys_iff {composite : Composite} {key : String} :
    key ∈ composite.keys ↔ ∃ unit ∈ composite.units, key ∈ unit.values.keys := by
  rw [keys, (foldl_insertName _ List.Pairwise.nil).2]
  simp

end Composite

/-! ### Sources -/

namespace Source

variable {source : Source} {key : String}

/-- The maps that a source asks, in order: its own one, or the current ones of its units. -/
def maps : Source → List PropertyMap
  | .fixed _ values => [values]
  | .unit single => [single.values]
  | .composite group => group.units.map (·.values)

theorem find?_eq (source : Source) (key : String) :
    source.find? key = source.maps.findSome? (·.find? key) := by
  cases source with
  | fixed | unit => simp [find?, maps, ConfigUnit.find?]
  | composite group =>
      rw [maps, List.findSome?_map]
      rfl

theorem contains_eq (source : Source) (key : String) :
    source.contains key = source.maps.any (·.contains key) := by
  cases source with
  | fixed | unit => simp [contains, maps]
  | composite group => simp [contains, maps, Composite.contains, Function.comp_def]

theorem mem_keys_iff : key ∈ source.keys ↔ source.contains key = true := by
  have maps : key ∈ source.keys ↔ ∃ map ∈ source.maps, key ∈ map.keys := by
    cases source with
    | fixed | unit => simp [keys, Source.maps]
    | composite group => simp [keys, Source.maps, Composite.mem_keys_iff]
  rw [maps, contains_eq, List.any_eq_true]
  simp only [PropertyMap.mem_keys_iff]

theorem ascending_keys (source : Source) : source.keys.Pairwise (· < ·) := by
  cases source with
  | fixed name values => exact values.ascending_keys
  | unit single => exact single.values.ascending_keys
  | composite group => exact group.ascending_keys

theorem contains_eq_isSome (source : Source) (key : String) :
    source.contains key = (source.find? key).isSome := by
  rw [contains_eq, find?_eq, Bool.eq_iff_iff, List.any_eq_true, List.findSome?_isSome_iff]
  rfl

theorem find?_eq_none_iff : source.find? key = none ↔ ∀ map ∈ source.maps, key ∉ map.keys := by
  rw [find?_eq, List.findSome?_eq_none_iff]
  simp [PropertyMap.mem_keys_iff, PropertyMap.contains]

theorem find?_eq_some_iff {value : Value} :
    source.find? key = some value ↔ ∃ earlier map later, source.maps = earlier ++ map :: later ∧
      map.find? key = some value ∧ ∀ map ∈ earlier, key ∉ map.keys := by
  rw [find?_eq, List.findSome?_eq_some_iff]
  simp [PropertyMap.mem_keys_iff, PropertyMap.contains]

end Source

/-! ### All sources -/

namespace SourceList

variable {sources : SourceList} {key : String}

theorem contains_eq_isSome (sources : SourceList) (key : String) :
    sources.contains key = (sources.find? key).isSome := by
  rw [contains, find?, Bool.eq_iff_iff, List.any_eq_true, List.findSome?_isSome_iff]
  simp only [Source.contains_eq_isSome]

/-- The first source answers that has the key, and in it the first map. -/
theorem find?_eq_some_iff {value : Value} :
    sources.find? key = some value ↔ ∃ ahead source behind earlier map later,
      sources.list = ahead ++ source :: behind ∧ source.maps = earlier ++ map :: later ∧
      map.find? key = some value ∧ (∀ other ∈ ahead, ∀ map ∈ other.maps, key ∉ map.keys) ∧
      ∀ map ∈ earlier, key ∉ map.keys := by
  rw [find?, List.findSome?_eq_some_iff]
  constructor
  · rintro ⟨ahead, source, behind, split, found, silent⟩
    obtain ⟨earlier, map, later, maps, bound, unbound⟩ := Source.find?_eq_some_iff.mp found
    exact ⟨ahead, source, behind, earlier, map, later, split, maps, bound,
      fun other member => Source.find?_eq_none_iff.mp (silent other member), unbound⟩
  · rintro ⟨ahead, source, behind, earlier, map, later, split, maps, bound, silent, unbound⟩
    exact ⟨ahead, source, behind, split,
      Source.find?_eq_some_iff.mpr ⟨earlier, map, later, maps, bound, unbound⟩,
      fun other member => Source.find?_eq_none_iff.mpr (silent other member)⟩

/-! ### Refreshed units -/

theorem findSome?_append_ne {α β : Type} {answer : α → Option β} {front back other : List α}
    (differ : (front ++ back).findSome? answer ≠ (front ++ other).findSome? answer) :
    front.findSome? answer = none ∧ back.findSome? answer ≠ other.findSome? answer := by
  rw [List.findSome?_append, List.findSome?_append] at differ
  cases found : front.findSome? answer with
  | none => simpa [found] using differ
  | some => simp [found] at differ

/-- Where a unit takes another snapshot and the answer for a key is no longer the same, nothing ahead of
the unit has the key. -/
theorem silent_of_find?_ne {ahead behind : List Source} {group : Composite}
    {earlier later : List ConfigUnit} {unit : ConfigUnit} (snapshot : Snapshot)
    (split : sources.list = ahead ++ .composite group :: behind)
    (units : group.units = earlier ++ unit :: later)
    (differ : find? ⟨ahead ++ .composite { group with
      units := earlier ++ { unit with snapshot := snapshot } :: later } :: behind⟩ key ≠
        sources.find? key) :
    (∀ other ∈ ahead, other.contains key = false) ∧
      ∀ other ∈ earlier, other.values.contains key = false := by
  obtain ⟨list⟩ := sources
  obtain rfl : list = _ := split
  obtain ⟨silentAhead, differ⟩ := findSome?_append_ne differ
  have inGroup : (earlier ++ { unit with snapshot := snapshot } :: later).findSome? (·.find? key) ≠
      group.units.findSome? (·.find? key) := by
    intro same
    refine differ ?_
    simp only [List.findSome?_cons, Source.find?, Composite.find?, same]
  rw [units] at inGroup
  obtain ⟨silent, -⟩ := findSome?_append_ne inGroup
  refine ⟨fun other member => ?_, fun other member => ?_⟩
  · rw [Source.contains_eq_isSome, List.findSome?_eq_none_iff.mp silentAhead other member]
    rfl
  · exact congrArg Option.isSome (List.findSome?_eq_none_iff.mp silent other member)

end SourceList

end LiveConfig
