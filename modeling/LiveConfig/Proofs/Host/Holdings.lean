import LiveConfig.Host.Holdings
import LiveConfig.Proofs.Entries
import LiveConfig.Proofs.Network.Watched
import LiveConfig.Proofs.Sources.Contents

/-!
Contract: the units in what a host holds.

Owns: the units as one list, what becomes of it where one thing is put in or taken out, and the outlines
of holdings, which notifications leave as they are. Does not own: who changes them.
-/

namespace LiveConfig

namespace Holdings

/-- The holdings without what their units have read. -/
def outline (holdings : Holdings) : Holdings := holdings.mapUnits ConfigUnit.outline

/-- The names of units and of composites rise. -/
structure Ordered (holdings : Holdings) : Prop where
  units : holdings.units.Ascending
  composites : holdings.composites.Ascending

variable {holdings : Holdings} {name : String}

theorem allUnits_eq (holdings : Holdings) :
    holdings.allUnits = holdings.units.map Prod.snd ++
      (holdings.composites.flatMap (·.2.units) ++ holdings.sources.list.flatMap Source.units) := by
  rw [allUnits, all, List.flatMap_append, List.flatMap_append, List.flatMap_map, List.flatMap_map,
    List.append_assoc, List.map_eq_flatMap]
  rfl

/-! ### Outlines -/

theorem allUnits_mapUnits (holdings : Holdings) (change : ConfigUnit → ConfigUnit) :
    (holdings.mapUnits change).allUnits = holdings.allUnits.map change := by
  have source (source : Source) : (source.mapUnits change).units = source.units.map change := by
    cases source <;> rfl
  simp [allUnits_eq, mapUnits, Composite.mapUnits, List.flatMap_map, List.map_flatMap, source]

theorem allUnits_outline (holdings : Holdings) :
    holdings.outline.allUnits = holdings.allUnits.map ConfigUnit.outline :=
  holdings.allUnits_mapUnits ConfigUnit.outline

theorem mapUnits_congr {change other : ConfigUnit → ConfigUnit}
    (same : ∀ unit ∈ holdings.allUnits, change unit = other unit) :
    holdings.mapUnits change = holdings.mapUnits other := by
  rw [allUnits_eq] at same
  have inComposites {composite : Composite} (here : ∀ unit ∈ composite.units, change unit = other unit) :
      composite.mapUnits change = composite.mapUnits other := by
    rw [Composite.mapUnits, List.map_congr_left here, Composite.mapUnits]
  rw [mapUnits, mapUnits, Holdings.mk.injEq]
  refine ⟨List.map_congr_left fun entry member => ?_, List.map_congr_left fun entry member => ?_,
    congrArg SourceList.mk (List.map_congr_left fun source member => ?_)⟩
  · have here := same entry.2 (List.mem_append_left _ (List.mem_map_of_mem member))
    exact congrArg (Prod.mk entry.1) here
  · have here : ∀ unit ∈ entry.2.units, change unit = other unit := by
      intro unit isUnit
      apply same unit
      apply List.mem_append_right
      exact List.mem_append_left _ (List.mem_flatMap.mpr ⟨entry, member, isUnit⟩)
    exact congrArg (Prod.mk entry.1) (inComposites here)
  · have here : ∀ unit ∈ source.units, change unit = other unit := by
      intro unit isUnit
      apply same unit
      apply List.mem_append_right
      exact List.mem_append_right _ (List.mem_flatMap.mpr ⟨source, member, isUnit⟩)
    cases source with
    | fixed name values => rfl
    | unit single => exact congrArg Source.unit (here single (List.mem_singleton_self _))
    | composite group => exact congrArg Source.composite (inComposites here)

theorem mapUnits_mapUnits (holdings : Holdings) (first second : ConfigUnit → ConfigUnit) :
    (holdings.mapUnits first).mapUnits second = holdings.mapUnits (second ∘ first) := by
  have source (source : Source) :
      (source.mapUnits first).mapUnits second = source.mapUnits (second ∘ first) := by
    cases source <;> simp [Source.mapUnits, Composite.mapUnits]
  simp [mapUnits, Composite.mapUnits, Function.comp_def, source]

/-- A unit that was told of something stands in its old place. -/
theorem setUnit_outline {key : Nat} {unit after : ConfigUnit}
    (distinct : (holdings.allUnits.map (·.key)).Nodup) (found : holdings.unit? key = some unit)
    (same : after.outline = unit.outline) : (holdings.setUnit after).outline = holdings.outline := by
  rw [outline, setUnit, mapUnits_mapUnits]
  apply mapUnits_congr
  intro other member
  rw [Function.comp_apply]
  split
  · rename_i sameKey
    have key : after.key = unit.key := congrArg (·.key) same
    have isOther : other = unit := List.inj_on_of_nodup_map distinct member
      (List.mem_of_find?_eq_some found) (sameKey.trans key)
    rw [isOther, same]
  · rfl

/-! ### What is put in and taken out -/

theorem perm_of_units {entries : Entries ConfigUnit} {unit : ConfigUnit}
    (perm : holdings.units.Perm ((name, unit) :: entries)) :
    holdings.allUnits.Perm (unit :: { holdings with units := entries }.allUnits) := by
  rw [allUnits_eq, allUnits_eq]
  exact (perm.map Prod.snd).append_right _

theorem perm_of_composites {entries : Entries Composite} {composite : Composite}
    (perm : holdings.composites.Perm ((name, composite) :: entries)) :
    holdings.allUnits.Perm
      (composite.units ++ { holdings with composites := entries }.allUnits) := by
  rw [allUnits_eq, allUnits_eq]
  have units := perm.flatMap_right (·.2.units)
  rw [List.flatMap_cons] at units
  have rest := (units.append_right (holdings.sources.list.flatMap Source.units)).append_left
    (holdings.units.map Prod.snd)
  rw [List.append_assoc composite.units] at rest
  exact rest.trans (List.perm_append_comm_assoc ..)

theorem perm_of_sources {sources : SourceList} {added removed : List Source}
    (perm : (added ++ holdings.sources.list).Perm (removed ++ sources.list)) :
    (added.flatMap Source.units ++ holdings.allUnits).Perm
      (removed.flatMap Source.units ++ { holdings with sources := sources }.allUnits) := by
  rw [allUnits_eq, allUnits_eq]
  have units := perm.flatMap_right Source.units
  rw [List.flatMap_append, List.flatMap_append] at units
  rw [← List.append_assoc (holdings.units.map Prod.snd), ← List.append_assoc (holdings.units.map Prod.snd)]
  refine (List.perm_append_comm_assoc ..).trans ?_
  exact (units.append_left _).trans (List.perm_append_comm_assoc ..)

/-! ### Units and composites under names -/

section Names

variable (ordered : holdings.Ordered)

include ordered

theorem perm_erase_unit {unit : ConfigUnit} (found : holdings.units.find? name = some unit) :
    holdings.allUnits.Perm
      (unit :: { holdings with units := Entries.erase name holdings.units }.allUnits) :=
  perm_of_units (Entries.perm_of_find? ordered.units found)

theorem perm_insert_unit (name : String) (unit : ConfigUnit) :
    { holdings with units := holdings.units.insert name unit }.allUnits.Perm
      (unit :: { holdings with units := Entries.erase name holdings.units }.allUnits) :=
  perm_of_units (Entries.perm_insert ordered.units name unit)

theorem perm_erase_composite {composite : Composite}
    (found : holdings.composites.find? name = some composite) :
    holdings.allUnits.Perm (composite.units ++
      { holdings with composites := Entries.erase name holdings.composites }.allUnits) :=
  perm_of_composites (Entries.perm_of_find? ordered.composites found)

theorem perm_insert_composite (name : String) (composite : Composite) :
    { holdings with composites := holdings.composites.insert name composite }.allUnits.Perm
      (composite.units ++
        { holdings with composites := Entries.erase name holdings.composites }.allUnits) :=
  perm_of_composites (Entries.perm_insert ordered.composites name composite)

theorem Ordered.mapUnits (change : ConfigUnit → ConfigUnit) : (holdings.mapUnits change).Ordered :=
  ⟨List.pairwise_map.mpr ordered.units, List.pairwise_map.mpr ordered.composites⟩

end Names

end Holdings

end LiveConfig
