import LiveConfig.Proofs.Sources.Installation

/-!
Contract: composites that are put in behind other sources one after the other.

Each takes the place of the one of its name, or is put behind all. Owns: what is there in the end, which is
the last composite of each name, in the order in which the names first came. Does not own: where the
composites come from.
-/

namespace LiveConfig

/-! ### The last of each name -/

theorem eraseDups_concat (names : List String) (name : String) :
    (names ++ [name]).eraseDups =
      if name ∈ names then names.eraseDups else names.eraseDups ++ [name] := by
  rw [List.eraseDups_append, List.removeAll]
  by_cases there : name ∈ names <;> simp [there, List.eraseDups_cons]

namespace Composite

variable {composite : Composite} {composites : List Composite} {name : String}

/-- The last composite of a name. -/
def lastOf (composites : List Composite) (name : String) : Option Composite :=
  composites.reverse.find? (·.name = name)

/-- The last composite of each name, in the order in which the names first come. -/
def latest (composites : List Composite) : List Composite :=
  (composites.map (·.name)).eraseDups.filterMap (lastOf composites)

theorem lastOf_concat (composites : List Composite) (composite : Composite) (name : String) :
    lastOf (composites ++ [composite]) name =
      if composite.name = name then some composite else lastOf composites name := by
  rw [lastOf, List.reverse_concat, List.find?_cons]
  by_cases same : composite.name = name <;> simp [same, lastOf]

theorem name_of_lastOf (found : lastOf composites name = some composite) : composite.name = name := by
  simpa using List.find?_some found

theorem exists_lastOf (member : name ∈ composites.map (·.name)) :
    ∃ composite, lastOf composites name = some composite := by
  obtain ⟨composite, among, named⟩ := List.mem_map.mp member
  refine Option.isSome_iff_exists.mp (List.find?_isSome.mpr ⟨composite, ?_, decide_eq_true named⟩)
  exact List.mem_reverse.mpr among

theorem latest_concat_of_not_mem (isNew : composite.name ∉ composites.map (·.name)) :
    latest (composites ++ [composite]) = latest composites ++ [composite] := by
  rw [latest, List.map_append, List.map_singleton, eraseDups_concat, if_neg isNew,
    List.filterMap_append]
  have own : [composite.name].filterMap (lastOf (composites ++ [composite])) = [composite] := by
    simp [lastOf_concat]
  rw [own, latest]
  congr 1
  refine List.filterMap_congr fun name member => ?_
  have differs : composite.name ≠ name := fun same => isNew (same ▸ List.mem_eraseDups.mp member)
  rw [lastOf_concat, if_neg differs]

theorem latest_concat_of_mem (there : composite.name ∈ composites.map (·.name)) :
    latest (composites ++ [composite]) =
      (latest composites).map fun old => if old.name = composite.name then composite else old := by
  rw [latest, List.map_append, List.map_singleton, eraseDups_concat, if_pos there, latest,
    List.map_filterMap]
  refine List.filterMap_congr fun name member => ?_
  obtain ⟨old, found⟩ := exists_lastOf (List.mem_eraseDups.mp member)
  rw [lastOf_concat, found, Option.map_some, name_of_lastOf found]
  split
  · rename_i same
    rw [if_pos same.symm]
  · rename_i differs
    rw [if_neg (Ne.symm differs)]

theorem names_latest (composites : List Composite) :
    (latest composites).map (·.name) = (composites.map (·.name)).eraseDups := by
  have named : ∀ name ∈ (composites.map (·.name)).eraseDups,
      (lastOf composites name).map (·.name) = some name := by
    intro name member
    obtain ⟨composite, found⟩ := exists_lastOf (List.mem_eraseDups.mp member)
    rw [found, Option.map_some, name_of_lastOf found]
  rw [latest, List.map_filterMap, List.filterMap_congr named, List.filterMap_some]

theorem length_latest_le (composites : List Composite) :
    (latest composites).length ≤ composites.length := by
  induction composites using List.reverseRecOn with
  | nil => exact Nat.le_refl _
  | append_singleton composites composite inductionHypothesis =>
      by_cases there : composite.name ∈ composites.map (·.name)
      · rw [latest_concat_of_mem there, List.length_map, List.length_append]
        exact Nat.le_add_right_of_le inductionHypothesis
      · rw [latest_concat_of_not_mem there, List.length_append, List.length_append]
        exact Nat.add_le_add_right inductionHypothesis _

/-- Composites of different names are all the last of theirs. -/
theorem latest_of_nodup (distinct : (composites.map (·.name)).Nodup) : latest composites = composites := by
  induction composites using List.reverseRecOn with
  | nil => rfl
  | append_singleton composites composite inductionHypothesis =>
      rw [List.map_append, List.map_singleton, List.nodup_append] at distinct
      obtain ⟨others, -, apart⟩ := distinct
      have isNew : composite.name ∉ composites.map (·.name) := fun there =>
        apart _ there _ (List.mem_singleton_self _) rfl
      rw [latest_concat_of_not_mem isNew, inductionHypothesis others]

end Composite

/-! ### Sources put in by their names -/

namespace SourceList

variable {source : Source} {list placed initial : List Source}

/-- A source, unless it has the name of another that takes its place. -/
def swap (source old : Source) : Source := if old.name = source.name then source else old

/-- A list with a source in place of the one of its name, or behind all others. -/
def enlist (source : Source) (list : List Source) : List Source :=
  if source.name ∈ list.map Source.name then list.map (swap source) else list ++ [source]

theorem map_swap_of_not_mem (isNew : source.name ∉ list.map Source.name) :
    list.map (swap source) = list := by
  refine (List.map_congr_left fun other member => ?_).trans list.map_id
  exact if_neg fun same : other.name = source.name => isNew (same ▸ List.mem_map_of_mem member)

/-- Among unique names, a source that is installed behind the others is there alone of its name. -/
theorem Installed.eq_enlist (installed : Installed source .last list placed)
    (unique : (list.map Source.name).Nodup) : placed = enlist source list := by
  cases installed with
  | swapped ahead old behind sameName =>
      have there : source.name ∈ (ahead ++ old :: behind).map Source.name := by simp [sameName]
      rw [List.map_append, List.map_cons, List.nodup_middle, List.nodup_cons, List.mem_append, not_or,
        sameName] at unique
      obtain ⟨⟨notAhead, notBehind⟩, -⟩ := unique
      rw [enlist, if_pos there, List.map_append, List.map_cons, map_swap_of_not_mem notAhead,
        map_swap_of_not_mem notBehind, swap, if_pos sameName]
  | last isNew => rw [enlist, if_neg isNew]

theorem nodup_enlist (unique : (list.map Source.name).Nodup) (source : Source) :
    ((enlist source list).map Source.name).Nodup := by
  have named (old : Source) : (swap source old).name = old.name := by
    unfold swap
    split
    · rename_i same
      exact same.symm
    · rfl
  unfold enlist
  split
  · rw [List.map_map]
    exact (List.map_congr_left fun old _ => named old) ▸ unique
  · rename_i isNew
    rw [List.map_append, List.map_singleton]
    exact List.nodup_append.mpr ⟨unique, List.nodup_singleton _, by simpa using isNew⟩

theorem enlist_map {change : Source → Source} (named : ∀ source, (change source).name = source.name)
    (source : Source) (list : List Source) :
    enlist (change source) (list.map change) = (enlist source list).map change := by
  have names : (list.map change).map Source.name = list.map Source.name := by simp [named]
  have swapped (old : Source) : swap (change source) (change old) = change (swap source old) := by
    simp only [swap, named]
    split <;> rfl
  simp only [enlist, names, named]
  split
  · rw [List.map_map, List.map_map]
    exact List.map_congr_left fun old _ => swapped old
  · rw [List.map_append, List.map_singleton]

theorem enlist_append (isNew : source.name ∉ initial.map Source.name) (list : List Source) :
    enlist source (initial ++ list) = initial ++ enlist source list := by
  simp only [enlist, List.map_append, List.mem_append, isNew, false_or, map_swap_of_not_mem isNew]
  split
  · rfl
  · rw [List.append_assoc]

/-- One more composite that is put in leaves the last of each name. -/
theorem enlist_latest (composite : Composite) (composites : List Composite) :
    enlist (.composite composite) ((Composite.latest composites).map .composite) =
      (Composite.latest (composites ++ [composite])).map .composite := by
  have names : ((Composite.latest composites).map Source.composite).map Source.name =
      (composites.map (·.name)).eraseDups := by
    rw [← Composite.names_latest, List.map_map]
    rfl
  simp only [enlist, names, List.mem_eraseDups]
  split
  · rename_i there
    rw [Composite.latest_concat_of_mem there, List.map_map, List.map_map]
    refine List.map_congr_left fun old _ => ?_
    exact (apply_ite Source.composite ..).symm
  · rename_i isNew
    rw [Composite.latest_concat_of_not_mem isNew, List.map_append, List.map_singleton]

end SourceList

end LiveConfig
