import LiveConfig.Proofs.Path.Ancestors
import LiveConfig.Proofs.Path.Normal

/-!
Contract: joins against parents and names.

A join puts the segments of one text behind those of another. Owns: that below an accepted path a segment
can be joined and split off again, that every accepted path but the root is made so, and that joins are
associative on all texts. Does not own: which nodes exist.
-/

namespace LiveConfig.Path

/-! ### Joins of texts -/

theorem parts_join (base child : String) :
    parts (join base child).toList = parts base.toList ++ parts child.toList := by
  rw [join_eq, parts_spell_of_whole]
  intro part member
  rcases List.mem_append.mp member with inBase | inChild
  · exact whole_of_mem_parts inBase
  · exact whole_of_mem_parts inChild

theorem join_assoc (base middle child : String) :
    join (join base middle) child = join base (join middle child) := by
  rw [join_eq, parts_join, join_eq base, parts_join, List.append_assoc]

/-! ### Segments below paths -/

section Below

variable {path child : String} (valid : validate path = .ok ()) (clean : Clean child.toList)

include valid clean

/-- A join with one segment spells the path with the segment behind it. -/
theorem exists_spell_join :
    ∃ front, (∀ part ∈ front, Clean part) ∧ path = spell front ∧
      join path child = spell (front ++ [child.toList]) := by
  obtain ⟨front, frontClean, rfl⟩ := validate_eq_ok_iff.mp valid
  refine ⟨front, frontClean, rfl, ?_⟩
  rw [← join_spell frontClean clean, String.ofList_toList]

theorem validate_join : validate (join path child) = .ok () := by
  obtain ⟨front, frontClean, -, spelled⟩ := exists_spell_join valid clean
  rw [spelled]
  apply validate_spell
  intro part member
  rcases List.mem_append.mp member with inFront | isLast
  · exact frontClean part inFront
  · rwa [List.mem_singleton.mp isLast]

theorem parent?_join : parent? (join path child) = some path := by
  obtain ⟨front, -, isPath, spelled⟩ := exists_spell_join valid clean
  rw [spelled, isPath]
  exact parent?_spell_concat front clean

theorem name_join : name (join path child) = child := by
  obtain ⟨front, -, -, spelled⟩ := exists_spell_join valid clean
  rw [spelled, name_spell_concat front clean, String.ofList_toList]

end Below

/-! ### Parents -/

/-- A path is longer than its parent, which it begins with. -/
theorem prefix_of_parent? {path parent : String} (valid : validate path = .ok ())
    (hasParent : parent? path = some parent) :
    parent.toList <+: path.toList ∧ parent.length < path.length := by
  obtain rfl | ⟨front, last, -, lastClean, rfl⟩ := root_or_concat valid
  · cases parent?_root.symm.trans hasParent
  · obtain rfl : spell front = parent :=
      Option.some.inj ((parent?_spell_concat front lastClean).symm.trans hasParent)
    have notEmpty := List.length_pos_of_ne_nil lastClean.notEmpty
    rw [← String.length_toList, ← String.length_toList, toList_spell_concat]
    by_cases noSegment : front = []
    · subst noSegment
      show ['/'] <+: '/' :: last ∧ 1 < ('/' :: last).length
      rw [List.length_cons]
      exact ⟨List.prefix_append ['/'] last, by omega⟩
    · rw [toList_spell noSegment, List.length_append, List.length_cons]
      exact ⟨List.prefix_append _ _, by omega⟩

/-- Below an accepted path, joining a segment is undone by the parent and the name; every accepted path but
the root begins with its parent, which is shorter and accepted, and its name leads back to it from there;
and joins of any texts are associative. -/
theorem join_parent_name_inverse :
    (∀ path child, validate path = .ok () → Clean child.toList →
      validate (join path child) = .ok () ∧ parent? (join path child) = some path ∧
        name (join path child) = child) ∧
    (∀ path, validate path = .ok () → path ≠ root →
      ∃ parent, parent? path = some parent ∧ validate parent = .ok () ∧
        parent.toList <+: path.toList ∧ parent.length < path.length ∧
        join parent (name path) = path) ∧
    ∀ base middle child, join (join base middle) child = join base (join middle child) := by
  refine ⟨fun path child valid clean => ?_, fun path valid notRoot => ?_, join_assoc⟩
  · exact ⟨validate_join valid clean, parent?_join valid clean, name_join valid clean⟩
  · obtain ⟨parent, hasParent⟩ := exists_parent? valid notRoot
    obtain ⟨begins, shorter⟩ := prefix_of_parent? valid hasParent
    exact ⟨parent, hasParent, validate_parent valid hasParent, begins, shorter,
      join_parent_name valid hasParent⟩

/-- A segment that is no plain name, below the root and below a path. -/
theorem dotted_segment_inverse :
    validate root = .ok () ∧ validate "/app" = .ok () ∧ Clean "a.b c".toList ∧ "/app/a.b c" ≠ root ∧
      parent? (join root "a.b c") = some root ∧ name (join "/app" "a.b c") = "a.b c" ∧
      ∃ parent, parent? "/app/a.b c" = some parent ∧ parent.length < "/app/a.b c".length ∧
        join parent (name "/app/a.b c") = "/app/a.b c" := by
  have clean : Clean "a.b c".toList := ⟨by decide, by decide, by decide, by decide⟩
  have valid : validate "/app" = .ok () := by decide +kernel
  have longValid : validate "/app/a.b c" = .ok () := by decide +kernel
  obtain ⟨joins, parents, -⟩ := join_parent_name_inverse
  obtain ⟨-, atRoot, -⟩ := joins root "a.b c" validate_root clean
  obtain ⟨-, -, hasName⟩ := joins "/app" "a.b c" valid clean
  obtain ⟨parent, hasParent, -, -, shorter, leadsBack⟩ := parents "/app/a.b c" longValid (by decide)
  exact ⟨validate_root, valid, clean, by decide, atRoot, hasName, parent, hasParent, shorter, leadsBack⟩

end LiveConfig.Path
