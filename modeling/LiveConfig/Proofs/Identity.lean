import LiveConfig.Registry.Basic
import Mathlib.Data.List.Nodup

/-!
Contract: the order of identities.

Owns: that identities are in a strict total order, and that a list which is put in it rises strictly when
no identity stands in it twice.
-/

namespace LiveConfig

namespace Identity

variable {left middle right : Identity}

theorem precedes_iff : left.precedes right ↔ left.connectString < right.connectString ∨
    left.connectString = right.connectString ∧ left.rootPath < right.rootPath := by
  simp [precedes]

theorem precedes_irrefl (identity : Identity) : ¬ identity.precedes identity := by
  rw [precedes_iff]
  rintro (below | ⟨-, below⟩) <;> exact String.lt_irrefl _ below

theorem precedes_trans (first : left.precedes middle) (second : middle.precedes right) :
    left.precedes right := by
  rw [precedes_iff] at first second ⊢
  rcases first with below | ⟨same, below⟩ <;> rcases second with belowToo | ⟨sameToo, belowToo⟩
  · exact .inl (String.lt_trans below belowToo)
  · exact .inl (sameToo ▸ below)
  · exact .inl (same ▸ belowToo)
  · exact .inr ⟨same.trans sameToo, String.lt_trans below belowToo⟩

theorem eq_of_not_lt {left right : String} (notBelow : ¬ left < right) (notAbove : ¬ right < left) :
    left = right :=
  String.le_antisymm (String.not_lt.mp notAbove) (String.not_lt.mp notBelow)

theorem precedes_trichotomy (left right : Identity) :
    left.precedes right ∨ left = right ∨ right.precedes left := by
  simp only [precedes_iff]
  by_cases below : left.connectString < right.connectString
  · exact .inl (.inl below)
  by_cases above : right.connectString < left.connectString
  · exact .inr (.inr (.inl above))
  have sameEndpoint := eq_of_not_lt below above
  by_cases rootBelow : left.rootPath < right.rootPath
  · exact .inl (.inr ⟨sameEndpoint, rootBelow⟩)
  by_cases rootAbove : right.rootPath < left.rootPath
  · exact .inr (.inr (.inr ⟨sameEndpoint.symm, rootAbove⟩))
  obtain ⟨connectString, rootPath⟩ := left
  obtain rfl : connectString = right.connectString := sameEndpoint
  obtain rfl := eq_of_not_lt rootBelow rootAbove
  exact .inr (.inl rfl)

end Identity

namespace Registry

/-- Entries that are sorted come in strictly ascending order of their identities. -/
theorem mergeSort_ascending {entries : List (Identity × Nat)}
    (distinct : (entries.map Prod.fst).Nodup) :
    ((entries.mergeSort entryLE).map Prod.fst).Pairwise fun left right => left.precedes right := by
  have inOrder : (entries.mergeSort entryLE).Pairwise fun left right =>
      entryLE left right = true := by
    refine List.pairwise_mergeSort (fun left middle right first second => ?_) (fun left right => ?_) _
    · simp only [entryLE, Bool.not_eq_true', Bool.eq_false_iff, ne_eq] at first second ⊢
      intro above
      rcases left.1.precedes_trichotomy middle.1 with below | same | beyond
      · exact second (Identity.precedes_trans above below)
      · exact second (same ▸ above)
      · exact first beyond
    · by_cases above : right.1.precedes left.1
      · have notBelow : ¬ left.1.precedes right.1 := fun below =>
          Identity.precedes_irrefl _ (Identity.precedes_trans above below)
        simp [entryLE, notBelow]
      · simp [entryLE, above]
  have once : (entries.mergeSort entryLE).Pairwise fun left right => left.1 ≠ right.1 := by
    have nodup : ((entries.mergeSort entryLE).map Prod.fst).Nodup :=
      ((List.mergeSort_perm entries entryLE).map Prod.fst).nodup_iff.mpr distinct
    exact List.pairwise_map.mp nodup
  rw [List.pairwise_map]
  refine (inOrder.and once).imp fun {left right} ordered => ?_
  obtain ⟨notAbove, different⟩ := ordered
  rcases left.1.precedes_trichotomy right.1 with below | same | above
  · exact below
  · exact absurd same different
  · simp [entryLE, above] at notAbove

/-- In which order entries are found makes no difference once they are sorted. -/
theorem mergeSort_eq_of_perm {entries others : List (Identity × Nat)} (same : entries.Perm others)
    (distinct : (entries.map Prod.fst).Nodup) :
    entries.mergeSort entryLE = others.mergeSort entryLE := by
  have ascending := List.pairwise_map.mp (mergeSort_ascending distinct)
  have ascendingToo := List.pairwise_map.mp
    (mergeSort_ascending ((same.map Prod.fst).nodup_iff.mp distinct))
  refine List.Perm.eq_of_pairwise (fun left right _ _ below above => ?_) ascending ascendingToo ?_
  · exact absurd (Identity.precedes_trans below above) (Identity.precedes_irrefl _)
  · exact (List.mergeSort_perm _ _).trans (same.trans (List.mergeSort_perm _ _).symm)

end Registry

end LiveConfig
