import LiveConfig.Toml.Values

/-!
Contract: the values of several nodes, under any reading.

The values of the items of an array stand in their order, and those of the members of a table under their
keys; if one node has no value, there are none. Owns: these laws. Does not own: what a single node is read
as.
-/

namespace LiveConfig.Toml

variable {reading : Reading} {members : Entries Item} {values : Entries Value}

/-! ### Items -/

theorem valuesOfItems_cons {item : Item} {rest : List Item} {values : List Value}
    (areValues : valuesOfItems reading (item :: rest) = some values) :
    ∃ value others, item.value? reading = some value ∧ valuesOfItems reading rest = some others ∧
      values = value :: others := by
  simp only [valuesOfItems] at areValues
  split at areValues
  · rename_i value others isValue areOthers
    exact ⟨value, others, isValue, areOthers, (Option.some.inj areValues).symm⟩
  · cases areValues

/-- At each index stands the value of the node at it. -/
theorem getElem?_valuesOfItems {items : List Item} {values : List Value}
    (areValues : valuesOfItems reading items = some values) (index : Nat) :
    (items[index]? = none ∧ values[index]? = none) ∨
      ∃ item value, items[index]? = some item ∧ values[index]? = some value ∧
        item.value? reading = some value := by
  induction items generalizing values index with
  | nil =>
      cases areValues
      exact .inl ⟨rfl, rfl⟩
  | cons item rest inductionHypothesis =>
      obtain ⟨value, others, isValue, areOthers, rfl⟩ := valuesOfItems_cons areValues
      cases index with
      | zero => exact .inr ⟨item, value, rfl, rfl, isValue⟩
      | succ index =>
          rw [List.getElem?_cons_succ, List.getElem?_cons_succ]
          exact inductionHypothesis areOthers index

/-! ### Members -/

theorem valuesOfMembers_cons {member : String × Item} {rest : Entries Item}
    (areValues : valuesOfMembers reading (member :: rest) = some values) :
    ∃ value others, member.2.value? reading = some value ∧
      valuesOfMembers reading rest = some others ∧ values = (member.1, value) :: others := by
  obtain ⟨key, item⟩ := member
  simp only [valuesOfMembers, valueOfMember] at areValues
  split at areValues
  · rename_i isMember isRest
    obtain ⟨value, isValue, rfl⟩ := Option.map_eq_some_iff.mp isMember
    exact ⟨value, _, isValue, isRest, (Option.some.inj areValues).symm⟩
  · cases areValues

theorem keys_valuesOfMembers (areValues : valuesOfMembers reading members = some values) :
    values.keys = members.keys := by
  induction members generalizing values with
  | nil =>
      cases areValues
      rfl
  | cons member rest inductionHypothesis =>
      obtain ⟨value, others, -, areOthers, rfl⟩ := valuesOfMembers_cons areValues
      exact congrArg (member.1 :: ·) (inductionHypothesis areOthers)

theorem ascending_valuesOfMembers (areValues : valuesOfMembers reading members = some values)
    (ascending : members.Ascending) : values.Ascending := by
  have keysAscend : members.keys.Pairwise (· < ·) := List.pairwise_map.mpr ascending
  rw [← keys_valuesOfMembers areValues] at keysAscend
  exact List.pairwise_map.mp keysAscend

/-- Under each key stands the value of the node under it. -/
theorem find?_valuesOfMembers (areValues : valuesOfMembers reading members = some values)
    (key : String) :
    (members.find? key = none ∧ values.find? key = none) ∨
      ∃ item value, members.find? key = some item ∧ values.find? key = some value ∧
        item.value? reading = some value := by
  induction members generalizing values with
  | nil =>
      cases areValues
      exact .inl ⟨rfl, rfl⟩
  | cons member rest inductionHypothesis =>
      obtain ⟨value, others, isValue, areOthers, rfl⟩ := valuesOfMembers_cons areValues
      by_cases same : member.1 = key
      · exact .inr ⟨member.2, value, by simp [Entries.find?, same], by simp [Entries.find?, same], isValue⟩
      · simpa [Entries.find?, same] using inductionHypothesis areOthers

end LiveConfig.Toml
