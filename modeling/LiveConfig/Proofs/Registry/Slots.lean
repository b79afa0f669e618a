import LiveConfig.Registry.Basic
import Mathlib.Data.List.Nodup

/-!
Contract: slots and cells under the changes of a registry.

Owns: what is read from a registry after a change, and how registries grow while they are not shut
down: slots are only added, and a filled cell stays as it is. Does not own: the calls.
-/

namespace LiveConfig.Registry

variable {registry : Registry}

/-! ### Cells -/

theorem cell_updateCell (registry : Registry) {key : Nat} (inRange : key < registry.cells.length)
    (change : Cell → Cell) (other : Nat) :
    (registry.updateCell key change).cell other =
      if other = key then change (registry.cell key) else registry.cell other := by
  simp only [cell, updateCell, List.getElem?_modify]
  by_cases same : other = key
  · subst same
    simp [inRange]
  · simp [same, Ne.symm same]

/-- A new cell is as empty as one that was never made. -/
theorem cell_append_empty (cells : List Cell) (key : Nat) :
    ((cells ++ [Cell.empty])[key]?).getD .empty = (cells[key]?).getD .empty := by
  rcases Nat.lt_trichotomy key cells.length with below | same | beyond
  · rw [List.getElem?_append_left below]
  · subst same
    simp
  · have noCell : cells[key]? = none := List.getElem?_eq_none (by omega)
    have noMore : (cells ++ [Cell.empty])[key]? = none := List.getElem?_eq_none (by simp; omega)
    rw [noCell, noMore]

@[simp] theorem cell_openSlot (registry : Registry) (identity : Identity) (key : Nat) :
    (registry.openSlot identity).2.cell key = registry.cell key := by
  unfold openSlot
  split
  · rfl
  · exact cell_append_empty registry.cells key

/-! ### Slots -/

theorem mem_of_slot? {identity : Identity} {key : Nat}
    (found : registry.slot? identity = some key) : (identity, key) ∈ registry.slots := by
  obtain ⟨⟨other, place⟩, foundEntry, rfl⟩ := Option.map_eq_some_iff.mp found
  have sameIdentity : other = identity := by simpa using List.find?_some foundEntry
  exact sameIdentity ▸ List.mem_of_find?_eq_some foundEntry

theorem slot?_of_mem (distinct : (registry.slots.map Prod.fst).Nodup) {identity : Identity}
    {key : Nat} (member : (identity, key) ∈ registry.slots) :
    registry.slot? identity = some key := by
  have someEntry : (registry.slots.find? (·.1 = identity)).isSome :=
    List.find?_isSome.mpr ⟨(identity, key), member, by simp⟩
  obtain ⟨entry, found⟩ := Option.isSome_iff_exists.mp someEntry
  have sameIdentity : entry.1 = identity := by simpa using List.find?_some found
  have sameEntry := List.inj_on_of_nodup_map distinct (List.mem_of_find?_eq_some found) member
    sameIdentity
  simp [slot?, found, sameEntry]

theorem openSlot_of_slot? {identity : Identity} {key : Nat}
    (found : registry.slot? identity = some key) :
    registry.openSlot identity = (key, registry) := by simp [openSlot, found]

/-- The cell of an identity without slot is a new one. -/
theorem openSlot_of_none {identity : Identity} (missing : registry.slot? identity = none) :
    registry.openSlot identity = (registry.cells.length, { registry with
      slots := registry.slots ++ [(identity, registry.cells.length)]
      cells := registry.cells ++ [.empty] }) := by simp [openSlot, missing]

@[simp] theorem closing_openSlot (registry : Registry) (identity : Identity) :
    (registry.openSlot identity).2.closing = registry.closing := by
  unfold openSlot
  split <;> rfl

theorem slots_subset_openSlot (registry : Registry) (identity : Identity) :
    registry.slots ⊆ (registry.openSlot identity).2.slots := by
  unfold openSlot
  split
  · exact List.Subset.refl _
  · exact List.subset_append_left _ _

/-- The identity of an open slot has it. -/
theorem mem_openSlot (registry : Registry) (identity : Identity) :
    (identity, (registry.openSlot identity).1) ∈ (registry.openSlot identity).2.slots := by
  cases slot : registry.slot? identity with
  | some key =>
      rw [openSlot_of_slot? slot]
      exact mem_of_slot? slot
  | none =>
      rw [openSlot_of_none slot]
      exact List.mem_append_right _ List.mem_cons_self

/-- The slot of another identity stays. -/
theorem slot?_closeSlot_of_ne {identity other : Identity} (different : other ≠ identity)
    (cell : Nat) : (registry.closeSlot identity cell).slot? other = registry.slot? other := by
  have sameTest (entry : Identity × Nat) :
      decide (decide (entry ≠ (identity, cell)) = true ∧ decide (entry.1 = other) = true) =
        decide (entry.1 = other) := by
    by_cases own : entry.1 = other
    · subst own
      have kept : entry ≠ (identity, cell) := fun same => different (congrArg Prod.fst same)
      simp [kept]
    · simp [own]
  simp only [slot?, closeSlot, List.find?_filter, sameTest]

theorem not_mem_closeSlot (registry : Registry) (identity : Identity) (cell : Nat) :
    (identity, cell) ∉ (registry.closeSlot identity cell).slots := by
  simp [closeSlot]

/-- No slot of the identity is left when its slot is taken out. -/
theorem ne_of_mem_closeSlot {identity other : Identity} {cell place : Nat}
    (distinct : (registry.slots.map Prod.fst).Nodup) (slot : registry.slot? identity = some cell)
    (member : (other, place) ∈ (registry.closeSlot identity cell).slots) : other ≠ identity := by
  rintro rfl
  have inSlots := (List.mem_filter.mp member).1
  obtain rfl := Option.some.inj ((slot?_of_mem distinct inSlots).symm.trans slot)
  exact registry.not_mem_closeSlot _ _ member

/-- The slots are one that may be closed and those that are left then. -/
theorem perm_closeSlot (distinct : (registry.slots.map Prod.fst).Nodup) {identity : Identity}
    {cell : Nat} (inSlots : (identity, cell) ∈ registry.slots) :
    registry.slots.Perm ((identity, cell) :: (registry.closeSlot identity cell).slots) := by
  have erased : (registry.closeSlot identity cell).slots =
      registry.slots.erase (identity, cell) := by
    rw [distinct.of_map.erase_eq_filter]
    exact List.filter_congr fun entry _ => by simp [bne, Bool.beq_eq_decide_eq]
  rw [erased]
  exact List.perm_cons_erase inSlots

/-- A slot after one was opened: an old one, or the new one, which has a new cell. -/
theorem cases_openSlot {identity other : Identity} {key : Nat}
    (member : (other, key) ∈ (registry.openSlot identity).2.slots) :
    (other, key) ∈ registry.slots ∨ other = identity ∧ key = registry.cells.length := by
  cases slot : registry.slot? identity with
  | some place =>
      rw [openSlot_of_slot? slot] at member
      exact .inl member
  | none =>
      rw [openSlot_of_none slot] at member
      rcases List.mem_append.mp member with old | new
      · exact .inl old
      · exact .inr (Prod.mk.inj (List.mem_singleton.mp new))

theorem client?_eq_some_iff {identity : Identity} {client : Nat} :
    registry.client? identity = some client ↔
      ∃ key, registry.slot? identity = some key ∧ (registry.cell key).client = some client := by
  simp [client?, Option.bind_eq_some_iff]

/-! ### Growth -/

/-- Until the registry is shut down, slots are only added and filled cells stay as they are. -/
structure Grows (before after : Registry) : Prop where
  closing : before.closing = true → after.closing = true
  length : before.cells.length ≤ after.cells.length
  slots : after.closing = false → before.slots <+: after.slots
  clients : ∀ {key client : Nat}, (before.cell key).client = some client →
    (after.cell key).client = some client

namespace Grows

theorem refl (registry : Registry) : Grows registry registry :=
  ⟨id, Nat.le_refl _, fun _ => List.prefix_refl _, id⟩

theorem trans {first second third : Registry} (left : Grows first second)
    (right : Grows second third) : Grows first third where
  closing := right.closing ∘ left.closing
  length := Nat.le_trans left.length right.length
  slots := by
    intro isOpen
    have wasOpen : second.closing = false := by
      by_contra closed
      rw [right.closing (by simpa using closed)] at isOpen
      cases isOpen
    exact (left.slots wasOpen).trans (right.slots isOpen)
  clients := right.clients ∘ left.clients

theorem client? {before after : Registry} (grows : Grows before after)
    (isOpen : after.closing = false) {identity : Identity} {client : Nat}
    (found : before.client? identity = some client) : after.client? identity = some client := by
  obtain ⟨key, slot, held⟩ := client?_eq_some_iff.mp found
  refine client?_eq_some_iff.mpr ⟨key, ?_, grows.clients held⟩
  obtain ⟨more, longer⟩ := grows.slots isOpen
  obtain ⟨entry, foundEntry, rfl⟩ := Option.map_eq_some_iff.mp slot
  simp [slot?, ← longer, List.find?_append, foundEntry]

theorem updateCell (registry : Registry) {key : Nat} {change : Cell → Cell}
    (keeps : ∀ client, (registry.cell key).client = some client →
      (change (registry.cell key)).client = some client) :
    Grows registry (registry.updateCell key change) where
  closing := id
  length := by simp [Registry.updateCell]
  slots := fun _ => List.prefix_refl _
  clients := by
    intro other client held
    by_cases inRange : key < registry.cells.length
    · rw [cell_updateCell registry inRange]
      split
      · rename_i same
        exact keeps client (same ▸ held)
      · exact held
    · have same : (registry.updateCell key change).cells = registry.cells :=
        List.modify_eq_self (by omega)
      rw [cell, same]
      exact held

theorem openSlot (registry : Registry) (identity : Identity) :
    Grows registry (registry.openSlot identity).2 where
  closing := by
    intro closed
    unfold Registry.openSlot
    split <;> exact closed
  length := by
    unfold Registry.openSlot
    split
    · exact Nat.le_refl _
    · simp
  slots := by
    intro _
    unfold Registry.openSlot
    split
    · exact List.prefix_refl _
    · exact List.prefix_append _ _
  clients := by
    intro key client held
    rw [cell_openSlot]
    exact held

end Grows

end LiveConfig.Registry
