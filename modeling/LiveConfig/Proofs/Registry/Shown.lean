import LiveConfig.Proofs.Registry.Moves
import LiveConfig.Proofs.Registry.OneClient

/-!
Contract: what a registry shows, and what a step adds to it.

Slots have cells of their own, so a client that fills a cell is shown for one identity only. Owns: that
the entries of a registry are the answers to questions for single identities, and that a step of a call
adds a client exactly when its start has succeeded. Does not own: the steps themselves.
-/

namespace LiveConfig

namespace Registry

variable {registry : Registry}

/-- No cell belongs to two slots. -/
def Unshared (registry : Registry) : Prop := (registry.slots.map Prod.snd).Nodup

theorem Unshared.identity_eq (unshared : registry.Unshared) {identity other : Identity} {cell : Nat}
    (slot : registry.slot? identity = some cell) (slotOther : registry.slot? other = some cell) :
    identity = other := by
  have sameSlot := List.inj_on_of_nodup_map unshared (mem_of_slot? slot) (mem_of_slot? slotOther) rfl
  exact congrArg Prod.fst sameSlot

/-! ### Entries -/

theorem mem_cached_iff (distinct : (registry.slots.map Prod.fst).Nodup) {identity : Identity}
    {client : Nat} :
    (identity, client) ∈ registry.cached ↔ registry.client? identity = some client := by
  rw [client?_eq_some_iff]
  constructor
  · intro member
    obtain ⟨⟨_, cell⟩, inSlots, shown⟩ := List.mem_filterMap.mp member
    obtain ⟨_, held, same⟩ := Option.map_eq_some_iff.mp shown
    obtain ⟨rfl, rfl⟩ := Prod.mk.inj same
    exact ⟨cell, slot?_of_mem distinct inSlots, held⟩
  · rintro ⟨cell, slot, held⟩
    exact List.mem_filterMap.mpr ⟨(identity, cell), mem_of_slot? slot, by simp [held]⟩

/-- The entries show identities of slots, in the order of slots. -/
theorem cached_sublist (registry : Registry) :
    (registry.cached.map Prod.fst).Sublist (registry.slots.map Prod.fst) := by
  unfold cached
  induction registry.slots with
  | nil => exact .slnil
  | cons slot rest inductionHypothesis =>
      obtain ⟨identity, cell⟩ := slot
      cases held : (registry.cell cell).client with
      | none =>
          simp only [List.filterMap_cons, held, Option.map_none]
          exact inductionHypothesis.cons identity
      | some client =>
          simp only [List.filterMap_cons, held, Option.map_some]
          exact inductionHypothesis.cons_cons identity

theorem nodup_cached (distinct : (registry.slots.map Prod.fst).Nodup) :
    (registry.cached.map Prod.fst).Nodup := registry.cached_sublist.nodup distinct

theorem mem_identities_iff (distinct : (registry.slots.map Prod.fst).Nodup) {identity : Identity} :
    identity ∈ registry.identities ↔ ∃ client, registry.client? identity = some client := by
  have sameMembers : identity ∈ registry.identities ↔ identity ∈ registry.cached.map Prod.fst :=
    (List.mergeSort_perm _ _).mem_iff
  rw [sameMembers, List.mem_map]
  constructor
  · rintro ⟨⟨_, client⟩, member, rfl⟩
    exact ⟨client, (mem_cached_iff distinct).mp member⟩
  · rintro ⟨client, shown⟩
    exact ⟨(identity, client), (mem_cached_iff distinct).mpr shown, rfl⟩

theorem nodup_identities (distinct : (registry.slots.map Prod.fst).Nodup) :
    registry.identities.Nodup :=
  (List.mergeSort_perm _ _).nodup_iff.mpr (nodup_cached distinct)

theorem length_identities (registry : Registry) : registry.identities.length = registry.size := by
  rw [identities, Identity.sorted, List.length_mergeSort, List.length_map, size]

end Registry

/-- A client whose start has succeeded was the one of the call. -/
theorem CallProgress.Moves.eq_starting {identity : Identity} {free client : Nat} {closing : Bool}
    {progress next : CallProgress}
    (moves : progress.Moves identity free closing (some (.started client)) next) :
    ∃ cell start, progress = .starting cell client start := by
  cases moves with
  | fill cell _ start => exact ⟨cell, start, rfl⟩

namespace Fleet

variable {fleet after : Fleet} {key : Nat} {call : Call} {made : Option Making}

/-! ### Steps of calls -/

theorem Advanced.unshared (advanced : Advanced fleet after key call made)
    (coherent : fleet.Coherent) (unshared : fleet.registry.Unshared) : after.registry.Unshared := by
  cases advanced.slots with
  | same kept =>
      rw [Registry.Unshared, kept]
      exact unshared
  | opened _ _ _ grown =>
      rw [Registry.Unshared, grown, List.map_append, List.map_singleton]
      refine unshared.append (List.nodup_singleton _) fun cell member isNew => ?_
      obtain rfl := List.mem_singleton.mp isNew
      obtain ⟨⟨identity, _⟩, inSlots, rfl⟩ := List.mem_map.mp member
      exact Nat.lt_irrefl _ (coherent.inRange inSlots)
  | withdrawn _ fewer => exact (fewer.map Prod.snd).nodup unshared

/-- A cell beyond all that were made is empty. -/
theorem cell_beyond (registry : Registry) : (registry.cell registry.cells.length).client = none := by
  rw [Registry.cell, List.getElem?_eq_none (Nat.le_refl _)]
  rfl

/-- The slots of an open registry after a step. -/
theorem Advanced.slot? (advanced : Advanced fleet after key call made)
    (isOpen : fleet.registry.closing = false) (identity : Identity) :
    after.registry.slot? identity = fleet.registry.slot? identity ∨
      fleet.registry.slot? identity = none ∧ identity = call.identity ∧
        after.registry.slot? identity = some fleet.registry.cells.length := by
  cases advanced.slots with
  | same kept => exact .inl (by rw [Registry.slot?, kept, Registry.slot?])
  | withdrawn closed =>
      rw [isOpen] at closed
      cases closed
  | opened _ _ missing grown =>
      by_cases own : identity = call.identity
      · subst own
        refine .inr ⟨missing, rfl, ?_⟩
        have noEntry : fleet.registry.slots.find? (·.1 = call.identity) = none := by
          simpa [Registry.slot?] using missing
        rw [Registry.slot?, grown, List.find?_append, noEntry]
        simp
      · refine .inl ?_
        rw [Registry.slot?, grown, List.find?_append, Registry.slot?]
        simp [Ne.symm own]

/-- While the registry is open, a step shows one more client exactly when its start has succeeded. -/
theorem Advanced.client?_eq_some_iff (advanced : Advanced fleet after key call made)
    (coherent : fleet.Coherent) (isOpen : fleet.registry.closing = false)
    (unshared : fleet.registry.Unshared) (found : fleet.calls[key]? = some call)
    {identity : Identity} {client : Nat} :
    after.registry.client? identity = some client ↔
      fleet.registry.client? identity = some client ∨
        made = some (.started client) ∧ call.identity = identity := by
  -- A call at work stands at the cell of its own identity.
  have ownSlot {cell : Nat} (works : call.progress.cell? = some cell) :
      fleet.registry.slot? call.identity = some cell :=
    slot?_of_place coherent isOpen found (CallProgress.place?_of_cell? works)
  simp only [Registry.client?_eq_some_iff, advanced.cells]
  obtain ⟨next, moves, -⟩ := advanced.calls
  rcases advanced.slot? isOpen identity with same | ⟨missing, own, newest⟩
  · simp only [same]
    constructor
    · rintro ⟨cell, slot, held | ⟨started, works⟩⟩
      · exact .inl ⟨cell, slot, held⟩
      · exact .inr ⟨started, unshared.identity_eq (ownSlot works) slot⟩
    · rintro (⟨cell, slot, held⟩ | ⟨rfl, rfl⟩)
      · exact ⟨cell, slot, .inl held⟩
      · obtain ⟨cell, start, starting⟩ := moves.eq_starting
        have works : call.progress.cell? = some cell := by rw [starting]; rfl
        exact ⟨cell, ownSlot works, .inr ⟨rfl, works⟩⟩
  · -- A call that is given a new slot is not at work yet.
    subst own
    have idle {cell : Nat} : call.progress.cell? ≠ some cell := by
      intro works
      rw [ownSlot works] at missing
      cases missing
    simp only [newest, missing]
    constructor
    · rintro ⟨cell, slot, held | ⟨-, works⟩⟩
      · obtain rfl := Option.some.inj slot
        rw [cell_beyond] at held
        cases held
      · exact absurd works idle
    · rintro (⟨cell, slot, -⟩ | ⟨rfl, -⟩)
      · cases slot
      · obtain ⟨cell, start, starting⟩ := moves.eq_starting
        exact absurd (by rw [starting]; rfl : call.progress.cell? = some cell) idle

end Fleet

end LiveConfig
