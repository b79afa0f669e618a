import LiveConfig.Proofs.Identity
import LiveConfig.Proofs.Registry.Drains
import LiveConfig.Proofs.Registry.Sweeps

/-!
Contract: what threads do if nobody gets in between.

A step of a fleet is what a call or a shutdown does in several steps of its own, so every run of a fleet is
one of threads. Owns: this simulation, for any division of the slots. Does not own: answers, which are not
given before a caller asks for them, and runs in which others get in between.
-/

namespace LiveConfig.Threads

open Fleet (Action)

variable {fleet : Fleet} {shards : Shards} {first middle last : Threads} {action : Action}
  {key : Nat} {surroundings : Surroundings}

/-! ### One action over and over -/

/-- The same action, over and over, leads from one state to another. -/
def Leads (shards : Shards) (action : Action) (first last : Threads) : Prop :=
  ∃ count, first.run shards (List.replicate count action) = last

namespace Leads

theorem refl (threads : Threads) : Leads shards action threads threads := ⟨0, rfl⟩

theorem head (onward : Leads shards action (first.step shards action) last) :
    Leads shards action first last := by
  obtain ⟨count, rfl⟩ := onward
  exact ⟨count + 1, rfl⟩

theorem one (stepped : first.step shards action = last) : Leads shards action first last :=
  ⟨1, stepped⟩

theorem trans (left : Leads shards action first middle) (right : Leads shards action middle last) :
    Leads shards action first last := by
  obtain ⟨count, rfl⟩ := left
  obtain ⟨more, rfl⟩ := right
  refine ⟨count + more, ?_⟩
  rw [List.replicate_add, run, List.foldl_append]
  rfl

end Leads

/-! ### Fleets as threads -/

/-- A fleet with no call on its way to a cell, no answer given yet, and no drain at work. -/
def ofFleet (fleet : Fleet) : Threads where
  fleet := fleet
  entries := List.replicate fleet.calls.length none
  answered := []
  drains := List.replicate fleet.shutdowns.length none

@[simp] theorem entryAt?_ofFleet (fleet : Fleet) (key : Nat) : (ofFleet fleet).entryAt? key = none := by
  simp only [ofFleet, entryAt?, List.getElem?_replicate]
  split <;> rfl

@[simp] theorem drain?_ofFleet (fleet : Fleet) (key : Nat) : (ofFleet fleet).drain? key = none := by
  simp only [ofFleet, drain?, List.getElem?_replicate]
  split <;> rfl

theorem entryAt?_setEntry_self {threads : Threads} (entry : Option Entry)
    (inRange : key < threads.entries.length) : (threads.setEntry key entry).entryAt? key = entry := by
  simp [entryAt?, setEntry, inRange]

theorem withFleet_ofFleet {after : Fleet} (calls : after.calls.length = fleet.calls.length)
    (shutdowns : after.shutdowns.length = fleet.shutdowns.length) :
    (ofFleet fleet).withFleet after = ofFleet after := by
  simp only [withFleet, ofFleet, calls, shutdowns]

/-! ### Calls -/

theorem length_advance (coherent : fleet.Coherent) (key : Nat) (surroundings : Surroundings) :
    (fleet.advance key surroundings).calls.length = fleet.calls.length := by
  cases found : fleet.calls[key]? with
  | none => simp only [Fleet.advance, found]
  | some call =>
      obtain ⟨next, -, calls⟩ := (Fleet.advanced_of_advance coherent found surroundings).calls
      exact calls.length

/-- A call that finds the registry open comes to its cell in three steps. -/
theorem leads_enter {call : Call} (found : fleet.calls[key]? = some call)
    (entering : call.progress = .entering)
    (goesOn : (ofFleet fleet).withFleet (fleet.enter key call.identity) =
      ofFleet (fleet.enter key call.identity)) :
    Leads shards (.advance key surroundings) (ofFleet fleet)
      (ofFleet (fleet.enter key call.identity)) := by
  have advances {threads : Threads} (same : threads.fleet.calls = fleet.calls) :
      threads.step shards (.advance key surroundings) = threads.enter key call.identity := by
    simp only [step, advance, same, found, entering]
  have inRange : key < fleet.calls.length := (List.getElem?_eq_some_iff.mp found).1
  rw [← goesOn]
  by_cases closed : fleet.registry.closing = true
  · refine .one ((advances rfl).trans ?_)
    rw [enter, entryAt?_ofFleet, Fleet.enter, if_pos closed]
    exact if_pos closed
  · have admitted : (ofFleet fleet).step shards (.advance key surroundings) =
        (ofFleet fleet).setEntry key (some .admitted) := by
      rw [advances rfl, enter, entryAt?_ofFleet]
      exact if_neg closed
    have holding : ((ofFleet fleet).setEntry key (some .admitted)).step shards
        (.advance key surroundings) =
          ((ofFleet fleet).withFleet (fleet.takeSlot call.identity).2).setEntry key
            (some (.holding (fleet.takeSlot call.identity).1)) := by
      rw [advances rfl, enter, entryAt?_setEntry_self _ (by simpa [ofFleet] using inRange)]
      simp [setEntry, withFleet, ofFleet]
    have looked : (((ofFleet fleet).withFleet (fleet.takeSlot call.identity).2).setEntry key
        (some (.holding (fleet.takeSlot call.identity).1))).step shards
          (.advance key surroundings) =
        (ofFleet fleet).withFleet (fleet.enter key call.identity) := by
      rw [advances rfl, enter, entryAt?_setEntry_self _ (by simpa [ofFleet, withFleet] using inRange)]
      simp [setEntry, withFleet, ofFleet, Fleet.enter, closed]
    refine .head (admitted ▸ .head (holding ▸ .one looked))

theorem leads_advance (shards : Shards) (coherent : fleet.Coherent) (key : Nat)
    (surroundings : Surroundings) :
    Leads shards (.advance key surroundings) (ofFleet fleet)
      (ofFleet (fleet.advance key surroundings)) := by
  have length := length_advance coherent key surroundings
  have shutdowns := congrArg List.length (fleet.advance_leaves key surroundings).1
  have goesOn : (ofFleet fleet).withFleet (fleet.advance key surroundings) =
      ofFleet (fleet.advance key surroundings) := withFleet_ofFleet length shutdowns
  cases found : fleet.calls[key]? with
  | none =>
      refine .one ?_
      simp [step, advance, ofFleet, found, Fleet.advance]
  | some call =>
      by_cases entering : call.progress = .entering
      · have entered : fleet.advance key surroundings = fleet.enter key call.identity := by
          simp only [Fleet.advance, found, entering]
        rw [entered] at goesOn ⊢
        exact leads_enter found entering goesOn
      · by_cases ended : ∃ result, call.progress = .finished result
        · obtain ⟨result, isOver⟩ := ended
          have same : fleet.advance key surroundings = fleet := by
            simp only [Fleet.advance, found, isOver]
          rw [same]
          exact .refl _
        · refine .one (Eq.trans ?_ goesOn)
          have past : (ofFleet fleet).fleet.calls[key]? = some call := found
          simp only [step, advance, past]
          split
          · rename_i isEntering
            exact absurd isEntering entering
          · rename_i result isOver
            exact absurd ⟨result, isOver⟩ ended
          · rfl

/-! ### Drains -/

/-- A fleet in which one shutdown is at its drain. -/
def draining (fleet : Fleet) (key : Nat) (progress : DrainProgress) : Threads :=
  (ofFleet fleet).setDrain key (some progress)

theorem step_draining (inRange : key < fleet.shutdowns.length) (progress : DrainProgress) :
    (draining fleet key progress).step shards (.advanceShutdown key surroundings) =
      (draining fleet key progress).continueDrain shards key progress := by
  have found : (draining fleet key progress).drain? key = some progress :=
    drain?_setDrain_self _ (by simpa [ofFleet] using inRange)
  simp only [step, advanceShutdown, found]

theorem setDrain_draining (fleet : Fleet) (key : Nat) (progress next : DrainProgress) :
    (draining fleet key progress).setDrain key (some next) = draining fleet key next := by
  simp [draining, setDrain]

/-- The identities of the shards up to a count, whatever the order. -/
theorem filter_succ_perm (shards : Shards) (identities : List Identity) (count : Nat) :
    ((identities.filter fun identity => (shards.shard identity : Nat) < count) ++
      identities.filter fun identity => (shards.shard identity : Nat) = count).Perm
        (identities.filter fun identity => (shards.shard identity : Nat) < count + 1) := by
  have parts := List.filter_append_perm (fun identity => decide ((shards.shard identity : Nat) < count))
    (identities.filter fun identity => (shards.shard identity : Nat) < count + 1)
  rw [List.filter_filter, List.filter_filter] at parts
  refine .trans (.of_eq ?_) parts
  congr 1
  · refine List.filter_congr fun identity _ => ?_
    rw [Bool.eq_iff_iff]
    simp only [Bool.and_eq_true, decide_eq_true_eq]
    omega
  · refine List.filter_congr fun identity _ => ?_
    rw [Bool.eq_iff_iff]
    simp only [Bool.and_eq_true, Bool.not_eq_true', decide_eq_false_iff_not, decide_eq_true_eq]
    omega

/-- A drain goes through the shards one by one. -/
theorem leads_collecting (surroundings : Surroundings) (inRange : key < fleet.shutdowns.length)
    {count : Nat} (within : count ≤ shards.count) :
    ∃ found, Leads shards (.advanceShutdown key surroundings)
        (draining fleet key (.collecting 0 [])) (draining fleet key (.collecting count found)) ∧
      found.Perm ((fleet.registry.slots.map Prod.fst).filter fun identity =>
        (shards.shard identity : Nat) < count) := by
  induction count with
  | zero => exact ⟨[], .refl _, by simp⟩
  | succ count inductionHypothesis =>
      obtain ⟨found, leads, same⟩ := inductionHypothesis (Nat.le_of_succ_le within)
      refine ⟨found ++ shards.identities fleet.registry count, leads.trans (.one ?_), ?_⟩
      · rw [step_draining inRange]
        simp only [continueDrain, if_pos (Nat.lt_of_succ_le within)]
        exact setDrain_draining ..
      · exact (same.append (shards.arranged _)).trans (filter_succ_perm shards _ count)

/-- The client of an identity as an entry. -/
def entryOf? (registry : Registry) (identity : Identity) : Option (Identity × Nat) :=
  (registry.client? identity).map fun client => (identity, client)

theorem step_removing {identity : Identity} {cell : Nat} {left : List Identity}
    {taken : List (Identity × Nat)} (inRange : key < fleet.shutdowns.length)
    (slot : fleet.registry.slot? identity = some cell) :
    (draining fleet key (.removing (identity :: left) taken)).step shards
        (.advanceShutdown key surroundings) =
      draining { fleet with registry := fleet.registry.closeSlot identity cell } key
        (.inspecting identity cell left taken) := by
  rw [step_draining inRange]
  have slotToo : (draining fleet key (.removing (identity :: left) taken)).fleet.registry.slot?
      identity = some cell := slot
  simp only [continueDrain, slotToo]
  simp [draining, ofFleet, setDrain, withFleet]

theorem step_inspecting {identity : Identity} {cell : Nat} {left : List Identity}
    {taken : List (Identity × Nat)} (inRange : key < fleet.shutdowns.length) :
    (draining fleet key (.inspecting identity cell left taken)).step shards
        (.advanceShutdown key surroundings) =
      draining fleet key (.removing left (taken ++
        (((fleet.registry.cell cell).client).map fun client => (identity, client)).toList)) := by
  rw [step_draining inRange]
  simp only [continueDrain]
  split
  · rename_i isEmpty
    have isEmptyToo : (fleet.registry.cell cell).client = none := isEmpty
    rw [isEmptyToo, setDrain_draining, Option.map_none, Option.toList_none, List.append_nil]
  · rename_i client filled
    have filledToo : (fleet.registry.cell cell).client = some client := filled
    rw [filledToo, setDrain_draining, Option.map_some, Option.toList_some]

/-- A drain takes the slots out one by one, and finds the clients that the registry shows. -/
theorem leads_removing (shards : Shards) (surroundings : Surroundings) {left : List Identity}
    (taken : List (Identity × Nat)) (inRange : key < fleet.shutdowns.length)
    (distinct : (fleet.registry.slots.map Prod.fst).Nodup)
    (all : left.Perm (fleet.registry.slots.map Prod.fst)) :
    Leads shards (.advanceShutdown key surroundings) (draining fleet key (.removing left taken))
      (draining { fleet with registry := { fleet.registry with slots := [] } } key
        (.removing [] (taken ++ left.filterMap (entryOf? fleet.registry)))) := by
  induction left generalizing fleet taken with
  | nil =>
      have noSlots : fleet.registry.slots = [] := List.map_eq_nil_iff.mp all.nil_eq.symm
      have same : { fleet with registry := { fleet.registry with slots := [] } } = fleet := by
        rw [← noSlots]
      rw [same, List.filterMap_nil, List.append_nil]
      exact .refl _
  | cons identity left inductionHypothesis =>
      obtain ⟨⟨_, cell⟩, inSlots, rfl⟩ := List.mem_map.mp (all.subset List.mem_cons_self)
      rename_i identity
      have slot := Registry.slot?_of_mem distinct inSlots
      have parts := (Registry.perm_closeSlot distinct inSlots).map Prod.fst
      have fewer : left.Perm ((fleet.registry.closeSlot identity cell).slots.map Prod.fst) :=
        (all.trans parts).cons_inv
      have notLeft : identity ∉ left := by
        have once := all.nodup_iff.mpr distinct
        exact (List.nodup_cons.mp once).1
      have inRangeToo : key < ({ fleet with
          registry := fleet.registry.closeSlot identity cell } : Fleet).shutdowns.length := inRange
      have found : ((fleet.registry.cell cell).client.map fun client => (identity, client)) =
          entryOf? fleet.registry identity := by
        simp [entryOf?, Registry.client?, slot]
      have others : left.filterMap (entryOf? (fleet.registry.closeSlot identity cell)) =
          left.filterMap (entryOf? fleet.registry) := by
        refine List.filterMap_congr fun other member => ?_
        have different : other ≠ identity := fun same => notLeft (same ▸ member)
        simp only [entryOf?, Registry.client?, Registry.slot?_closeSlot_of_ne different]
        rfl
      have shown : taken ++ (identity :: left).filterMap (entryOf? fleet.registry) =
          taken ++ (entryOf? fleet.registry identity).toList ++
            left.filterMap (entryOf? (fleet.registry.closeSlot identity cell)) := by
        rw [others]
        cases own : entryOf? fleet.registry identity <;> simp [own]
      have onward := @inductionHypothesis
        { fleet with registry := fleet.registry.closeSlot identity cell }
        (taken ++ (entryOf? fleet.registry identity).toList) inRangeToo
        ((List.filter_sublist.map Prod.fst).nodup distinct) fewer
      refine .head ?_
      rw [step_removing inRange slot]
      refine .head ?_
      rw [step_inspecting inRangeToo, shown]
      show Leads shards (.advanceShutdown key surroundings)
        (draining { fleet with registry := fleet.registry.closeSlot identity cell } key
          (.removing left (taken ++
            ((fleet.registry.cell cell).client.map fun client => (identity, client)).toList))) _
      rw [found]
      exact onward

theorem filterMap_entryOf? {registry : Registry} (distinct : (registry.slots.map Prod.fst).Nodup) :
    (registry.slots.map Prod.fst).filterMap (entryOf? registry) = registry.cached := by
  rw [List.filterMap_map, Registry.cached]
  refine List.filterMap_congr fun entry member => ?_
  obtain ⟨identity, cell⟩ := entry
  simp [entryOf?, Registry.client?, Registry.slot?_of_mem distinct member]

/-- The drain of a registry that is shut down, to its end. -/
theorem leads_collected (shards : Shards) (inRange : key < fleet.shutdowns.length)
    (distinct : (fleet.registry.slots.map Prod.fst).Nodup) :
    Leads shards (.advanceShutdown key surroundings) (draining fleet key (.collecting 0 []))
      (ofFleet { fleet with
        registry := { fleet.registry with slots := [] }
        shutdowns := fleet.shutdowns.set key (.closing fleet.registry.drain.1 .empty) }) := by
  obtain ⟨found, collected, same⟩ :=
    leads_collecting surroundings inRange (Nat.le_refl shards.count)
  have all : found.Perm (fleet.registry.slots.map Prod.fst) := by
    refine same.trans (.of_eq (List.filter_eq_self.mpr fun identity _ => ?_))
    exact decide_eq_true (shards.shard identity).isLt
  have visited : (draining fleet key (.collecting shards.count found)).step shards
      (.advanceShutdown key surroundings) = draining fleet key (.removing found []) := by
    rw [step_draining inRange]
    simp only [continueDrain, Nat.lt_irrefl, if_false]
    exact setDrain_draining ..
  have removed := leads_removing shards surroundings [] inRange distinct all
  have sorted : (found.filterMap (entryOf? fleet.registry)).mergeSort Registry.entryLE =
      fleet.registry.drain.1 := by
    refine (Registry.mergeSort_eq_of_perm ?_ (Registry.nodup_cached distinct)).symm
    rw [← filterMap_entryOf? distinct]
    exact (all.filterMap _).symm
  refine collected.trans (.head ?_)
  rw [visited]
  refine removed.trans (.one ?_)
  have inRangeToo : key < ({ fleet with
      registry := { fleet.registry with slots := [] } } : Fleet).shutdowns.length := inRange
  rw [step_draining inRangeToo]
  simp only [continueDrain, List.nil_append, sorted]
  simp [draining, ofFleet, setDrain, withFleet]

/-- A drain that nobody interrupts does what a fleet does in one step. -/
theorem leads_drain {coordinator : Nat} (shards : Shards) (coherent : fleet.Coherent)
    (entering : fleet.shutdowns[key]? = some (.entering coordinator))
    (isFirst : fleet.coordinators[coordinator]? = some false) :
    Leads shards (.advanceShutdown key surroundings) (ofFleet fleet)
      (ofFleet (fleet.advanceShutdown key surroundings)) := by
  have inRange : key < fleet.shutdowns.length := (List.getElem?_eq_some_iff.mp entering).1
  have enteringToo : (ofFleet fleet).fleet.shutdowns[key]? = some (.entering coordinator) := entering
  have announced : (ofFleet fleet).step shards (.advanceShutdown key surroundings) =
      draining { fleet with coordinators := fleet.coordinators.set coordinator true } key
        .announced := by
    simp only [step, advanceShutdown, drain?_ofFleet, enteringToo]
    exact if_pos isFirst
  have shutDown : (draining { fleet with
      coordinators := fleet.coordinators.set coordinator true } key .announced).step shards
        (.advanceShutdown key surroundings) =
      draining { fleet with
        registry := { fleet.registry with closing := true }
        coordinators := fleet.coordinators.set coordinator true } key (.collecting 0 []) := by
    have inRangeToo : key < ({ fleet with
        coordinators := fleet.coordinators.set coordinator true } : Fleet).shutdowns.length := inRange
    rw [step_draining inRangeToo]
    simp only [continueDrain]
    simp [draining, ofFleet, setDrain, withFleet]
  have drained : fleet.advanceShutdown key surroundings = { fleet with
      registry := fleet.registry.drain.2
      coordinators := fleet.coordinators.set coordinator true
      shutdowns := fleet.shutdowns.set key (.closing fleet.registry.drain.1 .empty) } := by
    simp only [Fleet.advanceShutdown, entering, Fleet.stepShutdown, Fleet.drain, if_pos isFirst]
  refine .head ?_
  rw [announced, drained]
  refine .head ?_
  rw [shutDown]
  exact leads_collected shards inRange coherent.distinct

theorem leads_advanceShutdown (shards : Shards) (coherent : fleet.Coherent) (key : Nat)
    (surroundings : Surroundings) :
    Leads shards (.advanceShutdown key surroundings) (ofFleet fleet)
      (ofFleet (fleet.advanceShutdown key surroundings)) := by
  have drains := fleet.drains_of_advanceShutdown key surroundings
  have goesOn : (ofFleet fleet).withFleet (fleet.advanceShutdown key surroundings) =
      ofFleet (fleet.advanceShutdown key surroundings) :=
    withFleet_ofFleet (congrArg List.length drains.leaves.2.1) drains.others.1
  by_cases first : ∃ coordinator, fleet.shutdowns[key]? = some (.entering coordinator) ∧
      fleet.coordinators[coordinator]? = some false
  · obtain ⟨coordinator, entering, isFirst⟩ := first
    exact leads_drain shards coherent entering isFirst
  · refine .one (Eq.trans ?_ goesOn)
    simp only [step, advanceShutdown, drain?_ofFleet]
    split
    · rename_i coordinator entering
      exact if_neg fun isFirst => first ⟨coordinator, entering, isFirst⟩
    · rfl

/-! ### Steps and runs -/

/-- What a fleet does in one step, threads do in several, if nobody gets in between. -/
theorem leads_step (shards : Shards) (coherent : fleet.Coherent) (action : Action) :
    Leads shards action (ofFleet fleet) (ofFleet (fleet.step action)) := by
  cases action with
  | request identity =>
      refine .one ?_
      simp [step, ofFleet, Fleet.step, Fleet.request, List.replicate_succ']
  | advance key surroundings => exact leads_advance shards coherent key surroundings
  | addCoordinator => exact .one rfl
  | beginShutdown coordinator =>
      refine .one ?_
      simp [step, ofFleet, Fleet.step, Fleet.beginShutdown, List.replicate_succ']
  | advanceShutdown key surroundings => exact leads_advanceShutdown shards coherent key surroundings

/-- Every run of a fleet is one of threads. -/
theorem run_of_fleet (shards : Shards) (coherent : fleet.Coherent) (actions : List Action) :
    ∃ more, (ofFleet fleet).run shards more = ofFleet (fleet.run actions) := by
  induction actions generalizing fleet with
  | nil => exact ⟨[], rfl⟩
  | cons action rest inductionHypothesis =>
      obtain ⟨count, leads⟩ := leads_step shards coherent action
      obtain ⟨more, onward⟩ := inductionHypothesis (Fleet.keeps_step coherent action).coherent
      refine ⟨List.replicate count action ++ more, ?_⟩
      rw [run, List.foldl_append]
      rw [run] at leads onward
      rw [leads, onward]
      rfl

end LiveConfig.Threads
