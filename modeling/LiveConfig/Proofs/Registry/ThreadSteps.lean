import LiveConfig.Proofs.Registry.Drains
import LiveConfig.Proofs.Registry.Sweeps

/-!
Contract: every step of threads keeps started clients in custody and slots under guard.

Owns: the lemma of each step of a call, a drain or a shutdown, and that the invariant holds along every
run. Does not own: what follows at the end of a run.
-/

namespace LiveConfig.Threads

open Registry (Grows)
open Fleet (Advanced)

variable {threads : Threads} {shards : Shards} {lost : List Nat}

namespace Sound

theorem empty (shards : Shards) (retry : RetryPolicy) : Sound shards (.empty retry) [] where
  custody := .empty retry _
  width := rfl
  length := rfl
  drains := fun found => nomatch found
  entries := fun found => nomatch found
  owned := ⟨fun _ => ⟨"", ""⟩, ⟨fun member => (nomatch member), fun found => (nomatch found),
    fun found => (nomatch found)⟩⟩
  guarded := fun closed => nomatch closed

theorem more (sound : threads.Sound shards lost) (others : List Nat) :
    threads.Sound shards (lost ++ others) :=
  ⟨sound.custody.more others, sound.width, sound.length, sound.drains, sound.entries, sound.owned,
    sound.guarded⟩

/-! ### Calls -/

variable {key : Nat} {call : Call}

/-- A call that does not hold a cell yet, or not any more. -/
theorem setEntry (sound : threads.Sound shards lost) {entry : Option Entry}
    (harmless : ∀ cell, entry ≠ some (.holding cell)) :
    (threads.setEntry key entry).Sound shards lost := by
  have before {other cell : Nat}
      (found : (threads.setEntry key entry).entryAt? other = some (.holding cell)) :
      threads.entryAt? other = some (.holding cell) := by
    rcases entryAt?_setEntry found with ⟨-, same⟩ | ⟨-, same⟩
    · exact absurd same (harmless cell)
    · exact same
  obtain ⟨owner, owned⟩ := sound.owned
  exact ⟨sound.custody, List.length_set.trans sound.width, sound.length, sound.drains,
    fun found => sound.entries (before found),
    ⟨owner, ⟨owned.slots, owned.calls, fun found => owned.entries (before found)⟩⟩, sound.guarded⟩

/-- A call takes its slot. -/
theorem takeSlot (sound : threads.Sound shards lost) (found : threads.fleet.calls[key]? = some call) :
    ((threads.withFleet (threads.fleet.takeSlot call.identity).2).setEntry key
      (some (.holding (threads.fleet.takeSlot call.identity).1))).Sound shards lost := by
  have coherent := sound.custody.coherent
  have grows := Grows.openSlot threads.fleet.registry call.identity
  have subset := threads.fleet.registry.slots_subset_openSlot call.identity
  have own := threads.fleet.registry.mem_openSlot call.identity
  have ownInRange := (coherent.openSlot call.identity).inRange own
  have closing := threads.fleet.registry.closing_openSlot call.identity
  have custody := sound.custody.takeSlot call.identity
  -- Who holds a cell afterwards has just taken it, or held it before.
  have holdsBefore {other cell : Nat} {holder : Call}
      (holds : ((threads.withFleet (threads.fleet.takeSlot call.identity).2).setEntry key
        (some (.holding (threads.fleet.takeSlot call.identity).1))).entryAt? other =
          some (.holding cell)) (foundHolder : threads.fleet.calls[other]? = some holder) :
      holder = call ∧ cell = (threads.fleet.registry.openSlot call.identity).1 ∨
        threads.entryAt? other = some (.holding cell) := by
    rcases entryAt?_setEntry holds with ⟨rfl, same⟩ | ⟨-, same⟩
    · obtain rfl := Option.some.inj (found.symm.trans foundHolder)
      exact .inl ⟨rfl, (Entry.holding.inj (Option.some.inj same)).symm⟩
    · exact .inr same
  refine ⟨custody, List.length_set.trans sound.width, sound.length, fun drains => ?_,
    fun {_ _ _} holds foundHolder => ?_, ?_,
    fun closed identity cell client inSlots filled => ?_⟩
  · obtain ⟨closed, entering⟩ := sound.drains drains
    exact ⟨fun begun => closing.trans (closed begun), entering⟩
  · rcases holdsBefore holds foundHolder with ⟨rfl, rfl⟩ | before
    · exact ⟨ownInRange, fun _ => own⟩
    · obtain ⟨inRange, slot⟩ := sound.entries before foundHolder
      exact ⟨Nat.lt_of_lt_of_le inRange grows.length, fun isOpen =>
        subset (slot (closing.symm.trans isOpen))⟩
  · obtain ⟨owner, owned⟩ := sound.owned
    refine ⟨fun cell =>
      if cell < threads.fleet.registry.cells.length then owner cell else call.identity,
      ⟨fun member => ?_, fun foundOther stands => ?_, fun holds foundHolder => ?_⟩⟩
    · rcases Registry.cases_openSlot member with old | ⟨rfl, rfl⟩
      · rw [if_pos (coherent.inRange old)]
        exact owned.slots old
      · rw [if_neg (Nat.lt_irrefl _)]
    · rw [if_pos ((coherent.fits foundOther).placed stands).1]
      exact owned.calls foundOther stands
    · rcases holdsBefore holds foundHolder with ⟨rfl, rfl⟩ | before
      · rcases Registry.cases_openSlot own with old | ⟨-, new⟩
        · rw [if_pos (coherent.inRange old)]
          exact owned.slots old
        · rw [new, if_neg (Nat.lt_irrefl _)]
      · rw [if_pos (sound.entries before foundHolder).1]
        exact owned.entries before foundHolder
  · have sameCell := threads.fleet.registry.cell_openSlot call.identity cell
    have filledBefore : (threads.fleet.registry.cell cell).client = some client :=
      (congrArg Cell.client sameCell).symm.trans filled
    rcases Registry.cases_openSlot inSlots with old | ⟨-, rfl⟩
    · exact sound.guarded (closing.symm.trans closed) identity cell client old filledBefore
    · rw [Fleet.cell_beyond] at filledBefore
      cases filledBefore

/-- A step of a call that has left the slots, or taken its own out. -/
theorem advanced {after : Fleet} {made : Option Making} {others : List Nat}
    (sound : threads.Sound shards lost) (found : threads.fleet.calls[key]? = some call)
    (advanced : Advanced threads.fleet after key call made)
    (custody : after.Custody (threads.sweep shards) others)
    (grows : Grows threads.fleet.registry after.registry)
    (shutdowns : after.shutdowns = threads.fleet.shutdowns)
    (closing : after.registry.closing = threads.fleet.registry.closing)
    (slots : after.registry.slots ⊆ threads.fleet.registry.slots)
    (own : ∀ {owner : Nat → Identity} {cell : Nat} {new : Call}, threads.Owned owner →
      after.calls[key]? = some new → new.progress.place? = some cell → owner cell = call.identity)
    (withdrawn : ∀ {cell client : Nat}, threads.fleet.registry.closing = true →
      call.progress = .served cell client → (call.identity, cell) ∉ after.registry.slots) :
    (threads.withFleet after).Sound shards others := by
  obtain ⟨next, moves, calls⟩ := advanced.calls
  -- Every call was there before, with its identity.
  have before {other : Nat} {new : Call} (foundNew : after.calls[other]? = some new) :
      ∃ old, threads.fleet.calls[other]? = some old ∧ new.identity = old.identity ∧
        (other ≠ key → old.Stays new) := by
    by_cases same : other = key
    · subst same
      obtain rfl := Option.some.inj (calls.own.symm.trans foundNew)
      exact ⟨call, found, rfl, fun different => absurd rfl different⟩
    · obtain ⟨old, foundOld, stays⟩ := calls.before same foundNew
      exact ⟨old, foundOld, stays.identity_eq, fun _ => stays⟩
  refine ⟨custody, sound.width.trans calls.length.symm, shutdowns ▸ sound.length, fun drains => ?_,
    fun holds foundHolder => ?_, ?_,
    fun closed identity cell client inSlots filled => ?_⟩
  · rw [withFleet_fleet, closing, shutdowns]
    exact sound.drains drains
  · obtain ⟨old, foundOld, identity, -⟩ := before foundHolder
    obtain ⟨inRange, slot⟩ := sound.entries holds foundOld
    refine ⟨Nat.lt_of_lt_of_le inRange grows.length, fun isOpen => ?_⟩
    rw [identity]
    exact (grows.slots isOpen).subset (slot (closing.symm.trans isOpen))
  · obtain ⟨owner, owned⟩ := sound.owned
    refine ⟨owner, ⟨fun member => owned.slots (slots member), fun {other _ new} foundNew stands => ?_,
      fun holds foundHolder => ?_⟩⟩
    · obtain ⟨old, foundOld, identity, stays⟩ := before foundNew
      by_cases same : other = key
      · subst same
        obtain rfl := Option.some.inj (found.symm.trans foundOld)
        rw [identity]
        exact own owned foundNew stands
      · rw [identity]
        exact owned.calls foundOld ((stays same).place?_eq ▸ stands)
    · obtain ⟨old, foundOld, identity, -⟩ := before foundHolder
      rw [identity]
      exact owned.entries holds foundOld
  · have wasClosed : threads.fleet.registry.closing = true := closing.symm.trans closed
    rcases (advanced.cells cell client).mp filled with filledBefore | ⟨started, works⟩
    · rcases sound.guarded wasClosed identity cell client (slots inSlots) filledBefore with
        pending | ⟨other, served⟩
      · exact .inl pending
      · by_cases same : other = key
        · subst same
          obtain rfl := Option.some.inj (found.symm.trans served)
          exact absurd inSlots (withdrawn wasClosed rfl)
        · obtain ⟨new, foundNew, stays⟩ := calls.others same served
          cases stays
          exact .inr ⟨other, foundNew⟩
    -- The call that fills the cell of a slot is one for the identity of the slot.
    · obtain ⟨owner, owned⟩ := sound.owned
      have sameIdentity : identity = call.identity :=
        (owned.slots (slots inSlots)).symm.trans
          (owned.calls found (CallProgress.place?_of_cell? works))
      have served := calls.own
      subst started sameIdentity
      generalize call.progress = progress at moves works
      cases moves with
      | fill place =>
          obtain rfl := Option.some.inj works
          exact .inr ⟨key, served⟩

/-- A call goes on its way to a cell. -/
theorem enter (sound : threads.Sound shards lost) (found : threads.fleet.calls[key]? = some call)
    (entering : call.progress = .entering) :
    (threads.enter key call.identity).Sound shards lost := by
  have coherent := sound.custody.coherent
  have notServed {cell client : Nat} (served : call.progress = .served cell client) : False := by
    rw [entering] at served
    cases served
  unfold Threads.enter
  split
  · split
    · rename_i closed
      refine sound.advanced found (Fleet.advanced_refuse found entering closed)
        (sound.custody.refuse found entering) (.refl _) rfl rfl (List.Subset.refl _)
        (fun _ foundNew stands => ?_) fun _ served => (notServed served).elim
      obtain rfl := Option.some.inj ((Registry.withProgress_self found).symm.trans foundNew)
      cases stands
    · exact sound.setEntry fun _ same => by cases same
  · exact sound.takeSlot found
  · rename_i cell holds
    obtain ⟨inRange, slot⟩ := sound.entries holds found
    have keeps := Fleet.keeps_look coherent found entering inRange slot
    have custody := sound.custody.look found entering inRange slot
    have looked := Fleet.advanced_look found entering cell
    obtain ⟨registry, progress, same, closing, slots, place, -⟩ :=
      Fleet.look_eq threads.fleet key cell
    rw [same] at keeps custody looked ⊢
    refine (sound.advanced found looked custody keeps.grows rfl closing
      (fun _ member => slots ▸ member) (fun owned foundNew stands => ?_)
      fun _ served => (notServed served).elim).setEntry fun _ same => by cases same
    obtain rfl := Option.some.inj ((Registry.withProgress_self found).symm.trans foundNew)
    obtain rfl := Option.some.inj (place.symm.trans stands)
    exact owned.entries holds found

/-- A call that is past its way to a cell takes a step. -/
theorem goOn (sound : threads.Sound shards lost) (found : threads.fleet.calls[key]? = some call)
    (notEntering : call.progress ≠ .entering) (surroundings : Surroundings) :
    (threads.withFleet (threads.fleet.advance key surroundings)).Sound shards
      (lost ++ (threads.fleet.failedClose? (.advance key surroundings)).toList) := by
  have coherent := sound.custody.coherent
  have advanced := Fleet.advanced_of_advance coherent found surroundings
  obtain ⟨shutdowns, closing⟩ := threads.fleet.advance_leaves key surroundings
  refine sound.advanced found advanced (sound.custody.advance key surroundings)
    (Fleet.keeps_advance coherent key surroundings).grows shutdowns closing ?_
    (fun owned foundNew stands => ?_) fun {cell client} closed served member => ?_
  · cases advanced.slots with
    | same kept => exact fun _ member => kept ▸ member
    | opened entering => exact absurd entering notEntering
    | withdrawn _ fewer => exact fewer.subset
  · obtain ⟨next, moves, calls⟩ := advanced.calls
    obtain rfl := Option.some.inj (calls.own.symm.trans foundNew)
    exact owned.calls found (moves.place?_eq notEntering stands)
  · rw [Fleet.slots_advance_served found served closed surroundings] at member
    exact Registry.not_mem_closeSlot _ _ _ member

/-- Which calls have answered is of no concern to clients and slots. -/
theorem answer (sound : threads.Sound shards lost) (answered : List Nat) :
    Sound shards { threads with answered := answered } lost := by
  obtain ⟨owner, owned⟩ := sound.owned
  exact ⟨sound.custody, sound.width, sound.length, sound.drains, sound.entries,
    ⟨owner, ⟨owned.slots, owned.calls, owned.entries⟩⟩, sound.guarded⟩

theorem advance (sound : threads.Sound shards lost) (key : Nat) (surroundings : Surroundings) :
    (threads.advance key surroundings).Sound shards
      (lost ++ (threads.fleet.failedClose? (.advance key surroundings)).toList) := by
  unfold Threads.advance
  split
  · exact sound.more _
  · rename_i call found
    split
    · rename_i entering
      exact (sound.enter found entering).more _
    · exact (sound.answer _).more _
    · rename_i notEntering _
      exact sound.goOn found notEntering surroundings

/-! ### Drains -/

variable {registry : Registry} {shutdowns : List ShutdownProgress} {next : Option DrainProgress}

/-- A step of a drain. -/
theorem swept (sound : threads.Sound shards lost)
    (swept : threads.Swept shards key registry shutdowns next) (coordinators : List Bool) :
    ((threads.withFleet { threads.fleet with
      registry := registry, coordinators := coordinators, shutdowns := shutdowns }).setDrain key
        next).Sound shards lost := by
  have inRange := swept.inRange sound.length
  have own := drain?_setDrain_self next inRange
  have coherent : registry.Coherent threads.fleet.calls := by
    cases closing : registry.closing with
    | false => exact swept.kept closing ▸ sound.custody.coherent
    | true => exact sound.custody.coherent.withoutSlots closing swept.cells swept.slots
  refine ⟨?_, sound.width, ?_, fun {other _} found => ?_, fun holds found => ?_, ?_,
    fun _ identity cell client inSlots filled => ?_⟩
  · exact sound.custody.moveShutdowns coherent rfl rfl id fun _ held =>
      .inr (swept.held inRange held)
  · exact List.length_set.trans (sound.length.trans swept.length.symm)
  · by_cases same : other = key
    · subst same
      have isNext := own.symm.trans found
      exact ⟨swept.begun isNext, swept.after isNext⟩
    · obtain ⟨closed, coordinator, entering⟩ :=
        sound.drains ((drain?_setDrain_of_ne next same).symm.trans found)
      refine ⟨fun begun => ?_, coordinator, (swept.others same).trans entering⟩
      cases closing : registry.closing with
      | true => exact closing
      | false => exact (congrArg Registry.closing (swept.kept closing)).trans (closed begun)
  · obtain ⟨inRange, slot⟩ := sound.entries holds found
    refine ⟨swept.cells ▸ inRange, fun isOpen => ?_⟩
    obtain rfl := swept.kept isOpen
    exact slot isOpen
  · obtain ⟨owner, owned⟩ := sound.owned
    exact ⟨owner, ⟨fun member => owned.slots (swept.slots.subset member), owned.calls,
      owned.entries⟩⟩
  · have filledBefore : (threads.fleet.registry.cell cell).client = some client :=
      (congrArg Cell.client (swept.cell_eq cell)).symm.trans filled
    cases closing : threads.fleet.registry.closing with
    | false => exact .inl (swept.watched inRange inSlots (.inl closing))
    | true =>
        rcases sound.guarded closing identity cell client (swept.slots.subset inSlots) filledBefore
          with isPending | served
        · exact .inl (swept.watched inRange inSlots (.inr isPending))
        · exact .inr served

/-- A step of a drain that goes on, and leaves the shutdowns as they are. -/
theorem continued (sound : threads.Sound shards lost) {prior progress : DrainProgress}
    (found : threads.drain? key = some prior)
    (kept : registry.closing = false → registry = threads.fleet.registry)
    (begun : progress ≠ .announced → registry.closing = true)
    (cells : registry.cells = threads.fleet.registry.cells)
    (slots : registry.slots.Sublist threads.fleet.registry.slots)
    (pending : ∀ {identity : Identity} {cell : Nat}, (identity, cell) ∈ registry.slots →
      (threads.fleet.registry.closing = false ∨ prior.Pending shards identity) →
        progress.Pending shards identity)
    (removed : ∀ {identity : Identity} {cell : Nat},
      (identity, cell) ∈ threads.fleet.registry.slots →
        (identity, cell) ∈ registry.slots ∨ progress.inspected? = some cell)
    (inspected : ∀ {cell client : Nat}, prior.inspected? = some cell →
      (threads.fleet.registry.cell cell).client = some client →
        ∃ identity, (identity, client) ∈ progress.taken)
    (taken : prior.taken ⊆ progress.taken) :
    ((threads.withFleet { threads.fleet with registry := registry }).setDrain key
      (some progress)).Sound shards lost := by
  obtain ⟨-, entering⟩ := sound.drains found
  have isPrior {other : DrainProgress} (foundOther : threads.drain? key = some other) :
      prior = other := Option.some.inj (found.symm.trans foundOther)
  refine sound.swept ?_ threads.fleet.coordinators
  exact {
    kept
    begun := fun same notAnnounced => begun ((Option.some.inj same) ▸ notAnnounced)
    cells
    slots
    length := rfl
    others := fun _ => rfl
    before := entering
    after := fun _ => entering
    pending := by
      rintro identity cell inSlots (isOpen | ⟨_, foundPrior, isPending⟩)
      · exact ⟨progress, rfl, pending inSlots (.inl isOpen)⟩
      · obtain rfl := isPrior foundPrior
        exact ⟨progress, rfl, pending inSlots (.inr isPending)⟩
    removed := fun inSlots => (removed inSlots).imp_right fun inHand => ⟨progress, rfl, inHand⟩
    inspected := by
      intro _ cell client foundPrior atHand filled
      obtain rfl := isPrior foundPrior
      obtain ⟨identity, member⟩ := inspected atHand filled
      exact ⟨progress, identity, rfl, member⟩
    taken := by
      intro _ identity client foundPrior member
      obtain rfl := isPrior foundPrior
      exact .inl ⟨progress, rfl, taken member⟩ }

/-- A drain goes on, while the registry stays as it is. -/
theorem setDrain (sound : threads.Sound shards lost) {prior progress : DrainProgress}
    (found : threads.drain? key = some prior) (begun : prior ≠ .announced)
    (pending : ∀ {identity : Identity} {cell : Nat},
      (identity, cell) ∈ threads.fleet.registry.slots → prior.Pending shards identity →
        progress.Pending shards identity)
    (inspected : ∀ {cell client : Nat}, prior.inspected? = some cell →
      (threads.fleet.registry.cell cell).client = some client →
        ∃ identity, (identity, client) ∈ progress.taken)
    (taken : prior.taken ⊆ progress.taken) :
    (threads.setDrain key (some progress)).Sound shards lost := by
  have closed := (sound.drains found).1 begun
  refine sound.continued found (fun _ => rfl) (fun _ => closed) rfl (.refl _) (fun inSlots waits => ?_)
    .inl inspected taken
  exact pending inSlots (waits.resolve_left fun isOpen => nomatch closed.symm.trans isOpen)

/-- The drain of a shutdown begins, with everything before it. -/
theorem announce (sound : threads.Sound shards lost) {coordinator : Nat}
    (idle : threads.drain? key = none)
    (entering : threads.fleet.shutdowns[key]? = some (.entering coordinator)) :
    (threads.announce key coordinator).Sound shards lost := by
  refine sound.swept ?_ _
  exact {
    kept := fun _ => rfl
    begun := fun same notAnnounced => absurd (Option.some.inj same).symm notAnnounced
    cells := rfl
    slots := .refl _
    length := rfl
    others := fun _ => rfl
    before := ⟨coordinator, entering⟩
    after := fun _ => ⟨coordinator, entering⟩
    pending := fun _ _ => ⟨_, rfl, trivial⟩
    removed := .inl
    inspected := by
      intro _ _ _ found
      rw [idle] at found
      cases found
    taken := by
      intro _ _ _ found
      rw [idle] at found
      cases found }

/-- A drain shuts the registry down, and has all shards before it. -/
theorem shutDown (sound : threads.Sound shards lost)
    (found : threads.drain? key = some .announced) :
    (threads.continueDrain shards key .announced).Sound shards lost :=
  sound.continued found (fun isOpen => nomatch isOpen) (fun _ => rfl) rfl (.refl _)
    (fun _ _ => .inl (Nat.zero_le _)) .inl (fun atHand => nomatch atHand) (List.nil_subset _)

/-- A drain takes a slot out. -/
theorem remove (sound : threads.Sound shards lost) {identity : Identity} {cell : Nat}
    {left : List Identity} {taken : List (Identity × Nat)}
    (found : threads.drain? key = some (.removing (identity :: left) taken))
    (slot : threads.fleet.registry.slot? identity = some cell) :
    ((threads.withFleet { threads.fleet with
      registry := threads.fleet.registry.closeSlot identity cell }).setDrain key
        (some (.inspecting identity cell left taken))).Sound shards lost := by
  have closed := (sound.drains found).1 fun same => nomatch same
  have distinct := sound.custody.coherent.distinct
  refine sound.continued found (fun isOpen => nomatch closed.symm.trans isOpen) (fun _ => closed) rfl
    List.filter_sublist (fun {other place} inSlots waits => ?_) (fun {other place} inSlots => ?_)
    (fun atHand => nomatch atHand) (List.Subset.refl _)
  · have isPending := waits.resolve_left fun isOpen => nomatch closed.symm.trans isOpen
    have different : other ≠ identity := Registry.ne_of_mem_closeSlot distinct slot inSlots
    exact (List.mem_cons.mp isPending).resolve_left different
  · by_cases same : (other, place) = (identity, cell)
    · obtain ⟨rfl, rfl⟩ := Prod.mk.inj same
      exact .inr rfl
    · exact .inl (List.mem_filter.mpr ⟨inSlots, by simpa only [decide_eq_true_eq] using same⟩)

/-- A drain that has no slot left to take out leaves its clients to the shutdown. -/
theorem handOver (sound : threads.Sound shards lost) {taken : List (Identity × Nat)}
    (found : threads.drain? key = some (.removing [] taken)) :
    ((threads.withFleet { threads.fleet with
      shutdowns := threads.fleet.shutdowns.set key
        (.closing (taken.mergeSort Registry.entryLE) .empty) }).setDrain key none).Sound shards
      lost := by
  obtain ⟨closed, entering⟩ := sound.drains found
  have closed := closed fun same => nomatch same
  refine sound.swept ?_ threads.fleet.coordinators
  exact {
    kept := fun isOpen => nomatch closed.symm.trans isOpen
    begun := fun same => nomatch same
    cells := rfl
    slots := .refl _
    length := List.length_set
    others := fun different => List.getElem?_set_ne (Ne.symm different)
    before := entering
    after := fun same => nomatch same
    pending := by
      rintro other place inSlots (isOpen | ⟨_, foundPrior, isPending⟩)
      · exact nomatch closed.symm.trans isOpen
      · obtain rfl := Option.some.inj (found.symm.trans foundPrior)
        cases isPending
    removed := .inl
    inspected := by
      intro _ place client foundPrior atHand
      obtain rfl := Option.some.inj (found.symm.trans foundPrior)
      cases atHand
    taken := by
      intro _ other client foundPrior member
      obtain rfl := Option.some.inj (found.symm.trans foundPrior)
      obtain ⟨coordinator, entering⟩ := entering
      obtain ⟨below, -⟩ := List.getElem?_eq_some_iff.mp entering
      exact .inr ⟨_, _, List.getElem?_set_self below,
        (List.mergeSort_perm _ _).mem_iff.mpr member⟩ }

theorem continueDrain (sound : threads.Sound shards lost) {progress : DrainProgress}
    (found : threads.drain? key = some progress) :
    (threads.continueDrain shards key progress).Sound shards lost := by
  cases progress with
  | announced => exact sound.shutDown found
  | collecting shard identities =>
      simp only [Threads.continueDrain]
      split
      · refine sound.setDrain found (fun same => nomatch same) (fun {identity _} inSlots isPending => ?_)
          (fun atHand => nomatch atHand) (List.nil_subset _)
        rcases isPending with ahead | member
        · rcases Nat.eq_or_lt_of_le ahead with here | beyond
          · have member : identity ∈ shards.identities threads.fleet.registry shard :=
              (shards.arranged _).mem_iff.mpr (List.mem_filter.mpr
                ⟨List.mem_map.mpr ⟨_, inSlots, rfl⟩, by simp [here]⟩)
            exact .inr (List.mem_append_right _ member)
          · exact .inl beyond
        · exact .inr (List.mem_append_left _ member)
      · rename_i allVisited
        refine sound.setDrain found (fun same => nomatch same) (fun {identity _} _ isPending => ?_)
          (fun atHand => nomatch atHand) (List.nil_subset _)
        have below := (shards.shard identity).isLt
        exact isPending.resolve_left (by omega)
  | removing left taken =>
      cases left with
      | nil => exact sound.handOver found
      | cons identity left =>
          simp only [Threads.continueDrain]
          split
          · rename_i missing
            refine sound.setDrain found (fun same => nomatch same) (fun {other _} inSlots isPending => ?_)
              (fun atHand => nomatch atHand) (List.Subset.refl _)
            refine (List.mem_cons.mp isPending).resolve_left ?_
            rintro rfl
            rw [Registry.slot?_of_mem sound.custody.coherent.distinct inSlots] at missing
            cases missing
          · rename_i cell slot
            exact sound.remove found slot
  | inspecting identity cell left taken =>
      simp only [Threads.continueDrain]
      split
      · rename_i isEmpty
        refine sound.setDrain found (fun same => nomatch same) (fun _ isPending => isPending)
          (fun atHand filled => ?_) (List.Subset.refl _)
        obtain rfl := Option.some.inj atHand
        rw [isEmpty] at filled
        cases filled
      · rename_i client held
        refine sound.setDrain found (fun same => nomatch same) (fun _ isPending => isPending)
          (fun atHand filled => ?_) (List.subset_append_left _ _)
        obtain rfl := Option.some.inj atHand
        obtain rfl := Option.some.inj (held.symm.trans filled)
        exact ⟨identity, List.mem_append_right _ List.mem_cons_self⟩

/-- A shutdown takes a step that is none of a drain. -/
theorem goOnShutdown (sound : threads.Sound shards lost) (idle : threads.drain? key = none)
    (surroundings : Surroundings) :
    (threads.withFleet (threads.fleet.advanceShutdown key surroundings)).Sound shards
      (lost ++ (threads.fleet.failedClose? (.advanceShutdown key surroundings)).toList) := by
  have custody := sound.custody.advanceShutdown key surroundings
  have grows := (Fleet.keeps_advanceShutdown sound.custody.coherent key surroundings).grows
  have drains := threads.fleet.drains_of_advanceShutdown key surroundings
  generalize threads.fleet.advanceShutdown key surroundings = after at custody grows drains ⊢
  obtain ⟨-, calls, cells, slots⟩ := drains.leaves
  obtain ⟨length, others⟩ := drains.others
  have subset : after.registry.slots ⊆ threads.fleet.registry.slots := by
    rcases slots with ⟨-, same⟩ | gone
    · exact fun _ member => same ▸ member
    · exact gone ▸ List.nil_subset _
  refine ⟨custody, sound.width.trans (congrArg List.length calls).symm, sound.length.trans length.symm,
    fun {other _} found => ?_,
    fun holds found => ?_, ?_, fun closed identity cell client inSlots filled => ?_⟩
  · have different : other ≠ key := by
      rintro rfl
      exact nomatch idle.symm.trans found
    obtain ⟨closed, coordinator, entering⟩ := sound.drains found
    exact ⟨fun begun => grows.closing (closed begun), coordinator,
      (others other different).trans entering⟩
  · obtain ⟨inRange, slot⟩ := sound.entries holds (calls ▸ found)
    refine ⟨cells ▸ inRange, fun isOpen => ?_⟩
    obtain ⟨clients, shutdowns, -, rfl⟩ := drains.ofOpen isOpen
    exact slot isOpen
  · obtain ⟨owner, owned⟩ := sound.owned
    exact ⟨owner, ⟨fun member => owned.slots (subset member), fun found => owned.calls (calls ▸ found),
      fun holds found => owned.entries holds (calls ▸ found)⟩⟩
  · rcases slots with ⟨closing, same⟩ | gone
    · simp only [withFleet_fleet, same] at inSlots
      simp only [withFleet_fleet, Registry.cell, cells] at filled
      rw [withFleet_fleet, calls]
      exact sound.guarded (closing.symm.trans closed) identity cell client inSlots filled
    · simp [gone] at inSlots

theorem advanceShutdown (sound : threads.Sound shards lost) (key : Nat)
    (surroundings : Surroundings) :
    (threads.advanceShutdown shards key surroundings).Sound shards
      (lost ++ (threads.fleet.failedClose? (.advanceShutdown key surroundings)).toList) := by
  unfold Threads.advanceShutdown
  split
  · rename_i progress found
    exact (sound.continueDrain found).more _
  · rename_i idle
    split
    · rename_i coordinator entering
      split
      · exact (sound.announce idle entering).more _
      · exact sound.goOnShutdown idle surroundings
    · exact sound.goOnShutdown idle surroundings

/-! ### Runs -/

theorem request (sound : threads.Sound shards lost) (identity : Identity) :
    (threads.step shards (.request identity)).Sound shards
      (lost ++ (threads.fleet.failedClose? (.request identity)).toList) := by
  have custody := sound.custody.step (.request identity)
  -- Who has an entry is an old call.
  have before {other : Nat} {entry : Entry} {call : Call}
      (holds : (threads.step shards (.request identity)).entryAt? other = some entry)
      (found : (threads.step shards (.request identity)).fleet.calls[other]? = some call) :
      threads.entryAt? other = some entry ∧ threads.fleet.calls[other]? = some call := by
    have held : threads.entryAt? other = some entry := (join_append_none _ _).symm.trans holds
    have inRange : other < threads.fleet.calls.length := sound.width ▸ lt_of_entryAt? held
    exact ⟨held, (List.getElem?_append_left inRange).symm.trans found⟩
  refine ⟨custody, ?_, sound.length, sound.drains, fun holds found => ?_, ?_,
    fun closed other cell client inSlots filled => ?_⟩
  · simp [Threads.step, Fleet.request, sound.width]
  · obtain ⟨held, foundBefore⟩ := before holds found
    exact sound.entries held foundBefore
  · obtain ⟨owner, owned⟩ := sound.owned
    refine ⟨owner, ⟨owned.slots, fun found stands => ?_, fun holds found => ?_⟩⟩
    · rcases Registry.cases_append found with old | rfl
      · exact owned.calls old stands
      · cases stands
    · obtain ⟨held, foundBefore⟩ := before holds found
      exact owned.entries held foundBefore
  · refine (sound.guarded closed other cell client inSlots filled).imp_right ?_
    rintro ⟨key, served⟩
    exact ⟨key, Registry.found_append served⟩

theorem beginShutdown (sound : threads.Sound shards lost) (coordinator : Nat) :
    (threads.step shards (.beginShutdown coordinator)).Sound shards
      (lost ++ (threads.fleet.failedClose? (.beginShutdown coordinator)).toList) := by
  have custody := sound.custody.step (.beginShutdown coordinator)
  have sameDrain (other : Nat) :
      (threads.step shards (.beginShutdown coordinator)).drain? other = threads.drain? other :=
    join_append_none _ _
  have sameSweep : (threads.step shards (.beginShutdown coordinator)).sweep shards =
      threads.sweep shards := by
    simp only [sweep, sameDrain]
  refine ⟨?_, sound.width, ?_, fun found => ?_, sound.entries, ?_, fun closed => ?_⟩
  · rw [sameSweep]
    exact custody
  · simp [Threads.step, Fleet.beginShutdown, sound.length]
  · rw [sameDrain] at found
    obtain ⟨closed, old, entering⟩ := sound.drains found
    exact ⟨closed, old, Registry.found_append entering⟩
  · obtain ⟨owner, owned⟩ := sound.owned
    exact ⟨owner, ⟨owned.slots, owned.calls, owned.entries⟩⟩
  · unfold Guarded
    rw [sameSweep]
    exact sound.guarded closed

theorem addCoordinator (sound : threads.Sound shards lost) :
    (threads.step shards .addCoordinator).Sound shards
      (lost ++ (threads.fleet.failedClose? .addCoordinator).toList) := by
  have custody := sound.custody.step .addCoordinator
  obtain ⟨owner, owned⟩ := sound.owned
  exact ⟨custody, sound.width, sound.length, sound.drains, sound.entries,
    ⟨owner, ⟨owned.slots, owned.calls, owned.entries⟩⟩, sound.guarded⟩

theorem step (sound : threads.Sound shards lost) (action : Fleet.Action) :
    (threads.step shards action).Sound shards
      (lost ++ (threads.fleet.failedClose? action).toList) := by
  cases action with
  | request identity => exact sound.request identity
  | advance key surroundings => exact sound.advance key surroundings
  | addCoordinator => exact sound.addCoordinator
  | beginShutdown coordinator => exact sound.beginShutdown coordinator
  | advanceShutdown key surroundings => exact sound.advanceShutdown key surroundings

theorem run (sound : threads.Sound shards lost) (actions : List Fleet.Action) :
    (threads.run shards actions).Sound shards (lost ++ threads.failedCloses shards actions) := by
  induction actions generalizing threads lost with
  | nil =>
      rw [failedCloses, List.append_nil]
      exact sound
  | cons action rest inductionHypothesis =>
      have later := inductionHypothesis (sound.step action)
      rw [List.append_assoc] at later
      exact later

end Sound

end LiveConfig.Threads
