import LiveConfig.Proofs.Registry.Slots
import LiveConfig.Registry.Call

/-!
Contract: how the calls of a registry stand to its cells.

A call that is at work on a cell is the only one, and the cell is empty meanwhile; a call in line waits
in the line of its cell; a call that is served finds its client in its cell. While the registry is not
shut down, the cell of a call is that of the slot of its identity, and a call that succeeded has the
client that the slot shows. Owns: this invariant, and the changes of cells, slots and calls that keep it.
Does not own: the steps that are made of these changes.
-/

namespace LiveConfig

namespace CallProgress

/-- The cell at which a call stands. -/
def place? : CallProgress → Option Nat
  | .queued cell | .building cell | .starting cell _ _ | .abandoning cell _ _ | .served cell _ =>
      some cell
  | .entering | .retiring _ | .finished _ => none

theorem place?_of_cell? {progress : CallProgress} {cell : Nat} (works : progress.cell? = some cell) :
    progress.place? = some cell := by
  cases progress with
  | building | starting | abandoning => exact works
  | entering | queued | served | retiring | finished => cases works

/-- Who is at work on a cell does not wait for one. -/
theorem ne_queued_of_cell? {progress : CallProgress} {cell : Nat}
    (works : progress.cell? = some cell) (place : Nat) : progress ≠ .queued place := by
  rintro rfl
  cases works

end CallProgress

namespace Registry

variable {registry : Registry} {calls : List Call}

/-- The calls with the progress of one of them changed. -/
def withProgress (calls : List Call) (key : Nat) (progress : CallProgress) : List Call :=
  calls.modify key fun old => { old with progress := progress }

/-- A call after the progress of one was changed: that one, or another as it was. -/
theorem cases_withProgress {key other : Nat} {progress : CallProgress} {call : Call}
    (found : (withProgress calls key progress)[other]? = some call) :
    other = key ∧ call.progress = progress ∧
        (∃ old, calls[key]? = some old ∧ call.identity = old.identity) ∨
      other ≠ key ∧ calls[other]? = some call := by
  simp only [withProgress, List.getElem?_modify] at found
  by_cases same : key = other
  · subst same
    obtain ⟨old, foundOld, rfl⟩ := Option.map_eq_some_iff.mp (by simpa using found)
    exact .inl ⟨rfl, rfl, old, foundOld, rfl⟩
  · exact .inr ⟨Ne.symm same, by simpa [same] using found⟩

theorem withProgress_of_ne {key other : Nat} {progress : CallProgress} {call : Call}
    (found : calls[other]? = some call) (different : other ≠ key) :
    (withProgress calls key progress)[other]? = some call := by
  simp [withProgress, Ne.symm different, found]

theorem withProgress_self {key : Nat} {progress : CallProgress} {call : Call}
    (found : calls[key]? = some call) :
    (withProgress calls key progress)[key]? = some { call with progress := progress } := by
  simp [withProgress, found]

/-- The calls with the same progress for several of them. -/
def withProgresses (calls : List Call) (keys : List Nat) (progress : CallProgress) : List Call :=
  keys.foldl (fun calls key => withProgress calls key progress) calls

theorem cases_withProgresses {keys : List Nat} {other : Nat} {progress : CallProgress} {call : Call}
    (found : (withProgresses calls keys progress)[other]? = some call) :
    other ∈ keys ∧ call.progress = progress ∧
        (∃ old, calls[other]? = some old ∧ call.identity = old.identity) ∨
      other ∉ keys ∧ calls[other]? = some call := by
  induction keys generalizing calls with
  | nil => exact .inr ⟨List.not_mem_nil, found⟩
  | cons key rest inductionHypothesis =>
      rcases inductionHypothesis found with ⟨member, changed, old, foundOld, identity⟩ | ⟨others, kept⟩
      · rcases cases_withProgress foundOld with ⟨rfl, -, older, foundOlder, same⟩ | ⟨-, same⟩
        · exact .inl ⟨List.mem_cons_self, changed, older, foundOlder, identity.trans same⟩
        · exact .inl ⟨List.mem_cons_of_mem _ member, changed, old, same, identity⟩
      · rcases cases_withProgress kept with ⟨rfl, changed, old, foundOld, identity⟩ | ⟨ne, same⟩
        · exact .inl ⟨List.mem_cons_self, changed, old, foundOld, identity⟩
        · exact .inr ⟨by simp [ne, others], same⟩

theorem withProgresses_of_not_mem {keys : List Nat} {other : Nat} {progress : CallProgress}
    {call : Call} (found : calls[other]? = some call) (others : other ∉ keys) :
    (withProgresses calls keys progress)[other]? = some call := by
  induction keys generalizing calls with
  | nil => exact found
  | cons key rest inductionHypothesis =>
      obtain ⟨ne, notInRest⟩ := not_or.mp (mt List.mem_cons.mpr others)
      exact inductionHypothesis (withProgress_of_ne found ne) notInRest

theorem withProgresses_of_mem {keys : List Nat} {key : Nat} {progress : CallProgress} {call : Call}
    (found : calls[key]? = some call) (member : key ∈ keys) :
    ∃ after, (withProgresses calls keys progress)[key]? = some after ∧
      after.progress = progress := by
  induction keys generalizing calls call with
  | nil => cases member
  | cons first rest inductionHypothesis =>
      by_cases inRest : key ∈ rest
      · by_cases same : key = first
        · subst same
          exact inductionHypothesis (withProgress_self found) inRest
        · exact inductionHypothesis (withProgress_of_ne found same) inRest
      · obtain rfl : key = first := (List.mem_cons.mp member).resolve_right inRest
        have changed : (withProgress calls key progress)[key]? =
            some { call with progress := progress } := withProgress_self found
        have others : (withProgresses (withProgress calls key progress) rest progress)[key]? =
            some { call with progress := progress } := withProgresses_of_not_mem changed inRest
        exact ⟨_, others, rfl⟩

/-- A call after one more was made: an old one or the new one. -/
theorem cases_append {key : Nat} {call newest : Call}
    (found : (calls ++ [newest])[key]? = some call) : calls[key]? = some call ∨ call = newest := by
  rcases Nat.lt_or_ge key calls.length with below | beyond
  · exact .inl ((List.getElem?_append_left below).symm.trans found)
  · rw [List.getElem?_append_right beyond] at found
    exact .inr (List.mem_singleton.mp (List.mem_of_getElem? found))

/-- What was found is found after one more was made. -/
theorem found_append {α : Type} {entries : List α} {key : Nat} {entry newest : α}
    (found : entries[key]? = some entry) : (entries ++ [newest])[key]? = some entry := by
  obtain ⟨below, -⟩ := List.getElem?_eq_some_iff.mp found
  rw [List.getElem?_append_left below]
  exact found

/-- What a progress means for the call of an identity. -/
structure Fits (registry : Registry) (identity : Identity) (progress : CallProgress) : Prop where
  placed : ∀ {cell : Nat}, progress.place? = some cell → cell < registry.cells.length ∧
    (registry.closing = false → (identity, cell) ∈ registry.slots)
  working : ∀ {cell : Nat}, progress.cell? = some cell →
    (registry.cell cell).busy = true ∧ (registry.cell cell).client = none
  served : ∀ {cell client : Nat}, progress = .served cell client →
    (registry.cell cell).client = some client
  kept : ∀ {client : Nat}, progress = .finished (.ok client) → registry.closing = false →
    registry.client? identity = some client

/-- The calls agree with the cells. -/
structure Coherent (registry : Registry) (calls : List Call) : Prop where
  distinct : (registry.slots.map Prod.fst).Nodup
  inRange : ∀ {identity : Identity} {cell : Nat}, (identity, cell) ∈ registry.slots →
    cell < registry.cells.length
  fits : ∀ {key : Nat} {call : Call}, calls[key]? = some call →
    registry.Fits call.identity call.progress
  alone : ∀ {key other cell : Nat} {call otherCall : Call}, calls[key]? = some call →
    calls[other]? = some otherCall → call.progress.cell? = some cell →
    otherCall.progress.cell? = some cell → key = other
  lined : ∀ {cell key : Nat}, key ∈ (registry.cell cell).waiting →
    ∃ call, calls[key]? = some call ∧ call.progress = .queued cell
  once : ∀ cell, (registry.cell cell).waiting.Nodup

/-- A registry without slots and calls. -/
theorem Coherent.empty (retry : RetryPolicy) : Coherent (.empty retry) [] where
  distinct := List.nodup_nil
  inRange := fun member => nomatch member
  fits := fun found => nomatch found
  alone := fun found => nomatch found
  lined := fun member => nomatch member
  once := fun _ => List.nodup_nil

theorem Grows.wasOpen {before after : Registry} (grows : Grows before after)
    (isOpen : after.closing = false) : before.closing = false := by
  by_contra closed
  rw [grows.closing (by simpa using closed)] at isOpen
  cases isOpen

/-- What a progress means stays true as the registry grows, except that a call at work has to keep its
cell. -/
theorem Fits.grows {after : Registry} {identity : Identity} {progress : CallProgress}
    (fits : registry.Fits identity progress) (grows : Grows registry after)
    (working : ∀ {cell : Nat}, progress.cell? = some cell →
      (after.cell cell).busy = true ∧ (after.cell cell).client = none) :
    after.Fits identity progress where
  placed := by
    intro cell stands
    obtain ⟨inRange, slot⟩ := fits.placed stands
    refine ⟨Nat.lt_of_lt_of_le inRange grows.length, fun isOpen => ?_⟩
    exact (grows.slots isOpen).subset (slot (grows.wasOpen isOpen))
  working := working
  served := fun isServed => grows.clients (fits.served isServed)
  kept := fun succeeded isOpen => grows.client? isOpen (fits.kept succeeded (grows.wasOpen isOpen))

/-- A call that has no cell and no success fits any registry. -/
theorem Fits.ofIdle {identity : Identity} {progress : CallProgress} (noCell : progress.place? = none)
    (noSuccess : ∀ client, progress ≠ .finished (.ok client)) : registry.Fits identity progress where
  placed := by
    intro cell stands
    rw [noCell] at stands
    cases stands
  working := by
    intro cell works
    rw [CallProgress.place?_of_cell? works] at noCell
    cases noCell
  served := by
    rintro cell client rfl
    cases noCell
  kept := fun succeeded => absurd succeeded (noSuccess _)

namespace Coherent

/-- Only a call in line stands in a line. -/
theorem not_lined (coherent : Coherent registry calls) {key : Nat} {call : Call}
    (found : calls[key]? = some call) (notQueued : ∀ cell, call.progress ≠ .queued cell)
    (cell : Nat) : key ∉ (registry.cell cell).waiting := by
  intro member
  obtain ⟨other, foundOther, queued⟩ := coherent.lined member
  obtain rfl := Option.some.inj (found.symm.trans foundOther)
  exact notQueued cell queued

/-! ### Changes of calls -/

theorem setProgress (coherent : Coherent registry calls) {key : Nat} {call : Call}
    {progress : CallProgress} (found : calls[key]? = some call)
    (notLined : ∀ cell, key ∉ (registry.cell cell).waiting)
    (fits : registry.Fits call.identity progress)
    (free : ∀ {cell other : Nat} {otherCall : Call}, progress.cell? = some cell →
      calls[other]? = some otherCall → otherCall.progress.cell? = some cell → other = key) :
    Coherent registry (withProgress calls key progress) where
  distinct := coherent.distinct
  inRange := coherent.inRange
  fits := by
    intro other otherCall foundOther
    rcases cases_withProgress foundOther with ⟨rfl, changed, old, foundOld, identity⟩ | ⟨-, same⟩
    · obtain rfl := Option.some.inj (found.symm.trans foundOld)
      rw [changed, identity]
      exact fits
    · exact coherent.fits same
  alone := by
    intro first second cell call otherCall foundFirst foundSecond works otherWorks
    rcases cases_withProgress foundFirst with ⟨rfl, changed, -⟩ | ⟨-, same⟩ <;>
      rcases cases_withProgress foundSecond with ⟨rfl, otherChanged, -⟩ | ⟨-, otherSame⟩
    · rfl
    · exact (free (changed ▸ works) otherSame otherWorks).symm
    · exact free (otherChanged ▸ otherWorks) same works
    · exact coherent.alone same otherSame works otherWorks
  lined := by
    intro cell waiting member
    obtain ⟨waitingCall, foundWaiting, queued⟩ := coherent.lined member
    have different : waiting ≠ key := by
      rintro rfl
      exact notLined cell member
    exact ⟨waitingCall, withProgress_of_ne foundWaiting different, queued⟩
  once := coherent.once

theorem request (coherent : Coherent registry calls) (identity : Identity) :
    Coherent registry (calls ++ [⟨identity, .entering⟩]) where
  distinct := coherent.distinct
  inRange := coherent.inRange
  fits := by
    intro key call found
    rcases cases_append found with old | rfl
    · exact coherent.fits old
    · exact .ofIdle rfl fun _ same => nomatch same
  alone := by
    intro key other cell call otherCall found foundOther works otherWorks
    rcases cases_append found with old | rfl
    · rcases cases_append foundOther with otherOld | rfl
      · exact coherent.alone old otherOld works otherWorks
      · cases otherWorks
    · cases works
  lined := by
    intro cell key member
    obtain ⟨call, found, queued⟩ := coherent.lined member
    exact ⟨call, found_append found, queued⟩
  once := coherent.once

/-! ### Changes of cells -/

/-- The invariant stays true when a cell is changed without its client, if the cell stays busy for the
call at work on it, and its line holds calls that wait for it. -/
theorem updateCell (coherent : Coherent registry calls) {key : Nat} {change : Cell → Cell}
    (inRange : key < registry.cells.length)
    (client : (change (registry.cell key)).client = (registry.cell key).client)
    (busy : ∀ {other : Nat} {call : Call}, calls[other]? = some call →
      call.progress.cell? = some key → (change (registry.cell key)).busy = true)
    (lined : ∀ {other : Nat}, other ∈ (change (registry.cell key)).waiting →
      ∃ call, calls[other]? = some call ∧ call.progress = .queued key)
    (once : (change (registry.cell key)).waiting.Nodup) :
    Coherent (registry.updateCell key change) calls := by
  have cells := cell_updateCell registry inRange change
  have grows : Grows registry (registry.updateCell key change) :=
    .updateCell registry fun _ held => client.trans held
  refine ⟨coherent.distinct, fun member => ?_, fun found => ?_, coherent.alone,
    fun member => ?_, fun cell => ?_⟩
  · simpa [Registry.updateCell] using coherent.inRange member
  · rename_i other call
    refine (coherent.fits found).grows grows fun works => ?_
    rename_i cell
    obtain ⟨wasBusy, wasEmpty⟩ := (coherent.fits found).working works
    rw [cells]
    split
    · rename_i same
      subst same
      exact ⟨busy found works, client.trans wasEmpty⟩
    · exact ⟨wasBusy, wasEmpty⟩
  · rename_i cell other
    rw [cells] at member
    split at member
    · rename_i same
      subst same
      exact lined member
    · exact coherent.lined member
  · rw [cells]
    split
    · exact once
    · exact coherent.once cell

/-! ### Changes of slots -/

theorem openSlot (coherent : Coherent registry calls) (identity : Identity) :
    Coherent (registry.openSlot identity).2 calls := by
  have grows := Grows.openSlot registry identity
  cases slot : registry.slot? identity with
  | some key =>
      rw [openSlot_of_slot? slot]
      exact coherent
  | none =>
      have cells := registry.cell_openSlot identity
      rw [openSlot_of_none slot] at grows cells ⊢
      refine ⟨?_, fun member => ?_, fun found => ?_, coherent.alone, fun member => ?_, fun cell => ?_⟩
      · rw [List.map_append, List.map_singleton]
        refine List.Nodup.append coherent.distinct (List.nodup_singleton _) ?_
        intro other member isNew
        rw [List.mem_singleton.mp isNew] at member
        obtain ⟨⟨_, key⟩, inSlots, rfl⟩ := List.mem_map.mp member
        rw [slot?_of_mem coherent.distinct inSlots] at slot
        cases slot
      · rcases List.mem_append.mp member with old | new
        · simpa using Nat.lt_succ_of_lt (coherent.inRange old)
        · obtain ⟨-, rfl⟩ := Prod.mk.inj (List.mem_singleton.mp new)
          simp
      · refine (coherent.fits found).grows grows fun works => ?_
        rw [cells]
        exact (coherent.fits found).working works
      · rw [cells] at member
        exact coherent.lined member
      · rw [cells]
        exact coherent.once cell

/-- Slots may go once the registry is shut down. -/
theorem withoutSlots (coherent : Coherent registry calls) {after : Registry}
    (closed : after.closing = true) (cells : after.cells = registry.cells)
    (fewer : after.slots.Sublist registry.slots) : Coherent after calls where
  distinct := (fewer.map Prod.fst).nodup coherent.distinct
  inRange := by
    intro identity cell member
    rw [cells]
    exact coherent.inRange (fewer.subset member)
  fits := by
    intro key call found
    have sameCell (cell : Nat) : after.cell cell = registry.cell cell := by
      simp only [Registry.cell, cells]
    have noSlots {isOpen : Prop} (stillOpen : after.closing = false) : isOpen := by
      rw [closed] at stillOpen
      cases stillOpen
    have grows : Grows registry after :=
      ⟨fun _ => closed, Nat.le_of_eq (congrArg _ cells.symm), noSlots,
        fun held => (congrArg Cell.client (sameCell _)).trans held⟩
    refine (coherent.fits found).grows grows fun works => ?_
    rw [sameCell]
    exact (coherent.fits found).working works
  alone := coherent.alone
  lined := by
    intro cell key member
    simp only [Registry.cell, cells] at member
    exact coherent.lined member
  once := by
    intro cell
    simp only [Registry.cell, cells]
    exact coherent.once cell

theorem drain (coherent : Coherent registry calls) : Coherent registry.drain.2 calls :=
  coherent.withoutSlots rfl rfl (List.nil_sublist _)

theorem closeSlot (coherent : Coherent registry calls) (closed : registry.closing = true)
    (identity : Identity) (cell : Nat) : Coherent (registry.closeSlot identity cell) calls :=
  coherent.withoutSlots closed rfl List.filter_sublist

/-! ### Changes of both -/

/-- A call that was at work fills its cell, and is served with all calls in line. -/
theorem fill (coherent : Coherent registry calls) {key cell : Nat} {call : Call} (client : Nat)
    (found : calls[key]? = some call) (works : call.progress.cell? = some cell) :
    Coherent (registry.updateCell cell fun _ => ⟨some client, false, []⟩)
      (withProgresses calls (key :: (registry.cell cell).waiting) (.served cell client)) := by
  have fits := coherent.fits found
  obtain ⟨inRange, -⟩ := fits.placed (CallProgress.place?_of_cell? works)
  obtain ⟨-, wasEmpty⟩ := fits.working works
  have cells := cell_updateCell registry inRange fun _ => ⟨some client, false, []⟩
  have grows : Grows registry (registry.updateCell cell fun _ => ⟨some client, false, []⟩) :=
    .updateCell registry fun _ held => by rw [wasEmpty] at held; cases held
  -- Whoever is served stood at the cell, at work or in line.
  have stood {other : Nat} {old : Call} (member : other ∈ key :: (registry.cell cell).waiting)
      (foundOld : calls[other]? = some old) : old.progress.place? = some cell := by
    rcases List.mem_cons.mp member with rfl | inLine
    · obtain rfl := Option.some.inj (found.symm.trans foundOld)
      exact CallProgress.place?_of_cell? works
    · obtain ⟨queued, foundQueued, progress⟩ := coherent.lined inLine
      obtain rfl := Option.some.inj (foundQueued.symm.trans foundOld)
      rw [progress]
      rfl
  have notAtCell {other place : Nat} {old : Call} (foundOld : calls[other]? = some old)
      (others : other ∉ key :: (registry.cell cell).waiting)
      (worksOther : old.progress.cell? = some place) : place ≠ cell := by
    rintro rfl
    exact others (coherent.alone foundOld found worksOther works ▸ List.mem_cons_self)
  have keepsLine {other place : Nat} {queued : Call} (foundQueued : calls[other]? = some queued)
      (progress : queued.progress = .queued place) (elsewhere : place ≠ cell) :
      other ∉ key :: (registry.cell cell).waiting := by
    intro member
    have atCell := stood member foundQueued
    rw [progress] at atCell
    exact elsewhere (Option.some.inj atCell)
  refine ⟨coherent.distinct, fun member => ?_, fun foundAfter => ?_,
    fun first second works worksToo => ?_, fun member => ?_, fun place => ?_⟩
  · simpa [Registry.updateCell] using coherent.inRange member
  · rename_i other after
    rcases cases_withProgresses foundAfter with ⟨member, served, old, foundOld, identity⟩ |
        ⟨others, same⟩
    · obtain ⟨-, slot⟩ := (coherent.fits foundOld).placed (stood member foundOld)
      rw [served, identity]
      refine ⟨fun stands => ?_, fun worksAfter => (by cases worksAfter), fun isServed => ?_,
        fun succeeded => (by cases succeeded)⟩
      · obtain rfl := Option.some.inj stands
        exact ⟨by simpa [Registry.updateCell] using inRange, slot⟩
      · obtain ⟨rfl, rfl⟩ := CallProgress.served.inj isServed
        rw [cells, if_pos rfl]
    · refine (coherent.fits same).grows grows fun worksAfter => ?_
      rw [cells, if_neg (notAtCell same others worksAfter)]
      exact (coherent.fits same).working worksAfter
  · rcases cases_withProgresses first with ⟨-, served, -⟩ | ⟨-, same⟩
    · rw [served] at works
      cases works
    · rcases cases_withProgresses second with ⟨-, served, -⟩ | ⟨-, sameToo⟩
      · rw [served] at worksToo
        cases worksToo
      · exact coherent.alone same sameToo works worksToo
  · rename_i place other
    rw [cells] at member
    split at member
    · cases member
    · rename_i elsewhere
      obtain ⟨queued, foundQueued, progress⟩ := coherent.lined member
      exact ⟨queued, withProgresses_of_not_mem foundQueued
        (keepsLine foundQueued progress elsewhere), progress⟩
  · rw [cells]
    split
    · exact List.nodup_nil
    · exact coherent.once place

/-- A cell that is busy without a call at work is handed to the first call in line. -/
theorem next (coherent : Coherent registry calls) {cell first : Nat} {rest : List Nat}
    (inRange : cell < registry.cells.length) (busy : (registry.cell cell).busy = true)
    (isEmpty : (registry.cell cell).client = none)
    (line : (registry.cell cell).waiting = first :: rest)
    (free : ∀ {key : Nat} {call : Call}, calls[key]? = some call →
      call.progress.cell? ≠ some cell) :
    Coherent (registry.updateCell cell fun old => { old with waiting := rest })
      (withProgress calls first (.building cell)) := by
  have once := coherent.once cell
  rw [line] at once
  obtain ⟨notInRest, restOnce⟩ := List.nodup_cons.mp once
  obtain ⟨call, found, queued⟩ := coherent.lined (line.symm ▸ List.mem_cons_self : first ∈ _)
  have cells := cell_updateCell registry inRange fun old => { old with waiting := rest }
  have shorter : Coherent (registry.updateCell cell fun old => { old with waiting := rest })
      calls := by
    refine coherent.updateCell inRange rfl (fun _ _ => busy) (fun member => ?_) restOnce
    exact coherent.lined (line.symm ▸ List.mem_cons_of_mem first member)
  refine shorter.setProgress found (fun place member => ?_) ?_ fun works foundOther worksOther => ?_
  · rw [cells] at member
    split at member
    · exact notInRest member
    · rename_i elsewhere
      obtain ⟨other, foundOther, otherQueued⟩ := coherent.lined member
      obtain rfl := Option.some.inj (found.symm.trans foundOther)
      exact elsewhere (CallProgress.queued.inj (otherQueued.symm.trans queued))
  · have atCell : call.progress.place? = some cell := by rw [queued]; rfl
    refine ⟨fun stands => ?_, fun works => ?_, fun served => (nomatch served),
      fun succeeded => (nomatch succeeded)⟩
    · obtain rfl := Option.some.inj stands
      exact (shorter.fits found).placed atCell
    · obtain rfl := Option.some.inj works
      rw [cells, if_pos rfl]
      exact ⟨busy, isEmpty⟩
  · obtain rfl := Option.some.inj works
    exact absurd worksOther (free foundOther)

end Coherent

end Registry

end LiveConfig
