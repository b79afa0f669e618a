import LiveConfig.Proofs.Registry.Steps

/-!
Contract: what one step of a call does.

A step moves its call on, lets at most those in line for the same cell go on, and fills a cell only when
the start of a client is over with success. Owns: the moves of a call, with what each of them does in the
making of a client, and that a step does nothing else to calls, cells and slots. Does not own: what a step
does to clients.
-/

namespace LiveConfig

/-- What a step does in the making of a client. -/
inductive Making where
  /-- The factory refuses to build. -/
  | refused (error : StoreError)
  | built (client : Nat)
  /-- The start of the client has failed. -/
  | failed (client : Nat) (error : StoreError)
  /-- The start of the client has succeeded. -/
  | started (client : Nat)
deriving DecidableEq

/-- The client that was built, if one was. -/
def Making.built? : Making → Option Nat
  | .built client => some client
  | .refused _ | .failed .. | .started _ => none

/-- How a call for an identity moves on, and what it does in the making of a client by that. A client
that is built gets the next free key, and a registry turns calls away exactly once it is shut down. -/
inductive CallProgress.Moves (identity : Identity) (free : Nat) (closing : Bool) :
    CallProgress → Option Making → CallProgress → Prop where
  | refuse (closed : closing = true) :
      Moves identity free closing .entering none (.finished (.error (Fleet.shutDownError identity)))
  | serve (cell client : Nat) : Moves identity free closing .entering none (.served cell client)
  | queue (cell : Nat) : Moves identity free closing .entering none (.queued cell)
  | take (cell : Nat) : Moves identity free closing .entering none (.building cell)
  | wait (cell : Nat) : Moves identity free closing (.queued cell) none (.queued cell)
  | miss (cell : Nat) (error : StoreError) : Moves identity free closing (.building cell)
      (some (.refused error)) (.finished (.error (.connection identity.text error)))
  | build (cell : Nat) : Moves identity free closing (.building cell) (some (.built free))
      (.starting cell free .entering)
  | goOn (cell client : Nat) (start next : StartProgress) :
      Moves identity free closing (.starting cell client start) none (.starting cell client next)
  | giveUp (cell client : Nat) (start : StartProgress) (error : StoreError) :
      Moves identity free closing (.starting cell client start) (some (.failed client error))
        (.abandoning cell client error)
  | fill (cell client : Nat) (start : StartProgress) :
      Moves identity free closing (.starting cell client start) (some (.started client))
        (.served cell client)
  | abandon (cell client : Nat) (error : StoreError) :
      Moves identity free closing (.abandoning cell client error) none
        (.finished (.error (.connection identity.text error)))
  | succeed (cell client : Nat) (isOpen : closing = false) :
      Moves identity free closing (.served cell client) none (.finished (.ok client))
  | withdraw (cell client : Nat) (closed : closing = true) :
      Moves identity free closing (.served cell client) none (.retiring client)
  | retire (client : Nat) : Moves identity free closing (.retiring client) none
      (.finished (.error (Fleet.shutDownError identity)))
  | rest (result : Except ConfigError Nat) :
      Moves identity free closing (.finished result) none (.finished result)

/-- A call that stays where it is, or that was in line for a cell and goes on to work on it or to be
served from it. -/
inductive Call.Stays : Call → Call → Prop where
  | same (call : Call) : Stays call call
  | next (identity : Identity) (cell : Nat) :
      Stays ⟨identity, .queued cell⟩ ⟨identity, .building cell⟩
  | served (identity : Identity) (cell client : Nat) :
      Stays ⟨identity, .queued cell⟩ ⟨identity, .served cell client⟩

/-- A call that stands at a cell after a step stood there before, unless it has just come to it. -/
theorem CallProgress.Moves.place?_eq {identity : Identity} {free cell : Nat} {closing : Bool}
    {made : Option Making} {progress next : CallProgress}
    (moves : progress.Moves identity free closing made next) (notEntering : progress ≠ .entering)
    (stands : next.place? = some cell) : progress.place? = some cell := by
  cases moves with
  | refuse | serve | queue | take => exact absurd rfl notEntering
  | wait | goOn | giveUp | fill | build => exact stands
  | miss | abandon | succeed | withdraw | retire | rest => cases stands

namespace Call.Stays

variable {old new : Call}

theorem identity_eq (stays : old.Stays new) : new.identity = old.identity := by cases stays <;> rfl

theorem place?_eq (stays : old.Stays new) : new.progress.place? = old.progress.place? := by
  cases stays <;> rfl

end Call.Stays

namespace Fleet

open Registry (withProgress withProgresses)

variable {fleet after : Fleet} {key cell : Nat} {call : Call} {made : Option Making}

/-- What a step does in the making of a client, by what the world outside answers. -/
def making? (fleet : Fleet) (surroundings : Surroundings) : CallProgress → Option Making
  | .building _ =>
      match surroundings.refusal, surroundings.endpoint with
      | some error, _ | none, .error error => some (.refused error)
      | none, .ok _ => some (.built fleet.clients.length)
  | .starting _ client start =>
      match start, surroundings.refusal with
      | .finished (.ok ()), _ => some (.started client)
      | .finished (.error error), _ | .entering, some error => some (.failed client error)
      | _, _ => none
  | .entering | .queued _ | .abandoning .. | .served .. | .retiring _ | .finished _ => none

/-! ### Calls -/

theorem length_withProgresses (calls : List Call) (keys : List Nat) (progress : CallProgress) :
    (withProgresses calls keys progress).length = calls.length := by
  induction keys generalizing calls with
  | nil => rfl
  | cons first rest inductionHypothesis =>
      have others := inductionHypothesis (withProgress calls first progress)
      rw [withProgress, List.length_modify] at others
      exact others

/-- One call has moved on, and the others have stayed. -/
structure CallsMoved (before after : List Call) (key : Nat) (call : Call) (next : CallProgress) :
    Prop where
  own : after[key]? = some { call with progress := next }
  others : ∀ {other : Nat} {old : Call}, other ≠ key → before[other]? = some old →
    ∃ new, after[other]? = some new ∧ old.Stays new
  length : after.length = before.length

theorem CallsMoved.one {calls : List Call} (found : calls[key]? = some call)
    (next : CallProgress) : CallsMoved calls (withProgress calls key next) key call next where
  own := Registry.withProgress_self found
  others := fun different foundOther =>
    ⟨_, Registry.withProgress_of_ne foundOther different, .same _⟩
  length := List.length_modify ..

theorem CallsMoved.none {calls : List Call} (found : calls[key]? = some call) :
    CallsMoved calls calls key call call.progress where
  own := found
  others := fun _ foundOther => ⟨_, foundOther, .same _⟩
  length := rfl

/-- A call in line that is handed a cell stays. -/
theorem CallsMoved.handOver {calls moved : List Call} {next : CallProgress} {first : Nat}
    {waiting : Call} (moves : CallsMoved calls moved key call next)
    (found : calls[first]? = some waiting) (queued : waiting.progress = .queued cell)
    (different : first ≠ key) :
    CallsMoved calls (withProgress moved first (.building cell)) key call next where
  own := Registry.withProgress_of_ne moves.own (Ne.symm different)
  others := by
    intro other old otherDiffers foundOther
    obtain ⟨new, foundNew, stays⟩ := moves.others otherDiffers foundOther
    by_cases same : other = first
    · subst same
      obtain rfl := Option.some.inj (found.symm.trans foundOther)
      obtain ⟨identity, progress⟩ := waiting
      obtain rfl : progress = .queued cell := queued
      refine ⟨_, Registry.withProgress_self foundNew, ?_⟩
      cases stays <;> exact .next identity cell
    · exact ⟨new, Registry.withProgress_of_ne foundNew same, stays⟩
  length := (List.length_modify ..).trans moves.length

/-- Calls in line that are served stay. -/
theorem CallsMoved.serve {calls : List Call} {waiting : List Nat} (client : Nat)
    (found : calls[key]? = some call)
    (lined : ∀ other ∈ waiting, ∃ old, calls[other]? = some old ∧ old.progress = .queued cell) :
    CallsMoved calls (withProgresses calls (key :: waiting) (.served cell client)) key call
      (.served cell client) := by
  have served {other : Nat} {old : Call} (foundOther : calls[other]? = some old)
      (member : other ∈ key :: waiting) :
      (withProgresses calls (key :: waiting) (.served cell client))[other]? =
        some ⟨old.identity, .served cell client⟩ := by
    obtain ⟨new, foundNew, isServed⟩ :
        ∃ new, (withProgresses calls (key :: waiting) (.served cell client))[other]? = some new ∧
          new.progress = .served cell client := Registry.withProgresses_of_mem foundOther member
    rcases Registry.cases_withProgresses foundNew with
      ⟨-, -, before, foundBefore, identity⟩ | ⟨others, -⟩
    · obtain rfl := Option.some.inj (foundOther.symm.trans foundBefore)
      rw [foundNew, ← identity, ← isServed]
    · exact absurd member others
  refine ⟨served found List.mem_cons_self, fun {other old} different foundOther => ?_,
    length_withProgresses ..⟩
  by_cases member : other ∈ waiting
  · obtain ⟨queuedCall, foundQueued, queued⟩ := lined other member
    obtain rfl := Option.some.inj (foundQueued.symm.trans foundOther)
    refine ⟨_, served foundOther (List.mem_cons_of_mem key member), ?_⟩
    obtain ⟨identity, progress⟩ := queuedCall
    obtain rfl : progress = .queued cell := queued
    exact .served identity cell client
  · have notServed : other ∉ key :: waiting := by simp [different, member]
    exact ⟨old, Registry.withProgresses_of_not_mem foundOther notServed, .same old⟩

/-- Who is found afterwards was there before. -/
theorem CallsMoved.before {calls moved : List Call} {next : CallProgress} {other : Nat} {new : Call}
    (moves : CallsMoved calls moved key call next) (different : other ≠ key)
    (found : moved[other]? = some new) : ∃ old, calls[other]? = some old ∧ old.Stays new := by
  have below : other < calls.length := by
    obtain ⟨below, -⟩ := List.getElem?_eq_some_iff.mp found
    rwa [moves.length] at below
  have there : calls[other]? = some calls[other] := List.getElem?_eq_getElem below
  obtain ⟨_, foundNew, stays⟩ := moves.others different there
  obtain rfl := Option.some.inj (found.symm.trans foundNew)
  exact ⟨_, there, stays⟩

/-! ### Whole steps -/

/-- What one step of a call does to the slots of a registry: a call that enters an open registry may
add one for its identity, and from one that is shut down slots may go. -/
inductive SlotsMoved (registry : Registry) (call : Call) (after : List (Identity × Nat)) : Prop where
  | same (kept : after = registry.slots)
  | opened (entering : call.progress = .entering) (isOpen : registry.closing = false)
      (missing : registry.slot? call.identity = none)
      (grown : after = registry.slots ++ [(call.identity, registry.cells.length)])
  | withdrawn (closed : registry.closing = true) (fewer : after.Sublist registry.slots)

/-- What one step of a call does to calls, slots and cells, and which keys it gives out. -/
structure Advanced (fleet after : Fleet) (key : Nat) (call : Call) (made : Option Making) :
    Prop where
  calls : ∃ next,
    call.progress.Moves call.identity fleet.clients.length fleet.registry.closing made next ∧
      CallsMoved fleet.calls after.calls key call next
  slots : SlotsMoved fleet.registry call after.registry.slots
  cells : ∀ cell client, (after.registry.cell cell).client = some client ↔
    (fleet.registry.cell cell).client = some client ∨
      made = some (.started client) ∧ call.progress.cell? = some cell
  clients : after.clients.length = fleet.clients.length + (made.bind Making.built?).toList.length
  built : after.built = fleet.built ++ (made.bind Making.built?).toList

/-- A change of a cell that leaves its client. -/
theorem client_updateCell (registry : Registry) (key other : Nat) {change : Cell → Cell}
    (sameClient : ∀ old, (change old).client = old.client) :
    ((registry.updateCell key change).cell other).client = (registry.cell other).client := by
  simp only [Registry.cell, Registry.updateCell, List.getElem?_modify]
  cases registry.cells[other]? with
  | none => rfl
  | some old =>
      by_cases same : key = other
      · simp [same, sameClient]
      · simp [same]

/-- A step that gives out no key and fills no cell. -/
theorem Advanced.ofCalls {next : CallProgress}
    (moves : call.progress.Moves call.identity fleet.clients.length fleet.registry.closing made next)
    (calls : CallsMoved fleet.calls after.calls key call next)
    (noKey : made.bind Making.built? = none) (notStarted : ∀ client, made ≠ some (.started client))
    (slots : SlotsMoved fleet.registry call after.registry.slots)
    (cells : ∀ cell, (after.registry.cell cell).client = (fleet.registry.cell cell).client)
    (clients : after.clients.length = fleet.clients.length) (built : after.built = fleet.built) :
    Advanced fleet after key call made := by
  refine ⟨⟨next, moves, calls⟩, slots, fun cell client => ?_, by simp [noKey, clients],
    by simp [noKey, built]⟩
  rw [cells]
  refine ⟨.inl, fun holds => holds.elim id fun started => ?_⟩
  exact absurd started.1 (notStarted client)

/-- A step that makes nothing. -/
theorem Advanced.ofSilent {next : CallProgress}
    (moves : call.progress.Moves call.identity fleet.clients.length fleet.registry.closing none next)
    (calls : CallsMoved fleet.calls after.calls key call next)
    (slots : SlotsMoved fleet.registry call after.registry.slots)
    (cells : ∀ cell, (after.registry.cell cell).client = (fleet.registry.cell cell).client)
    (clients : after.clients.length = fleet.clients.length) (built : after.built = fleet.built) :
    Advanced fleet after key call none :=
  .ofCalls moves calls rfl (fun _ => Option.some_ne_none _ |>.symm) slots cells clients built

theorem advanced_look (found : fleet.calls[key]? = some call)
    (entering : call.progress = .entering) (cell : Nat) :
    Advanced fleet (fleet.look key cell) key call none := by
  have sameCells (change : Cell → Cell) (sameClient : ∀ old, (change old).client = old.client)
      (other : Nat) : ((fleet.registry.updateCell cell change).cell other).client =
        (fleet.registry.cell other).client := client_updateCell _ _ _ sameClient
  unfold look
  split
  · exact .ofSilent (entering ▸ .serve _ _) (.one found _) (.same rfl) (fun _ => rfl) rfl rfl
  · split
    · exact .ofSilent (entering ▸ .queue _) (.one found _) (.same rfl) (sameCells _ fun _ => rfl)
        rfl rfl
    · exact .ofSilent (entering ▸ .take _) (.one found _) (.same rfl) (sameCells _ fun _ => rfl)
        rfl rfl

theorem advanced_refuse (found : fleet.calls[key]? = some call)
    (entering : call.progress = .entering) (closed : fleet.registry.closing = true) :
    Advanced fleet (fleet.finish key (.error (shutDownError call.identity))) key call none :=
  .ofSilent (entering ▸ .refuse closed) (.one found _) (.same rfl) (fun _ => rfl) rfl rfl

theorem advanced_enter (found : fleet.calls[key]? = some call)
    (entering : call.progress = .entering) :
    Advanced fleet (fleet.enter key call.identity) key call none := by
  unfold enter
  split
  · rename_i closed
    exact advanced_refuse found entering closed
  · rename_i notClosed
    have isOpen : fleet.registry.closing = false := by simpa using notClosed
    show Advanced fleet ((fleet.takeSlot call.identity).2.look key (fleet.takeSlot call.identity).1)
      key call none
    have foundToo : (fleet.takeSlot call.identity).2.calls[key]? = some call := found
    have looked := advanced_look foundToo entering (fleet.takeSlot call.identity).1
    obtain ⟨registry, progress, after, -, slots, -⟩ :=
      look_eq (fleet.takeSlot call.identity).2 key (fleet.takeSlot call.identity).1
    have closing := Registry.closing_openSlot fleet.registry call.identity
    refine ⟨?_, ?_, fun cell client => ?_, looked.clients, looked.built⟩
    · obtain ⟨next, moves, calls⟩ := looked.calls
      have movesToo : call.progress.Moves call.identity fleet.clients.length
          (fleet.registry.openSlot call.identity).2.closing none next := moves
      rw [closing] at movesToo
      exact ⟨next, movesToo, calls⟩
    · rw [after]
      cases slot : fleet.registry.slot? call.identity with
      | some place =>
          have same := Registry.openSlot_of_slot? slot
          exact .same (slots.trans (congrArg (·.2.slots) same))
      | none =>
          have grown := Registry.openSlot_of_none slot
          exact .opened entering isOpen slot (slots.trans (congrArg (·.2.slots) grown))
    · rw [looked.cells]
      have sameCell := Registry.cell_openSlot fleet.registry call.identity cell
      rw [← sameCell]
      rfl

/-- A call that fails at work ends, and its cell is handed over. -/
theorem advanced_fail (coherent : fleet.Coherent) (found : fleet.calls[key]? = some call)
    (works : call.progress.cell? = some cell) {error : StoreError}
    (moves : call.progress.Moves call.identity fleet.clients.length fleet.registry.closing made
      (.finished (.error (.connection call.identity.text error))))
    (noKey : made.bind Making.built? = none)
    (notStarted : ∀ client, made ≠ some (.started client)) :
    Advanced fleet (fleet.fail key cell call.identity error) key call made := by
  have notQueued : ∀ cell, call.progress ≠ .queued cell := CallProgress.ne_queued_of_cell? works
  have ended := CallsMoved.one found (.finished (.error (.connection call.identity.text error)))
  have sameCells (change : Cell → Cell) (sameClient : ∀ old, (change old).client = old.client)
      (other : Nat) : ((fleet.registry.updateCell cell change).cell other).client =
        (fleet.registry.cell other).client := client_updateCell _ _ _ sameClient
  unfold fail handOver
  split
  · exact .ofCalls moves ended noKey notStarted (.same rfl) (sameCells _ fun _ => rfl) rfl rfl
  · rename_i first rest line
    obtain ⟨waiting, foundFirst, queued⟩ :=
      coherent.lined (line.symm ▸ List.mem_cons_self : first ∈ (fleet.registry.cell cell).waiting)
    have different : first ≠ key := by
      rintro rfl
      obtain rfl := Option.some.inj (found.symm.trans foundFirst)
      exact notQueued cell queued
    exact .ofCalls moves (ended.handOver foundFirst queued different) noKey notStarted
      (.same rfl) (sameCells _ fun _ => rfl) rfl rfl

theorem advanced_build (coherent : fleet.Coherent) (found : fleet.calls[key]? = some call)
    (building : call.progress = .building cell) (surroundings : Surroundings) :
    Advanced fleet (fleet.build key cell call.identity surroundings) key call
      (fleet.making? surroundings call.progress) := by
  have works : call.progress.cell? = some cell := by rw [building]; rfl
  cases refusal : surroundings.refusal with
  | some error =>
      simp only [build, making?, building, refusal]
      exact advanced_fail coherent found works (building ▸ .miss cell error) rfl nofun
  | none =>
      cases endpoint : surroundings.endpoint with
      | error error =>
          simp only [build, making?, building, refusal, endpoint]
          exact advanced_fail coherent found works (building ▸ .miss cell error) rfl nofun
      | ok store =>
          simp only [build, making?, building, refusal, endpoint]
          refine ⟨⟨_, building ▸ .build cell, .one found _⟩, .same rfl, fun place client => ?_,
            by simp [addClient, setProgress, Making.built?], rfl⟩
          simp only [Option.some.injEq, reduceCtorEq, false_and, or_false]
          rfl

theorem advanced_fill {client : Nat} {start : StartProgress} (coherent : fleet.Coherent)
    (found : fleet.calls[key]? = some call)
    (starting : call.progress = .starting cell client start) :
    Advanced fleet (fleet.fill key cell client) key call (some (.started client)) := by
  have works : call.progress.cell? = some cell := by rw [starting]; rfl
  have fits := coherent.fits found
  obtain ⟨inRange, -⟩ := fits.placed (CallProgress.place?_of_cell? works)
  have isEmpty := (fits.working works).2
  rw [fill_eq]
  refine ⟨⟨_, starting ▸ .fill cell client start, .serve client found fun other member =>
    coherent.lined member⟩, .same rfl, fun place held => ?_, rfl, (List.append_nil _).symm⟩
  simp only [Registry.cell_updateCell _ inRange, works, Option.some.injEq, Making.started.injEq]
  by_cases same : place = cell
  · subst same
    simp [isEmpty]
  · simp [same, Ne.symm same]

theorem advanced_continueStart {client : Nat} {start : StartProgress} (coherent : fleet.Coherent)
    (found : fleet.calls[key]? = some call) (starting : call.progress = .starting cell client start)
    (surroundings : Surroundings) :
    Advanced fleet (fleet.continueStart key cell client start surroundings) key call
      (fleet.making? surroundings call.progress) := by
  have goesOn (next : StartProgress) (changed : Client) :
      Advanced fleet ((fleet.setClient client changed).setProgress key (.starting cell client next))
        key call none :=
    .ofSilent (starting ▸ .goOn cell client start next) (.one found _) (.same rfl)
      (fun _ => rfl) List.length_set rfl
  have givesUp (error : StoreError) :
      Advanced fleet (fleet.setProgress key (.abandoning cell client error)) key call
        (some (.failed client error)) :=
    .ofCalls (starting ▸ .giveUp cell client start error) (.one found _) rfl nofun (.same rfl)
      (fun _ => rfl) rfl rfl
  rw [starting]
  cases start with
  | finished result =>
      cases result with
      | ok answer => exact advanced_fill coherent found starting
      | error error => exact givesUp error
  | connecting | pausing => exact goesOn _ _
  | entering =>
      cases refusal : surroundings.refusal with
      | some error =>
          simp only [continueStart, making?, refusal]
          exact givesUp error
      | none =>
          simp only [continueStart, making?, refusal]
          exact goesOn _ _

theorem advanced_abandon {client : Nat} {error : StoreError} (coherent : fleet.Coherent)
    (found : fleet.calls[key]? = some call)
    (abandoning : call.progress = .abandoning cell client error) (surroundings : Surroundings) :
    Advanced fleet (fleet.abandon key cell client call.identity error surroundings) key call none := by
  have works : call.progress.cell? = some cell := by rw [abandoning]; rfl
  have moves : call.progress.Moves call.identity fleet.clients.length fleet.registry.closing none
      (.finished (.error (.connection call.identity.text error))) :=
    abandoning ▸ .abandon cell client error
  unfold abandon
  split
  · exact advanced_fail coherent found works moves rfl nofun
  · have sameLength := fleet.closeClient_length client surroundings
    obtain ⟨clients, closed⟩ := fleet.closeClient_snd client surroundings
    rw [closed] at sameLength
    simp only [closed]
    have changed : Coherent { fleet with clients := clients } := coherent
    have failed : Advanced { fleet with clients := clients }
        (Fleet.fail { fleet with clients := clients } key cell call.identity error) key call none :=
      advanced_fail changed found works (sameLength ▸ moves) rfl nofun
    exact ⟨sameLength ▸ failed.calls, failed.slots, failed.cells, sameLength ▸ failed.clients,
      failed.built⟩

theorem advanced_conclude {client : Nat}
    (found : fleet.calls[key]? = some call) (served : call.progress = .served cell client) :
    Advanced fleet (fleet.conclude key cell client call.identity) key call none := by
  unfold conclude
  split
  · rename_i closed
    exact .ofSilent (served ▸ .withdraw cell client closed) (.one found _)
      (.withdrawn closed List.filter_sublist) (fun _ => rfl) rfl rfl
  · rename_i notClosed
    have isOpen : fleet.registry.closing = false := by simpa using notClosed
    exact .ofSilent (served ▸ .succeed cell client isOpen) (.one found _) (.same rfl)
      (fun _ => rfl) rfl rfl

theorem advanced_retire {client : Nat} (found : fleet.calls[key]? = some call)
    (retiring : call.progress = .retiring client) (surroundings : Surroundings) :
    Advanced fleet (fleet.retire key client call.identity surroundings) key call none := by
  have sameLength := fleet.closeClient_length client surroundings
  obtain ⟨clients, closed⟩ := fleet.closeClient_snd client surroundings
  rw [closed] at sameLength
  rw [retire, closed]
  exact .ofSilent (retiring ▸ .retire client) (.one found _) (.same rfl) (fun _ => rfl)
    sameLength rfl

/-- A call that is served by a registry that is shut down takes the slot out. -/
theorem slots_advance_served {client : Nat} (found : fleet.calls[key]? = some call)
    (served : call.progress = .served cell client)
    (closed : fleet.registry.closing = true) (surroundings : Surroundings) :
    (fleet.advance key surroundings).registry.slots =
      (fleet.registry.closeSlot call.identity cell).slots := by
  simp only [advance, found, served, conclude, if_pos closed]
  rfl

/-- What every step of a call does. -/
theorem advanced_of_advance (coherent : fleet.Coherent) (found : fleet.calls[key]? = some call)
    (surroundings : Surroundings) :
    Advanced fleet (fleet.advance key surroundings) key call
      (fleet.making? surroundings call.progress) := by
  obtain ⟨identity, progress⟩ := call
  cases progress with
  | entering =>
      simp only [advance, found]
      have entered := advanced_enter found rfl
      exact entered
  | queued cell =>
      simp only [advance, found]
      exact .ofSilent (.wait cell) (.none found) (.same rfl) (fun _ => rfl) rfl rfl
  | building cell =>
      simp only [advance, found]
      exact advanced_build coherent found rfl surroundings
  | starting cell client start =>
      simp only [advance, found]
      exact advanced_continueStart coherent found rfl surroundings
  | abandoning cell client error =>
      simp only [advance, found]
      exact advanced_abandon coherent found rfl surroundings
  | served cell client =>
      simp only [advance, found]
      exact advanced_conclude found rfl
  | retiring client =>
      simp only [advance, found]
      exact advanced_retire found rfl surroundings
  | finished result =>
      simp only [advance, found]
      exact .ofSilent (.rest result) (.none found) (.same rfl) (fun _ => rfl) rfl rfl

end Fleet

end LiveConfig
