import LiveConfig.Proofs.Registry.Closes

/-!
Contract: somebody is always responsible for a started client.

A started client is held by the call that starts it, by a call that is served with it or is about to
close it, by the slot of its identity while the registry is open, or by a shutdown that is still to close
it. Owns: this invariant, for all clients but those of which a close has failed. Does not own: what
follows when nobody is left to hold anything.
-/

namespace LiveConfig

/-- Whether a call at this point has to see to a client. -/
def CallProgress.Holds (client : Nat) : CallProgress → Prop
  | .starting _ held _ | .served _ held | .retiring held => held = client
  | .entering | .queued _ | .building _ | .abandoning .. | .finished _ => False

namespace Fleet

open Registry (withProgress)

variable {fleet : Fleet}

/-! ### Responsibility -/

/-- What drains have in hand while they are at work. -/
structure Sweep where
  /-- The identities whose slots are still to be taken out. -/
  pending : Identity → Prop
  /-- The cells of slots that were taken out and are still to be looked at. -/
  cells : Nat → Prop
  /-- The clients that were found in cells. -/
  clients : Nat → Prop

/-- Somebody has to see to a client. -/
inductive Held (fleet : Fleet) (sweep : Sweep) (client : Nat) : Prop where
  | call {key : Nat} {call : Call} (found : fleet.calls[key]? = some call)
      (holds : call.progress.Holds client)
  | slot {identity : Identity} {cell : Nat} (inSlots : (identity, cell) ∈ fleet.registry.slots)
      (filled : (fleet.registry.cell cell).client = some client)
      (watched : fleet.registry.closing = false ∨ sweep.pending identity)
  | cell {cell : Nat} (atHand : sweep.cells cell)
      (filled : (fleet.registry.cell cell).client = some client)
  | client (atHand : sweep.clients client)
  | shutdown {key : Nat} {left : List (Identity × Nat)} {report : ShutdownReport}
      (found : fleet.shutdowns[key]? = some (.closing left report)) {identity : Identity}
      (member : (identity, client) ∈ left)

/-- Who sees to a client sees to it afterwards, if the calls pass it on, slots and filled cells stay, and
so do the shutdowns. -/
theorem Held.pass {after : Fleet} {sweep : Sweep} {client : Nat} {result : Prop}
    (held : fleet.Held sweep client)
    (slots : fleet.registry.slots ⊆ after.registry.slots)
    (closing : after.registry.closing = fleet.registry.closing)
    (cells : ∀ {cell : Nat}, (fleet.registry.cell cell).client = some client →
      (after.registry.cell cell).client = some client)
    (shutdowns : after.shutdowns = fleet.shutdowns)
    (calls : ∀ {key : Nat} {call : Call}, fleet.calls[key]? = some call →
      call.progress.Holds client → result ∨ after.Held sweep client) :
    result ∨ after.Held sweep client := by
  cases held with
  | call found holds => exact calls found holds
  | slot inSlots filled watched =>
      exact .inr (.slot (slots inSlots) (cells filled) (watched.imp_left closing.trans))
  | cell atHand filled => exact .inr (.cell atHand (cells filled))
  | client atHand => exact .inr (.client atHand)
  | shutdown found member => exact .inr (.shutdown (shutdowns ▸ found) member)

/-- Who sees to a client sees to it afterwards or has lost it, if the shutdowns pass it on and the rest
stays. -/
theorem Held.passShutdowns {after : Fleet} {sweep : Sweep} {client : Nat} {lost : List Nat}
    (held : fleet.Held sweep client) (calls : after.calls = fleet.calls)
    (registry : after.registry = fleet.registry)
    (passes : ∀ {key : Nat} {left : List (Identity × Nat)} {report : ShutdownReport}
      {identity : Identity}, fleet.shutdowns[key]? = some (.closing left report) →
      (identity, client) ∈ left → client ∈ lost ∨ after.Held sweep client) :
    client ∈ lost ∨ after.Held sweep client := by
  cases held with
  | call found holds => exact .inr (.call (calls ▸ found) holds)
  | slot inSlots filled watched =>
      exact .inr (.slot (registry ▸ inSlots) (registry ▸ filled) (registry ▸ watched))
  | cell atHand filled => exact .inr (.cell atHand (registry ▸ filled))
  | client atHand => exact .inr (.client atHand)
  | shutdown found member => exact passes found member

/-- A call is starting a client, which is not started yet unless the start is over. -/
def Starts (fleet : Fleet) (key client : Nat) (start : StartProgress) : Prop :=
  ∃ call cell, fleet.calls[key]? = some call ∧ call.progress = .starting cell client start

/-- Every started client is held, but for the lost ones. -/
structure Custody (fleet : Fleet) (sweep : Sweep) (lost : List Nat) : Prop where
  coherent : fleet.Coherent
  inRange : ∀ {key client : Nat} {start : StartProgress}, fleet.Starts key client start →
    client < fleet.clients.length
  sole : ∀ {key other client : Nat} {start otherStart : StartProgress},
    fleet.Starts key client start → fleet.Starts other client otherStart → key = other
  unstarted : ∀ {key client : Nat} {start : StartProgress}, fleet.Starts key client start →
    start ≠ .finished (.ok ()) → (fleet.client client).state ≠ .started
  held : ∀ {client : Nat}, (fleet.client client).state = .started →
    client ∈ lost ∨ fleet.Held sweep client

namespace Custody

variable {sweep : Sweep} {lost : List Nat}

theorem empty (retry : RetryPolicy) (sweep : Sweep) : Custody (.empty retry) sweep [] where
  coherent := .empty retry
  inRange := fun starts => by
    obtain ⟨call, cell, found, -⟩ := starts
    cases found
  sole := fun starts => by
    obtain ⟨call, cell, found, -⟩ := starts
    cases found
  unstarted := fun starts => by
    obtain ⟨call, cell, found, -⟩ := starts
    cases found
  held := fun started => by
    rw [state_of_not_mem (Nat.zero_le _)] at started
    cases started

theorem more (custody : fleet.Custody sweep lost) (others : List Nat) :
    fleet.Custody sweep (lost ++ others) where
  coherent := custody.coherent
  inRange := custody.inRange
  sole := custody.sole
  unstarted := custody.unstarted
  held := fun started => (custody.held started).imp_left fun member => List.mem_append_left _ member

/-- A move of calls, while clients, slots and shutdowns stay: no start begins or goes on, and whoever lets
a client go passes it on. -/
theorem move {after : Fleet} (custody : fleet.Custody sweep lost) (keeps : Keeps fleet.registry after)
    (clients : after.clients = fleet.clients) (shutdowns : after.shutdowns = fleet.shutdowns)
    (closing : after.registry.closing = fleet.registry.closing)
    (slots : fleet.registry.slots ⊆ after.registry.slots)
    (starts : ∀ {key client : Nat} {start : StartProgress}, after.Starts key client start →
      fleet.Starts key client start)
    (passes : ∀ {key client : Nat} {call : Call}, fleet.calls[key]? = some call →
      call.progress.Holds client → (fleet.client client).state = .started →
      client ∈ lost ∨ after.Held sweep client) : after.Custody sweep lost := by
  have sameClient (client : Nat) : after.client client = fleet.client client := by
    simp only [Fleet.client, clients]
  refine ⟨keeps.coherent, fun started => ?_, fun first second => ?_, fun started unfinished => ?_,
    fun started => ?_⟩
  · rw [clients]
    exact custody.inRange (starts started)
  · exact custody.sole (starts first) (starts second)
  · rw [sameClient]
    exact custody.unstarted (starts started) unfinished
  · rw [sameClient] at started
    rcases custody.held started with isLost | held
    · exact .inl isLost
    · exact held.pass slots closing keeps.grows.clients shutdowns fun found holds =>
        passes found holds started

/-- A move of one call. -/
theorem setProgress {registry : Registry} {key : Nat} {call : Call} {progress : CallProgress}
    (custody : fleet.Custody sweep lost) (found : fleet.calls[key]? = some call)
    (keeps : Keeps fleet.registry
      { fleet with registry := registry, calls := withProgress fleet.calls key progress })
    (closing : registry.closing = fleet.registry.closing)
    (slots : fleet.registry.slots ⊆ registry.slots)
    (noStart : ∀ cell client start, progress ≠ .starting cell client start)
    (passes : ∀ {client : Nat}, call.progress.Holds client →
      (fleet.client client).state = .started → client ∈ lost ∨ Held
        { fleet with registry := registry, calls := withProgress fleet.calls key progress } sweep client) :
    Custody { fleet with registry := registry, calls := withProgress fleet.calls key progress }
      sweep lost := by
  refine custody.move keeps rfl rfl closing slots (fun starts => ?_) fun foundHolder holds started => ?_
  · obtain ⟨other, cell, foundOther, starting⟩ := starts
    rcases Registry.cases_withProgress foundOther with ⟨-, changed, -⟩ | ⟨-, same⟩
    · exact absurd (changed.symm.trans starting) (noStart _ _ _)
    · exact ⟨other, cell, same, starting⟩
  · rename_i holder client holding
    by_cases same : holder = key
    · subst same
      obtain rfl := Option.some.inj (found.symm.trans foundHolder)
      exact passes holds started
    · exact .inr (.call (Registry.withProgress_of_ne foundHolder same) holds)

/-! ### The steps of a call -/

variable {key cell client : Nat} {call : Call} {surroundings : Surroundings}

theorem handOver (custody : fleet.Custody sweep lost)
    (keeps : Keeps fleet.registry (fleet.handOver cell)) : (fleet.handOver cell).Custody sweep lost := by
  cases line : (fleet.registry.cell cell).waiting with
  | nil =>
      simp only [Fleet.handOver, line] at keeps ⊢
      exact custody.move keeps rfl rfl rfl (List.Subset.refl _) id fun found holds _ =>
        .inr (.call found holds)
  | cons next rest =>
      simp only [Fleet.handOver, line] at keeps ⊢
      obtain ⟨queued, found, progress⟩ :=
        custody.coherent.lined (line.symm ▸ List.mem_cons_self : next ∈ _)
      refine custody.setProgress found keeps rfl (List.Subset.refl _)
        (fun _ _ _ same => nomatch same) fun holds => ?_
      rw [progress] at holds
      exact holds.elim

theorem fail (custody : fleet.Custody sweep lost) (found : fleet.calls[key]? = some call)
    (works : call.progress.cell? = some cell) (holdsNone : ∀ client, ¬ call.progress.Holds client)
    (identity : Identity) (error : StoreError) :
    (fleet.fail key cell identity error).Custody sweep lost := by
  have notQueued : ∀ cell, call.progress ≠ .queued cell := CallProgress.ne_queued_of_cell? works
  have finished : Keeps fleet.registry
      (fleet.finish key (.error (.connection identity.text error))) :=
    keeps_setIdle custody.coherent found notQueued rfl fun _ same => nomatch same
  have ended := custody.setProgress found finished rfl (List.Subset.refl _)
    (fun _ _ _ same => nomatch same) fun holds => absurd holds (holdsNone _)
  have kept := keeps_fail custody.coherent found works identity error
  exact ended.handOver ⟨kept.coherent, kept.grows⟩

theorem takeSlot (custody : fleet.Custody sweep lost) (identity : Identity) :
    (fleet.takeSlot identity).2.Custody sweep lost := by
  have keeps := keeps_takeSlot custody.coherent identity
  exact custody.move keeps rfl rfl (Registry.closing_openSlot _ _)
    (Registry.slots_subset_openSlot _ _) id fun found holds _ => .inr (.call found holds)

theorem look (custody : fleet.Custody sweep lost) (found : fleet.calls[key]? = some call)
    (entering : call.progress = .entering) (place : cell < fleet.registry.cells.length)
    (slot : fleet.registry.closing = false → (call.identity, cell) ∈ fleet.registry.slots) :
    (fleet.look key cell).Custody sweep lost := by
  have keeps := keeps_look custody.coherent found entering place slot
  obtain ⟨registry, progress, looked, closing, slots, -, noStart⟩ := look_eq fleet key cell
  rw [looked] at keeps ⊢
  refine custody.setProgress found keeps closing (fun _ member => slots ▸ member) noStart
    fun holds => ?_
  rw [entering] at holds
  exact holds.elim

/-- A call that finds the registry shut down ends. -/
theorem refuse (custody : fleet.Custody sweep lost) (found : fleet.calls[key]? = some call)
    (entering : call.progress = .entering) :
    (fleet.finish key (.error (shutDownError call.identity))).Custody sweep lost := by
  refine custody.setProgress found (keeps_refuse custody.coherent found entering) rfl
    (List.Subset.refl _) (fun _ _ _ same => nomatch same) fun holds => ?_
  rw [entering] at holds
  exact holds.elim

theorem enter (custody : fleet.Custody sweep lost) (found : fleet.calls[key]? = some call)
    (entering : call.progress = .entering) :
    (fleet.enter key call.identity).Custody sweep lost := by
  unfold Fleet.enter
  split
  · exact custody.refuse found entering
  · have opened := custody.takeSlot call.identity
    have slot := fleet.registry.mem_openSlot call.identity
    exact opened.look found entering (opened.coherent.inRange slot) fun _ => slot

theorem fill {start : StartProgress} (custody : fleet.Custody sweep lost)
    (found : fleet.calls[key]? = some call) (starting : call.progress = .starting cell client start) :
    (fleet.fill key cell client).Custody sweep lost := by
  have works : call.progress.cell? = some cell := by rw [starting]; rfl
  have keeps := keeps_fill custody.coherent found works client
  rw [fill_eq] at keeps ⊢
  refine custody.move keeps rfl rfl rfl (List.Subset.refl _) (fun starts => ?_)
    fun foundHolder holds started => ?_
  · obtain ⟨other, place, foundOther, startingOther⟩ := starts
    rcases Registry.cases_withProgresses foundOther with ⟨-, served, -⟩ | ⟨-, same⟩
    · rw [served] at startingOther
      cases startingOther
    · exact ⟨other, place, same, startingOther⟩
  · rename_i holder held holding
    by_cases member : holder ∈ key :: (fleet.registry.cell cell).waiting
    · rcases List.mem_cons.mp member with rfl | inLine
      · obtain ⟨after, foundAfter, served⟩ := Registry.withProgresses_of_mem foundHolder member
        obtain rfl := Option.some.inj (found.symm.trans foundHolder)
        rw [starting] at holds
        refine .inr (.call foundAfter ?_)
        rw [served]
        exact holds
      · obtain ⟨queued, foundQueued, progress⟩ := custody.coherent.lined inLine
        obtain rfl := Option.some.inj (foundQueued.symm.trans foundHolder)
        rw [progress] at holds
        exact holds.elim
    · exact .inr (.call (Registry.withProgresses_of_not_mem foundHolder member) holds)

theorem close (custody : fleet.Custody sweep lost) (client : Nat) (surroundings : Surroundings) :
    (fleet.closeClient client surroundings).2.Custody sweep lost := by
  have started {other : Nat} := @started_of_closeClient fleet client other surroundings
  have sameLength := fleet.closeClient_length client surroundings
  obtain ⟨clients, closed⟩ := fleet.closeClient_snd client surroundings
  rw [closed] at started sameLength ⊢
  refine ⟨custody.coherent, fun starts => ?_, fun first second => ?_,
    fun starts unfinished isStarted => ?_, fun isStarted => ?_⟩
  · rw [sameLength]
    exact custody.inRange starts
  · exact custody.sole first second
  · exact custody.unstarted starts unfinished (started isStarted)
  · rcases custody.held (started isStarted) with isLost | held
    · exact .inl isLost
    · exact held.pass (List.Subset.refl _) rfl id rfl fun found holds => .inr (.call found holds)

theorem abandon {error : StoreError} (custody : fleet.Custody sweep lost)
    (found : fleet.calls[key]? = some call)
    (abandoning : call.progress = .abandoning cell client error) (surroundings : Surroundings) :
    (fleet.abandon key cell client call.identity error surroundings).Custody sweep lost := by
  have works : call.progress.cell? = some cell := by rw [abandoning]; rfl
  have holdsNone : ∀ client, ¬ call.progress.Holds client := by
    intro other holds
    rw [abandoning] at holds
    exact holds
  unfold Fleet.abandon
  split
  · exact custody.fail found works holdsNone _ _
  · have closed := custody.close client surroundings
    obtain ⟨clients, same⟩ := fleet.closeClient_snd client surroundings
    rw [same] at closed
    simp only [same]
    exact closed.fail found works holdsNone _ _

/-- A call that takes the slot of its client out holds the client. -/
theorem withdraw (custody : fleet.Custody sweep lost) (found : fleet.calls[key]? = some call)
    (served : call.progress = .served cell client)
    (coherent : Coherent { fleet with
      registry := fleet.registry.closeSlot call.identity cell
      calls := withProgress fleet.calls key (.retiring client) }) :
    Custody { fleet with
      registry := fleet.registry.closeSlot call.identity cell
      calls := withProgress fleet.calls key (.retiring client) } sweep lost := by
  have startsBefore {other held : Nat} {start : StartProgress}
      (starts : Starts { fleet with
        registry := fleet.registry.closeSlot call.identity cell
        calls := withProgress fleet.calls key (.retiring client) } other held start) :
      fleet.Starts other held start := by
    obtain ⟨after, place, foundAfter, starting⟩ := starts
    rcases Registry.cases_withProgress foundAfter with ⟨-, changed, -⟩ | ⟨-, same⟩
    · rw [changed] at starting
      cases starting
    · exact ⟨after, place, same, starting⟩
  refine ⟨coherent, fun starts => custody.inRange (startsBefore starts), fun first second =>
    custody.sole (startsBefore first) (startsBefore second), fun starts unfinished =>
    custody.unstarted (startsBefore starts) unfinished, fun {held} started => ?_⟩
  have own : Held { fleet with
      registry := fleet.registry.closeSlot call.identity cell
      calls := withProgress fleet.calls key (.retiring client) } sweep client :=
    .call (Registry.withProgress_self found) rfl
  rcases custody.held started with isLost | ⟨foundHolder, holds⟩ | ⟨inSlots, filled, watched⟩ |
    ⟨atHand, filled⟩ | atHand | ⟨foundShutdown, member⟩
  · exact .inl isLost
  · rename_i holder other
    by_cases same : holder = key
    · subst same
      obtain rfl := Option.some.inj (found.symm.trans foundHolder)
      rw [served] at holds
      obtain rfl : client = held := holds
      exact .inr own
    · exact .inr (.call (Registry.withProgress_of_ne foundHolder same) holds)
  · rename_i identity place
    by_cases same : (identity, place) = (call.identity, cell)
    · obtain ⟨rfl, rfl⟩ := Prod.mk.inj same
      rw [(custody.coherent.fits found).served served] at filled
      obtain rfl := Option.some.inj filled
      exact .inr own
    · have kept : (identity, place) ∈ (fleet.registry.closeSlot call.identity cell).slots :=
        List.mem_filter.mpr ⟨inSlots, by simpa only [decide_eq_true_eq] using same⟩
      exact .inr (.slot kept filled watched)
  · exact .inr (.cell atHand filled)
  · exact .inr (.client atHand)
  · exact .inr (.shutdown foundShutdown member)

theorem conclude (custody : fleet.Custody sweep lost) (found : fleet.calls[key]? = some call)
    (served : call.progress = .served cell client) :
    (fleet.conclude key cell client call.identity).Custody sweep lost := by
  have keeps := keeps_conclude custody.coherent found served
  unfold Fleet.conclude at keeps ⊢
  split
  · rename_i closed
    rw [if_pos closed] at keeps
    exact custody.withdraw found served keeps.coherent
  · rename_i stillOpen
    rw [if_neg stillOpen] at keeps
    refine custody.setProgress found keeps rfl (List.Subset.refl _)
      (fun _ _ _ same => nomatch same) fun holds _ => ?_
    rw [served] at holds
    obtain rfl : client = _ := holds
    have isOpen : fleet.registry.closing = false := by simpa using stillOpen
    -- A client that is handed out stays behind in the slot of the identity.
    have fits := custody.coherent.fits found
    have stands : call.progress.place? = some cell := by rw [served]; rfl
    exact .inr (.slot ((fits.placed stands).2 isOpen) (fits.served served) (.inl isOpen))

theorem retire (custody : fleet.Custody sweep lost) (found : fleet.calls[key]? = some call)
    (retiring : call.progress = .retiring client) (surroundings : Surroundings) :
    (fleet.retire key client call.identity surroundings).Custody
      sweep (lost ++ (fleet.closeFailure? client surroundings).toList) := by
  have keeps := keeps_retire custody.coherent found retiring surroundings
  have closed := (custody.close client surroundings).more
    (fleet.closeFailure? client surroundings).toList
  have succeeded := @not_started_of_closed fleet client surroundings
  obtain ⟨clients, same⟩ := fleet.closeClient_snd client surroundings
  simp only [Fleet.retire, same] at keeps closed succeeded ⊢
  refine closed.setProgress found ⟨keeps.coherent, keeps.grows⟩ rfl (List.Subset.refl _)
    (fun _ _ _ same => by cases same) fun holds started => .inl ?_
  rw [retiring] at holds
  obtain rfl : client = _ := holds
  cases failure : fleet.closeFailure? client surroundings with
  | none => exact absurd started (succeeded failure)
  | some lostClient => simp [mem_of_closeFailure? failure]

theorem starts_of_starting {start : StartProgress} (found : fleet.calls[key]? = some call)
    (starting : call.progress = .starting cell client start) : fleet.Starts key client start :=
  ⟨call, cell, found, starting⟩

/-- A start that has failed lets its client go, which is not started. -/
theorem giveUp {start : StartProgress} (custody : fleet.Custody sweep lost)
    (found : fleet.calls[key]? = some call) (starting : call.progress = .starting cell client start)
    (unfinished : start ≠ .finished (.ok ())) (error : StoreError) :
    (fleet.setProgress key (.abandoning cell client error)).Custody sweep lost := by
  have works : call.progress.cell? = some cell := by rw [starting]; rfl
  have keeps : Keeps fleet.registry (fleet.setProgress key (.abandoning cell client error)) :=
    keeps_setWork custody.coherent found works rfl
  refine custody.setProgress found keeps rfl (List.Subset.refl _) (fun _ _ _ same => nomatch same)
    fun holds started => ?_
  rw [starting] at holds
  obtain rfl : client = _ := holds
  exact absurd started (custody.unstarted (starts_of_starting found starting) unfinished)

/-- A call that starts a client, which is its own, holds it. -/
theorem hold {clients : List Client} {built : List Nat} {next : StartProgress} {after : Fleet}
    (custody : fleet.Custody sweep lost) (found : fleet.calls[key]? = some call)
    (made : after = { fleet with
      clients := clients, built := built
      calls := withProgress fleet.calls key (.starting cell client next) })
    (coherent : after.Coherent)
    (grown : fleet.clients.length ≤ clients.length) (inRange : client < clients.length)
    (others : ∀ {other : Nat}, other ≠ client → (after.client other).state = .started →
      (fleet.client other).state = .started)
    (unstarted : next ≠ .finished (.ok ()) → (after.client client).state ≠ .started)
    (own : ∀ {other : Nat} {start : StartProgress}, fleet.Starts other client start → other = key)
    (heldOnly : ∀ {other : Nat}, call.progress.Holds other → other = client) :
    after.Custody sweep lost := by
  subst made
  -- The starts afterwards: this one, and the others, which have other clients.
  have startsBefore {other held : Nat} {progress : StartProgress}
      (starts : Starts { fleet with
        clients := clients, built := built
        calls := withProgress fleet.calls key (.starting cell client next) } other held progress) :
      other = key ∧ held = client ∧ progress = next ∨
        held ≠ client ∧ fleet.Starts other held progress := by
    obtain ⟨after, place, foundAfter, startingAfter⟩ := starts
    rcases Registry.cases_withProgress foundAfter with ⟨rfl, goesOn, -⟩ | ⟨different, same⟩
    · obtain ⟨-, rfl, rfl⟩ := CallProgress.starting.inj (goesOn.symm.trans startingAfter)
      exact .inl ⟨rfl, rfl, rfl⟩
    · have before : fleet.Starts other held progress := ⟨after, place, same, startingAfter⟩
      refine .inr ⟨?_, before⟩
      rintro rfl
      exact different (own before)
  refine ⟨coherent, fun starts => ?_, fun first second => ?_, fun starts unfinished => ?_,
    fun {other} started => ?_⟩
  · rcases startsBefore starts with ⟨-, rfl, -⟩ | ⟨-, before⟩
    · exact inRange
    · exact Nat.lt_of_lt_of_le (custody.inRange before) grown
  · rcases startsBefore first with ⟨rfl, rfl, -⟩ | ⟨different, before⟩
    · rcases startsBefore second with ⟨rfl, -, -⟩ | ⟨different, -⟩
      · rfl
      · exact absurd rfl different
    · rcases startsBefore second with ⟨-, rfl, -⟩ | ⟨-, beforeToo⟩
      · exact absurd rfl different
      · exact custody.sole before beforeToo
  · rcases startsBefore starts with ⟨-, rfl, rfl⟩ | ⟨different, before⟩
    · exact unstarted unfinished
    · intro started
      exact custody.unstarted before unfinished (others different started)
  · by_cases same : other = client
    · subst same
      exact .inr (.call (Registry.withProgress_self found) rfl)
    · rcases custody.held (others same started) with isLost | held
      · exact .inl isLost
      refine held.pass (List.Subset.refl _) rfl id rfl fun {holder _} foundHolder holds => .inr ?_
      have different : holder ≠ key := by
        rintro rfl
        obtain rfl := Option.some.inj (found.symm.trans foundHolder)
        exact same (heldOnly holds)
      exact .call (Registry.withProgress_of_ne foundHolder different) holds

/-- A start that goes on keeps its client. -/
theorem goOn {start next : StartProgress} {changed : Client} {outcome : Except StoreError Nat}
    (custody : fleet.Custody sweep lost) (found : fleet.calls[key]? = some call)
    (starting : call.progress = .starting cell client start)
    (unfinished : start ≠ .finished (.ok ()))
    (stepped : start.step (fleet.client client) outcome = (next, changed)) :
    ((fleet.setClient client changed).setProgress key (.starting cell client next)).Custody
      sweep lost := by
  have works : call.progress.cell? = some cell := by rw [starting]; rfl
  have changedCoherent : (fleet.setClient client changed).Coherent := custody.coherent
  have keeps : Keeps fleet.registry
      ((fleet.setClient client changed).setProgress key (.starting cell client next)) :=
    keeps_setWork changedCoherent found works rfl
  have own := starts_of_starting found starting
  have inRange := custody.inRange own
  have sameLength : (fleet.clients.set client changed).length = fleet.clients.length :=
    List.length_set
  have ownClient : (fleet.setClient client changed).client client = changed := by
    rw [client_setClient, if_pos ⟨rfl, inRange⟩]
  refine custody.hold found rfl keeps.coherent (Nat.le_of_eq sameLength.symm) (sameLength ▸ inRange)
    (fun {other} different started => ?_) (fun unfinishedAfter started => ?_)
    (fun starts => custody.sole starts own) fun holds => ?_
  · have otherClient : (fleet.setClient client changed).client other = fleet.client other := by
      rw [client_setClient, if_neg fun same => different same.1]
    exact otherClient ▸ started
  · have isStarted : changed.state = .started := ownClient ▸ started
    have startedOnly := @started_of_step (fleet.client client) outcome start
    rw [stepped] at startedOnly
    rcases startedOnly isStarted with wasStarted | ended
    · exact custody.unstarted own unfinished wasStarted
    · exact unfinishedAfter ended
  · rw [starting] at holds
    exact holds.symm

theorem continueStart {start : StartProgress} (custody : fleet.Custody sweep lost)
    (found : fleet.calls[key]? = some call) (starting : call.progress = .starting cell client start)
    (surroundings : Surroundings) :
    (fleet.continueStart key cell client start surroundings).Custody sweep lost := by
  unfold Fleet.continueStart
  split
  · exact custody.fill found starting
  · exact custody.giveUp found starting (by simp) _
  · exact custody.giveUp found starting (by simp) _
  · rename_i notOver _ _
    exact custody.goOn found starting notOver rfl

/-- A call that builds a client holds it, which is new and not started. -/
theorem begin {newest : Client} {built : List Nat} (custody : fleet.Custody sweep lost)
    (found : fleet.calls[key]? = some call) (building : call.progress = .building cell)
    (notStarted : newest.state ≠ .started) :
    (Fleet.setProgress { fleet with clients := fleet.clients ++ [newest], built := built } key
      (.starting cell fleet.clients.length .entering)).Custody sweep lost := by
  have works : call.progress.cell? = some cell := by rw [building]; rfl
  have grown : Coherent { fleet with clients := fleet.clients ++ [newest], built := built } :=
    custody.coherent
  have keeps : Keeps fleet.registry
      (Fleet.setProgress { fleet with clients := fleet.clients ++ [newest], built := built } key
        (.starting cell fleet.clients.length .entering)) := keeps_setWork grown found works rfl
  refine custody.hold found rfl keeps.coherent (by simp) (by simp)
    (fun different started => (started_of_append notStarted started).1) (fun _ started => ?_)
    (fun starts => ?_) fun holds => ?_
  · exact absurd (started_of_append notStarted started).2 (Nat.lt_irrefl _)
  · exact absurd (custody.inRange starts) (Nat.lt_irrefl _)
  · rw [building] at holds
    exact holds.elim

theorem build (custody : fleet.Custody sweep lost) (found : fleet.calls[key]? = some call)
    (building : call.progress = .building cell) (surroundings : Surroundings) :
    (fleet.build key cell call.identity surroundings).Custody sweep lost := by
  have works : call.progress.cell? = some cell := by rw [building]; rfl
  have holdsNone : ∀ client, ¬ call.progress.Holds client := by
    intro other holds
    rw [building] at holds
    exact holds
  unfold Fleet.build
  split
  · exact custody.fail found works holdsNone _ _
  · exact custody.fail found works holdsNone _ _
  · exact custody.begin found building (by simp [Client.fresh])

theorem advance (custody : fleet.Custody sweep lost) (key : Nat) (surroundings : Surroundings) :
    (fleet.advance key surroundings).Custody sweep
      (lost ++ (fleet.failedClose? (.advance key surroundings)).toList) := by
  unfold Fleet.advance
  split
  · exact custody.more _
  · rename_i call found
    split
    · rename_i entering
      exact (custody.enter found entering).more _
    · exact custody.more _
    · rename_i building
      exact (custody.build found building surroundings).more _
    · rename_i starting
      exact (custody.continueStart found starting surroundings).more _
    · rename_i abandoning
      exact (custody.abandon found abandoning surroundings).more _
    · rename_i served
      exact (custody.conclude found served).more _
    · rename_i client retiring
      have failure : fleet.failedClose? (.advance key surroundings) =
          fleet.closeFailure? client surroundings := by
        simp only [failedClose?, found, Option.map_some, retiring]
      rw [failure]
      exact custody.retire found retiring surroundings
    · exact custody.more _

/-! ### The steps of a shutdown -/

theorem mem_drain {registry : Registry} {identity : Identity} {cell client : Nat}
    (inSlots : (identity, cell) ∈ registry.slots)
    (filled : (registry.cell cell).client = some client) : (identity, client) ∈ registry.drain.1 := by
  have cached : (identity, client) ∈ registry.cached :=
    List.mem_filterMap.mpr ⟨(identity, cell), inSlots, by simp [filled]⟩
  exact (List.mergeSort_perm _ _).mem_iff.mpr cached

/-- A move of shutdowns or drains, and perhaps of the registry, while calls stay as they are. -/
theorem moveShutdowns {after : Fleet} {sweepAfter : Sweep} (custody : fleet.Custody sweep lost)
    (coherent : after.Coherent) (calls : after.calls = fleet.calls)
    (length : after.clients.length = fleet.clients.length)
    (started : ∀ {client : Nat}, (after.client client).state = .started →
      (fleet.client client).state = .started)
    (passes : ∀ {client : Nat}, (after.client client).state = .started → fleet.Held sweep client →
      client ∈ lost ∨ after.Held sweepAfter client) : after.Custody sweepAfter lost := by
  have starts {key client : Nat} {start : StartProgress} (starting : after.Starts key client start) :
      fleet.Starts key client start := by
    obtain ⟨call, cell, found, progress⟩ := starting
    exact ⟨call, cell, calls ▸ found, progress⟩
  refine ⟨coherent, fun starting => ?_, fun first second => custody.sole (starts first) (starts second),
    fun starting unfinished isStarted => ?_, fun isStarted => ?_⟩
  · rw [length]
    exact custody.inRange (starts starting)
  · exact custody.unstarted (starts starting) unfinished (started isStarted)
  · rcases custody.held (started isStarted) with isLost | held
    · exact .inl isLost
    · exact passes isStarted held

/-- A drain takes over all clients from the slots. -/
theorem drain (custody : fleet.Custody sweep lost) {coordinator : Nat}
    (found : fleet.shutdowns[key]? = some (.entering coordinator)) :
    Custody { (fleet.drain coordinator).2 with
      shutdowns := fleet.shutdowns.set key (fleet.drain coordinator).1 } sweep lost := by
  obtain ⟨below, -⟩ := List.getElem?_eq_some_iff.mp found
  have keeps := keeps_drain custody.coherent coordinator
  have others {place : Nat} {left : List (Identity × Nat)} {report : ShutdownReport}
      {next : ShutdownProgress} (foundOther : fleet.shutdowns[place]? = some (.closing left report)) :
      (fleet.shutdowns.set key next)[place]? = some (.closing left report) := by
    have different : key ≠ place := by
      rintro rfl
      rw [found] at foundOther
      cases foundOther
    rw [List.getElem?_set_ne different]
    exact foundOther
  unfold Fleet.drain at keeps ⊢
  split
  · rename_i first
    rw [if_pos first] at keeps
    refine custody.moveShutdowns keeps.coherent rfl rfl id fun _ held => .inr ?_
    cases held with
    | call foundHolder holds => exact .call foundHolder holds
    | slot inSlots filled =>
        have taken : (fleet.shutdowns.set key (.closing fleet.registry.drain.1 .empty))[key]? =
            some (.closing fleet.registry.drain.1 .empty) := List.getElem?_set_self below
        exact .shutdown taken (mem_drain inSlots filled)
    | cell atHand filled => exact .cell atHand filled
    | client atHand => exact .client atHand
    | shutdown foundOther member => exact .shutdown (others foundOther) member
  · refine custody.moveShutdowns custody.coherent rfl rfl id fun _ held => ?_
    exact held.passShutdowns rfl rfl fun foundOther member =>
      .inr (.shutdown (others foundOther) member)

/-- The client that a shutdown fails to close. -/
theorem failedClose?_closing {identity : Identity} {left : List (Identity × Nat)}
    {report : ShutdownReport}
    (found : fleet.shutdowns[key]? = some (.closing ((identity, client) :: left) report))
    (started : (fleet.client client).state = .started) :
    fleet.failedClose? (.advanceShutdown key surroundings) =
      fleet.closeFailure? client surroundings := by
  simp [failedClose?, found, started]

/-- A shutdown lets its first client go, if this client is not started any more or lost. -/
theorem dropFirst {clients : List Client} {identity : Identity} {left : List (Identity × Nat)}
    {report next : ShutdownReport} (custody : fleet.Custody sweep lost)
    (found : fleet.shutdowns[key]? = some (.closing ((identity, client) :: left) report))
    (length : clients.length = fleet.clients.length)
    (started : ∀ {other : Nat}, (Fleet.client { fleet with clients := clients } other).state =
      .started → (fleet.client other).state = .started)
    (gone : (Fleet.client { fleet with clients := clients } client).state = .started →
      client ∈ lost) :
    Custody { fleet with
      clients := clients, shutdowns := fleet.shutdowns.set key (.closing left next) } sweep lost := by
  obtain ⟨below, -⟩ := List.getElem?_eq_some_iff.mp found
  have atKey : (fleet.shutdowns.set key (.closing left next))[key]? = some (.closing left next) :=
    List.getElem?_set_self below
  refine custody.moveShutdowns custody.coherent rfl length started fun isStarted held => ?_
  refine held.passShutdowns rfl rfl fun {place leftOther reportOther _} foundOther member => ?_
  by_cases same : key = place
  · subst same
    obtain ⟨rfl, -⟩ := ShutdownProgress.closing.inj
      (Option.some.inj (foundOther.symm.trans found))
    rcases List.mem_cons.mp member with first | later
    · obtain ⟨-, rfl⟩ := Prod.mk.inj first
      exact .inl (gone isStarted)
    · exact .inr (.shutdown atKey later)
  · have kept : (fleet.shutdowns.set key (.closing left next))[place]? =
        some (.closing leftOther reportOther) := by
      rw [List.getElem?_set_ne same]
      exact foundOther
    exact .inr (.shutdown kept member)

/-- A shutdown that deals with a client closes it, or fails to, or finds it not started. -/
theorem closeDrained {identity : Identity} {left : List (Identity × Nat)}
    {report : ShutdownReport} (custody : fleet.Custody sweep lost)
    (found : fleet.shutdowns[key]? = some (.closing ((identity, client) :: left) report))
    (surroundings : Surroundings) :
    Custody { (fleet.closeDrained identity client report surroundings).2 with
        shutdowns := fleet.shutdowns.set key
          (.closing left (fleet.closeDrained identity client report surroundings).1) }
      sweep (lost ++ (fleet.failedClose? (.advanceShutdown key surroundings)).toList) := by
  generalize (fleet.closeDrained identity client report surroundings).1 = next
  rw [closeDrained_snd]
  by_cases isStarted : (fleet.client client).state = .started
  · rw [if_pos isStarted, failedClose?_closing found isStarted]
    have started {other : Nat} := @started_of_closeClient fleet client other surroundings
    have length := fleet.closeClient_length client surroundings
    have succeeded := @not_started_of_closed fleet client surroundings
    obtain ⟨clients, closed⟩ := fleet.closeClient_snd client surroundings
    rw [closed] at started length succeeded ⊢
    refine (custody.more _).dropFirst found length started fun stillStarted => ?_
    cases failure : fleet.closeFailure? client surroundings with
    | none => exact absurd stillStarted (succeeded failure)
    | some lostClient => simp [mem_of_closeFailure? failure]
  · rw [if_neg isStarted]
    exact (custody.more _).dropFirst found rfl id fun started => absurd started isStarted

/-- A shutdown that is left with no client is over. -/
theorem endShutdown {progress : ShutdownProgress} {report : ShutdownReport}
    (custody : fleet.Custody sweep lost) (found : fleet.shutdowns[key]? = some progress)
    (nothingLeft : ∀ {identity : Identity} {client : Nat} {left : List (Identity × Nat)}
      {report : ShutdownReport}, progress = .closing left report → (identity, client) ∉ left) :
    Custody { fleet with shutdowns := fleet.shutdowns.set key (.finished report) } sweep lost := by
  refine custody.moveShutdowns custody.coherent rfl rfl id fun _ held => ?_
  refine held.passShutdowns rfl rfl fun {place leftOther reportOther _} foundOther member => ?_
  by_cases same : key = place
  · subst same
    exact absurd member (nothingLeft (Option.some.inj (found.symm.trans foundOther)))
  · have kept : (fleet.shutdowns.set key (.finished report))[place]? =
        some (.closing leftOther reportOther) := by
      rw [List.getElem?_set_ne same]
      exact foundOther
    exact .inr (.shutdown kept member)

theorem advanceShutdown (custody : fleet.Custody sweep lost) (key : Nat) (surroundings : Surroundings) :
    (fleet.advanceShutdown key surroundings).Custody sweep
      (lost ++ (fleet.failedClose? (.advanceShutdown key surroundings)).toList) := by
  unfold Fleet.advanceShutdown
  split
  · exact custody.more _
  · rename_i progress found
    have sameShutdowns : (fleet.stepShutdown surroundings progress).2.shutdowns =
        fleet.shutdowns := by
      obtain ⟨clients, registry, coordinators, stepped⟩ := fleet.stepShutdown_snd surroundings progress
      rw [stepped]
    simp only [sameShutdowns]
    cases progress with
    | entering coordinator => exact (custody.drain found).more _
    | finished report => exact (custody.endShutdown found fun same => nomatch same).more _
    | closing left report =>
        cases left with
        | nil =>
            refine (custody.endShutdown found fun same => ?_).more _
            obtain ⟨rfl, -⟩ := ShutdownProgress.closing.inj same
            exact List.not_mem_nil
        | cons first left => exact custody.closeDrained found surroundings

/-! ### Runs -/

theorem step (custody : fleet.Custody sweep lost) (action : Action) :
    (fleet.step action).Custody sweep (lost ++ (fleet.failedClose? action).toList) := by
  cases action with
  | advance key surroundings => exact custody.advance key surroundings
  | advanceShutdown key surroundings => exact custody.advanceShutdown key surroundings
  | addCoordinator =>
      have keeps : Keeps fleet.registry fleet.addCoordinator.2 := ⟨custody.coherent, .refl _⟩
      exact (custody.move keeps rfl rfl rfl (List.Subset.refl _) id fun found holds _ =>
        .inr (.call found holds)).more _
  | request identity =>
      have keeps := keeps_step custody.coherent (.request identity)
      refine (custody.move keeps rfl rfl rfl (List.Subset.refl _) (fun starts => ?_)
        fun found holds _ => .inr ?_).more _
      · obtain ⟨call, cell, found, starting⟩ := starts
        rcases Registry.cases_append found with same | ⟨-, rfl⟩
        · exact ⟨call, cell, same, starting⟩
        · cases starting
      · exact .call (Registry.found_append found) holds
  | beginShutdown coordinator =>
      refine Custody.more ?_ _
      refine custody.moveShutdowns custody.coherent rfl rfl id fun _ held => ?_
      exact held.passShutdowns rfl rfl fun foundOther member =>
        .inr (.shutdown (Registry.found_append foundOther) member)

end Custody

end Fleet

end LiveConfig
