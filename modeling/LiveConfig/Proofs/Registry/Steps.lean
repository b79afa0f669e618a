import LiveConfig.Proofs.Registry.Coherence
import LiveConfig.Registry.Shutdown

/-!
Contract: every step of a fleet keeps its calls and its registry in agreement.

Owns: the lemma of each step, that the invariant holds along every run, and that the registry only grows
until it is shut down.
-/

namespace LiveConfig.Fleet

open Registry (Grows withProgresses)

variable {fleet : Fleet}

/-- The calls of a fleet agree with the cells of its registry. -/
abbrev Coherent (fleet : Fleet) : Prop := fleet.registry.Coherent fleet.calls

/-- What a step from a registry leads to: calls and registry agree, and the registry has only grown. -/
structure Keeps (registry : Registry) (after : Fleet) : Prop where
  coherent : after.Coherent
  grows : Grows registry after.registry

theorem Keeps.refl (coherent : fleet.Coherent) : Keeps fleet.registry fleet := ⟨coherent, .refl _⟩

theorem Keeps.trans {registry : Registry} {middle after : Fleet} (first : Keeps registry middle)
    (second : Keeps middle.registry after) : Keeps registry after :=
  ⟨second.coherent, first.grows.trans second.grows⟩

/-! ### Clients -/

/-- A request to close a client changes clients only. -/
theorem closeClient_snd (fleet : Fleet) (client : Nat) (surroundings : Surroundings) :
    ∃ clients, (fleet.closeClient client surroundings).2 = { fleet with clients := clients } := by
  unfold closeClient
  split
  · exact ⟨fleet.clients, rfl⟩
  · exact ⟨_, rfl⟩

theorem closeClient_length (fleet : Fleet) (client : Nat) (surroundings : Surroundings) :
    (fleet.closeClient client surroundings).2.clients.length = fleet.clients.length := by
  unfold closeClient
  split
  · rfl
  · simp [setClient]

/-! ### Calls -/

variable {key cell : Nat} {call : Call}

theorem keeps_setProgress (coherent : fleet.Coherent) (found : fleet.calls[key]? = some call)
    (notQueued : ∀ cell, call.progress ≠ .queued cell) {progress : CallProgress}
    (fits : fleet.registry.Fits call.identity progress)
    (free : ∀ {cell other : Nat} {otherCall : Call}, progress.cell? = some cell →
      fleet.calls[other]? = some otherCall → otherCall.progress.cell? = some cell → other = key) :
    Keeps fleet.registry (fleet.setProgress key progress) :=
  ⟨coherent.setProgress found (coherent.not_lined found notQueued) fits free, .refl _⟩

/-- A call without cell and success may come from anywhere but a line. -/
theorem keeps_setIdle (coherent : fleet.Coherent) (found : fleet.calls[key]? = some call)
    (notQueued : ∀ cell, call.progress ≠ .queued cell) {progress : CallProgress}
    (noCell : progress.place? = none) (noSuccess : ∀ client, progress ≠ .finished (.ok client)) :
    Keeps fleet.registry (fleet.setProgress key progress) := by
  refine keeps_setProgress coherent found notQueued (.ofIdle noCell noSuccess) fun works => ?_
  rw [CallProgress.place?_of_cell? works] at noCell
  cases noCell

/-- A call at work goes on with its work. -/
theorem keeps_setWork (coherent : fleet.Coherent) (found : fleet.calls[key]? = some call)
    (works : call.progress.cell? = some cell) {progress : CallProgress}
    (goesOn : progress.cell? = some cell) : Keeps fleet.registry (fleet.setProgress key progress) := by
  have notQueued : ∀ cell, call.progress ≠ .queued cell := CallProgress.ne_queued_of_cell? works
  have fits := coherent.fits found
  refine keeps_setProgress coherent found notQueued ⟨fun stands => ?_, fun worksAfter => ?_, ?_, ?_⟩
    fun worksAfter foundOther worksOther => ?_
  · rw [CallProgress.place?_of_cell? goesOn] at stands
    obtain rfl := Option.some.inj stands
    exact fits.placed (CallProgress.place?_of_cell? works)
  · rw [goesOn] at worksAfter
    obtain rfl := Option.some.inj worksAfter
    exact fits.working works
  · rintro _ _ rfl
    cases goesOn
  · rintro _ rfl
    cases goesOn
  · rw [goesOn] at worksAfter
    obtain rfl := Option.some.inj worksAfter
    exact coherent.alone foundOther found worksOther works

theorem keeps_handOver (coherent : fleet.Coherent) (inRange : cell < fleet.registry.cells.length)
    (busy : (fleet.registry.cell cell).busy = true)
    (isEmpty : (fleet.registry.cell cell).client = none)
    (free : ∀ {key : Nat} {call : Call}, fleet.calls[key]? = some call →
      call.progress.cell? ≠ some cell) : Keeps fleet.registry (fleet.handOver cell) := by
  unfold handOver
  split
  · rename_i line
    refine ⟨coherent.updateCell inRange rfl (fun found works => absurd works (free found))
      (fun member => ?_) ?_, .updateCell _ fun _ held => held⟩
    · rw [line] at member
      cases member
    · rw [line]
      exact List.nodup_nil
  · rename_i next rest line
    exact ⟨coherent.next inRange busy isEmpty line free, .updateCell _ fun _ held => held⟩

theorem keeps_fail (coherent : fleet.Coherent) (found : fleet.calls[key]? = some call)
    (works : call.progress.cell? = some cell) (identity : Identity) (error : StoreError) :
    Keeps fleet.registry (fleet.fail key cell identity error) := by
  have notQueued : ∀ cell, call.progress ≠ .queued cell := CallProgress.ne_queued_of_cell? works
  have finished : Keeps fleet.registry (fleet.finish key (.error (.connection identity.text error))) :=
    keeps_setIdle coherent found notQueued rfl fun _ same => nomatch same
  have fits := coherent.fits found
  obtain ⟨inRange, -⟩ := fits.placed (CallProgress.place?_of_cell? works)
  obtain ⟨busy, isEmpty⟩ := fits.working works
  refine finished.trans (keeps_handOver finished.coherent inRange busy isEmpty ?_)
  intro other otherCall foundOther worksOther
  rcases Registry.cases_withProgress foundOther with ⟨-, ended, -⟩ | ⟨different, same⟩
  · rw [ended] at worksOther
    cases worksOther
  · exact different (coherent.alone same found worksOther works)

/-- The effect of filling a cell, all at once. -/
theorem fill_eq (fleet : Fleet) (key cell client : Nat) :
    fleet.fill key cell client = { fleet with
      registry := fleet.registry.updateCell cell fun _ => ⟨some client, false, []⟩
      calls := withProgresses fleet.calls (key :: (fleet.registry.cell cell).waiting)
        (.served cell client) } := by
  have serveAll (keys : List Nat) (fleet : Fleet) :
      keys.foldl (fun fleet served => fleet.setProgress served (.served cell client)) fleet =
        { fleet with calls := withProgresses fleet.calls keys (.served cell client) } := by
    induction keys generalizing fleet with
    | nil => rfl
    | cons key rest inductionHypothesis => exact inductionHypothesis _
  exact serveAll _ _

theorem keeps_fill (coherent : fleet.Coherent) (found : fleet.calls[key]? = some call)
    (works : call.progress.cell? = some cell) (client : Nat) :
    Keeps fleet.registry (fleet.fill key cell client) := by
  rw [fill_eq]
  refine ⟨coherent.fill client found works, .updateCell _ fun _ held => ?_⟩
  rw [((coherent.fits found).working works).2] at held
  cases held

/-! ### The steps of a call -/

theorem keeps_serve {client : Nat} (coherent : fleet.Coherent)
    (found : fleet.calls[key]? = some call) (entering : call.progress = .entering)
    (place : cell < fleet.registry.cells.length)
    (slot : fleet.registry.closing = false → (call.identity, cell) ∈ fleet.registry.slots)
    (held : (fleet.registry.cell cell).client = some client) :
    Keeps fleet.registry (fleet.setProgress key (.served cell client)) := by
  refine keeps_setProgress coherent found (by simp [entering]) ⟨fun stands => ?_,
    fun works => (nomatch works), fun isServed => ?_, fun succeeded => (nomatch succeeded)⟩
    fun works => (nomatch works)
  · obtain rfl := Option.some.inj stands
    exact ⟨place, slot⟩
  · obtain ⟨rfl, rfl⟩ := CallProgress.served.inj isServed
    exact held

theorem keeps_queue (coherent : fleet.Coherent) (found : fleet.calls[key]? = some call)
    (entering : call.progress = .entering) (place : cell < fleet.registry.cells.length)
    (slot : fleet.registry.closing = false → (call.identity, cell) ∈ fleet.registry.slots) :
    Keeps fleet.registry ((fleet.updateCell cell fun old =>
      { old with waiting := old.waiting ++ [key] }).setProgress key (.queued cell)) := by
  have notLined := coherent.not_lined found (by simp [entering])
  have inLine : fleet.registry.Fits call.identity (.queued cell) := by
    refine ⟨fun stands => ?_, fun works => (nomatch works), fun served => (nomatch served),
      fun succeeded => (nomatch succeeded)⟩
    obtain rfl := Option.some.inj stands
    exact ⟨place, slot⟩
  have queued := coherent.setProgress found notLined inLine fun works => (nomatch works)
  refine ⟨queued.updateCell place rfl (fun foundOther works => ?_) (fun member => ?_) ?_,
    .updateCell _ fun _ held => held⟩
  · exact ((queued.fits foundOther).working works).1
  · rcases List.mem_append.mp member with old | new
    · exact queued.lined old
    · obtain rfl := List.mem_singleton.mp new
      exact ⟨_, Registry.withProgress_self found, rfl⟩
  · refine (coherent.once cell).append (List.nodup_singleton key) ?_
    intro other member isNew
    obtain rfl := List.mem_singleton.mp isNew
    exact notLined cell member

theorem keeps_take (coherent : fleet.Coherent) (found : fleet.calls[key]? = some call)
    (entering : call.progress = .entering) (place : cell < fleet.registry.cells.length)
    (slot : fleet.registry.closing = false → (call.identity, cell) ∈ fleet.registry.slots)
    (isEmpty : (fleet.registry.cell cell).client = none)
    (idle : (fleet.registry.cell cell).busy = false) :
    Keeps fleet.registry ((fleet.updateCell cell fun old =>
      { old with busy := true }).setProgress key (.building cell)) := by
  have cells := Registry.cell_updateCell fleet.registry place fun old => { old with busy := true }
  have taken : (fleet.updateCell cell fun old => { old with busy := true }).Coherent :=
    coherent.updateCell place rfl (fun _ _ => rfl) (fun member => coherent.lined member)
      (coherent.once cell)
  have grows : Grows fleet.registry
      (fleet.updateCell cell fun old => { old with busy := true }).registry :=
    .updateCell _ fun _ held => held
  refine Keeps.trans ⟨taken, grows⟩ (keeps_setProgress taken found (by simp [entering])
    ⟨fun stands => ?_, fun works => ?_, fun served => (nomatch served),
      fun succeeded => (nomatch succeeded)⟩ fun works foundOther worksOther => ?_)
  · obtain rfl := Option.some.inj stands
    exact ⟨by simpa [updateCell, Registry.updateCell] using place, slot⟩
  · obtain rfl := Option.some.inj works
    simp only [updateCell]
    rw [cells, if_pos rfl]
    exact ⟨rfl, isEmpty⟩
  · obtain rfl := Option.some.inj works
    have busy := ((coherent.fits foundOther).working worksOther).1
    rw [idle] at busy
    cases busy

/-- What a look at a cell changes. -/
theorem look_eq (fleet : Fleet) (key cell : Nat) :
    ∃ registry progress, fleet.look key cell =
        { fleet with registry := registry, calls := Registry.withProgress fleet.calls key progress } ∧
      registry.closing = fleet.registry.closing ∧ registry.slots = fleet.registry.slots ∧
      progress.place? = some cell ∧ ∀ cell client start, progress ≠ .starting cell client start := by
  unfold look
  split
  · exact ⟨_, _, rfl, rfl, rfl, rfl, fun _ _ _ same => by cases same⟩
  · split
    · exact ⟨_, _, rfl, rfl, rfl, rfl, fun _ _ _ same => by cases same⟩
    · exact ⟨_, _, rfl, rfl, rfl, rfl, fun _ _ _ same => by cases same⟩

/-- What a look at the registry changes. -/
theorem enter_eq (fleet : Fleet) (key : Nat) (identity : Identity) :
    ∃ registry progress, fleet.enter key identity =
        { fleet with registry := registry, calls := Registry.withProgress fleet.calls key progress } ∧
      registry.closing = fleet.registry.closing ∧
      ∀ cell client start, progress ≠ .starting cell client start := by
  unfold enter
  split
  · exact ⟨_, _, rfl, rfl, fun _ _ _ same => by cases same⟩
  · obtain ⟨registry, progress, looked, closing, -, -, noStart⟩ :=
      look_eq (fleet.takeSlot identity).2 key (fleet.takeSlot identity).1
    exact ⟨registry, progress, looked,
      closing.trans (Registry.closing_openSlot fleet.registry identity), noStart⟩

/-- Whoever has a cell may look what it holds, even if the registry has been shut down since. -/
theorem keeps_look (coherent : fleet.Coherent) (found : fleet.calls[key]? = some call)
    (entering : call.progress = .entering) (place : cell < fleet.registry.cells.length)
    (slot : fleet.registry.closing = false → (call.identity, cell) ∈ fleet.registry.slots) :
    Keeps fleet.registry (fleet.look key cell) := by
  unfold look
  split
  · rename_i client held
    exact keeps_serve coherent found entering place slot held
  · rename_i isEmpty
    split
    · exact keeps_queue coherent found entering place slot
    · rename_i idle
      exact keeps_take coherent found entering place slot isEmpty (by simpa using idle)

theorem keeps_takeSlot (coherent : fleet.Coherent) (identity : Identity) :
    Keeps fleet.registry (fleet.takeSlot identity).2 :=
  ⟨coherent.openSlot identity, .openSlot fleet.registry identity⟩

/-- A call that finds the registry shut down ends. -/
theorem keeps_refuse (coherent : fleet.Coherent) (found : fleet.calls[key]? = some call)
    (entering : call.progress = .entering) :
    Keeps fleet.registry (fleet.finish key (.error (shutDownError call.identity))) :=
  keeps_setIdle coherent found (by simp [entering]) rfl fun _ same => nomatch same

theorem keeps_enter (coherent : fleet.Coherent) (found : fleet.calls[key]? = some call)
    (entering : call.progress = .entering) :
    Keeps fleet.registry (fleet.enter key call.identity) := by
  unfold enter
  split
  · exact keeps_refuse coherent found entering
  · have opened := keeps_takeSlot coherent call.identity
    have slot := fleet.registry.mem_openSlot call.identity
    exact opened.trans (keeps_look opened.coherent found entering
      (opened.coherent.inRange slot) fun _ => slot)

theorem keeps_build (coherent : fleet.Coherent) (found : fleet.calls[key]? = some call)
    (building : call.progress = .building cell) (surroundings : Surroundings) :
    Keeps fleet.registry (fleet.build key cell call.identity surroundings) := by
  have works : call.progress.cell? = some cell := by rw [building]; rfl
  unfold build
  split
  · exact keeps_fail coherent found works _ _
  · exact keeps_fail coherent found works _ _
  · rename_i store _ _
    have grown : Coherent { fleet with
        clients := fleet.clients ++ [.fresh call.identity.connectString store fleet.registry.retry]
        built := fleet.built ++ [fleet.clients.length] } := coherent
    exact keeps_setWork grown found works rfl

theorem keeps_continueStart {client : Nat} {start : StartProgress} (coherent : fleet.Coherent)
    (found : fleet.calls[key]? = some call) (starting : call.progress = .starting cell client start)
    (surroundings : Surroundings) :
    Keeps fleet.registry (fleet.continueStart key cell client start surroundings) := by
  have works : call.progress.cell? = some cell := by rw [starting]; rfl
  unfold continueStart
  split
  · exact keeps_fill coherent found works client
  · exact keeps_setWork coherent found works rfl
  · exact keeps_setWork coherent found works rfl
  · have changed (next : Client) : (fleet.setClient client next).Coherent := coherent
    exact keeps_setWork (changed _) found works rfl

theorem keeps_abandon {client : Nat} {error : StoreError} (coherent : fleet.Coherent)
    (found : fleet.calls[key]? = some call)
    (abandoning : call.progress = .abandoning cell client error) (surroundings : Surroundings) :
    Keeps fleet.registry (fleet.abandon key cell client call.identity error surroundings) := by
  have works : call.progress.cell? = some cell := by rw [abandoning]; rfl
  unfold abandon
  split
  · exact keeps_fail coherent found works _ _
  · obtain ⟨clients, closed⟩ := fleet.closeClient_snd client surroundings
    have changed : Coherent { fleet with clients := clients } := coherent
    simp only [closed]
    exact keeps_fail changed found works _ _

theorem keeps_conclude {client : Nat} (coherent : fleet.Coherent)
    (found : fleet.calls[key]? = some call) (served : call.progress = .served cell client) :
    Keeps fleet.registry (fleet.conclude key cell client call.identity) := by
  have notQueued : ∀ cell, call.progress ≠ .queued cell := by simp [served]
  have fits := coherent.fits found
  unfold conclude
  split
  · rename_i closed
    have withdrawn : Coherent { fleet with registry := fleet.registry.closeSlot call.identity cell } :=
      coherent.closeSlot closed call.identity cell
    have grows : Grows fleet.registry (fleet.registry.closeSlot call.identity cell) :=
      ⟨id, Nat.le_refl _, fun isOpen => (nomatch closed.symm.trans isOpen), fun held => held⟩
    exact Keeps.trans ⟨withdrawn, grows⟩
      (keeps_setIdle withdrawn found notQueued rfl fun _ same => nomatch same)
  · refine keeps_setProgress coherent found notQueued ⟨fun stands => (nomatch stands),
      fun works => (nomatch works), fun isServed => (nomatch isServed), fun succeeded isOpen => ?_⟩
      fun works => (nomatch works)
    obtain rfl := Except.ok.inj (CallProgress.finished.inj succeeded)
    have stands : call.progress.place? = some cell := by rw [served]; rfl
    have slot := Registry.slot?_of_mem coherent.distinct ((fits.placed stands).2 isOpen)
    exact Registry.client?_eq_some_iff.mpr ⟨cell, slot, fits.served served⟩

theorem keeps_retire {client : Nat} (coherent : fleet.Coherent)
    (found : fleet.calls[key]? = some call) (retiring : call.progress = .retiring client)
    (surroundings : Surroundings) :
    Keeps fleet.registry (fleet.retire key client call.identity surroundings) := by
  have notQueued : ∀ cell, call.progress ≠ .queued cell := by simp [retiring]
  obtain ⟨clients, closed⟩ := fleet.closeClient_snd client surroundings
  have changed : Coherent { fleet with clients := clients } := coherent
  rw [retire, closed]
  exact keeps_setIdle changed found notQueued rfl fun _ same => nomatch same

theorem keeps_advance (coherent : fleet.Coherent) (key : Nat) (surroundings : Surroundings) :
    Keeps fleet.registry (fleet.advance key surroundings) := by
  unfold advance
  split
  · exact .refl coherent
  · rename_i call found
    split
    · rename_i entering
      exact keeps_enter coherent found entering
    · exact .refl coherent
    · rename_i building
      exact keeps_build coherent found building surroundings
    · rename_i starting
      exact keeps_continueStart coherent found starting surroundings
    · rename_i abandoning
      exact keeps_abandon coherent found abandoning surroundings
    · rename_i served
      exact keeps_conclude coherent found served
    · rename_i retiring
      exact keeps_retire coherent found retiring surroundings
    · exact .refl coherent

@[simp] theorem handOver_shutdowns (fleet : Fleet) (cell : Nat) :
    (fleet.handOver cell).shutdowns = fleet.shutdowns := by
  unfold handOver
  split <;> rfl

@[simp] theorem handOver_closing (fleet : Fleet) (cell : Nat) :
    (fleet.handOver cell).registry.closing = fleet.registry.closing := by
  unfold handOver
  split <;> rfl

/-- A step of a call leaves the shutdowns alone, and does not shut the registry down. -/
theorem advance_leaves (fleet : Fleet) (key : Nat) (surroundings : Surroundings) :
    (fleet.advance key surroundings).shutdowns = fleet.shutdowns ∧
      (fleet.advance key surroundings).registry.closing = fleet.registry.closing := by
  have failed (fleet : Fleet) (cell : Nat) (identity : Identity) (error : StoreError) :
      (fleet.fail key cell identity error).shutdowns = fleet.shutdowns ∧
        (fleet.fail key cell identity error).registry.closing = fleet.registry.closing :=
    ⟨handOver_shutdowns _ cell, handOver_closing _ cell⟩
  unfold advance
  split
  · exact ⟨rfl, rfl⟩
  · rename_i call _
    split
    · obtain ⟨registry, progress, entered, closing, -⟩ := enter_eq fleet key call.identity
      rw [entered]
      exact ⟨rfl, closing⟩
    · exact ⟨rfl, rfl⟩
    · unfold build
      split
      · exact failed ..
      · exact failed ..
      · exact ⟨rfl, rfl⟩
    · unfold continueStart
      split
      · rw [fill_eq]
        exact ⟨rfl, rfl⟩
      all_goals exact ⟨rfl, rfl⟩
    · rename_i client _ _
      unfold abandon
      split
      · exact failed ..
      · obtain ⟨clients, closed⟩ := fleet.closeClient_snd client surroundings
        rw [closed]
        exact failed ..
    · unfold conclude
      split <;> exact ⟨rfl, rfl⟩
    · rename_i client _
      obtain ⟨clients, closed⟩ := fleet.closeClient_snd client surroundings
      rw [retire, closed]
      exact ⟨rfl, rfl⟩
    · exact ⟨rfl, rfl⟩

/-! ### The steps of a shutdown -/

/-- A shutdown closes the clients that are started. -/
theorem closeDrained_snd (fleet : Fleet) (identity : Identity) (client : Nat)
    (report : ShutdownReport) (surroundings : Surroundings) :
    (fleet.closeDrained identity client report surroundings).2 =
      if (fleet.client client).state = .started then (fleet.closeClient client surroundings).2
      else fleet := by
  unfold closeDrained
  split
  · split <;> rename_i same <;> rw [same]
  · rfl

/-- A step of a shutdown leaves calls and shutdowns as they are. -/
theorem stepShutdown_snd (fleet : Fleet) (surroundings : Surroundings)
    (progress : ShutdownProgress) :
    ∃ clients registry coordinators, (fleet.stepShutdown surroundings progress).2 =
      { fleet with clients := clients, registry := registry, coordinators := coordinators } := by
  unfold stepShutdown
  split
  · unfold drain
    split
    · exact ⟨fleet.clients, _, _, rfl⟩
    · exact ⟨fleet.clients, fleet.registry, fleet.coordinators, rfl⟩
  · exact ⟨fleet.clients, fleet.registry, fleet.coordinators, rfl⟩
  · dsimp only
    rw [closeDrained_snd]
    split
    · obtain ⟨clients, closed⟩ := fleet.closeClient_snd _ surroundings
      exact ⟨clients, fleet.registry, fleet.coordinators, closed⟩
    · exact ⟨fleet.clients, fleet.registry, fleet.coordinators, rfl⟩
  · exact ⟨fleet.clients, fleet.registry, fleet.coordinators, rfl⟩

/-- A step of the shutdown of a key leaves calls as they are. -/
theorem advanceShutdown_eq (fleet : Fleet) (key : Nat) (surroundings : Surroundings) :
    ∃ clients registry coordinators shutdowns, fleet.advanceShutdown key surroundings =
      { fleet with
        clients := clients, registry := registry, coordinators := coordinators
        shutdowns := shutdowns } := by
  unfold advanceShutdown
  split
  · exact ⟨fleet.clients, fleet.registry, fleet.coordinators, fleet.shutdowns, rfl⟩
  · rename_i progress found
    obtain ⟨clients, registry, coordinators, stepped⟩ := fleet.stepShutdown_snd surroundings progress
    simp only [stepped]
    exact ⟨clients, registry, coordinators, _, rfl⟩

theorem keeps_drain (coherent : fleet.Coherent) (coordinator : Nat) :
    Keeps fleet.registry (fleet.drain coordinator).2 := by
  unfold drain
  split
  · exact ⟨coherent.drain, fun _ => rfl, Nat.le_refl _, fun isOpen => (nomatch isOpen),
      fun held => held⟩
  · exact .refl coherent

theorem keeps_stepShutdown (coherent : fleet.Coherent) (surroundings : Surroundings)
    (progress : ShutdownProgress) :
    Keeps fleet.registry (fleet.stepShutdown surroundings progress).2 := by
  unfold stepShutdown
  split
  · exact keeps_drain coherent _
  · exact .refl coherent
  · rename_i identity client left report
    obtain ⟨clients, closed⟩ := fleet.closeClient_snd client surroundings
    have changed : Coherent { fleet with clients := clients } := coherent
    dsimp only
    rw [closeDrained_snd]
    split
    · rw [closed]
      exact .refl changed
    · exact .refl coherent
  · exact .refl coherent

theorem keeps_advanceShutdown (coherent : fleet.Coherent) (key : Nat)
    (surroundings : Surroundings) : Keeps fleet.registry (fleet.advanceShutdown key surroundings) := by
  unfold advanceShutdown
  split
  · exact .refl coherent
  · rename_i progress found
    have kept := keeps_stepShutdown coherent surroundings progress
    exact ⟨kept.coherent, kept.grows⟩

/-! ### Runs -/

theorem keeps_step (coherent : fleet.Coherent) (action : Action) :
    Keeps fleet.registry (fleet.step action) := by
  cases action with
  | request identity => exact ⟨coherent.request identity, .refl _⟩
  | advance call surroundings => exact keeps_advance coherent call surroundings
  | addCoordinator => exact ⟨coherent, .refl _⟩
  | beginShutdown coordinator => exact ⟨coherent, .refl _⟩
  | advanceShutdown key surroundings => exact keeps_advanceShutdown coherent key surroundings

theorem keeps_run (coherent : fleet.Coherent) (actions : List Action) :
    Keeps fleet.registry (fleet.run actions) := by
  induction actions generalizing fleet with
  | nil => exact .refl coherent
  | cons action rest inductionHypothesis =>
      have first := keeps_step coherent action
      exact first.trans (inductionHypothesis first.coherent)

/-- What can become of a new fleet. -/
def Reached (fleet : Fleet) : Prop := ∃ retry actions, fleet = (empty retry).run actions

theorem Reached.coherent (reached : fleet.Reached) : fleet.Coherent := by
  obtain ⟨retry, actions, rfl⟩ := reached
  have start : (empty retry).Coherent := .empty retry
  exact (keeps_run start actions).coherent

end LiveConfig.Fleet
