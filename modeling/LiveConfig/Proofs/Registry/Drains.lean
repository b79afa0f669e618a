import LiveConfig.Proofs.Registry.Steps
import LiveConfig.Registry.Run

/-!
Contract: what one step of a shutdown does.

Owns: the ways for a step to go, each with all that it changes, and what of it every step leaves. Does not
own: the steps of calls.
-/

namespace LiveConfig

/-- The report with one more client in it. -/
def ShutdownReport.add (report : ShutdownReport) (identity : Identity) :
    Treatment → ShutdownReport
  | .closed => { report with closed := report.closed ++ [identity] }
  | .skipped => { report with skipped := report.skipped ++ [identity] }
  | .failed error => { report with failures := report.failures ++ [.shutdown identity.text error] }

namespace Fleet

variable {fleet : Fleet} {key : Nat} {surroundings : Surroundings}

theorem closeDrained_fst (fleet : Fleet) (identity : Identity) (client : Nat)
    (report : ShutdownReport) (surroundings : Surroundings) :
    (fleet.closeDrained identity client report surroundings).1 =
      report.add identity (fleet.treatment client surroundings) := by
  unfold closeDrained treatment
  split
  · split <;> rename_i same <;> rw [same] <;> rfl
  · rfl

/-- What a shutdown leaves of the clients when it deals with one. -/
def dealtWith (fleet : Fleet) (client : Nat) (surroundings : Surroundings) : List Client :=
  if (fleet.client client).state = .started then (fleet.closeClient client surroundings).2.clients
  else fleet.clients

theorem length_dealtWith (fleet : Fleet) (client : Nat) (surroundings : Surroundings) :
    (fleet.dealtWith client surroundings).length = fleet.clients.length := by
  unfold dealtWith
  split
  · exact fleet.closeClient_length client surroundings
  · rfl

/-- The ways in which one step of the shutdown of a key can go. -/
inductive Drains (fleet : Fleet) (key : Nat) (surroundings : Surroundings) : Fleet → Prop where
  /-- There is no such shutdown. -/
  | missing (noShutdown : fleet.shutdowns[key]? = none) : Drains fleet key surroundings fleet
  /-- The first step for its coordinator takes the clients out. -/
  | takes {coordinator : Nat} (found : fleet.shutdowns[key]? = some (.entering coordinator)) :
      Drains fleet key surroundings { fleet with
        registry := fleet.registry.drain.2
        coordinators := fleet.coordinators.set coordinator true
        shutdowns := fleet.shutdowns.set key (.closing fleet.registry.drain.1 .empty) }
  /-- The coordinator has run its shutdown. -/
  | idles {coordinator : Nat} (found : fleet.shutdowns[key]? = some (.entering coordinator)) :
      Drains fleet key surroundings { fleet with
        shutdowns := fleet.shutdowns.set key (.finished .empty) }
  | deals {identity : Identity} {client : Nat} {left : List (Identity × Nat)}
      {report : ShutdownReport}
      (found : fleet.shutdowns[key]? = some (.closing ((identity, client) :: left) report)) :
      Drains fleet key surroundings { fleet with
        clients := fleet.dealtWith client surroundings
        shutdowns := fleet.shutdowns.set key
          (.closing left (report.add identity (fleet.treatment client surroundings))) }
  | ends {report : ShutdownReport} (found : fleet.shutdowns[key]? = some (.closing [] report)) :
      Drains fleet key surroundings { fleet with
        shutdowns := fleet.shutdowns.set key (.finished report) }
  | rests {report : ShutdownReport} (found : fleet.shutdowns[key]? = some (.finished report)) :
      Drains fleet key surroundings { fleet with
        shutdowns := fleet.shutdowns.set key (.finished report) }

theorem drains_of_advanceShutdown (fleet : Fleet) (key : Nat) (surroundings : Surroundings) :
    Drains fleet key surroundings (fleet.advanceShutdown key surroundings) := by
  cases found : fleet.shutdowns[key]? with
  | none =>
      simp only [advanceShutdown, found]
      exact .missing found
  | some progress =>
      cases progress with
      | entering coordinator =>
          simp only [advanceShutdown, found, stepShutdown, drain]
          split
          · exact .takes found
          · exact .idles found
      | finished report =>
          simp only [advanceShutdown, found, stepShutdown]
          exact .rests found
      | closing left report =>
          rcases left with _ | ⟨⟨identity, client⟩, left⟩
          · simp only [advanceShutdown, found, stepShutdown]
            exact .ends found
          · have dealt : (fleet.closeDrained identity client report surroundings).2 =
                { fleet with clients := fleet.dealtWith client surroundings } := by
              rw [closeDrained_snd, dealtWith]
              split
              · obtain ⟨clients, closed⟩ := fleet.closeClient_snd client surroundings
                rw [closed]
              · rfl
            simp only [advanceShutdown, found, stepShutdown, dealt, closeDrained_fst]
            exact .deals found

variable {after : Fleet}

/-- No step of a shutdown makes or drops clients, moves calls or changes cells; slots stay while the
registry stays open or shut down, or go all together. -/
theorem Drains.leaves (drains : Drains fleet key surroundings after) :
    after.clients.length = fleet.clients.length ∧ after.calls = fleet.calls ∧
      after.registry.cells = fleet.registry.cells ∧
      (after.registry.closing = fleet.registry.closing ∧
          after.registry.slots = fleet.registry.slots ∨ after.registry.slots = []) := by
  cases drains with
  | missing | idles | ends | rests => exact ⟨rfl, rfl, rfl, .inl ⟨rfl, rfl⟩⟩
  | takes => exact ⟨rfl, rfl, rfl, .inr rfl⟩
  | deals => exact ⟨length_dealtWith .., rfl, rfl, .inl ⟨rfl, rfl⟩⟩

/-- A step of a shutdown leaves the others alone. -/
theorem Drains.others (drains : Drains fleet key surroundings after) :
    after.shutdowns.length = fleet.shutdowns.length ∧
      ∀ other ≠ key, after.shutdowns[other]? = fleet.shutdowns[other]? := by
  cases drains with
  | missing => exact ⟨rfl, fun _ _ => rfl⟩
  | takes | idles | deals | ends | rests =>
      exact ⟨List.length_set, fun other different => List.getElem?_set_ne (Ne.symm different)⟩

/-- A step that leaves the registry open changes clients and shutdowns only. -/
theorem Drains.ofOpen (drains : Drains fleet key surroundings after)
    (isOpen : after.registry.closing = false) :
    ∃ clients shutdowns, clients.length = fleet.clients.length ∧
      after = { fleet with clients := clients, shutdowns := shutdowns } := by
  cases drains with
  | missing => exact ⟨fleet.clients, fleet.shutdowns, rfl, rfl⟩
  | takes => cases isOpen
  | idles | ends | rests => exact ⟨fleet.clients, _, rfl, rfl⟩
  | deals => exact ⟨_, _, length_dealtWith .., rfl⟩

end Fleet

end LiveConfig
