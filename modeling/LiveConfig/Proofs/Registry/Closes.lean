import LiveConfig.Proofs.Registry.Steps

/-!
Contract: what a close and a start do to whether a client is started.

Owns: the closes that fail in a run, and that only a start which succeeds makes a client started, while a
close that succeeds leaves it closed.
-/

namespace LiveConfig.Fleet

variable {fleet : Fleet}

/-! ### Failed closes -/

/-- The client of a close that fails. -/
def closeFailure? (fleet : Fleet) (client : Nat) (surroundings : Surroundings) : Option Nat :=
  match (fleet.closeClient client surroundings).1 with
  | .ok () => none
  | .error _ => some client

/-- The client that a step fails to close. -/
def failedClose? (fleet : Fleet) : Action → Option Nat
  | .advance key surroundings =>
      match (fleet.calls[key]?).map Call.progress with
      | some (.abandoning _ client _) =>
          if (fleet.client client).state = .closed then none
          else fleet.closeFailure? client surroundings
      | some (.retiring client) => fleet.closeFailure? client surroundings
      | _ => none
  | .advanceShutdown key surroundings =>
      match fleet.shutdowns[key]? with
      | some (.closing ((_, client) :: _) _) =>
          if (fleet.client client).state = .started then fleet.closeFailure? client surroundings
          else none
      | _ => none
  | .request _ | .addCoordinator | .beginShutdown _ => none

/-- The clients that some step of a run fails to close. -/
def failedCloses (fleet : Fleet) : List Action → List Nat
  | [] => []
  | action :: rest => (fleet.failedClose? action).toList ++ (fleet.step action).failedCloses rest

/-! ### Clients -/

theorem client_setClient (fleet : Fleet) (key : Nat) (client : Client) (other : Nat) :
    (fleet.setClient key client).client other =
      if other = key ∧ key < fleet.clients.length then client else fleet.client other := by
  simp only [Fleet.client, setClient, List.getElem?_set]
  by_cases same : key = other
  · subst same
    by_cases inRange : key < fleet.clients.length
    · simp [inRange]
    · simp [inRange]
  · simp [same, Ne.symm same]

theorem state_of_not_mem {key : Nat} (beyond : fleet.clients.length ≤ key) :
    (fleet.client key).state = .created := by
  simp [Fleet.client, List.getElem?_eq_none beyond]
  rfl

theorem lt_of_started {key : Nat} (started : (fleet.client key).state = .started) :
    key < fleet.clients.length := by
  by_contra beyond
  rw [state_of_not_mem (Nat.le_of_not_lt beyond)] at started
  cases started

/-- One more client that is not started makes no client started. -/
theorem started_of_append {newest : Client} {key : Nat} (notStarted : newest.state ≠ .started)
    (started : (((fleet.clients ++ [newest])[key]?).getD default).state = .started) :
    (fleet.client key).state = .started ∧ key < fleet.clients.length := by
  rcases Nat.lt_trichotomy key fleet.clients.length with below | same | beyond
  · rw [List.getElem?_append_left below] at started
    exact ⟨started, below⟩
  · subst same
    rw [List.getElem?_concat_length] at started
    exact absurd started notStarted
  · rw [List.getElem?_eq_none (by simp; omega)] at started
    cases started

/-- No close starts a client. -/
theorem started_of_close {client : Client} {fails : Bool}
    (started : (client.close fails).2.state = .started) : client.state = .started := by
  unfold Client.close at started
  split at started
  · exact started
  all_goals
    split at started
    · exact started
    · cases started

theorem started_of_closeClient {key other : Nat} {surroundings : Surroundings}
    (started : ((fleet.closeClient key surroundings).2.client other).state = .started) :
    (fleet.client other).state = .started := by
  unfold closeClient at started
  split at started
  · exact started
  · dsimp only at started
    rw [client_setClient] at started
    split at started
    · rename_i same
      rw [same.1]
      exact started_of_close started
    · exact started

/-- A close that succeeds leaves its client not started. -/
theorem not_started_of_closed {key : Nat} {surroundings : Surroundings}
    (ok : fleet.closeFailure? key surroundings = none) :
    ((fleet.closeClient key surroundings).2.client key).state ≠ .started := by
  intro started
  have wasStarted := started_of_closeClient started
  have inRange := lt_of_started wasStarted
  simp only [closeFailure?, closeClient] at ok started
  cases refusal : surroundings.refusal with
  | some error => simp [refusal] at ok
  | none =>
      simp only [refusal, client_setClient, inRange, and_self, if_true] at ok started
      simp only [Client.close, wasStarted] at ok started
      cases fails : surroundings.closeFails with
      | true => simp [fails] at ok
      | false => simp [fails] at started

/-- A close leaves its client closed, or fails. -/
theorem closed_or_closeFailure? {client : Nat} (inRange : client < fleet.clients.length)
    (surroundings : Surroundings) :
    ((fleet.closeClient client surroundings).2.client client).state = .closed ∨
      client ∈ (fleet.closeFailure? client surroundings).toList := by
  unfold closeFailure? closeClient
  cases surroundings.refusal with
  | some error => exact .inr (by simp)
  | none =>
      simp only [client_setClient, inRange, and_self, if_true]
      unfold Client.close
      split
      · rename_i closed
        exact .inl closed
      all_goals
        split
        · exact .inr (by simp)
        · exact .inl rfl

/-- A start that goes on leaves its client not started, unless it is over with success. -/
theorem started_of_step {client : Client} {outcome : Except StoreError Nat} {start : StartProgress}
    (started : (start.step client outcome).2.state = .started) :
    client.state = .started ∨ (start.step client outcome).1 = .finished (.ok ()) := by
  cases start with
  | entering | pausing | finished => exact .inl started
  | connecting retry =>
      cases outcome with
      | ok position => exact .inr rfl
      | error error =>
          simp only [StartProgress.step, StartProgress.attempt] at started
          split at started <;> exact .inl started

theorem mem_of_closeFailure? {client lostClient : Nat} {surroundings : Surroundings}
    (failure : fleet.closeFailure? client surroundings = some lostClient) :
    lostClient = client := by
  unfold closeFailure? at failure
  split at failure
  · cases failure
  · exact (Option.some.inj failure).symm

end LiveConfig.Fleet
