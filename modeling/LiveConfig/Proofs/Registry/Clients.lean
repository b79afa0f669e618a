import LiveConfig.Proofs.Client.OneWay
import LiveConfig.Proofs.Registry.Custody

/-!
Contract: what the steps of a fleet do to a client.

A step of a call or of a shutdown leaves a client, closes it, moves a start of it on, or makes it. Owns:
these ways for a client to fare, with what all of them keep. Does not own: which step does what.
-/

namespace LiveConfig

/-- How a client can fare in one step. Before it is made a client counts as the default one. -/
inductive Client.Fares (client : Client) : Client → Prop where
  | same : Fares client client
  | close (fails : Bool) : Fares client (client.close fails).2
  | start (progress : StartProgress) (outcome : Except StoreError Nat) :
      Fares client (progress.step client outcome).2
  | build (unmade : client = default) (connectString store : String) (retry : RetryPolicy) :
      Fares client (.fresh connectString store retry)

namespace Client.Fares

variable {client after : Client}

theorem closed (fares : client.Fares after) (closed : client.state = .closed) :
    after.state = .closed := by
  cases fares with
  | same => exact closed
  | close fails => simp [Client.close, closed]
  | start progress outcome =>
      rcases client.start_step_client outcome progress with same | ⟨position, -, connected⟩
      · rw [same, closed]
      · rw [connected]
        simp [Client.connected, closed]
  | build unmade =>
      rw [unmade] at closed
      cases closed

theorem counted (fares : client.Fares after) (counted : client.Counted) : after.Counted := by
  cases fares with
  | same => exact counted
  | close fails => exact counted.close fails
  | start progress outcome =>
      rcases client.start_step_client outcome progress with same | ⟨position, -, connected⟩
      · rwa [same]
      · rw [connected]
        exact counted.connected position
  | build _ connectString store retry => exact .fresh connectString store retry

end Client.Fares

namespace Fleet

variable (fleet : Fleet)

theorem client_congr {fleet other : Fleet} (clients : other.clients = fleet.clients) (client : Nat) :
    other.client client = fleet.client client := by
  simp only [Fleet.client, clients]

@[simp] theorem handOver_clients (cell : Nat) : (fleet.handOver cell).clients = fleet.clients := by
  unfold handOver
  split <;> rfl

@[simp] theorem fail_clients (key cell : Nat) (identity : Identity) (error : StoreError) :
    (fleet.fail key cell identity error).clients = fleet.clients :=
  handOver_clients _ cell

/-- A client that is put in place of one, or of none. -/
theorem fares_setClient {key : Nat} {changed : Client} (fares : (fleet.client key).Fares changed)
    (client : Nat) : (fleet.client client).Fares ((fleet.setClient key changed).client client) := by
  rw [client_setClient]
  split
  · rename_i same
    rw [same.1]
    exact fares
  · exact .same

theorem fares_closeClient (key : Nat) (surroundings : Surroundings) (client : Nat) :
    (fleet.client client).Fares ((fleet.closeClient key surroundings).2.client client) := by
  unfold closeClient
  split
  · exact .same
  · exact fleet.fares_setClient (.close _) client

theorem fares_addClient (connectString store : String) (retry : RetryPolicy) (client : Nat) :
    (fleet.client client).Fares
      ((fleet.addClient (.fresh connectString store retry)).2.client client) := by
  simp only [addClient, Fleet.client]
  rcases Nat.lt_trichotomy client fleet.clients.length with below | same | beyond
  · rw [List.getElem?_append_left below]
    exact .same
  · subst same
    rw [List.getElem?_concat_length]
    exact .build (by simp) connectString store retry
  · rw [List.getElem?_eq_none (by omega), List.getElem?_eq_none (by simp; omega)]
    exact .same

theorem fares_advance (key : Nat) (surroundings : Surroundings) (client : Nat) :
    (fleet.client client).Fares ((fleet.advance key surroundings).client client) := by
  have sameAs {after : Fleet} (clients : after.clients = fleet.clients) :
      (fleet.client client).Fares (after.client client) := by
    rw [client_congr clients]
    exact .same
  unfold advance
  split
  · exact .same
  · rename_i call _
    split
    · obtain ⟨registry, progress, entered, -⟩ := enter_eq fleet key call.identity
      rw [entered]
      exact .same
    · exact .same
    · unfold build
      split
      · exact sameAs (fail_clients ..)
      · exact sameAs (fail_clients ..)
      · exact fleet.fares_addClient _ _ _ client
    · unfold continueStart
      split
      · rw [fill_eq]
        exact .same
      · exact .same
      · exact .same
      · exact fleet.fares_setClient (.start _ _) client
    · unfold abandon
      split
      · exact sameAs (fail_clients ..)
      · rw [client_congr (fail_clients ..)]
        exact fleet.fares_closeClient _ surroundings client
    · unfold conclude
      split <;> exact .same
    · exact fleet.fares_closeClient _ surroundings client
    · exact .same

/-- In a step of a fleet every client fares in one of these ways. -/
theorem fares_step (action : Action) (client : Nat) :
    (fleet.client client).Fares ((fleet.step action).client client) := by
  cases action with
  | request | addCoordinator | beginShutdown => exact .same
  | advance key surroundings => exact fleet.fares_advance key surroundings client
  | advanceShutdown key surroundings =>
      simp only [step, advanceShutdown]
      split
      · exact .same
      · unfold stepShutdown
        split
        · unfold drain
          split <;> exact .same
        · exact .same
        · dsimp only
          rw [closeDrained_snd]
          split
          · exact fleet.fares_closeClient _ surroundings client
          · exact .same
        · exact .same

end Fleet

end LiveConfig
