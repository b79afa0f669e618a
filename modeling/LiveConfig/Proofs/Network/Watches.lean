import LiveConfig.Proofs.Network.Serving
import LiveConfig.Proofs.Registry.Clients
import Mathlib.Data.List.Nodup

/-!
Contract: the watches that units have in the tables of their clients.

The tables of clients that are held and not closed have one entry for every unit with a watch, and no
others that units made. Owns: this correspondence, what leaves it alone, and that requests, calls, starts,
closes, shutdowns and dispatchers do. Does not own: what is done with units.
-/

namespace LiveConfig

def Listener.isUnit : Listener → Bool
  | .unit _ => true
  | .recorder _ => false

/-- The entry that a unit has in the table of its client, once it has a watch. -/
def ConfigUnit.entry? (unit : ConfigUnit) : Option Watch :=
  unit.watch.map fun id => ⟨id, unit.path, unit.listener⟩

/-- The entries that units have in the table of a client. -/
def ConfigUnit.entriesAt (client : Nat) (units : List ConfigUnit) : List Watch :=
  (units.filter (·.client = client)).filterMap entry?

/-- A step makes at most one request, which is no watch. -/
theorem Resolution.step_state {σ : Type} (serve : Service σ) (root : String) (autoRefreshed : Bool) (state : σ)
    (progress : Resolution) :
    (step serve root autoRefreshed state progress).2 = state ∨
      ∃ (α : Type) (request : Request α), request.kind ≠ .watch ∧
        (step serve root autoRefreshed state progress).2 = (serve request state).2 := by
  cases progress with
  | entering =>
      simp only [step, enter]
      split
      · exact .inl rfl
      · refine .inr ⟨_, .exists root, CallKind.noConfusion, ?_⟩
        generalize serve (.exists root) state = answer
        obtain ⟨_ | _ | _, after⟩ := answer <;> cases autoRefreshed <;> rfl
  | probing missing ancestors =>
      cases ancestors with
      | nil => exact .inl rfl
      | cons ancestor ancestors =>
          refine .inr ⟨_, .exists ancestor, CallKind.noConfusion, ?_⟩
          simp only [step, probe]
          split <;> simp_all
  | creating pending created =>
      cases pending with
      | nil => exact .inl rfl
      | cons node pending =>
          refine .inr ⟨_, .create node [], CallKind.noConfusion, ?_⟩
          simp only [step, create]
          split <;> simp_all
  | confirming =>
      refine .inr ⟨_, .exists root, CallKind.noConfusion, ?_⟩
      simp only [step, confirm]
      split <;> simp_all
  | listing justCreated =>
      refine .inr ⟨_, .list root, CallKind.noConfusion, ?_⟩
      simp only [step, list]
      split <;> simp_all
  | finished result => exact .inl rfl

/-! ### Tables -/

namespace Client

/-- The entries of the table that units made. -/
def unitWatches (client : Client) : List Watch :=
  client.watches.filter (·.listener.isUnit)

/-- A client that is closed afterwards, or has as many entries of units as before, and is as well
numbered. -/
structure Spares (client after : Client) : Prop where
  numbered : client.Numbered → after.Numbered
  spared : after.state ≠ .closed →
    client.state ≠ .closed ∧ after.unitWatches = client.unitWatches

variable {client after : Client}

theorem Numbered.nodup_ids (numbered : client.Numbered) : (client.watches.map (·.id)).Nodup :=
  List.pairwise_map.mpr (numbered.ascending.imp Nat.ne_of_lt)

theorem Numbered.eq_of_id (numbered : client.Numbered) {watch other : Watch}
    (member : watch ∈ client.watches) (among : other ∈ client.watches) (same : watch.id = other.id) :
    watch = other :=
  List.inj_on_of_nodup_map numbered.nodup_ids member among same

theorem Spares.refl (client : Client) : client.Spares client :=
  ⟨id, fun isOpen => ⟨isOpen, rfl⟩⟩

theorem Spares.ofTable (retabled : client.Retabled after) (state : after.state = client.state)
    (watches : after.unitWatches = client.unitWatches) : client.Spares after :=
  ⟨retabled.numbered, fun isOpen => ⟨state ▸ isOpen, watches⟩⟩

theorem Fares.spares (fares : client.Fares after) : client.Spares after := by
  cases fares with
  | same => exact .refl client
  | close fails =>
      unfold Client.close
      split
      · exact .refl client
      all_goals
        split
        · exact .refl client
        · exact ⟨fun _ => ⟨.nil, nofun⟩, fun isOpen => absurd rfl isOpen⟩
  | start progress outcome =>
      rcases client.start_step_client outcome progress with same | ⟨position, -, connected⟩
      · rw [same]
        exact .refl client
      · rw [connected]
        unfold Client.connected
        split
        · rename_i created
          exact ⟨fun numbered => ⟨numbered.ascending, numbered.below⟩,
            fun _ => ⟨by simp [created], rfl⟩⟩
        · exact .refl client
        · exact .refl client
  | build unmade =>
      subst unmade
      exact ⟨fun _ => .fresh _ _ _, fun _ => ⟨nofun, rfl⟩⟩

theorem watch_recorder_spares (client : Client) (path : String) (key : Nat) :
    client.Spares (client.watch path (.recorder key)).2 := by
  unfold Client.watch
  split
  · exact .refl client
  · split
    · exact .refl client
    · have retabled : client.Retabled { client with
          watches := client.watches ++ [⟨client.nextWatch, path, .recorder key⟩]
          nextWatch := client.nextWatch + 1 } := .another rfl rfl rfl
      refine .ofTable retabled rfl ?_
      simp [unitWatches, Listener.isUnit]

theorem serve_client {α : Type} {request : Request α} (notWatch : request.kind ≠ .watch)
    (client : Client) (store : Store) : (client.serve request store).2.1 = client := by
  unfold serve
  split
  · rfl
  · cases request with
    | watch => exact absurd rfl notWatch
    | «exists» | create | read | list => rfl

/-- A dispatcher drops no entry of a unit that is there. -/
theorem Dispatched.spares {isAlive : Listener → Bool} {feed : Array Notification}
    {deliveries : List Delivery} (dispatched : client.Dispatched isAlive feed deliveries after)
    (alive : ∀ watch ∈ client.unitWatches, isAlive watch.listener = true) : client.Spares after := by
  have same : (client.liveWatches isAlive).filter (·.listener.isUnit) = client.unitWatches := by
    rw [liveWatches, List.filter_filter, unitWatches]
    apply List.filter_congr
    intro watch member
    by_cases made : watch.listener.isUnit = true
    · simp [made, alive watch (List.mem_filter.mpr ⟨member, made⟩)]
    · simp [made]
  cases dispatched <;> exact .ofTable (.fewer List.filter_sublist rfl) rfl same

end Client

namespace Network

variable {network after final : Network}

/-- A client that is held and not closed. -/
def IsLive (network : Network) (client : Nat) : Prop :=
  network.isHeld client = true ∧ (network.client client).state ≠ .closed

/-- A network in which no live client has gained or lost an entry of a unit. -/
structure Spares (network after : Network) : Prop where
  born : after.unitCount = network.unitCount
  numbered : ∀ client, (network.client client).Numbered → (after.client client).Numbered
  spared : ∀ client, after.IsLive client →
    network.IsLive client ∧ (after.client client).unitWatches = (network.client client).unitWatches

namespace Spares

theorem refl (network : Network) : network.Spares network :=
  ⟨rfl, fun _ => id, fun _ live => ⟨live, rfl⟩⟩

theorem trans (first : network.Spares after) (second : after.Spares final) :
    network.Spares final := by
  refine ⟨second.born.trans first.born, fun client numbered => ?_, fun client live => ?_⟩
  · exact second.numbered client (first.numbered client numbered)
  · obtain ⟨liveBetween, sameAfter⟩ := second.spared client live
    obtain ⟨liveBefore, sameBefore⟩ := first.spared client liveBetween
    exact ⟨liveBefore, sameAfter.trans sameBefore⟩

theorem ofFares (born : after.unitCount = network.unitCount)
    (departed : after.departed = network.departed)
    (fares : ∀ client, (network.client client).Fares (after.client client)) :
    network.Spares after := by
  refine ⟨born, fun client => (fares client).spares.numbered, fun client live => ?_⟩
  have held : network.isHeld client = true := by
    rw [isHeld, ← departed]
    exact live.1
  obtain ⟨isOpen, same⟩ := (fares client).spares.spared live.2
  exact ⟨⟨held, isOpen⟩, same⟩

theorem ofFleet (born : after.unitCount = network.unitCount)
    (departed : after.departed = network.departed) (fleet : after.fleet.clients = network.fleet.clients) :
    network.Spares after := by
  refine ofFares born departed fun client => ?_
  rw [Network.client, Network.client, Fleet.client_congr fleet]
  exact .same

/-- A client that is put in place of one. -/
theorem setClient {key : Nat} {changed : Client}
    (numbered : (network.client key).Numbered → changed.Numbered)
    (spared : network.isHeld key = true → changed.state ≠ .closed →
      (network.client key).state ≠ .closed ∧
        changed.unitWatches = (network.client key).unitWatches) :
    network.Spares (network.setClient key changed) := by
  have cases (client : Nat) : (network.setClient key changed).client client = network.client client ∨
      client = key ∧ (network.setClient key changed).client client = changed := by
    rw [client_setClient]
    split
    · rename_i same
      exact .inr ⟨same.1, rfl⟩
    · exact .inl rfl
  refine ⟨rfl, fun client => ?_, fun client live => ?_⟩
  · rcases cases client with same | ⟨rfl, new⟩
    · rw [same]
      exact id
    · rw [new]
      exact numbered
  · rcases cases client with same | ⟨rfl, new⟩
    · rw [IsLive, same] at live
      exact ⟨live, by rw [same]⟩
    · rw [IsLive, new] at live
      rw [new]
      obtain ⟨isOpen, watches⟩ := spared live.1 live.2
      exact ⟨⟨live.1, isOpen⟩, watches⟩

end Spares

/-! ### Calls, starts and shutdowns -/

theorem fares_advanceCall (network : Network) (key client : Nat) :
    (network.client client).Fares ((network.advanceCall key).client client) := by
  unfold advanceCall
  split
  · exact .same
  · simp only [Network.client, surroundings_fleet]
    exact network.fleet.fares_advance key _ client

theorem fares_advanceStart (network : Network) (key : Nat) (progress : StartProgress) (client : Nat) :
    (network.client client).Fares ((network.advanceStart key progress).2.client client) := by
  unfold advanceStart
  dsimp only
  split
  · simp only [Network.client, surroundings_fleet]
    exact .same
  · simp only [Network.client, setClient, surroundings_fleet]
    exact network.fleet.fares_setClient (.start progress _) client

theorem fares_advanceShutdown (network : Network) (key client : Nat) :
    (network.client client).Fares ((network.advanceShutdown key).client client) := by
  unfold advanceShutdown
  split
  all_goals
    simp only [Network.client, surroundings_fleet]
    exact network.fleet.fares_step (.advanceShutdown key _) client

theorem spares_advanceCall (network : Network) (key : Nat) :
    network.Spares (network.advanceCall key) := by
  refine .ofFares ?_ ?_ (network.fares_advanceCall key)
  all_goals
    unfold advanceCall
    split <;> simp

theorem spares_advanceStart (network : Network) (key : Nat) (progress : StartProgress) :
    network.Spares (network.advanceStart key progress).2 := by
  refine .ofFares ?_ ?_ (network.fares_advanceStart key progress)
  all_goals
    unfold advanceStart
    dsimp only
    split <;> simp [setClient]

theorem spares_advanceShutdown (network : Network) (key : Nat) :
    network.Spares (network.advanceShutdown key) := by
  refine .ofFares ?_ ?_ (network.fares_advanceShutdown key)
  all_goals
    unfold advanceShutdown
    split <;> simp

theorem spares_closeClient (network : Network) (key : Nat) :
    network.Spares (network.closeClient key).2 := by
  refine .ofFares (by simp [closeClient]) (by simp [closeClient]) fun client => ?_
  simp only [Network.client, closeClient, surroundings_fleet]
  exact network.fleet.fares_closeClient key _ client

/-- A client that somebody lets go of. -/
theorem spares_letGo (network : Network) (key : Nat) : network.Spares (network.letGo key) := by
  refine ⟨rfl, fun _ => id, fun client live => ⟨⟨?_, live.2⟩, rfl⟩⟩
  have held := live.1
  simp only [isHeld, letGo, Bool.not_eq_true', List.contains_eq_mem, decide_eq_false_iff_not,
    List.mem_cons, not_or] at held ⊢
  exact held.2

/-! ### Requests -/

/-- A request is struck by a fault, or reaches the client. -/
theorem serve_outcome {α : Type} (key : Nat) (request : Request α) (network : Network) :
    ∃ faults stores,
      (∃ error, serve key request network =
        (.error error, { network with faults := faults, stores := stores })) ∨
      ∃ store, serve key request network = (((network.client key).serve request store).1,
        { network.setClient key ((network.client key).serve request store).2.1 with
          faults := faults, stores := stores }) := by
  simp only [serve, meetFaults]
  rcases Fault.meetAll _ _ _ _ _ with ⟨_ | error, faults, stores⟩
  · exact ⟨_, _, .inr ⟨_, rfl⟩⟩
  · exact ⟨_, _, .inl ⟨error, rfl⟩⟩

theorem spares_serve {α : Type} (key : Nat) (request : Request α) (network : Network)
    (spares : ∀ store, (network.client key).Spares
      ((network.client key).serve request store).2.1) :
    network.Spares (serve key request network).2 := by
  obtain ⟨faults, stores, ⟨error, struck⟩ | ⟨store, served⟩⟩ := serve_outcome key request network
  · rw [struck]
    exact .ofFleet rfl rfl rfl
  · rw [served]
    exact (Spares.setClient (spares store).numbered fun _ => (spares store).spared).trans
      (.ofFleet rfl rfl rfl)

theorem spares_request {α : Type} (key : Nat) {request : Request α}
    (notWatch : request.kind ≠ .watch) (network : Network) :
    network.Spares (serve key request network).2 := by
  apply spares_serve
  intro store
  rw [Client.serve_client notWatch]
  exact .refl _

theorem spares_recorderWatch (key : Nat) (path : String) (recorder : Nat) (network : Network) :
    network.Spares (serve key (.watch path (.recorder recorder)) network).2 := by
  apply spares_serve
  intro store
  unfold Client.serve
  split
  · exact .refl _
  · exact (network.client key).watch_recorder_spares path recorder

/-- A request for a watch is refused, or the client has one more under its next identifier. -/
theorem serve_watch_outcome (key : Nat) (path : String) (listener : Listener) (network : Network) :
    (∃ error after, serve key (.watch path listener) network = (.error error, after) ∧
      network.Spares after) ∨
    ∃ faults stores, (network.client key).state = .started ∧
      serve key (.watch path listener) network = (.ok (network.client key).nextWatch,
        { network.setClient key { network.client key with
            watches := (network.client key).watches ++
              [⟨(network.client key).nextWatch, path, listener⟩]
            nextWatch := (network.client key).nextWatch + 1 } with
          faults := faults, stores := stores }) := by
  obtain ⟨faults, stores, ⟨error, struck⟩ | ⟨store, served⟩⟩ :=
    serve_outcome key (.watch path listener) network
  · exact .inl ⟨error, _, struck, .ofFleet rfl rfl rfl⟩
  · have refused (error : StoreError) (same : (network.client key).serve (.watch path listener) store =
        (.error error, network.client key, store)) :
        ∃ error after, serve key (.watch path listener) network = (.error error, after) ∧
          network.Spares after := by
      rw [same] at served
      have unchanged := Client.Spares.refl (network.client key)
      exact ⟨error, _, served, (Spares.setClient unchanged.numbered fun _ => unchanged.spared).trans
        (.ofFleet rfl rfl rfl)⟩
    cases required : (network.client key).requireStarted with
    | error error => exact .inl (refused error (by simp [Client.serve, required]))
    | ok =>
        cases valid : Path.validate path with
        | error error =>
            exact .inl (refused error (by simp [Client.serve, Client.watch, required, valid]))
        | ok =>
            refine .inr ⟨faults, stores, Client.started_of_requireStarted required, served.trans ?_⟩
            simp [Client.serve, Client.watch, required, valid]

theorem spares_resolve (key : Nat) (root : String) (autoRefreshed : Bool) (network : Network) :
    network.Spares (Resolution.resolve (serve key) root autoRefreshed network).2 := by
  refine Resolution.run_keeps (motive := fun _ after => network.Spares after)
    (fun progress between before => before.trans ?_) (Nat.le_refl _) (.refl network)
  have asked {α : Type} (request : Request α) (notWatch : request.kind ≠ .watch) :
      between.Spares (serve key request between).2 := spares_request key notWatch between
  rcases progress.step_state (serve key) root autoRefreshed between with
    same | ⟨α, request, notWatch, served⟩
  · rw [same]
    exact .refl between
  · rw [served]
    exact spares_request key notWatch between

end Network

end LiveConfig
