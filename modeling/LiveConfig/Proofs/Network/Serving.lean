import LiveConfig.Network.Units
import LiveConfig.Proofs.Entries
import LiveConfig.Proofs.Registry.Closes
import LiveConfig.Proofs.Resolution.Steps

/-!
Contract: a network that lets the requests of a started client through to its store.

Owns: what it means that nothing stands between a client and its store, that requests are then answered
as the store answers them, and that neither they nor the making and letting go of units change this. Does
not own: what the store answers.
-/

namespace LiveConfig

/-- A started client serves every request but watches as its store does. -/
theorem Client.serve_of_started {α : Type} {client : Client} (started : client.state = .started)
    {request : Request α} (notWatch : request.kind ≠ .watch) (store : Store) :
    client.serve request store =
      ((Store.serve request store).1, client, (Store.serve request store).2) := by
  cases request with
  | watch path listener => exact absurd rfl notWatch
  | «exists» path => simp [Client.serve, requireStarted, started, Store.serve]
  | create path data => simp [Client.serve, requireStarted, started, Store.serve]
  | read path => simp [Client.serve, requireStarted, started, Store.serve]
  | list path => simp [Client.serve, requireStarted, started, Store.serve]

/-- A started client takes every watch on an accepted path. -/
theorem Client.serve_watch {client : Client} (started : client.state = .started) {path : String}
    (valid : Path.validate path = .ok ()) (listener : Listener) (store : Store) :
    ∃ watches next, client.serve (.watch path listener) store =
      (.ok client.nextWatch, { client with watches := watches, nextWatch := next }, store) := by
  refine ⟨client.watches ++ [⟨client.nextWatch, path, listener⟩], client.nextWatch + 1, ?_⟩
  simp [Client.serve, requireStarted, started, Client.watch, valid]

namespace Network

/-- A client that is started and held over the store of a name, with no fault between them. -/
structure Serving (network : Network) (key : Nat) (name : String) (store : Store) : Prop where
  started : (network.client key).state = .started
  held : network.isHeld key
  faultless : network.faults = []
  named : (network.client key).store = name
  behind : network.store name = store

variable {network : Network} {key : Nat} {name : String} {store : Store}

theorem client_setClient (network : Network) (key : Nat) (client : Client) (other : Nat) :
    (network.setClient key client).client other =
      if other = key ∧ key < network.fleet.clients.length then client else network.client other :=
  Fleet.client_setClient network.fleet key client other

theorem store_setStore (network : Network) (name other : String) (store : Store) :
    (network.setStore name store).store other =
      if other = name then store else network.store other := by
  simp only [Network.store, setStore, Entries.find?_insert]
  split <;> rfl

section Surroundings

variable (kind : Option CallKind) (connectString store : String)

@[simp] theorem surroundings_fleet :
    (network.surroundings kind connectString store).2.fleet = network.fleet := by
  cases kind <;> rfl

@[simp] theorem surroundings_departed :
    (network.surroundings kind connectString store).2.departed = network.departed := by
  cases kind <;> rfl

@[simp] theorem surroundings_unitCount :
    (network.surroundings kind connectString store).2.unitCount = network.unitCount := by
  cases kind <;> rfl

end Surroundings

/-- Where no faults are laid up, a request reaches the client. -/
theorem serve_eq {α : Type} (faultless : network.faults = []) (request : Request α) :
    serve key request network =
      (((network.client key).serve request (network.storeOf key)).1,
        (network.setClient key ((network.client key).serve request (network.storeOf key)).2.1).setStore
          (network.client key).store ((network.client key).serve request (network.storeOf key)).2.2) := by
  have unmet : network.meetFaults (network.client key).connectString request.kind request.path =
      (none, network) := by
    rw [meetFaults, faultless, Fault.meetAll, ← faultless]
  simp only [serve, unmet, storeOf]

namespace Serving

theorem storeOf (serving : Serving network key name store) : network.storeOf key = store := by
  rw [Network.storeOf, serving.named, serving.behind]

theorem congr {after : Network} (serving : Serving network key name store)
    (stores : after.stores = network.stores) (fleet : after.fleet = network.fleet)
    (faults : after.faults = network.faults) (departed : after.departed = network.departed) :
    Serving after key name store := by
  obtain ⟨started, held, faultless, named, behind⟩ := serving
  constructor
  · rw [Network.client, fleet]
    exact started
  · rw [isHeld, departed]
    exact held
  · rw [faults, faultless]
  · rw [Network.client, fleet]
    exact named
  · rw [Network.store, stores]
    exact behind

/-- A client that is changed, but remains started over the same store. -/
theorem setClient (serving : Serving network key name store) {changed : Nat} {client : Client}
    (state : client.state = (network.client changed).state)
    (sameStore : client.store = (network.client changed).store) :
    Serving (network.setClient changed client) key name store := by
  have unchanged : ((network.setClient changed client).client key).state =
        (network.client key).state ∧
      ((network.setClient changed client).client key).store = (network.client key).store := by
    rw [client_setClient]
    split
    · rename_i both
      rw [both.1]
      exact ⟨state, sameStore⟩
    · exact ⟨rfl, rfl⟩
  exact ⟨unchanged.1.trans serving.started, serving.held, serving.faultless,
    unchanged.2.trans serving.named, serving.behind⟩

theorem setStore (serving : Serving network key name store) (after : Store) :
    Serving (network.setStore name after) key name after :=
  ⟨serving.started, serving.held, serving.faultless, serving.named, by
    rw [store_setStore, if_pos rfl]⟩

/-! ### Requests -/

/-- A request is answered by the store. -/
theorem serve (serving : Serving network key name store) {α : Type} (request : Request α)
    (notWatch : request.kind ≠ .watch) :
    (Network.serve key request network).1 = (Store.serve request store).1 ∧
      Serving (Network.serve key request network).2 key name (Store.serve request store).2 := by
  rw [serve_eq serving.faultless, serving.storeOf, serving.named,
    Client.serve_of_started serving.started notWatch]
  exact ⟨rfl, (serving.setClient rfl rfl).setStore _⟩

theorem serve_watch (serving : Serving network key name store) {path : String}
    (valid : Path.validate path = .ok ()) (listener : Listener) :
    ∃ id after, Network.serve key (.watch path listener) network = (.ok id, after) ∧
      Serving after key name store := by
  obtain ⟨watches, next, answered⟩ := Client.serve_watch serving.started valid listener store
  rw [serve_eq serving.faultless, serving.storeOf, serving.named, answered]
  have still : Serving (network.setClient key
      { network.client key with watches := watches, nextWatch := next }) key name store :=
    serving.setClient rfl rfl
  exact ⟨_, _, rfl, still.setStore store⟩

theorem agree {α : Type} (request : Request α) (notWatch : request.kind ≠ .watch) :
    Resolution.Agree (Network.serve key) Store.serve
      (fun network store => Serving network key name store) request :=
  fun _ _ serving => serving.serve request notWatch

/-- A step of a resolution over the client goes as it goes over the store, so that the resolutions of a
client and its rivals take turns as they do over the store alone. -/
theorem step (serving : Serving network key name store) (root : String) (autoRefreshed : Bool)
    (progress : Resolution) :
    (progress.step (Network.serve key) root autoRefreshed network).1 =
        (progress.step Store.serve root autoRefreshed store).1 ∧
      Serving (progress.step (Network.serve key) root autoRefreshed network).2 key name
        (progress.step Store.serve root autoRefreshed store).2 :=
  Resolution.step_agree _ (fun path => agree (.exists path) nofun)
    (fun path data => agree (.create path data) nofun) (fun path => agree (.list path) nofun)
    root autoRefreshed serving progress

theorem resolve (serving : Serving network key name store) {root : String} {autoRefreshed : Bool}
    {result : Except ConfigError RootState} {final : Store}
    (resolves : Resolution.resolve Store.serve root autoRefreshed store = (result, final)) :
    ∃ after, Resolution.resolve (Network.serve key) root autoRefreshed network = (result, after) ∧
      Serving after key name final := by
  obtain ⟨sameResult, still⟩ :=
    Resolution.run_agree _ (fun path => agree (.exists path) nofun)
      (fun path data => agree (.create path data) nofun) (fun path => agree (.list path) nofun)
      root autoRefreshed serving (Resolution.stepBound root) .entering
  rw [Resolution.resolve] at resolves
  rw [resolves] at sameResult still
  exact ⟨_, Prod.ext sameResult rfl, still⟩

/-! ### Units -/

theorem release (serving : Serving network key name store) (unit : ConfigUnit) :
    Serving (network.release unit) key name store := by
  unfold Network.release
  split
  · exact serving
  · split
    · exact serving.setClient rfl rfl
    · exact serving

theorem releaseAll (serving : Serving network key name store) (units : List ConfigUnit) :
    Serving (network.releaseAll units) key name store := by
  induction units generalizing network with
  | nil => exact serving
  | cons unit rest inductionHypothesis => exact inductionHypothesis (serving.release unit)

end Serving

end Network

end LiveConfig
