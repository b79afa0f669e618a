import LiveConfig.Proofs.Host.Background
import LiveConfig.Proofs.Network.Assembly

/-!
Contract: background work without faults writes nothing.

While a host waits for a call, dispatchers, calls, starts, shutdowns and timers go on. As long as no
faults are laid up, none of them writes to a store; a timer may let a store accept connections. Owns: this
invariant for each step of background work. Does not own: what becomes of the call.
-/

namespace LiveConfig

namespace Network

/-- No faults are laid up, and the stores are as they were but for the connections they accept. -/
structure Undisturbed (stores : String → Store) (network : Network) : Prop where
  faultless : network.faults = []
  stores : ∀ name, (stores name).SameBut (network.store name)

namespace Undisturbed

variable {stores : String → Store} {network : Network} (undisturbed : Undisturbed stores network)

include undisturbed

theorem congr {after : Network} (sameFaults : after.faults = network.faults)
    (sameStores : after.stores = network.stores) : Undisturbed stores after := by
  refine ⟨sameFaults.trans undisturbed.faultless, fun name => ?_⟩
  have same : after.store name = network.store name := by rw [Network.store, sameStores]; rfl
  rw [same]
  exact undisturbed.stores name

theorem surroundings (kind : Option CallKind) (connectString store : String) :
    Undisturbed stores (network.surroundings kind connectString store).2 := by
  have unmet : ∀ kind, (network.meetFaults connectString kind "").2 = network := by
    intro kind
    rw [meetFaults, undisturbed.faultless, Fault.meetAll, ← undisturbed.faultless]
  cases kind with
  | none => exact undisturbed
  | some kind =>
      change Undisturbed stores (network.meetFaults connectString kind "").2
      rwa [unmet]

theorem advanceCall (key : Nat) : Undisturbed stores (network.advanceCall key) := by
  unfold Network.advanceCall
  split
  · exact undisturbed
  · exact (undisturbed.surroundings _ _ _).congr rfl rfl

theorem advanceStart (key : Nat) (progress : StartProgress) :
    Undisturbed stores (network.advanceStart key progress).2 := by
  have around := fun kind =>
    undisturbed.surroundings kind (network.client key).connectString (network.client key).store
  simp only [Network.advanceStart]
  split
  · exact around _
  · exact (around _).congr rfl rfl

theorem advanceShutdown (key : Nat) : Undisturbed stores (network.advanceShutdown key) := by
  unfold Network.advanceShutdown
  split
  · exact (undisturbed.surroundings _ _ _).congr rfl rfl
  · exact (undisturbed.surroundings _ _ _).congr rfl rfl

theorem openStore (name : String) :
    Undisturbed stores (network.setStore name { network.store name with available := true }) := by
  refine ⟨undisturbed.faultless, fun other => ?_⟩
  rw [store_setStore]
  split
  · rename_i same
    rw [same]
    exact (undisturbed.stores name).trans ⟨true, rfl⟩
  · exact undisturbed.stores other

end Undisturbed

end Network

namespace Host

variable {stores : String → Store} {host : Host}

/-- No step of background work disturbs a network without faults. -/
theorem steady_undisturbed (stores : String → Store) :
    Steady fun network _ => network.Undisturbed stores where
  request _ undisturbed := undisturbed.congr rfl rfl
  advanceCall key undisturbed := undisturbed.advanceCall key
  advanceStart key progress undisturbed := undisturbed.advanceStart key progress
  beginShutdown _ undisturbed := undisturbed.congr rfl rfl
  advanceShutdown key undisturbed := undisturbed.advanceShutdown key
  openStore name undisturbed := undisturbed.openStore name
  dispatch _ undisturbed dispatched := by
    obtain ⟨_, -, sameNetwork⟩ := Option.map_eq_some_iff.mp dispatched
    cases sameNetwork
    exact undisturbed.congr rfl rfl
  tell _ _ undisturbed := undisturbed.congr rfl rfl

/-- A call that a host waits for writes nothing. -/
theorem call_undisturbed (identity : Identity) (undisturbed : host.network.Undisturbed stores) :
    (host.call identity).2.network.Undisturbed stores :=
  (steady_undisturbed stores).call identity undisturbed

end Host

end LiveConfig
