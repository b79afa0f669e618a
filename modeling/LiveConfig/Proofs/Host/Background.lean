import LiveConfig.Host.Calls
import LiveConfig.Host.Clients

/-!
Contract: what background work keeps.

Dispatchers, calls, starts, hooks and timers change the network and what is held of units by few kinds of
step, of which each task takes one after the other. Owns: these kinds of step, and that whatever all of
them keep is kept by tasks, by waiting, and by the calls, starts and shutdowns that a host waits for. Does
not own: what the steps keep.
-/

namespace LiveConfig.Host

/-- What each step of background work keeps of a network and of what is held of units. -/
structure Steady (kept : Network → Holdings → Prop) : Prop where
  request : ∀ {network holdings} identity, kept network holdings →
    kept { network with fleet := (network.fleet.request identity).2 } holdings
  advanceCall : ∀ {network holdings} key, kept network holdings →
    kept (network.advanceCall key) holdings
  advanceStart : ∀ {network holdings} key progress, kept network holdings →
    kept (network.advanceStart key progress).2 holdings
  beginShutdown : ∀ {network holdings} coordinator, kept network holdings →
    kept { network with fleet := (network.fleet.beginShutdown coordinator).2 } holdings
  advanceShutdown : ∀ {network holdings} key, kept network holdings →
    kept (network.advanceShutdown key) holdings
  openStore : ∀ {network holdings} name, kept network holdings →
    kept (network.setStore name { network.store name with available := true }) holdings
  dispatch : ∀ {network after holdings client isAlive deliveries},
    (∀ key, isAlive (.unit key) = holdings.hasUnit key) → kept network holdings →
    network.dispatchNext? client isAlive = some (deliveries, after) → kept after holdings
  tell : ∀ {network holdings key unit} event, holdings.unit? key = some unit →
    kept network holdings →
    kept (network.publish unit.channel (unit.receive event).2)
      (holdings.setUnit (unit.receive event).1)

namespace Steady

variable {kept : Network → Holdings → Prop} (steady : Steady kept) {host : Host}

include steady

/-! ### Tasks -/

theorem runCall (key fuel : Nat) (before : kept host.network host.holdings) :
    kept (Host.runCall key fuel host).network (Host.runCall key fuel host).holdings := by
  induction fuel generalizing host with
  | zero => exact before
  | succ fuel inductionHypothesis =>
      have stepped : kept (host.stepCall key).network (host.stepCall key).holdings :=
        steady.advanceCall key before
      unfold Host.runCall
      dsimp only
      split
      · exact stepped
      · exact stepped
      · split
        · exact inductionHypothesis stepped
        · exact inductionHypothesis stepped
        · exact stepped

theorem runStart (key fuel : Nat) (before : kept host.network host.holdings) :
    kept (Host.runStart key fuel host).network (Host.runStart key fuel host).holdings := by
  induction fuel generalizing host with
  | zero => exact before
  | succ fuel inductionHypothesis =>
      unfold Host.runStart
      split
      · exact before
      · rename_i run _
        have stepped := steady.advanceStart run.client run.progress before
        dsimp only [perform]
        split
        · exact stepped
        · exact inductionHypothesis stepped
        · exact inductionHypothesis stepped
        · exact stepped

theorem deliver (delivery : Delivery) (before : kept host.network host.holdings) :
    kept (host.deliver delivery).network (host.deliver delivery).holdings := by
  unfold Host.deliver
  split
  · unfold tellUnit
    split
    · exact before
    · rename_i found
      exact steady.tell delivery.event found before
  · exact before

theorem deliverEach (deliveries : List Delivery) (before : kept host.network host.holdings) :
    kept (deliveries.foldl Host.deliver host).network
      (deliveries.foldl Host.deliver host).holdings := by
  induction deliveries generalizing host with
  | nil => exact before
  | cons delivery rest inductionHypothesis =>
      exact inductionHypothesis (steady.deliver delivery before)

theorem runDispatcher (client fuel : Nat) (before : kept host.network host.holdings) :
    kept (Host.runDispatcher client fuel host).network
      (Host.runDispatcher client fuel host).holdings := by
  induction fuel generalizing host with
  | zero => exact before
  | succ fuel inductionHypothesis =>
      unfold Host.runDispatcher
      split
      · exact before
      · rename_i deliveries after dispatched
        have moved : kept after host.holdings :=
          steady.dispatch (fun _ => rfl) before dispatched
        exact inductionHypothesis (steady.deliverEach deliveries moved)

theorem runShutdown {network : Network} {holdings : Holdings} (key fuel : Nat)
    (before : kept network holdings) : kept (network.runShutdown key fuel) holdings := by
  induction fuel generalizing network with
  | zero => exact before
  | succ fuel inductionHypothesis => exact inductionHypothesis (steady.advanceShutdown key before)

theorem shutDown (coordinator : Nat) (before : kept host.network host.holdings) :
    kept (host.shutDown coordinator).2.network (host.shutDown coordinator).2.holdings :=
  steady.runShutdown _ _ (steady.beginShutdown coordinator before)

theorem runHook (key : Nat) (before : kept host.network host.holdings) :
    kept (host.runHook key).network (host.runHook key).holdings := by
  unfold Host.runHook
  split
  · exact before
  · split
    · exact steady.shutDown _ before
    · exact before

theorem runTask (task : Task) (before : kept host.network host.holdings) :
    kept (host.runTask task).network (host.runTask task).holdings := by
  cases task with
  | dispatch client => exact steady.runDispatcher client _ before
  | call key => exact steady.runCall key _ before
  | start key =>
      simp only [Host.runTask]
      split
      · exact before
      · exact steady.runStart key _ before
  | hook key => exact steady.runHook key before
  | unlock store => exact steady.openStore store before

/-! ### Waiting -/

theorem runReady (fuel : Nat) (before : kept host.network host.holdings) :
    kept (Host.runReady fuel host).network (Host.runReady fuel host).holdings := by
  induction fuel generalizing host with
  | zero => exact before
  | succ fuel inductionHypothesis =>
      unfold Host.runReady
      split
      · exact before
      · exact inductionHypothesis (steady.runTask _ before)

theorem settle (before : kept host.network host.holdings) :
    kept host.settle.network host.settle.holdings :=
  steady.runReady _ before

theorem waitThrough (isOver : Host → Bool) (moments : Nat)
    (before : kept host.network host.holdings) :
    kept (Host.waitThrough isOver moments host).network
      (Host.waitThrough isOver moments host).holdings := by
  induction moments generalizing host with
  | zero => exact before
  | succ moments inductionHypothesis =>
      unfold Host.waitThrough
      split
      · exact before
      · split
        · exact before
        · exact inductionHypothesis (steady.runReady _ before)

theorem waitUntil (isOver : Host → Bool) (before : kept host.network host.holdings) :
    kept (host.waitUntil isOver).network (host.waitUntil isOver).holdings := by
  unfold Host.waitUntil
  split
  · exact before
  · exact steady.waitThrough _ _ (steady.settle before)

theorem passThrough (target moments : Nat) (before : kept host.network host.holdings) :
    kept (Host.passThrough target moments host).network
      (Host.passThrough target moments host).holdings := by
  induction moments generalizing host with
  | zero => exact before
  | succ moments inductionHypothesis =>
      unfold Host.passThrough
      split
      · split
        · exact inductionHypothesis (steady.runReady _ before)
        · exact before
      · exact before

theorem pass (span : Nat) (before : kept host.network host.holdings) :
    kept (host.pass span).network (host.pass span).holdings :=
  steady.passThrough _ _ (steady.settle before)

/-! ### Calls and starts -/

theorem call (identity : Identity) (before : kept host.network host.holdings) :
    kept (host.call identity).2.network (host.call identity).2.holdings := by
  have asked : kept (host.request identity).2.network (host.request identity).2.holdings :=
    steady.request identity before
  exact steady.waitUntil _ (steady.runTask _ asked)

theorem beginCalls (identities : List Identity) (before : kept host.network host.holdings) :
    kept (host.beginCalls identities).2.network (host.beginCalls identities).2.holdings := by
  have asked : ∀ {host : Host}, kept host.network host.holdings →
      kept (identities.foldl (fun host identity => (host.request identity).2) host).network
        (identities.foldl (fun host identity => (host.request identity).2) host).holdings := by
    induction identities with
    | nil => exact fun before => before
    | cons identity rest inductionHypothesis =>
        exact fun before => inductionHypothesis (steady.request identity before)
  exact steady.settle (asked before)

theorem awaitCalls (calls : List (Nat × Identity)) (before : kept host.network host.holdings) :
    kept (host.awaitCalls calls).2.network (host.awaitCalls calls).2.holdings :=
  steady.waitUntil _ before

theorem startClient (client parallel : Nat) (before : kept host.network host.holdings) :
    kept (host.startClient client parallel).2.network (host.startClient client parallel).2.holdings := by
  have begun : ∀ (starts : List Nat) {host : Host}, kept host.network host.holdings →
      kept (starts.foldl (fun host _ => host.beginStart client) host).network
        (starts.foldl (fun host _ => host.beginStart client) host).holdings := by
    intro starts
    induction starts with
    | nil => exact fun before => before
    | cons start rest inductionHypothesis =>
        intro host before
        apply inductionHypothesis
        exact steady.runTask (.start host.starts.length) before
  exact steady.waitUntil _ (begun _ before)

theorem awaitHook (key : Nat) (before : kept host.network host.holdings) :
    kept (host.awaitHook key).2.network (host.awaitHook key).2.holdings :=
  steady.waitUntil _ before

end Steady

end LiveConfig.Host
