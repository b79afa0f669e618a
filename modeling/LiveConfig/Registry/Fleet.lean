import LiveConfig.Registry.Basic
import LiveConfig.Registry.Call

/-!
Contract: calls to a registry for the client of an identity.

A call finds the cached client, or waits for the call that builds it, or builds and starts one itself.
A call that fails leaves the cell empty and hands it to the call that has waited longest. A call that
has its client looks once more whether the registry is shut down; if so, it closes the client and
fails. Owns: the fleet of clients, registry, calls and shutdowns, and the steps of calls on one thread,
with their parts. Does not own: the order of those parts among several threads.
-/

namespace LiveConfig

/-- All clients, the registry, the calls to it, and its shutdowns. -/
structure Fleet where
  /-- Every client that was ever made; a client's key is its place here. -/
  clients : List Client
  /-- The clients that the registry built, in that order. -/
  built : List Nat
  registry : Registry
  /-- Every call that was ever made; a call's key is its place here. -/
  calls : List Call
  /-- For each coordinator, whether it has run its shutdown. -/
  coordinators : List Bool
  /-- Every shutdown that was ever begun. -/
  shutdowns : List ShutdownProgress

namespace Fleet

/-- A fleet without clients, calls and coordinators. -/
def empty (retry : RetryPolicy) : Fleet := ⟨[], [], .empty retry, [], [], []⟩

instance : Inhabited Fleet := ⟨empty .default⟩

def client (fleet : Fleet) (key : Nat) : Client :=
  (fleet.clients[key]?).getD default

/-- The fleet with a client changed. -/
def setClient (fleet : Fleet) (key : Nat) (client : Client) : Fleet :=
  { fleet with clients := fleet.clients.set key client }

/-- The key of one more client, and the fleet with it. -/
def addClient (fleet : Fleet) (client : Client) : Nat × Fleet :=
  (fleet.clients.length, { fleet with clients := fleet.clients ++ [client] })

/-- The fleet with the progress of a call changed. -/
def setProgress (fleet : Fleet) (call : Nat) (progress : CallProgress) : Fleet :=
  { fleet with calls := fleet.calls.modify call fun old => { old with progress := progress } }

def updateCell (fleet : Fleet) (cell : Nat) (change : Cell → Cell) : Fleet :=
  { fleet with registry := fleet.registry.updateCell cell change }

/-- The error of a call to a registry that is shut down. -/
def shutDownError (identity : Identity) : ConfigError :=
  .connection identity.text (.closed "client registry is shut down")

/-- A request to close a client, which may be refused before it gets there. -/
def closeClient (fleet : Fleet) (key : Nat) (surroundings : Surroundings) :
    Except StoreError Unit × Fleet :=
  match surroundings.refusal with
  | some error => (.error error, fleet)
  | none =>
      let (result, client) := (fleet.client key).close surroundings.closeFails
      (result, fleet.setClient key client)

/-- Ends a call. -/
def finish (fleet : Fleet) (call : Nat) (result : Except ConfigError Nat) : Fleet :=
  fleet.setProgress call (.finished result)

/-- Hands an empty cell to the call that has waited longest, or to nobody. -/
def handOver (fleet : Fleet) (cell : Nat) : Fleet :=
  match (fleet.registry.cell cell).waiting with
  | [] => fleet.updateCell cell fun old => { old with busy := false }
  | next :: rest =>
      (fleet.updateCell cell fun old => { old with waiting := rest }).setProgress next
        (.building cell)

/-- Ends a call that failed at work on a cell. -/
def fail (fleet : Fleet) (call cell : Nat) (identity : Identity) (error : StoreError) : Fleet :=
  (fleet.finish call (.error (.connection identity.text error))).handOver cell

/-- Fills a cell with a started client; every call that waits for it is served. -/
def fill (fleet : Fleet) (call cell client : Nat) : Fleet :=
  let waiting := (fleet.registry.cell cell).waiting
  let filled := fleet.updateCell cell fun _ => ⟨some client, false, []⟩
  (call :: waiting).foldl (fun fleet served => fleet.setProgress served (.served cell client)) filled

/-- The cell of an identity, and the fleet in which the identity has a slot for it. -/
def takeSlot (fleet : Fleet) (identity : Identity) : Nat × Fleet :=
  let (cell, registry) := fleet.registry.openSlot identity
  (cell, { fleet with registry := registry })

/-- A call that has a cell looks what it holds. -/
def look (fleet : Fleet) (call cell : Nat) : Fleet :=
  match (fleet.registry.cell cell).client with
  | some client => fleet.setProgress call (.served cell client)
  | none =>
      if (fleet.registry.cell cell).busy then
        (fleet.updateCell cell fun old => { old with waiting := old.waiting ++ [call] }).setProgress
          call (.queued cell)
      else
        (fleet.updateCell cell fun old => { old with busy := true }).setProgress call
          (.building cell)

/-- A call looks whether the registry is shut down, and takes its slot if not. -/
def enter (fleet : Fleet) (call : Nat) (identity : Identity) : Fleet :=
  if fleet.registry.closing then fleet.finish call (.error (shutDownError identity))
  else
    let (cell, opened) := fleet.takeSlot identity
    opened.look call cell

/-- A call builds a client. -/
def build (fleet : Fleet) (call cell : Nat) (identity : Identity) (surroundings : Surroundings) :
    Fleet :=
  match surroundings.refusal, surroundings.endpoint with
  | some error, _ | none, .error error => fleet.fail call cell identity error
  | none, .ok store =>
      let (client, grown) :=
        fleet.addClient (.fresh identity.connectString store fleet.registry.retry)
      { grown with built := fleet.built ++ [client] }.setProgress call
        (.starting cell client .entering)

/-- A call goes on with the start of its client. -/
def continueStart (fleet : Fleet) (call cell client : Nat) (start : StartProgress)
    (surroundings : Surroundings) : Fleet :=
  match start, surroundings.refusal with
  | .finished (.ok ()), _ => fleet.fill call cell client
  | .finished (.error error), _ => fleet.setProgress call (.abandoning cell client error)
  | .entering, some error => fleet.setProgress call (.abandoning cell client error)
  | _, _ =>
      let (next, changed) := start.step (fleet.client client) surroundings.connection
      (fleet.setClient client changed).setProgress call (.starting cell client next)

/-- A call closes the client whose start failed, unless it is closed already, and fails with the error
of the start. -/
def abandon (fleet : Fleet) (call cell client : Nat) (identity : Identity) (error : StoreError)
    (surroundings : Surroundings) : Fleet :=
  let closed :=
    if (fleet.client client).state = .closed then fleet
    else (fleet.closeClient client surroundings).2
  closed.fail call cell identity error

/-- A call that has its client looks whether the registry is shut down. -/
def conclude (fleet : Fleet) (call cell client : Nat) (identity : Identity) : Fleet :=
  if fleet.registry.closing then
    { fleet with registry := fleet.registry.closeSlot identity cell }.setProgress call
      (.retiring client)
  else fleet.finish call (.ok client)

/-- A call closes its client because the registry is shut down. -/
def retire (fleet : Fleet) (call client : Nat) (identity : Identity)
    (surroundings : Surroundings) : Fleet :=
  (fleet.closeClient client surroundings).2.finish call (.error (shutDownError identity))

/-- One step of a call. A call that waits in line, or is over, does nothing of its own accord. -/
def advance (fleet : Fleet) (key : Nat) (surroundings : Surroundings) : Fleet :=
  match fleet.calls[key]? with
  | none => fleet
  | some call =>
      match call.progress with
      | .entering => fleet.enter key call.identity
      | .queued _ => fleet
      | .building cell => fleet.build key cell call.identity surroundings
      | .starting cell client start => fleet.continueStart key cell client start surroundings
      | .abandoning cell client error =>
          fleet.abandon key cell client call.identity error surroundings
      | .served cell client => fleet.conclude key cell client call.identity
      | .retiring client => fleet.retire key client call.identity surroundings
      | .finished _ => fleet

/-- The key of one more call, and the fleet with it. -/
def request (fleet : Fleet) (identity : Identity) : Nat × Fleet :=
  (fleet.calls.length, { fleet with calls := fleet.calls ++ [⟨identity, .entering⟩] })

/-- The result of a call that is over. -/
def result? (fleet : Fleet) (call : Nat) : Option (Except ConfigError Nat) :=
  match fleet.calls[call]? with
  | some ⟨_, .finished result⟩ => some result
  | _ => none

/-- The place of a client among the built ones. -/
def builtIndex? (fleet : Fleet) (client : Nat) : Option Nat :=
  fleet.built.findIdx? (· = client)

end Fleet

end LiveConfig
