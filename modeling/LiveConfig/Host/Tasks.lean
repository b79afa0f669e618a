import LiveConfig.Host.Basic

/-!
Contract: how a host gets on with its background work.

A task runs until it is over or has to wait: for its turn at a cell, for a pause, for news, for its
trigger. Owns: the run of each kind of task, the settling of all work that can be done now, and waiting
while time passes.
-/

namespace LiveConfig

/-- How many steps a start takes at most before it is over or pauses. Only a policy without pauses
needs more than a few. -/
def RetryPolicy.stepBound : RetryPolicy → Nat
  | .bounded maxRetries 0 => 2 * maxRetries.toNat + 16
  | .bounded .. | .forever _ => 16

/-- The pause that a start has come to. -/
def StartProgress.pause? : StartProgress → Option Nat
  | .pausing _ pause => some pause
  | .entering | .connecting _ | .finished _ => none

namespace CallProgress

/-- The pause that a call has come to. -/
def pause? : CallProgress → Option Nat
  | .starting _ _ start => start.pause?
  | .entering | .queued _ | .building _ | .abandoning .. | .served .. | .retiring _ | .finished _ => none

end CallProgress

namespace Host

/-- How far a call has come; one that was never made is over. -/
def progressOf (host : Host) (key : Nat) : CallProgress :=
  match host.network.fleet.calls[key]? with
  | some call => call.progress
  | none => .finished (.ok 0)

/-- The calls that wait for the cell that a call is at work on. -/
def waitingFor (host : Host) (progress : CallProgress) : List Nat :=
  match progress.cell? with
  | some cell => (host.network.fleet.registry.cell cell).waiting
  | none => []

/-- One step of a call. The calls that it lets go on can be done now. -/
def stepCall (host : Host) (key : Nat) : Host :=
  let progress := host.progressOf key
  let after := host.adopt (host.network.advanceCall key)
  let woken := (host.waitingFor progress).filter (!(after.waitingFor progress).contains ·)
  after.enqueue (woken.map .call)

/-- The host with the outcome of a call noted. -/
def noteOutcome (host : Host) (key : Nat) (result : Except ConfigError Nat) : Host :=
  let outcome := result.map fun client => (client, (host.network.client client).state)
  { host with outcomes := host.outcomes ++ [(key, outcome)] }

/-- A call runs until it is over or waits. -/
def runCall (key : Nat) : (fuel : Nat) → Host → Host
  | 0, host => host
  | fuel + 1, host =>
      let after := host.stepCall key
      match after.progressOf key with
      | .finished result => after.noteOutcome key result
      | .queued _ => after
      | progress =>
          match progress.pause? with
          | none | some 0 => runCall key fuel after
          | some pause => { after with agenda := after.agenda.postpone pause (.call key) }

/-- A start runs until it is over or pauses. -/
def runStart (key : Nat) : (fuel : Nat) → Host → Host
  | 0, host => host
  | fuel + 1, host =>
      match host.starts[key]? with
      | none => host
      | some run =>
          let (progress, adopted) := host.perform fun network =>
            network.advanceStart run.client run.progress
          let after := { adopted with starts := adopted.starts.set key ⟨run.client, progress⟩ }
          match progress, progress.pause? with
          | .finished _, _ => after
          | _, none | _, some 0 => runStart key fuel after
          | _, some pause => { after with agenda := after.agenda.postpone pause (.start key) }

/-- A dispatcher runs until it finds nothing, and falls asleep then. -/
def runDispatcher (client : Nat) : (fuel : Nat) → Host → Host
  | 0, host => host
  | fuel + 1, host =>
      match host.network.dispatchNext? client host.isAlive with
      | none => { host with asleep := host.asleep ++ [client] }
      | some (deliveries, network) =>
          runDispatcher client fuel (deliveries.foldl deliver { host with network := network })

/-- Shuts the registry down on behalf of a coordinator, and answers the key of the shutdown. -/
def shutDown (host : Host) (coordinator : Nat) : Nat × Host :=
  host.perform fun network => network.shutDown coordinator

/-- A hook looks for its trigger, and shuts the registry down if it finds it. -/
def runHook (host : Host) (key : Nat) : Host :=
  match host.hooks[key]? with
  | none => host
  | some hook =>
      if hook.triggered then
        let (shutdown, after) := host.shutDown hook.coordinator
        { after with hooks := after.hooks.set key { hook with shutdown := some shutdown } }
      else { host with hooks := host.hooks.set key { hook with asleep := true } }

/-- A store begins to accept connections. -/
def openStore (host : Host) (name : String) : Host :=
  { host with network :=
      host.network.setStore name { host.network.store name with available := true } }

/-- A task runs until it is over or waits. -/
def runTask (host : Host) : Task → Host
  | .dispatch client =>
      runDispatcher client ((host.network.storeOf client).feed.size + 2) host
  | .call key => runCall key host.network.fleet.registry.retry.stepBound host
  | .start key =>
      match host.starts[key]? with
      | none => host
      | some run => runStart key (host.network.client run.client).retry.stepBound host
  | .hook key => host.runHook key
  | .unlock store => host.openStore store

/-- Runs tasks that can be done now, so many at most. -/
def runReady : (fuel : Nat) → Host → Host
  | 0, host => host
  | fuel + 1, host =>
      match host.agenda.take? with
      | none => host
      | some (task, agenda) => runReady fuel ({ host with agenda := agenda }.runTask task)

/-- How many tasks run at most before everything waits: a call is let go on at most once and starts one
dispatcher, and everything else runs once. -/
def taskBound (host : Host) : Nat :=
  host.agenda.ready.length + 4 * (host.network.fleet.calls.length + host.network.fleet.clients.length) +
    host.hooks.length

/-- Runs tasks until everything waits. -/
def settle (host : Host) : Host := runReady host.taskBound host

/-- Lets time pass until the next timers, then runs tasks until everything waits. -/
def wake (host : Host) (moment : Nat) : Host :=
  settle { host with agenda := host.agenda.advance moment }

/-- Waits until something is the case or nothing is left to wait for, through so many moments at
most. -/
def waitThrough (isOver : Host → Bool) : (moments : Nat) → Host → Host
  | 0, host => host
  | moments + 1, host =>
      if isOver host then host
      else
        match host.agenda.nextDue? with
        | none => host
        | some due => waitThrough isOver moments (host.wake due)

/-- How many milliseconds a host waits at most. -/
def patience : Nat := 3600000

/-- Waits until something is the case. Nothing is done for it that need not be done. -/
def waitUntil (host : Host) (isOver : Host → Bool) : Host :=
  if isOver host then host else waitThrough isOver patience host.settle

/-- Lets time pass through so many moments at most, up to one of them. -/
def passThrough (target : Nat) : (moments : Nat) → Host → Host
  | 0, host => host
  | moments + 1, host =>
      match host.agenda.nextDue? with
      | some due =>
          if due ≤ target then passThrough target moments (host.wake due)
          else { host with agenda := host.agenda.advance target }
      | none => { host with agenda := host.agenda.advance target }

/-- Lets so many milliseconds pass. -/
def pass (host : Host) (span : Nat) : Host :=
  passThrough (host.agenda.now + span) (span + 1) host.settle

end Host

end LiveConfig
