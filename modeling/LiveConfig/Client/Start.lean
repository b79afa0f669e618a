import LiveConfig.Client.Basic

/-!
Contract: the start of a client as a call that may wait.

A start looks at the state of its client once, then tries to connect, waits between attempts as the
retry policy says, and looks at the state again when it is connected. Between these steps anything may
happen to the client and to its store, so each is a step of its own.

Owns: the steps of a start. Assumes: a build without overflow checks, in which the retry counter wraps
(`RetryPolicy.OverflowRule.wraps`). With them, a start under a policy without bound would be given up at its
last countable retry, as `RetryPolicy.run` says; no step of a start stands for that.
-/

namespace LiveConfig

inductive StartProgress where
  | entering
  /-- About to try to connect, after so many retries. -/
  | connecting (retry : UInt32)
  /-- Waiting for a pause before the next attempt. -/
  | pausing (retry : UInt32) (pause : Nat)
  | finished (result : Except StoreError Unit)

namespace StartProgress

/-- The first look at the client: a started one needs nothing, a closed one is refused. -/
def enter (client : Client) : StartProgress :=
  match client.state with
  | .created => .connecting 0
  | .started => .finished (.ok ())
  | .closed =>
      .finished (.error (.closed ("client for " ++ client.connectString ++ " was closed")))

/-- An attempt to connect with its outcome, which is the position in the feed on success. A client
that is no longer created when it is connected stays as it is. -/
def attempt (client : Client) (retry : UInt32) (outcome : Except StoreError Nat) :
    StartProgress × Client :=
  match outcome with
  | .ok position => (.finished (.ok ()), client.connected position)
  | .error error =>
      match client.retry.pauseAfter retry error with
      | some pause => (.pausing (retry + 1) pause, client)
      | none => (.finished (.error error), client)

/-- One step of a start, with the outcome of an attempt to connect for the case that it makes one. A
pause ends with the step. -/
def step (client : Client) (outcome : Except StoreError Nat) :
    StartProgress → StartProgress × Client
  | .entering => (enter client, client)
  | .connecting retry => attempt client retry outcome
  | .pausing retry _ => (.connecting retry, client)
  | .finished result => (.finished result, client)

end StartProgress

end LiveConfig
