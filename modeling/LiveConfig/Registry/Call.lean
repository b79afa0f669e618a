import LiveConfig.Client.Start
import LiveConfig.ConfigError
import LiveConfig.Identity

/-!
Contract: the calls that registries serve and the shutdowns that end them, as progress made in steps.

A step lies between two points at which others on the same thread may run; what the world outside answers
to the one request that a step makes is given to it as `Surroundings`. Owns: how far a call or a shutdown
can have come, and the report of a shutdown. Does not own: the steps, and the points within them at which
other threads may get in between.
-/

namespace LiveConfig

/-- How far a call has come. -/
inductive CallProgress where
  /-- Nothing is done yet. -/
  | entering
  /-- Waiting in line for a cell. -/
  | queued (cell : Nat)
  /-- At work on a cell, about to build a client. -/
  | building (cell : Nat)
  /-- At work on a cell, starting the client that was built. -/
  | starting (cell client : Nat) (start : StartProgress)
  /-- At work on a cell, about to close the client whose start failed. -/
  | abandoning (cell client : Nat) (error : StoreError)
  /-- The cell is filled; about to look whether the registry is shut down. -/
  | served (cell client : Nat)
  /-- The registry is shut down; about to close the client. -/
  | retiring (client : Nat)
  /-- Over. -/
  | finished (result : Except ConfigError Nat)

/-- The cell that a call is at work on. -/
def CallProgress.cell? : CallProgress → Option Nat
  | .building cell | .starting cell _ _ | .abandoning cell _ _ => some cell
  | .entering | .queued _ | .served .. | .retiring _ | .finished _ => none

/-- A call for the client of an identity. -/
structure Call where
  identity : Identity
  progress : CallProgress

/-- What the world outside answers to the one request that a step may make. -/
structure Surroundings where
  /-- A refusal that comes before the request reaches a client. -/
  refusal : Option StoreError
  /-- The store behind an endpoint, for a request to build a client. -/
  endpoint : Except StoreError String
  /-- The outcome of an attempt to connect, with the position in the feed. -/
  connection : Except StoreError Nat
  closeFails : Bool

/-- What a shutdown did with the clients that it took out, each list in ascending order of
identities. -/
structure ShutdownReport where
  closed : List Identity
  /-- Clients that were not started, and left alone. -/
  skipped : List Identity
  /-- What became of the clients that could not be closed. -/
  failures : List ConfigError
deriving DecidableEq, Repr

namespace ShutdownReport

/-- The report of a shutdown that had nothing to do. -/
def empty : ShutdownReport := ⟨[], [], []⟩

instance : Inhabited ShutdownReport := ⟨empty⟩

/-- Whether every client that had to be closed was. -/
def isClean (report : ShutdownReport) : Bool := report.failures.isEmpty

end ShutdownReport

/-- How far a shutdown has come. -/
inductive ShutdownProgress where
  /-- Nothing is done yet, on behalf of a coordinator. -/
  | entering (coordinator : Nat)
  /-- About to deal with the first of the clients that are left. -/
  | closing (left : List (Identity × Nat)) (report : ShutdownReport)
  /-- Over. -/
  | finished (report : ShutdownReport)

end LiveConfig
