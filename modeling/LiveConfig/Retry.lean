import LiveConfig.StoreError

/-!
Contract: how often and how long a client waits before it connects again.

Owns: the policies, the delay before each retry, and the run of an operation under a policy, for builds
with and without overflow checks. Does not own: the clock. A run reports how long it slept; whoever
drives a suspended operation decides when the sleep is over.
-/

namespace LiveConfig

/-- A fixed pause between attempts, without end or for a bounded number of retries. Pauses are in
milliseconds. -/
inductive RetryPolicy where
  | forever (interval : Nat)
  | bounded (maxRetries : UInt32) (interval : Nat)
deriving DecidableEq, Repr

namespace RetryPolicy

/-- The pause used when nothing else is asked for. -/
def defaultInterval : Nat := 300

/-- Retry without end at the default pause. -/
def default : RetryPolicy := .forever defaultInterval

instance : Inhabited RetryPolicy := ⟨default⟩

/-- The pause between attempts. -/
def interval : RetryPolicy → Nat
  | .forever interval => interval
  | .bounded _ interval => interval

/-- The pause before the retry of the given number, counted from zero; none when the policy allows
no such retry. -/
def pauseBefore (policy : RetryPolicy) (retry : UInt32) : Option Nat :=
  match policy with
  | .forever interval => some interval
  | .bounded maxRetries interval => if retry < maxRetries then some interval else none

/-- The pause after an attempt that failed with `error`, or none when the failure is final: only a
transient failure is worth another attempt. -/
def pauseAfter (policy : RetryPolicy) (retry : UInt32) (error : StoreError) : Option Nat :=
  if error.isTransient then policy.pauseBefore retry else none

/-- What a build does about a sum that is no word any more. -/
inductive OverflowRule where
  /-- It goes on with the sum's remainder: a build without overflow checks. -/
  | wraps
  /-- It gives the computation up: a build with overflow checks. -/
  | traps
deriving DecidableEq, Repr

/-- The retry counter after one more retry; none if the computation is given up at the sum. -/
def OverflowRule.next? (rule : OverflowRule) (retry : UInt32) : Option UInt32 :=
  match rule with
  | .wraps => some (retry + 1)
  | .traps => if retry.toNat + 1 < UInt32.size then some (retry + 1) else none

/-- How a run ends. -/
inductive Ending (α : Type) where
  | returned (result : Except StoreError α)
  /-- The run was given up when it counted its retries. -/
  | trapped

/-- What a finished run shows: how it ended, how many attempts it made, and the pauses between them, in
their order. -/
structure Report (α : Type) where
  ending : Ending α
  attempts : Nat
  pauses : List Nat

/-- How long a run slept in all. -/
def Report.slept {α : Type} (report : Report α) : Nat :=
  report.pauses.foldl (· + ·) 0

/-- The run of an operation whose attempt `n` has the outcome `outcome n`, from a point where
`attempts` were made. Every policy counts its retries, before it sleeps; only a bounded one reads the
count. -/
def runFrom {α : Type} (policy : RetryPolicy) (rule : OverflowRule)
    (outcome : Nat → Except StoreError α) :
    (fuel : Nat) → (retry : UInt32) → (attempts : Nat) → Option (Report α)
  | 0, _, _ => none
  | fuel + 1, retry, attempts =>
      match outcome attempts with
      | .ok value => some ⟨.returned (.ok value), attempts + 1, []⟩
      | .error error =>
          match policy.pauseAfter retry error with
          | none => some ⟨.returned (.error error), attempts + 1, []⟩
          | some pause =>
              match rule.next? retry with
              | none => some ⟨.trapped, attempts + 1, []⟩
              | some counted =>
                  (runFrom policy rule outcome fuel counted (attempts + 1)).map fun report =>
                    { report with pauses := pause :: report.pauses }

/-- The run of an operation for at most `fuel` attempts; none if it is still retrying then. -/
def run {α : Type} (policy : RetryPolicy) (rule : OverflowRule) (fuel : Nat)
    (outcome : Nat → Except StoreError α) : Option (Report α) :=
  policy.runFrom rule outcome fuel 0 0

end RetryPolicy

end LiveConfig
