import LiveConfig.Retry

/-!
Contract: what the run of an operation under a policy comes to.

A run makes attempts until one has an outcome that is not worth another, or until the policy allows no
further retry. Owns: the result, the number of attempts and the pauses of every run, and that a run whose
attempts all fail in passing never ends under a policy without bound. Does not own: the clock.

The retry counter is a word. A bounded policy reads it, but stops before the word is full. A policy without
bound never reads it: where sums wrap, both go by the number of the attempt; where overflow is checked, a
policy without bound is given up when its counter is full.
-/

namespace LiveConfig.RetryPolicy

variable {α : Type} {policy : RetryPolicy} {rule : OverflowRule} {outcome : Nat → Except StoreError α}
  {result : Except StoreError α} {attempt last interval : Nat} {maxRetries : UInt32}

/-! ### Outcomes -/

/-- A counter that goes on goes on by one, whatever is done about overflow. -/
theorem OverflowRule.eq_of_next? {retry next : UInt32} (counted : rule.next? retry = some next) :
    next = retry + 1 := by
  cases rule with
  | wraps => exact (Option.some.inj counted).symm
  | traps =>
      rw [OverflowRule.next?] at counted
      split at counted
      · exact (Option.some.inj counted).symm
      · cases counted

end LiveConfig.RetryPolicy
