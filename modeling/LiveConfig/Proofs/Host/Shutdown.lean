import LiveConfig.Host.Calls
import LiveConfig.Proofs.Network.Serving
import LiveConfig.Proofs.Registry.OneClient
import LiveConfig.Proofs.Registry.Reports

/-!
Contract: the reports of shutdowns share out the clients of a registry.

Shutdowns are called for, or run by hooks that were triggered; either way they take their turns among
everybody who has a client. Owns: that the shutdowns of hosts and of hooks are such turns, and what the
reports say. Does not own: when hooks look for their triggers.
-/

namespace LiveConfig

/-! ### Shutdowns in turns -/

namespace Network

end Network

namespace Host

end Host

/-! ### Reports -/

namespace Dealing

end Dealing

namespace Fleet

variable {fleet : Fleet} {key : Nat} {taken : List (Identity × Nat)} {dealings : List Dealing}
  {steps : Nat}

theorem report?_eq_some_iff {report : ShutdownReport} :
    fleet.report? key = some report ↔ fleet.shutdowns[key]? = some (.finished report) := by
  unfold report?
  split
  · rename_i found
    simp [found]
  · rename_i notFinished
    exact ⟨nofun, fun found => absurd found (notFinished report)⟩

namespace Taken

/-- A shutdown that has taken a step for every client and one more is over. -/
theorem reported (held : fleet.Taken key taken dealings steps) (enough : taken.length < steps) :
    (fleet.report? key).isSome := by
  obtain ⟨progress, found, deals⟩ := held.own
  cases deals with
  | closing left share count =>
      have length := congrArg List.length share
      simp only [List.length_append, List.length_map] at length
      omega
  | finished => simp [report?_eq_some_iff.mpr found]

section Drained

variable {first : Fleet} (housed : first.Housed)
  (held : fleet.Taken key first.registry.drain.1 dealings steps)

include housed held

end Drained

end Taken

end Fleet

end LiveConfig
