/-!
Contract: work that waits, for its turn or for a moment.

Owns: the clock, the queue of work that can be done now, and the timers. Work is done in the order in
which it was queued; of timers that are due at one moment, the one set first comes first. The clock
moves only when it is told to, to a moment at which timers are due.
-/

namespace LiveConfig

/-- Work that waits for a moment, in milliseconds on the clock. -/
structure Timer (τ : Type) where
  due : Nat
  work : τ

/-- Work that waits. -/
structure Agenda (τ : Type) where
  now : Nat
  /-- Work that can be done now, in order. -/
  ready : List τ
  /-- Timers in the order in which they go off. -/
  timers : List (Timer τ)

namespace Agenda

variable {τ : Type}

/-- An agenda with nothing on it, at the start of the clock. -/
def empty : Agenda τ := ⟨0, [], []⟩

instance : Inhabited (Agenda τ) := ⟨empty⟩

/-- The agenda with more work that can be done now. -/
def enqueue (agenda : Agenda τ) (work : List τ) : Agenda τ :=
  { agenda with ready := agenda.ready ++ work }

/-- Timers with one more, behind all that are due no later. -/
def insertTimer (timer : Timer τ) (timers : List (Timer τ)) : List (Timer τ) :=
  timers.takeWhile (·.due ≤ timer.due) ++ timer :: timers.dropWhile (·.due ≤ timer.due)

/-- The agenda with work that can be done after a pause. -/
def postpone (agenda : Agenda τ) (pause : Nat) (work : τ) : Agenda τ :=
  { agenda with timers := insertTimer ⟨agenda.now + pause, work⟩ agenda.timers }

/-- The work whose turn it is, and the agenda without it. -/
def take? (agenda : Agenda τ) : Option (τ × Agenda τ) :=
  match agenda.ready with
  | [] => none
  | work :: rest => some (work, { agenda with ready := rest })

/-- The moment at which the next timer goes off. -/
def nextDue? (agenda : Agenda τ) : Option Nat :=
  agenda.timers.head?.map (·.due)

/-- The agenda at a later moment: all timers that are due by then have gone off. -/
def advance (agenda : Agenda τ) (moment : Nat) : Agenda τ :=
  { now := moment
    ready := agenda.ready ++ (agenda.timers.takeWhile (·.due ≤ moment)).map (·.work)
    timers := agenda.timers.dropWhile (·.due ≤ moment) }

end Agenda

end LiveConfig
