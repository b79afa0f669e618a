import LiveConfig.ChangeEvent
import LiveConfig.Store.Event

/-!
Contract: channels of change events.

A channel keeps its last events for subscribers, each of which reads at a position of its own. Owns:
publishing, and what a subscriber receives at once: the events since its last reading, behind the
number of those it missed.
-/

namespace LiveConfig

/-- A channel with every event that was published on it. -/
structure Channel where
  capacity : Nat
  log : Array ChangeEvent
deriving DecidableEq, Repr

namespace Channel

/-- How many events the channels of units keep. -/
def unitCapacity : Nat := 128

/-- How many events the channel of a composite keeps that shares none with its units. -/
def soloCapacity : Nat := 1

/-- A channel without events. -/
def empty (capacity : Nat) : Channel := ⟨capacity, #[]⟩

instance : Inhabited Channel := ⟨empty unitCapacity⟩

/-- The channel after events were published in turn. -/
def publish (channel : Channel) (events : List ChangeEvent) : Channel :=
  { channel with log := channel.log ++ events.toArray }

/-- What a subscriber receives at once. -/
structure Receipt where
  /-- How many events were lost before the others. -/
  missed : Nat
  events : List ChangeEvent
deriving DecidableEq, Repr

/-- What a subscriber at a position receives; afterwards it stands at the end. -/
def receive (channel : Channel) (position : Nat) : Receipt :=
  let oldest := max position (channel.log.size - channel.capacity)
  ⟨oldest - position, (channel.log.toList.drop oldest)⟩

end Channel

end LiveConfig
