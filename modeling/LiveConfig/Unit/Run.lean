import LiveConfig.Client.Run
import LiveConfig.Unit.Attachment

/-!
Contract: runs in which a unit follows its node over a client.

The unit receives what the dispatcher of its client delivers to it. Owns: the unit beside the run of its
client, and its attachment within the run.
-/

namespace LiveConfig

/-- A unit with the run of its client, and the events that the unit has published. -/
structure UnitRun where
  run : ClientRun
  unit : ConfigUnit
  published : List ChangeEvent

namespace UnitRun

/-- What an action delivers to the unit. -/
def received (following : UnitRun) (after : ClientRun) : List Notification :=
  (after.deliveredTo following.unit.listener).drop
    (following.run.deliveredTo following.unit.listener).length

def step (following : UnitRun) (action : ClientAction) : UnitRun :=
  let after := following.run.step action
  let (unit, events) := following.unit.receiveEach (following.received after)
  ⟨after, unit, following.published ++ events⟩

/-- The unit and the run after actions in turn. -/
def after (following : UnitRun) (actions : List ClientAction) : UnitRun :=
  actions.foldl step following

/-- The attachment of the unit, with its result. -/
def attach (following : UnitRun) : Except ConfigError Unit × UnitRun :=
  let (attached, client, store) :=
    following.unit.attach Client.service (following.run.client, following.run.store)
  (attached.result, {
    run := { following.run with client := client, store := store }
    unit := attached.unit
    published := following.published ++ attached.events })

end UnitRun

end LiveConfig
