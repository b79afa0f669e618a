import LiveConfig.Unit.Run

/-!
Contract: the life of a unit, in which the steps of its attachment take turns with everything else.

An attachment registers the watch, then reads the node, then takes over what it has read. Between these
steps anything may happen to the client and to the store, and the unit may be told of it. Owns: the steps
of attachments, of which one at a time is under way, and their results. Does not own: who decides the
order.
-/

namespace LiveConfig

/-- How far the attachment of a unit has come. -/
inductive AttachProgress where
  /-- None is under way. -/
  | idle
  /-- About to read the node. -/
  | reading
  /-- About to take over what was read. -/
  | settling (contents : Option NodeContents)
deriving DecidableEq, Repr

/-- A unit that follows its node, with its attachments. -/
structure UnitLife where
  following : UnitRun
  attachment : AttachProgress
  /-- The results of the attachments that are over, oldest first. -/
  results : List (Except ConfigError Unit)

/-- What can happen to a unit and to what is around it. -/
inductive UnitAction where
  | client (action : ClientAction)
  /-- One step of an attachment, which is begun by it if none is under way. -/
  | attach
deriving DecidableEq, Repr

namespace UnitLife

/-- A unit over a client and its store, to which nothing has happened yet. -/
def ofUnit (client : Client) (store : Store) (unit : ConfigUnit) : UnitLife :=
  ⟨⟨.ofClient client store, unit, []⟩, .idle, []⟩

def unit (life : UnitLife) : ConfigUnit := life.following.unit

def client (life : UnitLife) : Client := life.following.run.client

/-- The store of the client. -/
def store (life : UnitLife) : Store := life.following.run.store

/-- The life with the state that a request has left. -/
def withServed (life : UnitLife) (state : Client × Store) : UnitLife :=
  { life with following.run.client := state.1, following.run.store := state.2 }

/-- Ends an attachment. -/
def conclude (life : UnitLife) (attached : ConfigUnit.Attached) : UnitLife where
  following := { life.following with
    unit := attached.unit, published := life.following.published ++ attached.events }
  attachment := .idle
  results := life.results ++ [attached.result]

/-- The first step of an attachment: the watch. -/
def register (life : UnitLife) : UnitLife :=
  match life.unit.register Client.service (life.client, life.store) with
  | (.ok registered, state) =>
      { life.withServed state with following.unit := registered, attachment := .reading }
  | (.error error, state) => (life.withServed state).conclude (life.unit.unattached error)

/-- The second step: the reading. -/
def read (life : UnitLife) : UnitLife :=
  match Client.service (.read life.unit.path) (life.client, life.store) with
  | (.ok contents, state) => { life.withServed state with attachment := .settling contents }
  | (.error error, state) => (life.withServed state).conclude (life.unit.unattached error)

/-- The last step: the unit takes over what was read. -/
def settle (life : UnitLife) (contents : Option NodeContents) : UnitLife :=
  let (result, observed, events) := life.unit.observe contents
  life.conclude ⟨result, observed, events⟩

/-- One step of an attachment. -/
def advance (life : UnitLife) : UnitLife :=
  match life.attachment with
  | .idle => life.register
  | .reading => life.read
  | .settling contents => life.settle contents

def step (life : UnitLife) : UnitAction → UnitLife
  | .client action => { life with following := life.following.step action }
  | .attach => life.advance

/-- The life after actions in turn. -/
def after (life : UnitLife) (actions : List UnitAction) : UnitLife :=
  actions.foldl step life

end UnitLife

end LiveConfig
