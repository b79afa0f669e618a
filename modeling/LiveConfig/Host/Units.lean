import LiveConfig.Host.Tasks
import LiveConfig.Sources.Edit

/-!
Contract: the units, composites and property sources that a host holds, and its subscribers.

What a host puts in place of something else lets go of the old thing after the new one is there. A unit
or composite that is put among the property sources, or a unit that is put into a composite, has left
its old place whatever becomes of it; a source that is taken out of the property sources is let go of, or
kept under a name. Owns: these changes of what is held, and what subscribers receive. Does not own: a
source that is among the property sources and held elsewhere at the same time.
-/

namespace LiveConfig

/-- A source to be put among the property sources. -/
inductive SourceSpec where
  | fixed (name : String) (values : PropertyMap)
  | composite (name : String)
  /-- A unit that is held under a name. -/
  | unit (name : String)
deriving DecidableEq

namespace Host

/-- The host with other holdings. -/
def hold (host : Host) (holdings : Holdings) : Host := { host with holdings := holdings }

/-- Lets go of a source. -/
def discard (host : Host) (source : Source) : Host := host.releaseAll source.units

/-- Lets go of the unit of a name. -/
def dropUnit (host : Host) (name : String) : Bool × Host :=
  match host.holdings.units.find? name with
  | none => (false, host)
  | some unit =>
      (true, (host.hold { host.holdings with
        units := Entries.erase name host.holdings.units }).releaseAll [unit])

/-- Holds a unit under a name, in place of another. -/
def holdUnit (host : Host) (name : String) (unit : ConfigUnit) : Host :=
  let dropped := (host.dropUnit name).2
  dropped.hold { dropped.holdings with units := dropped.holdings.units.insert name unit }

/-- Lets go of the composite of a name. -/
def dropComposite (host : Host) (name : String) : Bool × Host :=
  match host.holdings.composites.find? name with
  | none => (false, host)
  | some composite =>
      (true, (host.hold { host.holdings with
        composites := Entries.erase name host.holdings.composites }).releaseAll composite.units)

/-- Holds a composite under a name, in place of another. -/
def holdComposite (host : Host) (name : String) (composite : Composite) : Host :=
  let dropped := (host.dropComposite name).2
  dropped.hold { dropped.holdings with
    composites := dropped.holdings.composites.insert name composite }

/-- A channel of its own. -/
def openChannel (host : Host) (capacity : Nat) : Nat × Host :=
  let (key, network) := host.network.openChannel capacity
  (key, { host with network := network })

/-- Makes a unit on a channel and holds it under a name. -/
def newUnit (host : Host) (id : String) (client channel : Nat) (name path : String)
    (autoRefreshed : Bool) (format : Format) : ConfigUnit × Host :=
  let (unit, network) := host.network.newUnit client channel name path autoRefreshed format
  (unit, { host with network := network }.holdUnit id unit)

/-- Makes a unit with a channel of its own. -/
def newSingleUnit (host : Host) (id : String) (client : Nat) (name path : String)
    (autoRefreshed : Bool) (format : Format) : ConfigUnit × Host :=
  let (channel, opened) := host.openChannel Channel.unitCapacity
  opened.newUnit id client channel name path autoRefreshed format

/-- Makes a factory of units. -/
def newFactory (host : Host) (id : String) (format : Format) : Host :=
  let (channel, opened) := host.openChannel Channel.unitCapacity
  { opened with factories := opened.factories.insert id ⟨format, channel⟩ }

/-- Makes a unit for a child of a root path on the channel of a factory. -/
def produceUnit (host : Host) (id : String) (factory : UnitFactory) (client : Nat)
    (rootPath child : String) (autoRefreshed : Bool) : ConfigUnit × Host :=
  let path := Path.join rootPath child
  host.newUnit id client factory.channel path path autoRefreshed factory.format

/-- Attaches the unit of a name to its node. -/
def attachUnit (host : Host) (id : String) (unit : ConfigUnit) : Except ConfigError Unit × Host :=
  let ((result, attached), after) := host.perform fun network =>
    let (result, attached, network) := Network.attach unit network
    ((result, attached), network)
  (result, after.hold { after.holdings with units := after.holdings.units.insert id attached })

/-- Makes an empty composite, on the channel of a factory or on one of its own. -/
def newComposite (host : Host) (id name : String) (factory : Option UnitFactory) : Host :=
  match factory with
  | some factory => host.holdComposite id ⟨name, [], factory.channel⟩
  | none =>
      let (channel, opened) := host.openChannel Channel.soloCapacity
      opened.holdComposite id ⟨name, [], channel⟩

/-- Moves the unit of a name into the composite of a name. -/
def moveUnit (host : Host) (compositeName : String) (composite : Composite) (unitName : String)
    (unit : ConfigUnit) : Composite × Host :=
  let grown := composite.add unit
  (grown, host.hold { host.holdings with
    units := Entries.erase unitName host.holdings.units
    composites := host.holdings.composites.insert compositeName grown })

/-- Subscribes to a channel from now on. -/
def subscribe (host : Host) (id : String) (channel : Nat) : Host :=
  { host with subscribers :=
      host.subscribers.insert id ⟨channel, (host.network.channel channel).log.size⟩ }

/-- What a subscriber receives, and whether nothing can follow. -/
def receive? (host : Host) (id : String) : Option ((Channel.Receipt × Bool) × Host) :=
  (host.subscribers.find? id).map fun subscriber =>
    let channel := host.network.channel subscriber.channel
    ((channel.receive subscriber.position, !host.isOpen subscriber.channel),
      { host with subscribers :=
          host.subscribers.insert id { subscriber with position := channel.log.size } })

/-- The source that a specification stands for, taken out of its place; none if there is no such
thing. -/
def takeSource? (host : Host) : SourceSpec → Option (Source × Host)
  | .fixed name values => some (.fixed name values, host)
  | .composite id =>
      (host.holdings.composites.find? id).map fun composite =>
        (.composite composite, host.hold { host.holdings with
          composites := Entries.erase id host.holdings.composites })
  | .unit id =>
      (host.holdings.units.find? id).map fun unit =>
        (.unit unit, host.hold { host.holdings with
          units := Entries.erase id host.holdings.units })

/-- The property sources. -/
def sources (host : Host) : SourceList := host.holdings.sources

/-- The host with other property sources. -/
def setSources (host : Host) (sources : SourceList) : Host :=
  host.hold { host.holdings with sources := sources }

/-- Edits the property sources, and lets go of the source that is left without a place. Answers the
source that was taken out. -/
def edit (host : Host) (edit : SourceEdit) : Except ConfigError (Option Source) × Host :=
  let edited := host.setSources (host.sources.after edit)
  let final :=
    match host.sources.displaced edit with
    | none => edited
    | some source => edited.discard source
  ((host.sources.apply edit).map Prod.fst, final)

/-- Keeps a source under a name, in place of what is held there. -/
def keep (host : Host) (id : String) : Source → Host
  | .fixed .. => host
  | .composite composite => host.holdComposite id composite
  | .unit unit => host.holdUnit id unit

/-- Edits the property sources, and keeps the source that is left without a place. Answers the source that
was taken out. -/
def editKeeping (host : Host) (id : String) (edit : SourceEdit) :
    Except ConfigError (Option Source) × Host :=
  let edited := host.setSources (host.sources.after edit)
  let final :=
    match host.sources.displaced edit with
    | none => edited
    | some source => edited.keep id source
  ((host.sources.apply edit).map Prod.fst, final)

end Host

end LiveConfig
