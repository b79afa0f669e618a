import LiveConfig.Sources.Composite

/-!
Contract: the ordered list of a host's named property sources.

An earlier source shadows a later one. Adding a source takes an old one of its name out first. Owns:
look-ups, placement at the ends and next to another source, replacement in place, and removal; what is
taken out is handed back to the caller, who lets go of it.
-/

namespace LiveConfig

/-- A named set of properties. -/
inductive Source where
  | fixed (name : String) (values : PropertyMap)
  | unit (unit : ConfigUnit)
  | composite (composite : Composite)
deriving DecidableEq

namespace Source

def name : Source → String
  | .fixed label _ => label
  | .unit single => single.name
  | .composite group => group.name

def find? (key : String) : Source → Option Value
  | .fixed _ values => values.find? key
  | .unit single => single.find? key
  | .composite group => group.find? key

def contains (key : String) : Source → Bool
  | .fixed _ values => values.contains key
  | .unit single => single.values.contains key
  | .composite group => group.contains key

/-- The keys of a source in ascending order. -/
def keys : Source → List String
  | .fixed _ values => values.keys
  | .unit single => single.values.keys
  | .composite group => group.keys

/-- The units that a source holds. -/
def units : Source → List ConfigUnit
  | .fixed _ _ => []
  | .unit single => [single]
  | .composite group => group.units

def mapUnits (change : ConfigUnit → ConfigUnit) : Source → Source
  | .fixed label values => .fixed label values
  | .unit single => .unit (change single)
  | .composite group => .composite (group.mapUnits change)

/-- Whether a source holds a channel, itself or by one of its units. -/
def holdsChannel (channel : Nat) : Source → Bool
  | .fixed _ _ => false
  | .unit single => single.channel = channel
  | .composite group => group.channel = channel || group.units.any (·.channel = channel)

end Source

/-- Where a new source goes. -/
inductive Placement where
  /-- Ahead of all others. -/
  | first
  /-- Behind all others. -/
  | last
  /-- Right ahead of the source of a name. -/
  | before (relative : String)
  /-- Right behind the source of a name. -/
  | after (relative : String)
deriving DecidableEq, Repr

instance : Inhabited Placement := ⟨.first⟩

/-- Sources in order of precedence. -/
structure SourceList where
  list : List Source
deriving DecidableEq

namespace SourceList

def empty : SourceList := ⟨[]⟩

/-- What a change of the list hands back with the list after it: the source that it took out. -/
abbrev Change := Option Source × SourceList

def names (sources : SourceList) : List String :=
  sources.list.map Source.name

/-- The first source of a name. -/
def source? (sources : SourceList) (name : String) : Option Source :=
  sources.list.find? (·.name = name)

def hasSource (sources : SourceList) (name : String) : Bool :=
  (sources.source? name).isSome

/-- The value of a key in the first source that has it. -/
def find? (sources : SourceList) (key : String) : Option Value :=
  sources.list.findSome? (·.find? key)

def contains (sources : SourceList) (key : String) : Bool :=
  sources.list.any (·.contains key)

/-- The list without its first source of a name. -/
def without (name : String) (list : List Source) : List Source :=
  list.eraseP (·.name = name)

/-- Takes out the first source of a name. -/
def remove (sources : SourceList) (name : String) : Change :=
  (sources.source? name, ⟨without name sources.list⟩)

/-- Puts a source ahead of all others. -/
def putFirst (sources : SourceList) (source : Source) : Change :=
  let (old, rest) := sources.remove source.name
  (old, ⟨source :: rest.list⟩)

/-- Puts a source behind all others. -/
def putLast (sources : SourceList) (source : Source) : Change :=
  let (old, rest) := sources.remove source.name
  (old, ⟨rest.list ++ [source]⟩)

/-- A source put next to the first one of a name, behind it or ahead of it. -/
def insertBeside (relative : String) (isBehind : Bool) (source : Source) : List Source → List Source
  | [] => []
  | other :: rest =>
      if other.name = relative then
        if isBehind then other :: source :: rest else source :: other :: rest
      else other :: insertBeside relative isBehind source rest

/-- Puts a source next to the source of a name, which must not be its own and must be there. -/
def putBeside (sources : SourceList) (relative : String) (isBehind : Bool) (source : Source) :
    Except ConfigError Change :=
  if source.name = relative then .error (.settings (.selfRelative relative))
  else if !sources.hasSource relative then .error (.unknownSource relative)
  else
    let (old, rest) := sources.remove source.name
    .ok (old, ⟨insertBeside relative isBehind source rest.list⟩)

/-- Puts a source right ahead of the source of a name. -/
def putBefore (sources : SourceList) (relative : String) (source : Source) :
    Except ConfigError Change :=
  sources.putBeside relative false source

/-- Puts a source right behind the source of a name. -/
def putAfter (sources : SourceList) (relative : String) (source : Source) :
    Except ConfigError Change :=
  sources.putBeside relative true source

/-- Puts a source where a placement says. -/
def place (sources : SourceList) (placement : Placement) (source : Source) :
    Except ConfigError Change :=
  match placement with
  | .first => .ok (sources.putFirst source)
  | .last => .ok (sources.putLast source)
  | .before relative => sources.putBefore relative source
  | .after relative => sources.putAfter relative source

/-- A list with its first source of a name exchanged for another. -/
def exchange (name : String) (source : Source) : List Source → List Source
  | [] => []
  | other :: rest =>
      if other.name = name then source :: rest else other :: exchange name source rest

/-- Exchanges the first source of a name for another, which keeps its place and has its own name.
Nothing changes if there is no source of the name. -/
def replace (sources : SourceList) (name : String) (source : Source) : Change :=
  (sources.source? name, ⟨exchange name source sources.list⟩)

end SourceList

end LiveConfig
