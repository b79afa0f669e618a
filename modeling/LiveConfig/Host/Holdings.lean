import LiveConfig.Sources.Basic

/-!
Contract: what a host holds of units.

Units stand alone, in composites, or in the property sources; each stands in one place. Owns: finding a
unit by its key wherever it stands, and changing it there.
-/

namespace LiveConfig

/-- Units and what they stand in. -/
structure Holdings where
  /-- The units that stand alone, by name. -/
  units : Entries ConfigUnit
  /-- The composites that are no property sources, by name. -/
  composites : Entries Composite
  sources : SourceList
deriving DecidableEq

namespace Holdings

/-- No units. -/
def empty : Holdings := ⟨[], [], .empty⟩

instance : Inhabited Holdings := ⟨empty⟩

/-- Everything that is held, each as a source. -/
def all (holdings : Holdings) : List Source :=
  holdings.units.map (fun (_, unit) => .unit unit) ++
    holdings.composites.map (fun (_, composite) => .composite composite) ++ holdings.sources.list

/-- Every unit that is held. -/
def allUnits (holdings : Holdings) : List ConfigUnit := holdings.all.flatMap Source.units

def unit? (holdings : Holdings) (key : Nat) : Option ConfigUnit :=
  holdings.allUnits.find? (·.key = key)

/-- Whether the unit of a key is held. -/
def hasUnit (holdings : Holdings) (key : Nat) : Bool := (holdings.unit? key).isSome

/-- Whether something that is held holds a channel. -/
def holdsChannel (holdings : Holdings) (channel : Nat) : Bool :=
  holdings.all.any (·.holdsChannel channel)

/-- Every unit changed. -/
def mapUnits (holdings : Holdings) (change : ConfigUnit → ConfigUnit) : Holdings :=
  { units := holdings.units.map fun (name, unit) => (name, change unit)
    composites := holdings.composites.map fun (name, composite) => (name, composite.mapUnits change)
    sources := ⟨holdings.sources.list.map (·.mapUnits change)⟩ }

/-- A unit in place of the one of its key. -/
def setUnit (holdings : Holdings) (unit : ConfigUnit) : Holdings :=
  holdings.mapUnits fun old => if old.key = unit.key then unit else old

end Holdings

end LiveConfig
