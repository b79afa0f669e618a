import LiveConfig.Unit.Basic

/-!
Contract: composites, the ordered units found below one root path.

A look-up takes the value of the first unit that has the key. Owns: look-ups, and the list of keys in
ascending order without repetition.
-/

namespace LiveConfig

/-- A named sequence of units in order of precedence. -/
structure Composite where
  name : String
  units : List ConfigUnit
  /-- The channel whose events subscribers of the composite receive. -/
  channel : Nat
deriving DecidableEq

namespace Composite

/-- The value of a key in the first unit that has it. -/
def find? (composite : Composite) (key : String) : Option Value :=
  composite.units.findSome? (·.find? key)

/-- Whether a unit has a key. -/
def contains (composite : Composite) (key : String) : Bool :=
  composite.units.any (·.values.contains key)

/-- A name put into a list in ascending order, unless it is there. -/
def insertName (name : String) : List String → List String
  | [] => [name]
  | first :: rest =>
      if name < first then name :: first :: rest
      else if name = first then first :: rest
      else first :: insertName name rest

/-- The keys of all units in ascending order, each once. -/
def keys (composite : Composite) : List String :=
  (composite.units.flatMap (·.values.keys)).foldl (fun names name => insertName name names) []

/-- The paths of the units in order of precedence. -/
def paths (composite : Composite) : List String :=
  composite.units.map (·.path)

/-- The first unit at a path. -/
def unitAt? (composite : Composite) (path : String) : Option ConfigUnit :=
  composite.units.find? (·.path = path)

/-- The composite with one more unit, of lowest precedence. -/
def add (composite : Composite) (unit : ConfigUnit) : Composite :=
  { composite with units := composite.units ++ [unit] }

def mapUnits (composite : Composite) (change : ConfigUnit → ConfigUnit) : Composite :=
  { composite with units := composite.units.map change }

end Composite

end LiveConfig
