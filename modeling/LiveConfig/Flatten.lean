import LiveConfig.Value

/-!
Contract: nested objects as flat maps.

The leaves of an object are its members that are no objects, at any depth through objects only; the
key of a leaf joins the keys on the way with dots. Owns: the list of leaves, depth first and in the
order of members, and the map in which the later of two leaves with one key stays.
-/

namespace LiveConfig

/-- A key below another one. -/
def dottedKey (base : Option String) (key : String) : String :=
  match base with
  | none => key
  | some base => base ++ "." ++ key

mutual
/-- The leaves of a value that stands under `key`. -/
def Value.leaves (key : String) : Value → List (String × Value)
  | .object members => Value.leavesOfMembers (some key) members
  | .null => [(key, .null)]
  | .boolean value => [(key, .boolean value)]
  | .integer value => [(key, .integer value)]
  | .float value => [(key, .float value)]
  | .text value => [(key, .text value)]
  | .list items => [(key, .list items)]
termination_by structural value => value

/-- The leaves of members below `base`. -/
def Value.leavesOfMembers (base : Option String) : List (String × Value) → List (String × Value)
  | [] => []
  | member :: rest => Value.leavesOfMember base member ++ Value.leavesOfMembers base rest
termination_by structural members => members

/-- The leaves of one member below `base`. -/
def Value.leavesOfMember (base : Option String) : String × Value → List (String × Value)
  | (key, value) => value.leaves (dottedKey base key)
termination_by structural member => member
end

/-- The flat map of an object's members. -/
def flatten (members : Entries Value) : PropertyMap :=
  .ofList (Value.leavesOfMembers none members)

end LiveConfig
