import LiveConfig.Toml.Scalar
import LiveConfig.Value

/-!
Contract: the tree that a TOML text builds up.

Each table remembers how it came about, because that decides what may still be added to it. Owns: the
descent along a dotted path, and the rules under which a key, a table header or an array-of-tables
header adds to a tree. Does not own: the syntax of the statements.
-/

namespace LiveConfig.Toml

/-- How a table came about. -/
inductive Origin where
  /-- By a header of its own; the document itself counts as such a table. -/
  | header
  /-- As a parent of a header. -/
  | parentOfHeader
  | dottedKey
  /-- As a value in braces. -/
  | braces
deriving DecidableEq, Repr

/-- A node of the tree. An array remembers whether array-of-tables headers made it. -/
inductive Item where
  | text (value : String)
  | scalar (value : Scalar)
  | array (byHeaders : Bool) (items : List Item)
  | table (origin : Origin) (members : List (String × Item))
deriving Repr, Inhabited

/-- What a statement does to the table that it addresses; none where the rules forbid it. -/
abbrev Edit := Origin → Entries Item → Option Item

/-- An array with its last item replaced; none if it has no item or the replacement fails. -/
def editLast (edit : Item → Option Item) : List Item → Option (List Item)
  | [] => none
  | [last] => (edit last).map fun edited => [edited]
  | first :: rest => (editLast edit rest).map (first :: ·)

/-- The edit of the table at the end of a path. A missing table on the way is made with the origin
`made`. In an array of tables the last one is meant. Tables in braces are closed, and dotted keys do
not enter a table that has a header. -/
def editAt (made : Origin) (edit : Edit) : List String → Edit
  | [], origin, members => edit origin members
  | key :: path, origin, members =>
      let continued : Option Item :=
        match members.find? key with
        | none => editAt made edit path made []
        | some (.table below inner) =>
            if below = .braces ∨ (made = .dottedKey ∧ below = .header) then none
            else editAt made edit path below inner
        | some (.array true items) =>
            (editLast (fun
              | .table below inner => editAt made edit path below inner
              | _ => none) items).map (.array true)
        | some _ => none
      continued.map fun item => .table origin (members.insert key item)

/-- The last key of a path behind the path in front of it. -/
def splitPath : List String → Option (List String × String)
  | [] => none
  | [key] => some ([], key)
  | key :: rest => (splitPath rest).map fun (front, last) => (key :: front, last)

/-- Binds a key that is not bound yet. A key with dots belongs into a table made by dotted keys, and
a key without them into one that was not. -/
def bind (path : List String) (item : Item) : Edit := fun origin members =>
  match splitPath path with
  | none => none
  | some (front, key) =>
      editAt .dottedKey
        (fun origin members =>
          if decide (origin = .dottedKey) = front.isEmpty then none
          else if (members.find? key).isSome then none
          else some (.table origin (members.insert key item)))
        front origin members

/-- Opens the table of a header: a new one, or one that exists only as a parent of headers. -/
def openTable (path : List String) : Edit := fun origin members =>
  match splitPath path with
  | none => none
  | some (front, key) =>
      editAt .parentOfHeader
        (fun origin members =>
          match members.find? key with
          | none => some (.table origin (members.insert key (.table .header [])))
          | some (.table .parentOfHeader inner) =>
              some (.table origin (members.insert key (.table .header inner)))
          | some _ => none)
        front origin members

/-- Appends a table to the array of an array-of-tables header, which is made if it is missing. -/
def appendTable (path : List String) : Edit := fun origin members =>
  match splitPath path with
  | none => none
  | some (front, key) =>
      editAt .parentOfHeader
        (fun origin members =>
          match members.find? key with
          | none => some (.table origin (members.insert key (.array true [.table .header []])))
          | some (.array true items) =>
              some (.table origin
                (members.insert key (.array true (items ++ [.table .header []]))))
          | some _ => none)
        front origin members

/-- An edit of an item, which must be a table. -/
def Edit.apply (edit : Edit) : Item → Option Item
  | .table origin members => edit origin members
  | _ => none

/-- The document without statements. -/
def Item.emptyDocument : Item := .table .header []

end LiveConfig.Toml
