import LiveConfig.StoreError

/-!
Contract: the paths of nodes in a coordination store.

A path is absolute, its segments are separated by `/`, and only the root `/` ends with the
separator. Owns: normalising, joining, splitting off the parent and the last segment, and the
check that names the first thing wrong with a path. Does not own: which nodes exist.
-/

namespace LiveConfig.Path

/-- The root of every store. -/
def root : String := "/"

/-- The pieces between separators; a text without a separator is one piece. -/
def segments (path : List Char) : List (List Char) :=
  path.splitOn '/'

/-- Each segment behind its own separator; no segment at all is the root. -/
def ofSegments : List (List Char) → List Char
  | [] => ['/']
  | [segment] => '/' :: segment
  | segment :: rest => '/' :: segment ++ ofSegments rest

/-- The path of the non-empty segments of a text. -/
def normalize (path : String) : String :=
  .ofList (ofSegments ((segments path.toList).filter (fun segment => !segment.isEmpty)))

/-- The path of `child` below `base`. -/
def join (base child : String) : String :=
  normalize (base ++ "/" ++ child)

/-- What stands before and after the last separator, if there is one. -/
def splitLast : List Char → Option (List Char × List Char)
  | [] => none
  | character :: rest =>
      match splitLast rest with
      | some (before, after) => some (character :: before, after)
      | none => if character = '/' then some ([], rest) else none

/-- The path up to the last separator. The root has no parent, and neither has a text without a
separator. -/
def parent? (path : String) : Option String :=
  if path = root then none
  else
    match splitLast path.toList with
    | none => none
    | some ([], _) => some root
    | some (before, _) => some (.ofList before)

/-- The text after the last separator. -/
def name (path : String) : String :=
  match splitLast path.toList with
  | none => path
  | some (_, after) => .ofList after

/-- What is wrong with one segment, if anything. -/
def segmentFault? (segment : List Char) : Option PathFault :=
  if segment.isEmpty then some .emptySegment
  else if segment = ['.'] ∨ segment = ['.', '.'] then some .relativeSegment
  else none

/-- The first thing wrong with a path, if anything. -/
def fault? (path : String) : Option PathFault :=
  match path.toList with
  | '/' :: rest =>
      if rest = [] then none
      else if rest.getLast? = some '/' then some .trailingSeparator
      else if rest.contains '\x00' then some .nul
      else (segments rest).findSome? segmentFault?
  | _ => some .notAbsolute

/-- Refuses a path that has something wrong with it. -/
def validate (path : String) : Except StoreError Unit :=
  match fault? path with
  | none => .ok ()
  | some fault => .error (.invalidPath path fault.reason)

/-- The proper ancestors of a path, nearest first, up to the root or to a text without parent. -/
def ancestorsFrom : Nat → String → List String
  | 0, _ => []
  | fuel + 1, path =>
      match parent? path with
      | none => []
      | some parent => parent :: ancestorsFrom fuel parent

/-- The proper ancestors of a path, nearest first. Each is shorter than the one before or the root,
so the length of the path bounds their number. -/
def ancestors (path : String) : List String :=
  ancestorsFrom (path.length + 1) path

end LiveConfig.Path
