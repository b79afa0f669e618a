/-!
Contract: the ways in which a coordination store refuses a request.

Owns: the causes, their wording, and the reasons why a path is malformed.
-/

namespace LiveConfig

/-- What can be wrong with a path. -/
inductive PathFault where
  | notAbsolute
  | trailingSeparator
  | nul
  | emptySegment
  | relativeSegment
deriving DecidableEq, Repr

/-- The wording of a path fault. -/
def PathFault.reason : PathFault → String
  | .notAbsolute => "must start with '/'"
  | .trailingSeparator => "must not end with '/'"
  | .nul => "must not contain NUL"
  | .emptySegment => "empty segment"
  | .relativeSegment => "relative segments are not allowed"

/-- Why a store or its client refuses a request. -/
inductive StoreError where
  /-- The endpoint cannot be reached. -/
  | connection (message : String)
  | noNode (path : String)
  /-- A node is already at the path. -/
  | nodeExists (path : String)
  /-- The parent of the path is missing. -/
  | noParent (path : String)
  /-- The node at the path still has children. -/
  | notEmpty (path : String)
  /-- The text is no path, or no path that the request can be made for. -/
  | invalidPath (path reason : String)
  /-- The client is not in a state to serve requests. -/
  | closed (message : String)
  /-- The store does not accept connections at present. -/
  | unavailable (message : String)
  /-- The store failed on its own account. -/
  | internal (message : String)
deriving DecidableEq, Repr, Inhabited

namespace StoreError

/-- The wording of an error. -/
def message : StoreError → String
  | .connection text => "Connection error: " ++ text
  | .noNode path => "Node not found: " ++ path
  | .nodeExists path => "Node already exists: " ++ path
  | .noParent path => "Parent node missing for: " ++ path
  | .notEmpty path => "Node has children: " ++ path
  | .invalidPath path reason => "Invalid path '" ++ path ++ "': " ++ reason
  | .closed text => "Client not usable: " ++ text
  | .unavailable text => "Store unavailable: " ++ text
  | .internal text => "Internal error: " ++ text

/-- Whether a node was already there. -/
def isNodeExists : StoreError → Bool
  | .nodeExists _ => true
  | _ => false

/-- Whether a node was missing. -/
def isNoNode : StoreError → Bool
  | .noNode _ => true
  | _ => false

/-- Whether the endpoint could not be reached. -/
def isConnection : StoreError → Bool
  | .connection _ => true
  | _ => false

/-- Failures that may pass: a later attempt at the same request can succeed. -/
def isTransient : StoreError → Bool
  | .connection _ | .unavailable _ => true
  | _ => false

end StoreError

end LiveConfig
