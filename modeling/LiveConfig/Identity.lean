/-!
Contract: what a client is shared for.
-/

namespace LiveConfig

/-- An endpoint together with the root path that is read over it. Equal identities share one
client. -/
structure Identity where
  connectString : String
  rootPath : String
deriving DecidableEq, Repr, Inhabited

namespace Identity

def text (identity : Identity) : String :=
  identity.connectString ++ identity.rootPath

/-- Whether an identity comes before another: by endpoint, then by root path. -/
def precedes (left right : Identity) : Bool :=
  left.connectString < right.connectString ||
    (left.connectString == right.connectString && left.rootPath < right.rootPath)

/-- Identities in ascending order. -/
def sorted (identities : List Identity) : List Identity :=
  identities.mergeSort (fun left right => !right.precedes left)

end Identity

end LiveConfig
