import LiveConfig.ConfigError
import LiveConfig.Request

/-!
Contract: the resolution of a root path.

A missing root is an answer of its own, unless the request asks for it to be created; then its missing
ancestors are created first, from the shallowest to the deepest. A node that somebody else creates in
the meantime is as good as one's own. Owns: the progress of a resolution, whose steps make at most one
request each, and the outcome.
-/

namespace LiveConfig

/-- What is known of a root path. -/
inductive RootState where
  /-- There is no node, and none was to be created. -/
  | absent
  /-- There is a node, with the names of its children; whether this resolution created it. -/
  | present (justCreated : Bool) (children : List String)
deriving DecidableEq, Repr

namespace RootState

def stateName : RootState → String
  | .absent => "absent"
  | .present true _ => "just_created"
  | .present false _ => "present"

/-- The names of the children of a root. -/
def children : RootState → List String
  | .absent => []
  | .present _ names => names

end RootState

/-- How far a resolution has come. -/
inductive Resolution where
  /-- Nothing is known yet. -/
  | entering
  /-- The nodes of `missing` do not exist, shallowest first; about to look for the first of
  `ancestors`, which are left, nearest first. -/
  | probing (missing ancestors : List String)
  /-- About to create the nodes that are left; whether the last node created here is the root. -/
  | creating (left : List String) (created : Bool)
  /-- Somebody else created the root; about to look whether it is there. -/
  | confirming
  /-- The root exists; about to list its children. -/
  | listing (justCreated : Bool)
  /-- Over. -/
  | finished (result : Except ConfigError RootState)

namespace Resolution

/-- The end of a resolution by an error of the store. -/
def refused (error : StoreError) : Resolution := .finished (.error (.store error))

/-- What comes after the missing nodes were created. -/
def afterCreation (created : Bool) : Resolution :=
  if created then .listing true else .confirming

/-- What comes after it is known which nodes are missing. -/
def afterProbe (missing : List String) : List String → Resolution
  | [] => .creating missing false
  | ancestors => .probing missing ancestors

variable {σ : Type}

/-- The first look at the root. -/
def enter (serve : Service σ) (root : String) (autoRefreshed : Bool) (state : σ) :
    Resolution × σ :=
  match Path.validate root with
  | .error error => (.finished (.error (.pathState root error.message)), state)
  | .ok () =>
      match serve (.exists root) state with
      | (.error error, after) => (refused error, after)
      | (.ok true, after) => (.listing false, after)
      | (.ok false, after) =>
          if autoRefreshed then (afterProbe [root] (Path.ancestors root), after)
          else (.finished (.ok .absent), after)

/-- A look at one ancestor. -/
def probe (serve : Service σ) (missing : List String) (ancestor : String)
    (ancestors : List String) (state : σ) : Resolution × σ :=
  match serve (.exists ancestor) state with
  | (.error error, after) => (refused error, after)
  | (.ok true, after) => (.creating missing false, after)
  | (.ok false, after) => (afterProbe (ancestor :: missing) ancestors, after)

def create (serve : Service σ) (root node : String) (left : List String) (created : Bool)
    (state : σ) : Resolution × σ :=
  match serve (.create node []) state with
  | (.ok (), after) => (.creating left (node = root), after)
  | (.error (.nodeExists _), after) => (.creating left created, after)
  | (.error error, after) => (refused error, after)

/-- The last look at a root that somebody else created. -/
def confirm (serve : Service σ) (root : String) (state : σ) : Resolution × σ :=
  match serve (.exists root) state with
  | (.error error, after) => (refused error, after)
  | (.ok true, after) => (.listing false, after)
  | (.ok false, after) =>
      (.finished (.error (.pathState root "root path reported as existing but is absent")), after)

/-- The listing of the children. -/
def list (serve : Service σ) (root : String) (justCreated : Bool) (state : σ) : Resolution × σ :=
  match serve (.list root) state with
  | (.error error, after) => (.finished (.error (.enumeration root error)), after)
  | (.ok names, after) => (.finished (.ok (.present justCreated names)), after)

def step (serve : Service σ) (root : String) (autoRefreshed : Bool) (state : σ) :
    Resolution → Resolution × σ
  | .entering => enter serve root autoRefreshed state
  | .probing missing [] => (.creating missing false, state)
  | .probing missing (ancestor :: ancestors) => probe serve missing ancestor ancestors state
  | .creating [] created => (afterCreation created, state)
  | .creating (node :: left) created => create serve root node left created state
  | .confirming => confirm serve root state
  | .listing justCreated => list serve root justCreated state
  | .finished result => (.finished result, state)

/-- A resolution without interruption, for so many steps. -/
def run (serve : Service σ) (root : String) (autoRefreshed : Bool) :
    (fuel : Nat) → Resolution → σ → Except ConfigError RootState × σ
  | _, .finished result, state => (result, state)
  | 0, _, state => (.error (.pathState root "resolution cut short"), state)
  | fuel + 1, progress, state =>
      let (next, after) := step serve root autoRefreshed state progress
      run serve root autoRefreshed fuel next after

/-- How many steps a resolution takes at most: one look and one creation for each node on the way to
the root, and four more. -/
def stepBound (root : String) : Nat := 2 * (Path.ancestors root).length + 6

/-- The resolution of a root path without interruption. -/
def resolve (serve : Service σ) (root : String) (autoRefreshed : Bool) (state : σ) :
    Except ConfigError RootState × σ :=
  run serve root autoRefreshed (stepBound root) .entering state

end Resolution

end LiveConfig
