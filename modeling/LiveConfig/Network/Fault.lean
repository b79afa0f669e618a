import LiveConfig.Request
import LiveConfig.Store.Basic

/-!
Contract: faults that are laid up for calls to come.

A fault concerns the calls of one kind over one endpoint, and of one path where it names one. It lets
some of them pass, then strikes some, then does nothing more. Owns: faults, and what the faults that
are laid up make of one call.
-/

namespace LiveConfig

/-- The kinds of call that a fault can strike. -/
inductive CallKind where
  | build
  | start
  | close
  | exists
  | create
  | read
  | list
  | watch
deriving DecidableEq, Repr

def Request.kind {α : Type} : Request α → CallKind
  | .exists _ => .exists
  | .create .. => .create
  | .read _ => .read
  | .list _ => .list
  | .watch .. => .watch

/-- The path that a request is about. -/
def Request.path {α : Type} : Request α → String
  | .exists path | .create path _ | .read path | .list path | .watch path _ => path

/-- What a fault does to a call that it strikes. -/
inductive FaultEffect where
  /-- The call fails, without reaching anything. -/
  | refuse (error : StoreError)
  /-- Just before the call, a rival creates a node at its path in a store. -/
  | rival (store : String)
deriving DecidableEq, Repr

structure Fault where
  connectString : String
  kind : CallKind
  /-- The path of the calls that are concerned, where it matters. -/
  path : Option String
  /-- How many calls pass before the fault strikes. -/
  skip : Nat
  /-- How many calls the fault strikes. -/
  times : Nat
  effect : FaultEffect
deriving DecidableEq, Repr

namespace Fault

def concerns (fault : Fault) (connectString : String) (kind : CallKind) (path : String) : Bool :=
  fault.connectString = connectString && fault.kind = kind && (fault.path.getD path) = path

/-- Whether a fault strikes the next call that it concerns, and the fault after that call. -/
def meet (fault : Fault) : Bool × Fault :=
  if 0 < fault.skip then (false, { fault with skip := fault.skip - 1 })
  else if 0 < fault.times then (true, { fault with times := fault.times - 1 })
  else (false, fault)

/-- What the faults that are laid up make of a call, in the order in which they were laid up: the error
of the first that makes it fail, and the faults and stores afterwards. -/
def meetAll (connectString : String) (kind : CallKind) (path : String) :
    List Fault → Entries Store → Option StoreError × List Fault × Entries Store
  | [], stores => (none, [], stores)
  | fault :: rest, stores =>
      let goOn (after : Fault) (stores : Entries Store) :=
        let (error, others, final) := meetAll connectString kind path rest stores
        (error, after :: others, final)
      if fault.concerns connectString kind path then
        match fault.meet with
        | (false, after) => goOn after stores
        | (true, after) =>
            match fault.effect with
            | .refuse error => (some error, after :: rest, stores)
            | .rival name =>
                match ((stores.find? name).getD .empty).create path [] with
                | (.ok (), grown) => goOn after (stores.insert name grown)
                | (.error error, _) => (some error, after :: rest, stores)
      else goOn fault stores

end Fault

end LiveConfig
