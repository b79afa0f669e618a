import LiveConfig.Store.Basic

/-!
Contract: what a store can be told directly, without a client between.

Owns: the commands, their answers, and runs of them. A row of writes is one command; each of them fills
its number into a template.
-/

namespace LiveConfig

inductive StoreCommand where
  | exists (path : String)
  | create (path : String) (data : Payload)
  | createWithAncestors (path : String) (data : Payload)
  | read (path : String)
  | write (path : String) (data : Payload)
  /-- Writes in a row, each of a template with its number put in. -/
  | writeMany (path template : String) (count : Nat)
  | delete (path : String)
  | list (path : String)
  | failNextListing (path : String) (error : StoreError)
  | reportFailure (path message : String)
  | setAvailable (value : Bool)
  | setCloseFails (value : Bool)
deriving DecidableEq, Repr

inductive StoreAnswer where
  | done
  | truth (value : Bool)
  | version (version : Nat)
  | node (data : Option NodeContents)
  | names (names : List String)
deriving DecidableEq, Repr

namespace Store

/-- A template with a number put in for each of its marks. -/
def fillIn (number : List Char) : List Char → List Char
  | [] => []
  | '\x7b' :: 'i' :: '\x7d' :: rest => number ++ fillIn number rest
  | character :: rest => character :: fillIn number rest

/-- Writes numbers in turn, each put into a template, and answers the last result, if there is one. -/
def writeEach (store : Store) (path : String) (template : List Char) :
    (numbers : List Nat) → Option (Except StoreError Nat) × Store
  | [] => (none, store)
  | number :: rest =>
      let data := Text.Utf8.encode (fillIn (Nat.toDigits 10 number) template)
      let (result, after) := store.write path data
      match after.writeEach path template rest with
      | (none, final) => (some result, final)
      | last => last

/-- The effect of a command, with the answer. A row of no writes is answered by no node. -/
def perform (store : Store) : StoreCommand → Except StoreError StoreAnswer × Store
  | .exists path => ((store.exists? path).map .truth, store)
  | .create path data =>
      let (result, after) := store.create path data
      (result.map fun () => .done, after)
  | .createWithAncestors path data =>
      let (result, after) := store.createWithAncestors path data
      (result.map fun () => .done, after)
  | .read path => ((store.read path).map .node, store)
  | .write path data =>
      let (result, after) := store.write path data
      (result.map .version, after)
  | .writeMany path template count =>
      match store.writeEach path template.toList (List.range count) with
      | (none, after) => (.ok (.node none), after)
      | (some result, after) => (result.map .version, after)
  | .delete path =>
      let (result, after) := store.delete path
      (result.map fun () => .done, after)
  | .list path =>
      let (result, after) := store.list path
      (result.map .names, after)
  | .failNextListing path error => (.ok .done, store.failNextListing path error)
  | .reportFailure path message => (.ok .done, store.reportFailure path message)
  | .setAvailable value => (.ok .done, { store with available := value })
  | .setCloseFails value => (.ok .done, { store with closeFails := value })

/-- The store after commands in turn. -/
def run (store : Store) (commands : List StoreCommand) : Store :=
  commands.foldl (fun store command => (store.perform command).2) store

end Store

end LiveConfig
