import LiveConfig.Json.Reader
import LiveConfig.Number.Numeral
import LiveConfig.Settings.Basic

/-!
Contract: settings layered from a file and from environment variables.

Every layer binds keys to values. A key is a path: a name, then members behind dots and items in
brackets; a key that is no path is a name as a whole. Objects are merged member by member, all other
values replace what was there. Variables come after the file. The fields of the resulting object are
read leniently: numbers, truth values and texts stand for one another where that makes sense.
-/

namespace LiveConfig.Layers

/-- One step of a key path behind its first name. -/
inductive Step where
  /-- To a member of an object. -/
  | member (name : String)
  /-- To an item of an array; a negative index counts from the end. -/
  | item (index : Int)
deriving DecidableEq, Repr

/-- Whether a character may stand in a name of a key path. -/
def isNameCharacter (character : Char) : Bool :=
  ('a' ≤ character && character ≤ 'z') || ('A' ≤ character && character ≤ 'Z') ||
    Text.isDigit character || character == '_' || character == '-'

/-- The name at the start of a text, with the rest. -/
def nameAt (text : List Char) : Option (String × List Char) :=
  let name := text.takeWhile isNameCharacter
  if name.isEmpty then none else some (.ofList name, text.drop name.length)

/-- Whether a character is blank inside brackets. -/
def isPadding (character : Char) : Bool :=
  character == ' ' || character == '\t'

/-- The index between brackets, from behind the opening one, with the rest. -/
def indexAt (text : List Char) : Option (Int × List Char) :=
  let body := text.dropWhile isPadding
  let negative := body.head? = some '-'
  let digits := (if negative then body.drop 1 else body).takeWhile Text.isDigit
  let rest := (if negative then body.drop 1 else body).drop digits.length
  let signed := if negative then '-' :: digits else digits
  match Numeral.signed? signed, rest.dropWhile isPadding with
  | some index, ']' :: after => some (index, after)
  | _, _ => none

/-- The steps that a whole text spells. -/
def steps? : (fuel : Nat) → List Char → Option (List Step)
  | 0, _ => none
  | _ + 1, [] => some []
  | fuel + 1, '.' :: rest =>
      match nameAt rest with
      | some (name, after) => (steps? fuel after).map (.member name :: ·)
      | none => none
  | fuel + 1, '[' :: rest =>
      match indexAt rest with
      | some (index, after) => (steps? fuel after).map (.item index :: ·)
      | none => none
  | _ + 1, _ => none

/-- The first name and the steps of a key. -/
def keyPath (key : String) : String × List Step :=
  match nameAt key.toList with
  | none => (key, [])
  | some (name, rest) =>
      match steps? (rest.length + 1) rest with
      | none => (key, [])
      | some steps => (name, steps)

/-- The members of an object; any other value has none. -/
def membersOf : Value → Entries Value
  | .object members => members
  | _ => []

/-- The items of an array; any other value has none. -/
def itemsOf : Value → List Value
  | .list items => items
  | _ => []

/-- The position that an index means in an array, with the array extended by nulls so far that the
position is in it: behind its end, or in front of its start. -/
def resolved (items : List Value) (index : Int) : List Value × Nat :=
  if 0 ≤ index then
    (items ++ List.replicate (index.toNat + 1 - items.length) .null, index.toNat)
  else
    let back := (-index).toNat
    if back ≤ items.length then (items, items.length - back)
    else (List.replicate (back - items.length) .null ++ items, 0)

/-- The value with an edit made at the end of steps. Values on the way that are no object or no array
give way to one. -/
def edited (edit : Value → Value) : List Step → Value → Value
  | [], value => edit value
  | .member name :: rest, value =>
      let members := membersOf value
      .object (members.insert name (edited edit rest ((members.find? name).getD .null)))
  | .item index :: rest, value =>
      let (items, position) := resolved (itemsOf value) index
      .list (items.set position (edited edit rest ((items[position]?).getD .null)))

mutual
/-- An incoming value merged over an earlier one. -/
def merged (earlier : Value) : Value → Value
  | .object members => .object (mergedMembers (membersOf earlier) members)
  | .null => .null
  | .boolean value => .boolean value
  | .integer value => .integer value
  | .float value => .float value
  | .text value => .text value
  | .list items => .list items
termination_by structural incoming => incoming

/-- Incoming members merged into earlier ones. -/
def mergedMembers (earlier : Entries Value) : List (String × Value) → Entries Value
  | [] => earlier
  | member :: rest => mergedMembers (mergedMember earlier member) rest
termination_by structural incoming => incoming

/-- One incoming member merged into earlier ones. -/
def mergedMember (earlier : Entries Value) : String × Value → Entries Value
  | (name, value) => earlier.insert name (merged ((earlier.find? name).getD .null) value)
termination_by structural incoming => incoming
end

/-- The members with a value bound to a key. -/
def bind (members : Entries Value) (key : String) (value : Value) : Entries Value :=
  let (name, steps) := keyPath key
  members.insert name (edited (merged · value) steps ((members.find? name).getD .null))

/-- The members with all bindings of a layer on top. -/
def apply (members : Entries Value) (layer : List (String × Value)) : Entries Value :=
  layer.foldl (fun members binding => bind members binding.1 binding.2) members

/-- How a settings file is written. -/
inductive FileFormat where
  | toml
  | json
deriving DecidableEq, Repr

/-- The extension of a file name: what follows its last dot, unless that dot comes first. -/
def extension (fileName : String) : String :=
  let reversed := fileName.toList.reverse
  let stem := (reversed.dropWhile (· != '.')).drop 1
  if stem.isEmpty then "" else .ofList (reversed.takeWhile (· != '.')).reverse

/-- The format of a file by the extension of its name. -/
def FileFormat.ofFileName? (fileName : String) : Option FileFormat :=
  match extension fileName with
  | "toml" => some .toml
  | "json" => some .json
  | _ => none

mutual
/-- A JSON value as a layer holds it: an integer beyond a signed word is a floating-point number. -/
def narrowed : Value → Value
  | .integer value =>
      if value ≤ Toml.greatestWord then .integer value else .float (.ofNat value.toNat)
  | .list items => .list (narrowedItems items)
  | .object members => .object (narrowedMembers members)
  | .null => .null
  | .boolean value => .boolean value
  | .float value => .float value
  | .text value => .text value
termination_by structural value => value

/-- JSON values as a layer holds them. -/
def narrowedItems : List Value → List Value
  | [] => []
  | item :: rest => narrowed item :: narrowedItems rest
termination_by structural items => items

/-- JSON members as a layer holds them. -/
def narrowedMembers : List (String × Value) → List (String × Value)
  | [] => []
  | member :: rest => narrowedMember member :: narrowedMembers rest
termination_by structural members => members

/-- A JSON member as a layer holds it. -/
def narrowedMember : String × Value → String × Value
  | (key, value) => (key, narrowed value)
termination_by structural member => member
end

/-- The layer that a file's text makes, if the text is well formed. One byte order mark at its start
is skipped. -/
def ofFile? (format : FileFormat) (text : String) : Option (Entries Value) :=
  let text :=
    match text.toList with
    | '\ufeff' :: rest => String.ofList rest
    | _ => text
  match format with
  | .toml => Toml.members? .layer text
  | .json =>
      match Json.parse? text with
      | some (.object members) => some (narrowedMembers members)
      | _ => none

/-- The start of the names of variables that count, in lower case. -/
def variableStart : List Char :=
  ['c', 'o', 'o', 'r', 'd', 'c', 'o', 'n', 'f', '_', '_']

/-- A text with each pair of underscores, from the left, replaced by a dot. -/
def dotted : List Char → List Char
  | '_' :: '_' :: rest => '.' :: dotted rest
  | character :: rest => character :: dotted rest
  | [] => []

/-- The key that a variable binds, if it counts. Only ASCII letters matter: no other letter's lower
case is part of a field's name. -/
def keyOfVariable? (name : String) : Option String :=
  let lowered := name.toList.map Char.toLower
  if variableStart.isPrefixOf lowered then
    some (.ofList (dotted (lowered.drop variableStart.length)))
  else none

/-- The value that the text of a variable spells: a truth value, an integer, a floating-point number,
or the text itself. -/
def valueOfVariable (text : String) : Value :=
  let characters := text.toList
  let lowered := String.ofList (characters.map Char.toLower)
  if lowered = "true" then .boolean true
  else if lowered = "false" then .boolean false
  else
    match Numeral.signed? characters with
    | some value => .integer value
    | none =>
        match Numeral.float? characters with
        | some value => .float value
        | none => .text text

/-- The layer that environment variables make. -/
def ofVariables (environment : List (String × String)) : List (String × Value) :=
  environment.filterMap fun (name, text) =>
    (keyOfVariable? name).map fun key => (key, valueOfVariable text)

/-- A text in lower case, which is all that the names of truth values need. -/
def lowerCase (text : String) : String :=
  .ofList (text.toList.map Char.toLower)

/-- Text of a text, a truth value or a number. -/
def lenientText : Value → Except ShapeFault String
  | .text value => .ok value
  | .boolean value => .ok (if value then "true" else "false")
  | .integer value => .ok (toString value)
  | .float value => .ok value.positional
  | value => Conversions.mismatch value "a string"

/-- Truth of a truth value, a number (any but zero) or a text that names it. -/
def lenientTruth : Value → Except ShapeFault Bool
  | .boolean value => .ok value
  | .integer value => .ok (value != 0)
  | .float value => .ok (!value.isZero)
  | .text value =>
      let name := lowerCase value
      if name ∈ ["1", "true", "on", "yes"] then .ok true
      else if name ∈ ["0", "false", "off", "no"] then .ok false
      else Conversions.mismatch (.text value) "a boolean"
  | value => Conversions.mismatch value "a boolean"

/-- The whole number that a text spells or names. -/
def wordOfText (text : String) : Except ShapeFault Nat :=
  let name := lowerCase text
  if name ∈ ["true", "on", "yes"] then .ok 1
  else if name ∈ ["false", "off", "no"] then .ok 0
  else
    match Numeral.unsigned? Settings.wordBound text.toList with
    | some value => .ok value
    | none => Conversions.mismatch (.text text) "an unsigned integer"

/-- The unsigned 64-bit word of a number, a truth value or a text. Floating-point numbers are rounded
to the nearest word. -/
def wordOf : Value → Except ShapeFault Nat
  | .integer value => if 0 ≤ value then .ok value.toNat else .error .outOfRange
  | .boolean value => .ok (if value then 1 else 0)
  | .float value => .ok value.toWord
  | .text value => wordOfText value
  | value => Conversions.mismatch value "an unsigned integer"

/-- A word that fits a field. -/
def lenientWord (bound : Nat) (value : Value) : Except ShapeFault Nat :=
  match wordOf value with
  | .ok word => if word ≤ bound then .ok word else .error .outOfRange
  | .error fault => .error fault

/-- The conversions of layered settings. -/
def lenient : Conversions where
  text := lenientText
  truth := lenientTruth
  word := lenientWord
  isAbsent := Conversions.isNull
  content _ := .ok ()
  longArrays := true

/-- The object that the layers make, none if the file cannot be read. A file without text is
missing, which is no fault; one whose name has no known extension is. -/
def members? (file : Option (String × Option String)) (environment : List (String × String)) :
    Option (Entries Value) :=
  let below :=
    match file with
    | none | some (_, none) => some []
    | some (fileName, some text) =>
        (FileFormat.ofFileName? fileName).bind fun format => ofFile? format text
  below.map fun layer => apply (apply [] layer) (ofVariables environment)

end LiveConfig.Layers

namespace LiveConfig.Settings

/-- The settings of a file, if there is one, and of environment variables over it. -/
def ofLayers (file : Option (String × Option String)) (environment : List (String × String)) :
    Except ConfigError Settings :=
  match Layers.members? file environment with
  | none => .error (.settings .unreadableLayer)
  | some members =>
      match ofMembers Layers.lenient members with
      | .error _ => .error (.settings .wrongKind)
      | .ok settings => settings.validate

end LiveConfig.Settings
