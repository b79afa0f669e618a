import LiveConfig.Toml.Quoted
import LiveConfig.Toml.Tree

/-!
Contract: TOML texts as trees.

A text is a sequence of statements, each on its own line: a key with its value, a table header or an
array-of-tables header. Owns: keys, values in brackets and braces, statements, and the tree of a whole
text. Values in brackets and braces nest at most `depthLimit` deep, and a key has at most `keyLimit`
parts. A byte order mark at the start is skipped.
-/

namespace LiveConfig.Toml

/-- How deep values in brackets and braces may nest. -/
def depthLimit : Nat := 80

/-- How many parts a dotted key may have. -/
def keyLimit : Nat := 80

/-- The text behind a comment, which ends at its line end; none if the comment holds a character
that may not stand raw. -/
def skipComment (text : List Char) : Option (List Char) :=
  let rest := text.dropWhile isPlain
  if rest.isEmpty ∨ (lineEnd? rest).isSome then some rest else none

/-- The text behind blanks, line ends and comments. -/
def skipLines : (fuel : Nat) → List Char → Option (List Char)
  | 0, _ => none
  | fuel + 1, text =>
      match text with
      | ' ' :: rest | '\t' :: rest => skipLines fuel rest
      | '#' :: rest =>
          match skipComment rest with
          | none => none
          | some after => skipLines fuel after
      | _ =>
          match lineEnd? text with
          | some rest => skipLines fuel rest
          | none => some text

/-- The text behind everything that may stand between the parts of a bracketed value. -/
def skipFiller (text : List Char) : Option (List Char) :=
  skipLines (text.length + 1) text

/-- Whether a character may stand in a key without quotes. -/
def isBareKey (character : Char) : Bool :=
  ('a' ≤ character && character ≤ 'z') || ('A' ≤ character && character ≤ 'Z') ||
    ('0' ≤ character && character ≤ '9') || character == '_' || character == '-'

def keyPart (text : List Char) : Option (String × List Char) :=
  match text with
  | '"' :: _ | '\x27' :: _ => lineString text
  | _ =>
      let bare := text.takeWhile isBareKey
      if bare.isEmpty then none else some (.ofList bare, text.drop bare.length)

/-- The parts of a key, each behind a dot but the first, with the blanks behind it skipped. -/
def keyParts : (fuel : Nat) → List Char → Option (List String × List Char)
  | 0, _ => none
  | fuel + 1, text =>
      match keyPart (text.dropWhile isSpace) with
      | none => none
      | some (part, rest) =>
          match rest.dropWhile isSpace with
          | '.' :: more =>
              (keyParts fuel more).map fun (parts, after) => (part :: parts, after)
          | after => some ([part], after)

/-- The key that a text starts with. -/
def key (text : List Char) : Option (List String × List Char) :=
  match keyParts (text.length + 1) text with
  | some (parts, rest) => if parts.length ≤ keyLimit then some (parts, rest) else none
  | none => none

/-- Whether a character may stand in a scalar without quotes. -/
def isScalarCharacter (character : Char) : Bool :=
  isBareKey character || character == '+' || character == '.' || character == ':'

/-- The run of characters that makes up a scalar without quotes. A blank between a date and a time
belongs to it. -/
def scalarRun (text : List Char) : List Char × List Char :=
  let first := text.takeWhile isScalarCharacter
  let rest := text.drop first.length
  match dateAt first, rest with
  | some (_, []), ' ' :: next :: _ =>
      if Text.isDigit next then
        let second := (rest.drop 1).takeWhile isScalarCharacter
        (first ++ ' ' :: second, rest.drop (1 + second.length))
      else (first, rest)
  | _, _ => (first, rest)

/-- The items of an array, from behind its opening bracket or behind a comma. -/
def arrayItems (item : List Char → Option (Item × List Char)) :
    (fuel : Nat) → List Char → Option (List Item × List Char)
  | 0, _ => none
  | fuel + 1, text =>
      match skipFiller text with
      | none => none
      | some (']' :: rest) => some ([], rest)
      | some start =>
          match item start with
          | none => none
          | some (value, after) =>
              match skipFiller after with
              | some (']' :: rest) => some ([value], rest)
              | some (',' :: rest) =>
                  (arrayItems item fuel rest).map fun (values, final) => (value :: values, final)
              | _ => none

def keyValue (item : List Char → Option (Item × List Char)) (text : List Char) :
    Option ((List String × Item) × List Char) :=
  match key text with
  | some (path, '=' :: rest) =>
      (item (rest.dropWhile isSpace)).map fun (value, after) => ((path, value), after)
  | _ => none

/-- The table of the keys between braces, from behind the opening brace or behind a comma, on top of
what earlier keys made. -/
def bracedTable (item : List Char → Option (Item × List Char)) :
    (fuel : Nat) → Item → List Char → Option (Item × List Char)
  | 0, _, _ => none
  | fuel + 1, table, text =>
      match skipFiller text with
      | none => none
      | some ('}' :: rest) => some (table, rest)
      | some start =>
          match keyValue item start with
          | none => none
          | some ((path, value), after) =>
              match (bind path value).apply table with
              | none => none
              | some extended =>
                  match skipFiller after with
                  | some ('}' :: rest) => some (extended, rest)
                  | some (',' :: rest) => bracedTable item fuel extended rest
                  | _ => none

/-- The value that a text starts with, with values in brackets and braces nested at most `depth`
deep. -/
def value : (depth : Nat) → List Char → Option (Item × List Char)
  | depth, text =>
      match text with
      | '"' :: _ | '\x27' :: _ => (quotedString text).map fun (body, rest) => (.text body, rest)
      | '[' :: rest =>
          match depth with
          | 0 => none
          | inner + 1 =>
              (arrayItems (value inner) (rest.length + 1) rest).map fun (items, after) =>
                (.array false items, after)
      | '{' :: rest =>
          match depth with
          | 0 => none
          | inner + 1 => bracedTable (value inner) (rest.length + 1) (.table .braces []) rest
      | _ =>
          let (run, rest) := scalarRun text
          (Scalar.parse? run).map fun scalar => (.scalar scalar, rest)

/-- One statement of a document. -/
inductive Statement where
  | binding (path : List String) (value : Item)
  | table (path : List String)
  | arrayTable (path : List String)

/-- The statement that a line starts with, if any. -/
def statement (text : List Char) : Option (Option Statement × List Char) :=
  match text with
  | '[' :: '[' :: rest =>
      match key rest with
      | some (path, ']' :: ']' :: after) => some (some (.arrayTable path), after)
      | _ => none
  | '[' :: rest =>
      match key rest with
      | some (path, ']' :: after) => some (some (.table path), after)
      | _ => none
  | [] => some (none, [])
  | '#' :: _ => some (none, text)
  | _ =>
      if (lineEnd? text).isSome then some (none, text)
      else
        (keyValue (value depthLimit) text).map fun ((path, item), after) =>
          (some (.binding path item), after)

/-- What follows a statement on its line: blanks, a comment, and the line end or the end of the
text. -/
def endOfLine (text : List Char) : Option (List Char) :=
  let finish (rest : List Char) : Option (List Char) :=
    match rest with
    | [] => some []
    | _ => lineEnd? rest
  match text.dropWhile isSpace with
  | '#' :: rest => (skipComment rest).bind finish
  | rest => finish rest

/-- The statements of a text. -/
def statements : (fuel : Nat) → List Char → Option (List Statement)
  | 0, _ => none
  | _ + 1, [] => some []
  | fuel + 1, text =>
      match statement (text.dropWhile isSpace) with
      | none => none
      | some (first, after) =>
          match endOfLine after with
          | none => none
          | some rest => (statements fuel rest).map fun others => first.toList ++ others

/-- The tree of statements, the first of which stand below the table at `location`. -/
def build (location : List String) (document : Item) : List Statement → Option Item
  | [] => some document
  | .binding path item :: rest =>
      match (editAt .parentOfHeader (bind path item) location).apply document with
      | none => none
      | some extended => build location extended rest
  | .table path :: rest =>
      match (openTable path).apply document with
      | none => none
      | some extended => build path extended rest
  | .arrayTable path :: rest =>
      match (appendTable path).apply document with
      | none => none
      | some extended => build path extended rest

/-- The members of the tree that a whole text stands for, if it is well formed. -/
def parse? (text : String) : Option (Entries Item) :=
  let characters :=
    match text.toList with
    | '\ufeff' :: rest => rest
    | characters => characters
  match statements (characters.length + 1) characters with
  | none => none
  | some parsed =>
      match build [] .emptyDocument parsed with
      | some (.table _ members) => some members
      | _ => none

end LiveConfig.Toml
