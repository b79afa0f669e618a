import LiveConfig.Text.Digit

/-!
Contract: the quoted texts of TOML.

Owns: basic and literal strings, each on one line or on several, and the escapes of the basic ones.
Control characters other than the tab never stand raw, a carriage return only in front of a line
feed, and line feeds only in strings of several lines. Every reader takes the text behind the opening
quotes and returns what the string holds with the rest behind its closing quotes.
-/

namespace LiveConfig.Toml

open LiveConfig.Text

/-- Whether a character may stand raw in comments and strings. -/
def isPlain (character : Char) : Bool :=
  character == '\t' || (0x20 ≤ character.toNat && character.toNat != 0x7F)

/-- Whether a character is blank within a line. -/
def isSpace (character : Char) : Bool :=
  character == ' ' || character == '\t'

/-- The text behind one line end, if it starts with one. -/
def lineEnd? : List Char → Option (List Char)
  | '\n' :: rest => some rest
  | '\r' :: '\n' :: rest => some rest
  | _ => none

/-- The character that a run of hexadecimal digits names, with the rest. -/
def namedCharacter? (count : Nat) (text : List Char) : Option (Char × List Char) :=
  let digits := text.take count
  if digits.length = count then
    match ofDigits? 16 digits with
    | none => none
    | some code =>
        if code < 0xD800 ∨ (0xE000 ≤ code ∧ code ≤ 0x10FFFF) then
          some (.ofNat code, text.drop count)
        else none
  else none

/-- The character of an escape, behind the backslash. -/
def escapedCharacter? : List Char → Option (Char × List Char)
  | 'b' :: rest => some ('\x08', rest)
  | 't' :: rest => some ('\t', rest)
  | 'n' :: rest => some ('\n', rest)
  | 'f' :: rest => some ('\x0c', rest)
  | 'r' :: rest => some ('\r', rest)
  | 'e' :: rest => some ('\x1b', rest)
  | '"' :: rest => some ('"', rest)
  | '\\' :: rest => some ('\\', rest)
  | 'x' :: rest => namedCharacter? 2 rest
  | 'u' :: rest => namedCharacter? 4 rest
  | 'U' :: rest => namedCharacter? 8 rest
  | _ => none

/-- A basic string on one line. -/
def basicString : (fuel : Nat) → List Char → Option (List Char × List Char)
  | 0, _ => none
  | _ + 1, [] => none
  | fuel + 1, character :: rest =>
      if character = '"' then some ([], rest)
      else if character = '\\' then
        match escapedCharacter? rest with
        | none => none
        | some (plain, after) =>
            (basicString fuel after).map fun (body, final) => (plain :: body, final)
      else if isPlain character then
        (basicString fuel rest).map fun (body, final) => (character :: body, final)
      else none

/-- A literal string on one line. -/
def literalString : List Char → Option (List Char × List Char)
  | [] => none
  | character :: rest =>
      if character = '\x27' then some ([], rest)
      else if isPlain character then
        (literalString rest).map fun (body, final) => (character :: body, final)
      else none

/-- The quotes of a run of `quote` at the start of a text that belong to a string of several lines,
if the run closes it: the last three of at most five do. -/
def closing? (quote : Char) (text : List Char) : Option (List Char × List Char) :=
  let run := (text.takeWhile (· == quote)).length
  if run < 3 then none
  else
    let kept := min (run - 3) 2
    some (List.replicate kept quote, text.drop (kept + 3))

/-- The text behind the blanks and line ends at its start. -/
def skipBlankLines : (fuel : Nat) → List Char → List Char
  | 0, text => text
  | fuel + 1, text =>
      match text with
      | ' ' :: rest | '\t' :: rest => skipBlankLines fuel rest
      | _ =>
          match lineEnd? text with
          | some rest => skipBlankLines fuel rest
          | none => text

/-- The text behind a backslash that ends its line, if this backslash does: blanks may stand between
it and the line end, and everything blank after it is skipped. -/
def joined? (text : List Char) : Option (List Char) :=
  match lineEnd? (text.dropWhile isSpace) with
  | some rest => some (skipBlankLines (rest.length + 1) rest)
  | none => none

/-- A basic string of several lines. -/
def basicText : (fuel : Nat) → List Char → Option (List Char × List Char)
  | 0, _ => none
  | _ + 1, [] => none
  | fuel + 1, character :: rest =>
      if character = '"' then
        match closing? '"' (character :: rest) with
        | some closed => some closed
        | none => (basicText fuel rest).map fun (body, final) => ('"' :: body, final)
      else if character = '\\' then
        match joined? rest with
        | some after => basicText fuel after
        | none =>
            match escapedCharacter? rest with
            | none => none
            | some (plain, after) =>
                (basicText fuel after).map fun (body, final) => (plain :: body, final)
      else if character = '\r' then
        match rest with
        | '\n' :: after =>
            (basicText fuel after).map fun (body, final) => ('\r' :: '\n' :: body, final)
        | _ => none
      else if character = '\n' ∨ isPlain character then
        (basicText fuel rest).map fun (body, final) => (character :: body, final)
      else none

/-- A literal string of several lines. -/
def literalText : (fuel : Nat) → List Char → Option (List Char × List Char)
  | 0, _ => none
  | _ + 1, [] => none
  | fuel + 1, character :: rest =>
      if character = '\x27' then
        match closing? '\x27' (character :: rest) with
        | some closed => some closed
        | none => (literalText fuel rest).map fun (body, final) => (character :: body, final)
      else if character = '\r' then
        match rest with
        | '\n' :: after =>
            (literalText fuel after).map fun (body, final) => ('\r' :: '\n' :: body, final)
        | _ => none
      else if character = '\n' ∨ isPlain character then
        (literalText fuel rest).map fun (body, final) => (character :: body, final)
      else none

/-- A text without one line end at its start. -/
def dropLineEnd (text : List Char) : List Char :=
  (lineEnd? text).getD text

/-- The quoted string on one line that a text starts with. -/
def lineString (text : List Char) : Option (String × List Char) :=
  match text with
  | '"' :: rest => (basicString (rest.length + 1) rest).map fun (body, after) => (.ofList body, after)
  | '\x27' :: rest => (literalString rest).map fun (body, after) => (.ofList body, after)
  | _ => none

/-- The quoted string that a text starts with. A line end right behind three opening quotes does not
belong to the string. -/
def quotedString (text : List Char) : Option (String × List Char) :=
  match text with
  | '"' :: '"' :: '"' :: rest =>
      (basicText (rest.length + 1) (dropLineEnd rest)).map fun (body, after) => (.ofList body, after)
  | '\x27' :: '\x27' :: '\x27' :: rest =>
      (literalText (rest.length + 1) (dropLineEnd rest)).map fun (body, after) =>
        (.ofList body, after)
  | _ => lineString text

end LiveConfig.Toml
