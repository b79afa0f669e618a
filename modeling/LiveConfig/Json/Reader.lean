import LiveConfig.Json.Numeral

/-!
Contract: JSON texts as values.

The grammar is the standard one: four blank characters, no comments, no trailing commas, no raw
control characters in strings, escapes for surrogates only in pairs. Of two members with one key the
later stays. Arrays and objects nest at most `depthLimit` deep. Every reader takes the text and
returns what it read with the rest, or none where the text is malformed.
-/

namespace LiveConfig.Json

open LiveConfig.Text

/-- How deep arrays and objects may nest. -/
def depthLimit : Nat := 127

/-- The blank characters between tokens. -/
def isSpace (character : Char) : Bool :=
  character == ' ' || character == '\t' || character == '\n' || character == '\r'

/-- The text from its first token on. -/
def skipSpace (text : List Char) : List Char :=
  text.dropWhile isSpace

/-- Four hexadecimal digits. -/
def codeUnit : List Char → Option (Nat × List Char)
  | first :: second :: third :: fourth :: rest =>
      (ofDigits? 16 [first, second, third, fourth]).map fun unit => (unit, rest)
  | _ => none

/-- The character of an escaped code unit. A leading surrogate takes the trailing one that must
follow it along. -/
def escapedUnit (text : List Char) : Option (Char × List Char) :=
  match codeUnit text with
  | none => none
  | some (unit, rest) =>
      if 0xD800 ≤ unit ∧ unit ≤ 0xDBFF then
        match rest with
        | '\\' :: 'u' :: more =>
            match codeUnit more with
            | some (trailing, after) =>
                if 0xDC00 ≤ trailing ∧ trailing ≤ 0xDFFF then
                  some (.ofNat (0x10000 + (unit - 0xD800) * 0x400 + (trailing - 0xDC00)), after)
                else none
            | none => none
        | _ => none
      else if 0xDC00 ≤ unit ∧ unit ≤ 0xDFFF then none
      else some (.ofNat unit, rest)

/-- The character of an escape, behind the backslash. -/
def escaped : List Char → Option (Char × List Char)
  | '"' :: rest => some ('"', rest)
  | '\\' :: rest => some ('\\', rest)
  | '/' :: rest => some ('/', rest)
  | 'b' :: rest => some ('\x08', rest)
  | 'f' :: rest => some ('\x0c', rest)
  | 'n' :: rest => some ('\n', rest)
  | 'r' :: rest => some ('\r', rest)
  | 't' :: rest => some ('\t', rest)
  | 'u' :: rest => escapedUnit rest
  | _ => none

/-- The characters of a string up to its closing quote. The fuel is a bound on the length. -/
def stringBody : (fuel : Nat) → List Char → Option (List Char × List Char)
  | 0, _ => none
  | _ + 1, [] => none
  | fuel + 1, character :: rest =>
      if character = '"' then some ([], rest)
      else if character = '\\' then
        match escaped rest with
        | none => none
        | some (plain, after) =>
            (stringBody fuel after).map fun (body, final) => (plain :: body, final)
      else if character.toNat < 0x20 then none
      else (stringBody fuel rest).map fun (body, final) => (character :: body, final)

/-- The string at the start of a text. -/
def string : List Char → Option (String × List Char)
  | '"' :: rest =>
      (stringBody (rest.length + 1) rest).map fun (body, after) => (.ofList body, after)
  | _ => none

/-- The rest of a text behind a word, if it starts with the word. -/
def word (expected : String) (text : List Char) : Option (List Char) :=
  if expected.toList.isPrefixOf text then some (text.drop expected.length) else none

/-- The items of an array after the first, each behind a comma. -/
def moreItems (item : List Char → Option (Value × List Char)) :
    (fuel : Nat) → List Char → Option (List Value × List Char)
  | 0, _ => none
  | fuel + 1, text =>
      match skipSpace text with
      | ']' :: rest => some ([], rest)
      | ',' :: rest =>
          match item (skipSpace rest) with
          | none => none
          | some (value, after) =>
              (moreItems item fuel after).map fun (values, final) => (value :: values, final)
      | _ => none

/-- The items of an array, behind its opening bracket. -/
def items (item : List Char → Option (Value × List Char)) (text : List Char) :
    Option (List Value × List Char) :=
  match skipSpace text with
  | ']' :: rest => some ([], rest)
  | start =>
      match item start with
      | none => none
      | some (value, after) =>
          (moreItems item (after.length + 1) after).map fun (values, final) =>
            (value :: values, final)

/-- One member of an object. -/
def member (item : List Char → Option (Value × List Char)) (text : List Char) :
    Option ((String × Value) × List Char) :=
  match string text with
  | none => none
  | some (key, rest) =>
      match skipSpace rest with
      | ':' :: after => (item (skipSpace after)).map fun (value, final) => ((key, value), final)
      | _ => none

/-- The members of an object after the first, each behind a comma. -/
def moreMembers (item : List Char → Option (Value × List Char)) :
    (fuel : Nat) → List Char → Option (List (String × Value) × List Char)
  | 0, _ => none
  | fuel + 1, text =>
      match skipSpace text with
      | '}' :: rest => some ([], rest)
      | ',' :: rest =>
          match member item (skipSpace rest) with
          | none => none
          | some (entry, after) =>
              (moreMembers item fuel after).map fun (entries, final) => (entry :: entries, final)
      | _ => none

/-- The members of an object, behind its opening brace. -/
def members (item : List Char → Option (Value × List Char)) (text : List Char) :
    Option (List (String × Value) × List Char) :=
  match skipSpace text with
  | '}' :: rest => some ([], rest)
  | start =>
      match member item start with
      | none => none
      | some (entry, after) =>
          (moreMembers item (after.length + 1) after).map fun (entries, final) =>
            (entry :: entries, final)

/-- The value at the start of a text, with arrays and objects nested at most `depth` deep. -/
def value : (depth : Nat) → List Char → Option (Value × List Char)
  | depth, text =>
      match text with
      | [] => none
      | '"' :: _ => (string text).map fun (body, rest) => (.text body, rest)
      | '[' :: rest =>
          match depth with
          | 0 => none
          | inner + 1 => (items (value inner) rest).map fun (values, after) => (.list values, after)
      | '{' :: rest =>
          match depth with
          | 0 => none
          | inner + 1 =>
              (members (value inner) rest).map fun (entries, after) =>
                (.object (Entries.ofList entries), after)
      | 't' :: _ => (word "true" text).map fun rest => (.boolean true, rest)
      | 'f' :: _ => (word "false" text).map fun rest => (.boolean false, rest)
      | 'n' :: _ => (word "null" text).map fun rest => (.null, rest)
      | _ => numeral text

/-- The value that a whole text stands for, if it is well formed. -/
def parse? (text : String) : Option Value :=
  match value depthLimit (skipSpace text.toList) with
  | some (read, rest) => if (skipSpace rest).isEmpty then some read else none
  | none => none

end LiveConfig.Json
