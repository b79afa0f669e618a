/-!
Contract: blank characters, the trimming of texts and the physical lines of a text.

Owns: the Unicode property White_Space, trimming at either end, and the line split.
Does not own: what a line means, which is a matter of the format that reads it.
-/

namespace LiveConfig.Text

/-- Characters with the Unicode property White_Space. -/
def isBlank (character : Char) : Bool :=
  let code := character.toNat
  (0x09 ≤ code && code ≤ 0x0D) || code == 0x20 || code == 0x85 || code == 0xA0 ||
    code == 0x1680 || (0x2000 ≤ code && code ≤ 0x200A) || code == 0x2028 || code == 0x2029 ||
    code == 0x202F || code == 0x205F || code == 0x3000

/-- The text without its leading blanks. -/
def trimStart (text : List Char) : List Char :=
  text.dropWhile isBlank

/-- The text without its trailing blanks. -/
def trimEnd (text : List Char) : List Char :=
  (text.reverse.dropWhile isBlank).reverse

/-- The text without the blanks at either end. -/
def trim (text : List Char) : List Char :=
  trimEnd (trimStart text)

/-- A text is blank when it holds no character that trimming would keep. -/
def isBlankText (text : List Char) : Bool :=
  text.all isBlank

/-- The reversed line without one carriage return at its end. -/
def dropCarriageReturn : List Char → List Char
  | '\r' :: line => line
  | line => line

/-- The lines of a text whose current line, reversed, is already read up to here. -/
def linesAfter (line : List Char) : List Char → List (List Char)
  | [] => if line.isEmpty then [] else [line.reverse]
  | character :: rest =>
      if character = '\n' then (dropCarriageReturn line).reverse :: linesAfter [] rest
      else linesAfter (character :: line) rest

/-- The physical lines of a text. A line feed ends a line and takes one carriage return before it
along; what follows the last line feed is a line of its own only if it is not empty. -/
def lines (text : List Char) : List (List Char) :=
  linesAfter [] text

end LiveConfig.Text
