import LiveConfig.Text.Blank
import LiveConfig.Value

/-!
Contract: properties documents.

A document is a sequence of physical lines. A line that ends in an odd number of backslashes goes on
in the next one; blank lines and comments are skipped where nothing is pending. Each logical line
binds a key to a text. Owns: the joining of lines, the split of an entry, and the map of all entries.
-/

namespace LiveConfig.Properties

open LiveConfig.Text

/-- Whether a line without leading blanks says nothing: it is empty or a comment. -/
def isSilent : List Char → Bool
  | [] => true
  | first :: _ => first == '#' || first == '!'

/-- Whether a line ends in an odd number of backslashes. -/
def isContinued (line : List Char) : Bool :=
  (line.reverse.takeWhile (· == '\\')).length % 2 == 1

/-- The logical lines of a sequence of physical lines, behind the text that earlier lines left
pending. -/
def logicalLinesAfter (pending : List Char) : List (List Char) → List (List Char)
  | [] => if pending.isEmpty then [] else [pending]
  | physical :: rest =>
      let line := trimStart physical
      if pending.isEmpty && isSilent line then logicalLinesAfter [] rest
      else if isContinued line then logicalLinesAfter (pending ++ line.dropLast) rest
      else (pending ++ line) :: logicalLinesAfter [] rest

def logicalLines (text : List Char) : List (List Char) :=
  logicalLinesAfter [] (lines text)

/-- Whether a character ends the key of an entry. -/
def isSeparator (character : Char) : Bool :=
  character == '=' || character == ':'

/-- The key and the value of a logical line, both trimmed: the key ends at the first separator, and
without one the value is empty. A line whose key is empty binds nothing. -/
def binding? (line : List Char) : Option (String × Value) :=
  let key := trim (line.takeWhile (!isSeparator ·))
  let value := trim ((line.dropWhile (!isSeparator ·)).drop 1)
  if key.isEmpty then none else some (.ofList key, .text (.ofList value))

/-- The map that a document writes down; a later binding of a key overrides an earlier one. -/
def parse (text : List Char) : PropertyMap :=
  .ofList ((logicalLines text).filterMap binding?)

end LiveConfig.Properties
