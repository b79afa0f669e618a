import LiveConfig.Number.Numeral
import LiveConfig.Text.Alphanumeric
import LiveConfig.Text.Blank
import LiveConfig.Text.Utf8

/-!
Contract: which texts are filters of log lines.

A filter is a list of directives between commas; empty directives are skipped. A directive is a level,
a target, or a target and a level with `=` between them; a span in brackets may stand behind the target
or in its place, with fields in braces inside the brackets. Owns: the check of directives. A directive
is scanned without the blanks around it, but the place of its level is counted in the directive as it
stands, so that blanks in front of it shift that place.
-/

namespace LiveConfig.LogFilter

open LiveConfig.Text

def levelNames : List String := ["error", "warn", "info", "debug", "trace", "off"]

/-- Whether a text names a level: by a name in letters of either case, by a number up to five, or by
nothing, which stands for the default. -/
def isLevel (text : List Char) : Bool :=
  text.isEmpty || levelNames.contains (.ofList (text.map Char.toLower)) ||
    (Numeral.unsigned? 5 text).isSome

/-- Whether a character may start a directive without a span. -/
def isTargetStart (character : Char) : Bool :=
  character == '-' || character == ':' || character == '_' || isAlphanumeric character

/-- Where the scan of a directive stands. -/
inductive Place where
  | start
  | target
  | span
  /-- In a field; whether the field has a character yet. -/
  | field (any : Bool)
  | fields
  | afterSpan
  /-- In a level, which starts at the given byte. -/
  | level (beginning : Nat)
deriving DecidableEq, Repr

/-- The place after one more character, of which the bytes up to its end are counted; none where the
directive is refused. -/
def Place.next (place : Place) (character : Char) (finish : Nat) : Option Place :=
  match place with
  | .start =>
      if character = '[' then some .span
      else if isTargetStart character then some .target
      else none
  | .target =>
      if character = '=' then some (.level finish)
      else if character = '[' then some .span
      else some .target
  | .span =>
      if character = ']' then some .afterSpan
      else if character = '\x7b' then some (.field false)
      else some .span
  | .field any =>
      if character = '\x7d' then (if any then some .fields else none) else some (.field true)
  | .fields => if character = ']' then some .afterSpan else none
  | .afterSpan => if character = '=' then some (.level finish) else none
  | .level beginning => some (.level beginning)

/-- The place after a text, with bytes counted from `finish`. -/
def Place.scan (place : Place) (finish : Nat) : List Char → Option Place
  | [] => some place
  | character :: rest =>
      let finish := finish + character.utf8Size
      match place.next character finish with
      | none => none
      | some next => next.scan finish rest

/-- Whether the bytes of a directive from a place on name a level. -/
def namesLevel (directive : List Char) (start : Nat) : Bool :=
  match Utf8.decode ((Utf8.encode directive).drop start) with
  | .ok text => isLevel text
  | .error _ => false

def acceptsDirective (directive : List Char) : Bool :=
  match Place.start.scan 0 (trim directive) with
  | some .target | some .afterSpan => true
  | some (.level beginning) => namesLevel directive beginning
  | _ => false

/-- The pieces of a text between commas. -/
def directives (text : List Char) : List (List Char) :=
  (text.splitOn ',').filter (fun directive => !directive.isEmpty)

/-- Whether a text is a filter. -/
def accepts (text : String) : Bool :=
  (directives text.toList).all acceptsDirective

end LiveConfig.LogFilter
