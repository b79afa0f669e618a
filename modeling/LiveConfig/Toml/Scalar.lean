import LiveConfig.Number.Numeral
import LiveConfig.Toml.Datetime

/-!
Contract: the scalars of TOML texts that are written without quotes.

Owns: truth values, integers in four radices, floating-point numbers, and dates and times. Digits may
be grouped by single underscores between digits. A floating-point numeral beyond the largest number is
refused; integers are read whole, and their range is the matter of whoever uses them.
-/

namespace LiveConfig.Toml

open LiveConfig.Text LiveConfig.Numeral

/-- A scalar without quotes. -/
inductive Scalar where
  | boolean (value : Bool)
  | integer (value : Int)
  | float (value : Binary64)
  | datetime (value : Datetime)
deriving DecidableEq, Repr

/-- The digits of a group after its first, without the underscores between them. -/
def ungroupRest (isDigitOf : Char → Bool) : List Char → Option (List Char)
  | [] => some []
  | '_' :: digit :: rest =>
      if isDigitOf digit then (ungroupRest isDigitOf rest).map (digit :: ·) else none
  | digit :: rest =>
      if isDigitOf digit then (ungroupRest isDigitOf rest).map (digit :: ·) else none

/-- The digits of a run that may be grouped by underscores; the run may not be empty. -/
def ungroup (isDigitOf : Char → Bool) : List Char → Option (List Char)
  | [] => none
  | digit :: rest =>
      if isDigitOf digit then (ungroupRest isDigitOf rest).map (digit :: ·) else none

/-- The digits of a decimal numeral that has no leading zero. -/
def wholeDigits (text : List Char) : Option (List Char) :=
  match ungroup isDigit text with
  | some ('0' :: _ :: _) => none
  | digits => digits

/-- A number in one of the radices that a letter announces. -/
def radixInteger? : List Char → Option Int
  | '0' :: letter :: digits =>
      let radix? : Option Nat :=
        if letter = 'x' then some 16 else if letter = 'o' then some 8
        else if letter = 'b' then some 2 else none
      match radix? with
      | none => none
      | some radix => do
          let plain ← ungroup (fun character => (digit? radix character).isSome) digits
          let value ← ofDigits? radix plain
          some (value : Int)
  | _ => none

/-- An integer in decimal digits. -/
def decimalInteger? (text : List Char) : Option Int :=
  let (negative, digits) := unsign text
  (wholeDigits digits).map fun plain =>
    let value : Int := ofDecimalDigits plain
    if negative then -value else value

/-- An infinite or undefined number. -/
def specialFloat? (text : List Char) : Option Binary64 :=
  let (negative, name) := unsign text
  if name = ['i', 'n', 'f'] then some (.infinity negative)
  else if name = ['n', 'a', 'n'] then some .notANumber
  else none

/-- The exponent of a numeral, whose digits may start with zeros. -/
def exponentOf (text : List Char) : Option Int :=
  let (negative, digits) := unsign text
  (ungroup isDigit digits).map fun plain =>
    let value : Int := ofDecimalDigits plain
    if negative then -value else value

/-- A floating-point number in decimal digits: a point with digits, an exponent, or both. -/
def decimalFloat? (text : List Char) : Option Binary64 := do
  let (negative, unsigned) := unsign text
  let (whole, fraction, exponent) := splitNumeral unsigned
  let wholePlain ← wholeDigits whole
  if fraction.isNone ∧ exponent.isNone then none
  else
    let fractionPlain ← match fraction with
      | none => some []
      | some digits => ungroup isDigit digits
    let power ← match exponent with
      | none => some 0
      | some digits => exponentOf digits
    let number := Binary64.ofDecimal negative (ofDecimalDigits (wholePlain ++ fractionPlain))
      (power - fractionPlain.length)
    if number.isInfinite then none else some number

/-- The scalar that a whole text is. -/
def Scalar.parse? (text : List Char) : Option Scalar :=
  if text = ['t', 'r', 'u', 'e'] then some (.boolean true)
  else if text = ['f', 'a', 'l', 's', 'e'] then some (.boolean false)
  else
    ((radixInteger? text).map .integer) <|> ((decimalInteger? text).map .integer) <|>
      ((specialFloat? text).map .float) <|> ((decimalFloat? text).map .float) <|>
      ((Datetime.parse? text).map .datetime)

end LiveConfig.Toml
