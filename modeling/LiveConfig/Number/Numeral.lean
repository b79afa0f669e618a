import LiveConfig.Number.Binary64
import LiveConfig.Text.Digit

/-!
Contract: the texts of numbers in plain decimal notation.

Owns: signs, whole numbers of a bounded size, and floating-point numbers with a point, an exponent, or
neither, or by name. Nothing may stand around a number, not even a blank.
Does not own: the notations of the document formats, which have rules of their own.
-/

namespace LiveConfig.Numeral

open LiveConfig.Text

/-- A sign in front of a text: whether it is negative, and the rest. -/
def unsign : List Char → Bool × List Char
  | '+' :: rest => (false, rest)
  | '-' :: rest => (true, rest)
  | text => (false, text)

/-- The parts of a numeral: whole digits, digits behind a point if there is one, and the exponent if
there is one. -/
def splitNumeral (text : List Char) : List Char × Option (List Char) × Option (List Char) :=
  let isMark (character : Char) : Bool := character == 'e' || character == 'E'
  let mantissa := text.takeWhile (!isMark ·)
  let exponent :=
    match text.dropWhile (!isMark ·) with
    | [] => none
    | _ :: rest => some rest
  let whole := mantissa.takeWhile (· != '.')
  let fraction :=
    match mantissa.dropWhile (· != '.') with
    | [] => none
    | _ :: rest => some rest
  (whole, fraction, exponent)

/-- The number that at least one decimal digit stands for. -/
def digits? (text : List Char) : Option Nat :=
  if text.isEmpty then none else ofDigits? 10 text

/-- A whole number up to a bound; a plus sign may stand in front. -/
def unsigned? (bound : Nat) (text : List Char) : Option Nat :=
  let digits :=
    match text with
    | '+' :: rest => rest
    | _ => text
  (digits? digits).filter (· ≤ bound)

/-- A whole number that fits a signed 64-bit word; a sign may stand in front. -/
def signed? (text : List Char) : Option Int :=
  let (negative, digits) := unsign text
  (digits? digits).bind fun magnitude =>
    let value : Int := if negative then -magnitude else magnitude
    if -(Int.pow 2 63) ≤ value ∧ value < Int.pow 2 63 then some value else none

/-- The exponent of a numeral: digits behind an optional sign. -/
def exponent? (text : List Char) : Option Int :=
  let (negative, digits) := unsign text
  (digits? digits).map fun magnitude => if negative then -(magnitude : Int) else magnitude

/-- The finite or overflowing number of an unsigned numeral: digits on at least one side of the point,
and an exponent if it is announced. -/
def decimal? (negative : Bool) (text : List Char) : Option Binary64 :=
  let (whole, fraction, exponent) := splitNumeral text
  let digits := whole ++ fraction.getD []
  match digits? digits, (exponent.map exponent?).getD (some 0) with
  | some value, some power =>
      some (.ofDecimal negative value (power - (fraction.getD []).length))
  | _, _ => none

/-- A floating-point number. Infinity and the undefined number are named in letters of either case;
a number too large is infinite. -/
def float? (text : List Char) : Option Binary64 :=
  let (negative, unsigned) := unsign text
  let name := String.ofList (unsigned.map Char.toLower)
  if name = "inf" ∨ name = "infinity" then some (.infinity negative)
  else if name = "nan" then some .notANumber
  else decimal? negative unsigned

end LiveConfig.Numeral
