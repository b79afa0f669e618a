import LiveConfig.Value
import LiveConfig.Text.Digit

/-!
Contract: the numbers of JSON texts.

A numeral is read into a 64-bit significand and a power of ten. Digits that the significand can no
longer take are dropped: in front of the point each counts as a power of ten, behind it they do not
count. Without point and exponent a number in the range of a signed or unsigned 64-bit word is an
integer; `-0` and all others are floating point, computed as the nearest number to the significand
times or divided by a power of ten, each step rounded. A result beyond the largest number is refused.
-/

namespace LiveConfig.Json

open LiveConfig.Text

/-- The largest significand. -/
def wordMax : Nat := UInt64.size - 1

/-- Exponents are accumulated up to this bound. -/
def exponentMax : Nat := Nat.pow 2 31 - 1

/-- Whether a significand can take one more digit. -/
def takes (significand : Nat) (digit : Char) : Bool :=
  10 * significand + digitValue digit ≤ wordMax

/-- A number less than `2 ^ 64` divided by `10 ^ 308` as often as asked; zero stays zero. -/
def scaleDown : Nat → Binary64 → Binary64
  | 0, number => number
  | count + 1, number =>
      if number.isZero then number
      else scaleDown count (number.div (.ofDecimal false 1 308))

/-- The significand scaled by a power of ten, or none if the result is infinite. -/
def scaled? (significand : Nat) (exponent : Int) : Option Binary64 :=
  let number := Binary64.ofNat significand
  if 0 ≤ exponent then
    if exponent ≤ 308 then
      let product := number.mul (.ofDecimal false 1 exponent)
      if product.isInfinite then none else some product
    else if number.isZero then some number
    else none
  else
    let places := (-exponent).toNat
    let count := (places - 1) / 308
    some ((scaleDown count number).div (.ofDecimal false 1 (places - 308 * count : Nat)))

/-- A floating-point value behind a sign. -/
def signed (negative : Bool) (number : Binary64) : Value :=
  .float (if negative then number.neg else number)

/-- The digits of an exponent. None stands for an exponent beyond the bound. -/
def exponentDigits (value : Nat) : List Char → Option Nat × List Char
  | [] => (some value, [])
  | character :: rest =>
      if isDigit character then
        if 10 * value + digitValue character ≤ exponentMax then
          exponentDigits (10 * value + digitValue character) rest
        else (none, rest.dropWhile isDigit)
      else (some value, character :: rest)

/-- The sign of an exponent: whether it is negative, and the rest. -/
def exponentSign : List Char → Bool × List Char
  | '+' :: rest => (false, rest)
  | '-' :: rest => (true, rest)
  | rest => (false, rest)

/-- The value after the exponent mark. -/
def exponentPart (negative : Bool) (significand : Nat) (shift : Int) (text : List Char) :
    Option (Value × List Char) :=
  let (below, digits) := exponentSign text
  match digits with
  | first :: rest =>
      if isDigit first then
        match exponentDigits (digitValue first) rest with
        | (some exponent, after) =>
            let total := if below then shift - exponent else shift + exponent
            (scaled? significand total).map fun number => (signed negative number, after)
        | (none, after) =>
            if significand ≠ 0 ∧ !below then none
            else some (signed negative (.ofNat 0), after)
      else none
  | [] => none

/-- The value whose significand and power of ten are read, up to an exponent mark. -/
def afterDigits (negative : Bool) (significand : Nat) (shift : Int) (text : List Char) :
    Option (Value × List Char) :=
  match text with
  | 'e' :: rest | 'E' :: rest => exponentPart negative significand shift rest
  | rest => (scaled? significand shift).map fun number => (signed negative number, rest)

/-- The digits behind the point. `some` digit must stand there. -/
def fractionDigits (negative : Bool) (significand : Nat) (shift : Int) (any : Bool) :
    List Char → Option (Value × List Char)
  | [] => if any then afterDigits negative significand shift [] else none
  | character :: rest =>
      if isDigit character then
        if takes significand character then
          fractionDigits negative (10 * significand + digitValue character) (shift - 1) true rest
        else afterDigits negative significand shift (rest.dropWhile isDigit)
      else if any then afterDigits negative significand shift (character :: rest)
      else none

/-- What follows the whole digits of a number that is floating point already. -/
def afterWhole (negative : Bool) (significand : Nat) (shift : Int) (text : List Char) :
    Option (Value × List Char) :=
  match text with
  | '.' :: rest => fractionDigits negative significand shift false rest
  | rest => afterDigits negative significand shift rest

/-- The whole digits after the first. -/
def wholeDigits (negative : Bool) (significand : Nat) : List Char → Option (Value × List Char)
  | [] => some (integral [])
  | character :: rest =>
      if isDigit character then
        if takes significand character then
          wholeDigits negative (10 * significand + digitValue character) rest
        else
          let dropped := (character :: rest).takeWhile isDigit
          afterWhole negative significand dropped.length (rest.dropWhile isDigit)
      else
        match character with
        | '.' => fractionDigits negative significand 0 false rest
        | 'e' | 'E' => exponentPart negative significand 0 rest
        | _ => some (integral (character :: rest))
where
  /-- A number without point and exponent. -/
  integral (after : List Char) : Value × List Char :=
    if !negative then (.integer significand, after)
    else if significand = 0 ∨ Nat.pow 2 63 < significand then
      (signed true (.ofNat significand), after)
    else (.integer (-significand), after)

/-- The number at the start of a text, behind its sign. A leading zero stands alone. -/
def unsignedNumeral (negative : Bool) : List Char → Option (Value × List Char)
  | [] => none
  | '0' :: rest =>
      match rest with
      | next :: _ => if isDigit next then none else wholeDigits negative 0 rest
      | [] => wholeDigits negative 0 []
  | first :: rest => if isDigit first then wholeDigits negative (digitValue first) rest else none

/-- The number at the start of a text, with the rest. -/
def numeral : List Char → Option (Value × List Char)
  | '-' :: rest => unsignedNumeral true rest
  | text => unsignedNumeral false text

end LiveConfig.Json
