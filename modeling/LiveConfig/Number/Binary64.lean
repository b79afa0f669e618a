/-!
Contract: binary floating-point numbers of 64 bits, as data.

A number is its bit pattern. Owns: rounding an exact quotient to the nearest number (ties to the
even neighbour), the two operations that readers of numeric text need, and rounding to a whole
number. Every rounding is exact arithmetic on natural numbers.
Does not own: how a number is written or read, which is the matter of a text format.
-/

namespace LiveConfig

/-- A number in the interchange format: one sign bit, eleven exponent bits, 52 fraction bits. -/
structure Binary64 where
  bits : UInt64
deriving DecidableEq, Repr, Inhabited

namespace Binary64

/-- The pattern of a non-negative number behind a sign. -/
def ofMagnitude (negative : Bool) (magnitude : Nat) : Binary64 :=
  ⟨(if negative then 0x8000000000000000 + magnitude else magnitude).toUInt64⟩

/-- The magnitude of infinity as a pattern. -/
def infinityPattern : Nat := 0x7FF0000000000000

/-- Infinity of either sign. -/
def infinity (negative : Bool) : Binary64 := ofMagnitude negative infinityPattern

/-- The quiet number that stands for an undefined result. -/
def notANumber : Binary64 := ⟨0x7FF8000000000000⟩

/-- Whether the sign bit is set. -/
def isNegative (number : Binary64) : Bool := number.bits.toNat ≥ 0x8000000000000000

/-- The pattern without its sign. -/
def magnitude (number : Binary64) : Nat := number.bits.toNat % 0x8000000000000000

def isInfinite (number : Binary64) : Bool := number.magnitude == infinityPattern

/-- Whether the pattern stands for no number. -/
def isNaN (number : Binary64) : Bool := infinityPattern < number.magnitude

/-- Whether the number is zero of either sign. -/
def isZero (number : Binary64) : Bool := number.magnitude == 0

/-- Whether the number is neither infinite nor undefined. -/
def isFinite (number : Binary64) : Bool := number.magnitude < infinityPattern

/-- The number with the other sign. -/
def neg (number : Binary64) : Binary64 := ofMagnitude (!number.isNegative) number.magnitude

/-- The significand of a finite number: its absolute value is `significand * 2 ^ exponent`. -/
def significand (number : Binary64) : Nat :=
  let field : Nat := number.magnitude / Nat.pow 2 52
  let fraction : Nat := number.magnitude % Nat.pow 2 52
  if field = 0 then fraction else fraction + Nat.pow 2 52

/-- The binary exponent that goes with `significand`. -/
def exponent (number : Binary64) : Int :=
  let field : Nat := number.magnitude / Nat.pow 2 52
  if field = 0 then -1074 else (field : Int) - 1075

/-- The whole number nearest to a quotient, ties to the even one. -/
def roundQuotient (numerator denominator : Nat) : Nat :=
  let quotient := numerator / denominator
  let remainder := numerator % denominator
  if 2 * remainder < denominator then quotient
  else if 2 * remainder > denominator then quotient + 1
  else if quotient % 2 = 0 then quotient
  else quotient + 1

/-- The exponent of the last place of the number nearest to a positive quotient. -/
def placeOf (numerator denominator : Nat) : Int :=
  let guess : Int := (numerator.log2 : Int) - (denominator.log2 : Int)
  let belowGuess : Bool :=
    if 0 ≤ guess then numerator < denominator <<< guess.toNat
    else numerator <<< (-guess).toNat < denominator
  let place := if belowGuess then guess - 53 else guess - 52
  if place < -1074 then -1074 else place

/-- The number nearest to `numerator / denominator`, ties to the even significand; a quotient
beyond the largest finite number by half a place or more is infinite. -/
def ofQuotient (negative : Bool) (numerator denominator : Nat) : Binary64 :=
  if numerator = 0 ∨ denominator = 0 then ofMagnitude negative 0
  else
    let place := placeOf numerator denominator
    let rounded :=
      if 0 ≤ place then roundQuotient numerator (denominator <<< place.toNat)
      else roundQuotient (numerator <<< (-place).toNat) denominator
    let pattern :=
      if rounded < Nat.pow 2 52 then rounded
      else (place + 1075).toNat * Nat.pow 2 52 + (rounded - Nat.pow 2 52)
    ofMagnitude negative (min pattern infinityPattern)

/-- The number nearest to `significand * 2 ^ exponent`. -/
def ofScaled (negative : Bool) (significand : Nat) (exponent : Int) : Binary64 :=
  if 0 ≤ exponent then ofQuotient negative (significand <<< exponent.toNat) 1
  else ofQuotient negative significand (1 <<< (-exponent).toNat)

/-- The number nearest to a whole number. -/
def ofNat (value : Nat) : Binary64 := ofQuotient false value 1

/-- The product of two finite numbers, rounded to the nearest. -/
def mul (left right : Binary64) : Binary64 :=
  ofScaled (left.isNegative != right.isNegative)
    (left.significand * right.significand) (left.exponent + right.exponent)

/-- The quotient of two finite numbers of which the second is not zero, rounded to the nearest. -/
def div (left right : Binary64) : Binary64 :=
  let shift := left.exponent - right.exponent
  let negative := left.isNegative != right.isNegative
  if 0 ≤ shift then ofQuotient negative (left.significand <<< shift.toNat) right.significand
  else ofQuotient negative left.significand (right.significand <<< (-shift).toNat)

/-- The number nearest to `digits * 10 ^ exponent`. Exponents far outside the range are settled by
the count of digits, so that no power of ten is computed for them. -/
def ofDecimal (negative : Bool) (digits : Nat) (exponent : Int) : Binary64 :=
  if digits = 0 then ofMagnitude negative 0
  else
    let decimals : Int := (digits.log2 : Int) * 30103 / 100000 + exponent
    if 320 < decimals then infinity negative
    else if decimals < -340 then ofMagnitude negative 0
    else if 0 ≤ exponent then ofQuotient negative (digits * Nat.pow 10 exponent.toNat) 1
    else ofQuotient negative digits (Nat.pow 10 (-exponent).toNat)

/-- The whole number nearest to the absolute value, ties away from zero; none unless finite. -/
def roundMagnitude (number : Binary64) : Option Nat :=
  if !number.isFinite then none
  else if 0 ≤ number.exponent then some (number.significand <<< number.exponent.toNat)
  else
    let places := (-number.exponent).toNat
    some ((number.significand + 1 <<< (places - 1)) >>> places)

/-- The unsigned 64-bit word nearest to the number: rounded half away from zero, with numbers
outside the range at its ends and an undefined number at zero. -/
def toWord (number : Binary64) : Nat :=
  if number.isNaN || number.isNegative then 0
  else
    match number.roundMagnitude with
    | none => UInt64.size - 1
    | some whole => min whole (UInt64.size - 1)

end Binary64

end LiveConfig
