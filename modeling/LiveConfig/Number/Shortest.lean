import LiveConfig.Number.Binary64

/-!
Contract: the fewest decimal digits that read back as a given binary number.

A decimal reads back when it lies in the interval of reals that round to the number; the ends belong
to it exactly when the significand is even. Owns: the choice of digits (the shortest grid that meets
the interval, the nearest point on it) and their positional text, which has no exponent.
-/

namespace LiveConfig.Binary64

/-- A positive decimal: its digits as a whole number, and the power of ten they stand for. -/
structure Decimal where
  digits : Nat
  exponent : Int
deriving DecidableEq, Repr

/-- The reals that round to a finite positive number, as whole numbers over one denominator. -/
structure RoundingInterval where
  low : Nat
  value : Nat
  high : Nat
  denominator : Nat
  closed : Bool

/-- The interval of a finite positive number. Below a power of two the gap is half as wide, except
at the lower end of the normal range. -/
def roundingInterval (number : Binary64) : RoundingInterval :=
  let significand := number.significand
  let narrow := significand == Nat.pow 2 52 && -1074 < number.exponent
  let quadruple := 4 * significand
  let low := if narrow then quadruple - 1 else quadruple - 2
  let shift := number.exponent - 2
  let closed := significand % 2 == 0
  if 0 ≤ shift then
    ⟨low <<< shift.toNat, quadruple <<< shift.toNat, (quadruple + 2) <<< shift.toNat, 1, closed⟩
  else ⟨low, quadruple, quadruple + 2, 1 <<< (-shift).toNat, closed⟩

/-- Whether the decimal `digits * 10 ^ exponent` reads back. -/
def RoundingInterval.contains (interval : RoundingInterval) (digits : Nat) (exponent : Int) :
    Bool :=
  let scaled :=
    if 0 ≤ exponent then digits * Nat.pow 10 exponent.toNat * interval.denominator
    else digits * interval.denominator
  let unit := if 0 ≤ exponent then 1 else Nat.pow 10 (-exponent).toNat
  if interval.closed then interval.low * unit ≤ scaled && scaled ≤ interval.high * unit
  else interval.low * unit < scaled && scaled < interval.high * unit

/-- The point of the grid of step `10 ^ exponent` nearest to the value among those that read back,
if any of its two neighbours does; of two equally near ones the even. -/
def RoundingInterval.onGrid (interval : RoundingInterval) (exponent : Int) : Option Nat :=
  let numerator :=
    if 0 ≤ exponent then interval.value else interval.value * Nat.pow 10 (-exponent).toNat
  let denominator :=
    if 0 ≤ exponent then interval.denominator * Nat.pow 10 exponent.toNat else interval.denominator
  let below := numerator / denominator
  let nearest := roundQuotient numerator denominator
  let other := if nearest = below then below + 1 else below
  if interval.contains nearest exponent then some nearest
  else if interval.contains other exponent then some other
  else none

/-- The decimal exponent of the leading digit of a positive quotient, or one more. -/
def leadingExponent (numerator denominator : Nat) : Int :=
  let guess := ((numerator.log2 : Int) - (denominator.log2 : Int)) * 30103 / 100000 + 1
  guess

/-- The first grid that holds a decimal reading back, from coarse to fine. -/
def RoundingInterval.search (interval : RoundingInterval) : Nat → Int → Option Decimal
  | 0, _ => none
  | fuel + 1, exponent =>
      match interval.onGrid exponent with
      | some 0 => interval.search fuel (exponent - 1)
      | some digits => some ⟨digits, exponent⟩
      | none => interval.search fuel (exponent - 1)

/-- Digits without trailing zeros. -/
def Decimal.strip : Nat → Decimal → Decimal
  | 0, decimal => decimal
  | fuel + 1, decimal =>
      if decimal.digits ≠ 0 ∧ decimal.digits % 10 = 0 then
        Decimal.strip fuel ⟨decimal.digits / 10, decimal.exponent + 1⟩
      else decimal

/-- The shortest decimal that reads back as a finite positive number. Nineteen grids below the one
of the leading digit are finer than any binary interval of this width. -/
def shortest (number : Binary64) : Decimal :=
  let interval := number.roundingInterval
  let start := leadingExponent interval.value interval.denominator
  match interval.search 22 (start + 1) with
  | some decimal => decimal.strip 20
  | none => ⟨0, 0⟩

/-- The positional text of a positive decimal: no exponent, and a point only before a fraction. -/
def Decimal.positional (decimal : Decimal) : String :=
  let digits := (Nat.toDigits 10 decimal.digits)
  if 0 ≤ decimal.exponent then
    .ofList (digits ++ List.replicate decimal.exponent.toNat '0')
  else
    let places := (-decimal.exponent).toNat
    if places < digits.length then
      .ofList (digits.take (digits.length - places) ++ '.' :: digits.drop (digits.length - places))
    else .ofList ('0' :: '.' :: List.replicate (places - digits.length) '0' ++ digits)

/-- The positional text of a number: the shortest that reads back, with names for what is not
finite. -/
def positional (number : Binary64) : String :=
  if number.isNaN then "NaN"
  else
    let unsigned :=
      if number.isInfinite then "inf"
      else if number.isZero then "0"
      else number.shortest.positional
    if number.isNegative then "-" ++ unsigned else unsigned

end LiveConfig.Binary64
