/-!
Contract: digits of a radix.

Owns: the value of a digit character and of a run of digits.
-/

namespace LiveConfig.Text

/-- The value of an ASCII digit or letter in radix sixteen. -/
def hexDigit? (character : Char) : Option Nat :=
  let code := character.toNat
  if 0x30 ≤ code ∧ code ≤ 0x39 then some (code - 0x30)
  else if 0x41 ≤ code ∧ code ≤ 0x46 then some (code - 0x37)
  else if 0x61 ≤ code ∧ code ≤ 0x66 then some (code - 0x57)
  else none

/-- The value of a character as a digit of a radix up to sixteen. -/
def digit? (radix : Nat) (character : Char) : Option Nat :=
  (hexDigit? character).filter (· < radix)

/-- Whether a character is an ASCII decimal digit. -/
def isDigit (character : Char) : Bool :=
  '0' ≤ character && character ≤ '9'

/-- The value of a decimal digit; zero for any other character. -/
def digitValue (character : Char) : Nat :=
  character.toNat - 0x30

/-- The number that a run of digits stands for, or none if a character is no digit of the radix. -/
def ofDigits? (radix : Nat) (digits : List Char) : Option Nat :=
  digits.foldlM (fun value character => (digit? radix character).map (radix * value + ·)) 0

/-- The number that a run of decimal digits stands for. -/
def ofDecimalDigits (digits : List Char) : Nat :=
  digits.foldl (fun value character => 10 * value + digitValue character) 0

/-- A run of exactly `count` decimal digits at the start of a text, with the rest. -/
def exactDigits? (count : Nat) (text : List Char) : Option (Nat × List Char) :=
  let digits := text.take count
  if digits.length = count ∧ digits.all isDigit then
    some (ofDecimalDigits digits, text.drop count)
  else none

/-- The decimal text of a whole number, padded with zeros on the left to a width. -/
def padded (width value : Nat) : String :=
  let digits := Nat.toDigits 10 value
  .ofList (List.replicate (width - digits.length) '0' ++ digits)

end LiveConfig.Text
