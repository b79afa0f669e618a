import LiveConfig.Text.Digit

/-!
Contract: dates, times of day and instants with an offset.

Owns: the calendar (months, leap years), the clock, fractions of a second to nine digits, and the
reading and writing of instants: four digits of year, two of all else, one character of any kind
between date and time, and an offset or `Z`. A second of 60 is read as the last nanosecond of second
59, and only where it ends a month in universal time.
-/

namespace LiveConfig

open LiveConfig.Text

/-- A calendar date. -/
structure Date where
  year : Nat
  month : Nat
  day : Nat
deriving DecidableEq, Repr

/-- A time of day. -/
structure Time where
  hour : Nat
  minute : Nat
  second : Nat
  nanosecond : Nat
deriving DecidableEq, Repr

/-- Whether a year has a leap day. -/
def isLeapYear (year : Nat) : Bool :=
  year % 4 == 0 && (year % 100 != 0 || year % 400 == 0)

def daysInMonth (year month : Nat) : Nat :=
  if month = 2 then (if isLeapYear year then 29 else 28)
  else if month = 4 ∨ month = 6 ∨ month = 9 ∨ month = 11 then 30
  else 31

/-- Whether a date is on the calendar. -/
def Date.IsValid (date : Date) : Prop :=
  1 ≤ date.month ∧ date.month ≤ 12 ∧ 1 ≤ date.day ∧ date.day ≤ daysInMonth date.year date.month

instance (date : Date) : Decidable date.IsValid := by
  unfold Date.IsValid
  infer_instance

/-- The rest of a text behind one given character. -/
def behind (expected : Char) : List Char → Option (List Char)
  | character :: rest => if character = expected then some rest else none
  | [] => none

/-- The nanoseconds that a run of fraction digits stands for; digits after the ninth do not
count. -/
def nanosecondsOf (digits : List Char) : Nat :=
  let kept := digits.take 9
  ofDecimalDigits kept * Nat.pow 10 (9 - kept.length)

/-- The date at the start of a text. -/
def dateAt (text : List Char) : Option (Date × List Char) := do
  let (year, rest) ← exactDigits? 4 text
  let (month, rest) ← exactDigits? 2 (← behind '-' rest)
  let (day, rest) ← exactDigits? 2 (← behind '-' rest)
  let date : Date := ⟨year, month, day⟩
  if date.IsValid then some (date, rest) else none

/-- The nanoseconds of a fraction at the start of a text; none if a point is not followed by a
digit. -/
def fractionAt : List Char → Option (Nat × List Char)
  | '.' :: fraction =>
      let digits := fraction.takeWhile isDigit
      if digits.isEmpty then none else some (nanosecondsOf digits, fraction.drop digits.length)
  | text => some (0, text)

def Date.text (date : Date) : String :=
  padded 4 date.year ++ "-" ++ padded 2 date.month ++ "-" ++ padded 2 date.day

/-- The digits of a fraction of a second, without trailing zeros, behind a point; empty for zero. -/
def fractionText (nanosecond : Nat) : String :=
  if nanosecond = 0 then ""
  else
    let digits := (padded 9 nanosecond).toList
    "." ++ .ofList (digits.reverse.dropWhile (· == '0')).reverse

def Time.text (time : Time) : String :=
  padded 2 time.hour ++ ":" ++ padded 2 time.minute ++ ":" ++ padded 2 time.second ++
    fractionText time.nanosecond

/-- The text of an offset in minutes: a sign, hours and minutes. -/
def offsetText (minutes : Int) : String :=
  (if minutes < 0 then "-" else "+") ++ padded 2 (minutes.natAbs / 60) ++ ":" ++
    padded 2 (minutes.natAbs % 60)

/-- The offset in minutes at the start of a text: a sign, up to 23 hours and up to 59 minutes. -/
def offsetAt : List Char → Option (Int × List Char)
  | sign :: text =>
      if sign = '+' ∨ sign = '-' then do
        let (hours, rest) ← exactDigits? 2 text
        let (minutes, rest) ← exactDigits? 2 (← behind ':' rest)
        if hours ≤ 23 ∧ minutes ≤ 59 then
          let total : Int := hours * 60 + minutes
          some (if sign = '-' then -total else total, rest)
        else none
      else none
  | [] => none

/-- An instant: a date and a time at an offset from universal time in minutes. -/
structure Timestamp where
  date : Date
  time : Time
  offset : Int
deriving DecidableEq, Repr

namespace Timestamp

/-- Whether an instant lies in the last minute of a month in universal time. -/
def endsMonth (timestamp : Timestamp) : Bool :=
  let minute : Int := (timestamp.time.hour * 60 + timestamp.time.minute : Nat) - timestamp.offset
  let days := daysInMonth timestamp.date.year timestamp.date.month
  if minute < 0 then minute == -1 && timestamp.date.day == 1
  else if minute < 1440 then minute == 1439 && timestamp.date.day == days
  else minute == 2879 && timestamp.date.day + 1 == days

/-- The offset of an instant at the end of its text. -/
def zoneOf (text : List Char) : Option Int :=
  match text with
  | ['Z'] | ['z'] => some 0
  | _ =>
      match offsetAt text with
      | some (offset, []) => some offset
      | _ => none

/-- The instant that a whole text spells. -/
def parse? (text : List Char) : Option Timestamp := do
  let (date, rest) ← dateAt text
  let (hour, rest) ← exactDigits? 2 (rest.drop 1)
  let (minute, rest) ← exactDigits? 2 (← behind ':' rest)
  let (second, rest) ← exactDigits? 2 (← behind ':' rest)
  let (nanosecond, rest) ← fractionAt rest
  let offset ← zoneOf rest
  if hour ≤ 23 ∧ minute ≤ 59 ∧ second ≤ 59 then
    some ⟨date, ⟨hour, minute, second, nanosecond⟩, offset⟩
  else if hour ≤ 23 ∧ minute ≤ 59 ∧ second = 60 then
    let standIn : Timestamp := ⟨date, ⟨hour, minute, 59, 999999999⟩, offset⟩
    if standIn.endsMonth then some standIn else none
  else none

/-- The text of an instant. -/
def text (timestamp : Timestamp) : String :=
  timestamp.date.text ++ "T" ++ timestamp.time.text ++
    (if timestamp.offset = 0 then "Z" else offsetText timestamp.offset)

end Timestamp

end LiveConfig
