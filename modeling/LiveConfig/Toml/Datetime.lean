import LiveConfig.Calendar

/-!
Contract: the dates and times of TOML texts.

Owns: offset date-times, local date-times, local dates and local times, and their normal text.
Seconds may be left out and are then zero; a second of 60 is taken for a leap second; a fraction of a
second keeps nine digits.
-/

namespace LiveConfig.Toml

open LiveConfig.Text

/-- The distance from universal time: `Z`, or minutes. -/
inductive Offset where
  | universal
  | minutes (value : Int)
deriving DecidableEq, Repr

/-- A date, a time, or both, of which the last may carry an offset. -/
inductive Datetime where
  | localDate (date : Date)
  | localTime (time : Time)
  | dateTime (date : Date) (time : Time) (offset : Option Offset)
deriving DecidableEq, Repr

def isOnClock (time : Time) : Bool :=
  time.hour ≤ 23 && time.minute ≤ 59 && time.second ≤ 60

/-- The seconds at the start of a text, if a colon announces them. -/
def secondsAt : List Char → Option (Nat × Nat × List Char)
  | ':' :: text => do
      let (second, rest) ← exactDigits? 2 text
      let (nanosecond, rest) ← fractionAt rest
      some (second, nanosecond, rest)
  | text => some (0, 0, text)

/-- The time at the start of a text. -/
def timeAt (text : List Char) : Option (Time × List Char) := do
  let (hour, rest) ← exactDigits? 2 text
  let (minute, rest) ← exactDigits? 2 (← behind ':' rest)
  let (second, nanosecond, rest) ← secondsAt rest
  let time : Time := ⟨hour, minute, second, nanosecond⟩
  if isOnClock time then some (time, rest) else none

/-- The offset that a whole text is; an empty text has none. -/
def offsetOf : List Char → Option (Option Offset)
  | [] => some none
  | ['Z'] | ['z'] => some (some .universal)
  | text =>
      match offsetAt text with
      | some (minutes, []) => some (some (.minutes minutes))
      | _ => none

/-- The date or time that a whole text is. -/
def Datetime.parse? (text : List Char) : Option Datetime :=
  match dateAt text with
  | some (date, []) => some (.localDate date)
  | some (date, separator :: rest) =>
      if separator = 'T' ∨ separator = 't' ∨ separator = ' ' then do
        let (time, rest) ← timeAt rest
        let offset ← offsetOf rest
        some (.dateTime date time offset)
      else none
  | none =>
      match timeAt text with
      | some (time, []) => some (.localTime time)
      | _ => none

def Offset.text : Offset → String
  | .universal => "Z"
  | .minutes value => offsetText value

/-- The normal text of a date or time. -/
def Datetime.text : Datetime → String
  | .localDate date => date.text
  | .localTime time => time.text
  | .dateTime date time offset =>
      date.text ++ "T" ++ time.text ++ (match offset with | none => "" | some offset => offset.text)

end LiveConfig.Toml
