/-!
# Moments

A moment, counted in seconds from the start of 1970, as a date and a time of day
(`momentText`). Days are counted from the first of March of the year 0, so that a leap day
is the last of its year.

The seconds are counted in 64 bits and the years in 32, from 1900 on; a moment beyond has
no text (`MomentError`).
-/

namespace Mender.Log

/-- A date. -/
structure Date where
  year : Int
  /-- The month, from 1. -/
  month : Nat
  /-- The day of the month, from 1. -/
  day : Nat
  deriving DecidableEq, Repr

/-- The number of days from the first of March of the year 0 to the start of 1970. -/
def epochDay : Int := 719468

/-- The days in 400 years. -/
def daysInEra : Int := 146097

/-- The date a number of days after the start of 1970. -/
def Date.ofDay (day : Int) : Date :=
  let n := day + epochDay
  let era := n.fdiv daysInEra
  let inEra := (n.fmod daysInEra).toNat
  -- A year is 365 days but for the leap days among those before.
  let year := (inEra - inEra / 1460 + inEra / 36524 - inEra / 146096) / 365
  let inYear := inEra - (365 * year + year / 4 - year / 100)
  let march := (5 * inYear + 2) / 153
  let month := if march < 10 then march + 3 else march - 9
  ⟨400 * era + year + (if month ≤ 2 then 1 else 0), month, inYear - (153 * march + 2) / 5 + 1⟩

/-- A number with a zero in front if it has one digit. -/
def twoDigits (n : Nat) : String := if n < 10 then "0" ++ toString n else toString n

/-- Why a moment has no text. -/
inductive MomentError
  /-- The seconds cannot be counted. -/
  | outOfRange
  /-- The years since 1900 cannot be counted. -/
  | tooFar
  /-- The year cannot be written. -/
  | yearTooGreat
  deriving DecidableEq, Repr

/-- The text of an error. -/
def MomentError.message : MomentError → String
  | .outOfRange => "timestamp out of range for platform time_t"
  | .tooFar => "[Errno 75] Value too large for defined data type"
  | .yearTooGreat => "signed integer is greater than maximum"

/-- A date as text. -/
def Date.text (d : Date) : String :=
  toString d.year ++ "-" ++ twoDigits d.month ++ "-" ++ twoDigits d.day

/-- A number of seconds since midnight as a time of day. -/
def timeText (seconds : Nat) : String :=
  twoDigits (seconds / 3600) ++ ":" ++ twoDigits (seconds / 60 % 60) ++ ":"
    ++ twoDigits (seconds % 60)

/-- A moment as a date and a time of day. -/
def momentText (seconds : Int) : Except MomentError String :=
  if seconds < -0x8000000000000000 ∨ 0x8000000000000000 ≤ seconds then .error .outOfRange
  else
    let date := Date.ofDay (seconds.fdiv 86400)
    let sinceEpoch := date.year - 1900
    if sinceEpoch < -0x80000000 ∨ 0x80000000 ≤ sinceEpoch then .error .tooFar
    else if 0x80000000 ≤ date.year then .error .yearTooGreat
    else .ok (date.text ++ " " ++ timeText (seconds.fmod 86400).toNat)

end Mender.Log
