/-
An instant of universal time, given by its date and the time of day down to microseconds.
-/

import Concord.Number.Decimal

namespace Concord

structure Instant where
  year : Nat
  month : Nat
  day : Nat
  hour : Nat
  minute : Nat
  second : Nat
  microsecond : Nat
  deriving DecidableEq, Repr

namespace Instant

/-! ### Counting from 1970 -/

/-- The year, the month and the day that is some days behind the first of March of year zero. Years begin
with March, so that the day that is not in all of them comes last; four hundred years are as long as any
other four hundred. -/
def dateOf (days : Nat) : Nat × Nat × Nat :=
  let era := days / 146097
  let dayOfEra := days % 146097
  let yearOfEra := (dayOfEra - dayOfEra / 1460 + dayOfEra / 36524 - dayOfEra / 146096) / 365
  let dayOfYear := dayOfEra - (365 * yearOfEra + yearOfEra / 4 - yearOfEra / 100)
  let month := (5 * dayOfYear + 2) / 153
  let day := dayOfYear - (153 * month + 2) / 5 + 1
  if month < 10 then (era * 400 + yearOfEra, month + 3, day)
  else (era * 400 + yearOfEra + 1, month - 9, day)

/-- The instant that is some seconds and microseconds behind the beginning of 1970. -/
def ofSeconds (seconds microsecond : Nat) : Instant :=
  let (year, month, day) := dateOf (719468 + seconds / 86400)
  { year, month, day
    hour := seconds / 3600 % 24
    minute := seconds / 60 % 60
    second := seconds % 60
    microsecond := microsecond }

/-! ### Text -/

/-- At least two digits. -/
def two (value : Nat) : String :=
  String.ofList (Decimal.padded 2 value)

/-- Date and time without a zone; the fraction of a second is left out when it is zero. -/
def localText (instant : Instant) : String :=
  let year := String.ofList (Decimal.padded 4 instant.year)
  let fraction :=
    if instant.microsecond = 0 then ""
    else "." ++ String.ofList (Decimal.padded 6 instant.microsecond)
  year ++ "-" ++ two instant.month ++ "-" ++ two instant.day ++ "T" ++ two instant.hour ++ ":" ++
    two instant.minute ++ ":" ++ two instant.second ++ fraction

/-- Date and time with the distance from universal time. -/
def logText (instant : Instant) : String :=
  instant.localText ++ "+00:00"

/-- Date and time with the letter of universal time. -/
def reportText (instant : Instant) : String :=
  instant.localText ++ "Z"

/-- Date and time to the second, in digits. -/
def stamp (instant : Instant) : String :=
  String.ofList (Decimal.digitsOf instant.year) ++ two instant.month ++ two instant.day ++ "-" ++
    two instant.hour ++ two instant.minute ++ two instant.second

example : dateOf 719468 = (1970, 1, 1) := by decide

example : ofSeconds 1704164645 678901 = ⟨2024, 1, 2, 3, 4, 5, 678901⟩ := by decide

end Instant

end Concord
