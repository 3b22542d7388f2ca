/-
How values are shown in messages and log lines. Truth values and null have names of their own, numbers
are written in their shortest form, and texts inside a collection are quoted; a text on its own is
shown as it is.
-/

import Concord.Value

namespace Concord

open Text

/-- An integer in decimal digits. -/
def integerText (value : Int) : String :=
  String.ofList ((if value < 0 then ['-'] else []) ++ Decimal.digitsOf value.natAbs)

/-- A number in its shortest form. -/
def Number.text : Number → String
  | .integer value => integerText value
  | .double value => Decimal.shortest value

/-- The day of a date, as it is written. -/
def Day.text (day : Day) : List Char :=
  Decimal.padded 4 day.year ++ '-' :: Decimal.padded 2 day.month ++ '-' :: Decimal.padded 2 day.day

/-- The distance of a zone from universal time. -/
def zoneText (minutes : Int) : List Char :=
  (if minutes < 0 then '-' else '+') :: Decimal.padded 2 (minutes.natAbs / 60) ++
    ':' :: Decimal.padded 2 (minutes.natAbs % 60)

/-- The distance of a zone from universal time inside a message: whole days and the seconds over. -/
def zoneQuoted (minutes : Int) : String :=
  let days := minutes / 1440
  let seconds := minutes % 1440 * 60
  if minutes = 0 then "datetime.timezone.utc"
  else
    let parts := (if days = 0 then [] else ["days=" ++ integerText days]) ++
      (if seconds = 0 then [] else ["seconds=" ++ integerText seconds])
    "datetime.timezone(datetime.timedelta(" ++ ", ".intercalate parts ++ "))"

/-- A time of a day, as it is written. -/
def Moment.text (moment : Moment) : List Char :=
  moment.day.text ++ ' ' :: Decimal.padded 2 moment.hour ++ ':' :: Decimal.padded 2 moment.minute ++
    ':' :: Decimal.padded 2 moment.second ++
    (if moment.microsecond = 0 then [] else '.' :: Decimal.padded 6 moment.microsecond) ++
    (moment.zone.map zoneText).getD []

/-- A time of a day inside a message: seconds and their fractions are left out when they are zero. -/
def Moment.quoted (moment : Moment) : String :=
  let fine :=
    if moment.microsecond ≠ 0 then [moment.second, moment.microsecond]
    else if moment.second ≠ 0 then [moment.second]
    else []
  let parts := [moment.day.year, moment.day.month, moment.day.day, moment.hour, moment.minute] ++ fine
  let zone := (moment.zone.map fun minutes => ["tzinfo=" ++ zoneQuoted minutes]).getD []
  "datetime.datetime(" ++
    ", ".intercalate (parts.map (fun part => String.ofList (Decimal.digitsOf part)) ++ zone) ++ ")"

/-- A scalar inside a message. -/
def Scalar.quoted : Scalar → String
  | .null => "None"
  | .boolean value => if value then "True" else "False"
  | .number value => value.text
  | .text value => quote value
  | .day value =>
    s!"datetime.date({value.year}, {value.month}, {value.day})"
  | .moment value => value.quoted

/-- A scalar on its own. -/
def Scalar.shown : Scalar → String
  | .text value => value
  | .day value => String.ofList value.text
  | .moment value => String.ofList value.text
  | other => other.quoted

namespace Value

mutual

/-- A value inside a message. -/
def quoted : Value → String
  | .scalar value => value.quoted
  | .list items => "[" ++ ", ".intercalate (quotedItems items) ++ "]"
  | .mapping entries => "\x7b" ++ ", ".intercalate (quotedEntries entries) ++ "\x7d"

/-- The items of a list inside a message. -/
def quotedItems : List Value → List String
  | [] => []
  | item :: items => quoted item :: quotedItems items

/-- The entries of a mapping inside a message. -/
def quotedEntries : List (Scalar × Value) → List String
  | [] => []
  | (key, value) :: entries => (key.quoted ++ ": " ++ quoted value) :: quotedEntries entries

end

/-- A value on its own. -/
def shown : Value → String
  | .scalar value => value.shown
  | other => other.quoted

end Value

end Concord
