/-
Why a YAML text has no value. Either it is not of the format, or it is and something in it stands for
nothing: a thirteenth month, an integer without digits, an escape with the code of no character. And a file
may hold no text at all.
-/

import Concord.Text.Quoted
import Concord.Text.Utf8
import Concord.Value.Json.Reader

namespace Concord.Yaml

/-! ### Dates and times -/

/-- What is out of range in a date or a time. -/
inductive CalendarFault where
  | year (number : Nat)
  | month
  | day
  | hour
  | minute
  | second
  /-- A zone is a day or more away; the distance is in minutes. -/
  | zone (distance : Int)
  deriving DecidableEq, Repr

/-- A distance of a day or more, in days and seconds. -/
def spanText (minutes : Int) : String :=
  let days := minutes / 1440
  let seconds := minutes % 1440 * 60
  if seconds = 0 then s!"datetime.timedelta(days={days})"
  else s!"datetime.timedelta(days={days}, seconds={seconds})"

/-- The fault in words. -/
def CalendarFault.message : CalendarFault → String
  | .year number => s!"year {number} is out of range"
  | .month => "month must be in 1..12"
  | .day => "day is out of range for month"
  | .hour => "hour must be in 0..23"
  | .minute => "minute must be in 0..59"
  | .second => "second must be in 0..59"
  | .zone distance =>
    "offset must be a timedelta strictly between -timedelta(hours=24) and timedelta(hours=24), not " ++
      spanText distance ++ "."

/-! ### Refusals -/

/-- Why a text has no value. -/
inductive Refusal where
  /-- It is not of the format. -/
  | malformed
  /-- Nothing is written where a number should be. -/
  | nothingWritten
  | noInteger (base : Nat) (text : String)
  /-- An integer with more digits than are accepted. -/
  | longInteger (digits : Nat)
  | noDouble (text : String)
  /-- A number in sixties has so many parts that the first counts for more than a double holds. -/
  | greatSixtieth
  | noTruthValue (word : String)
  | noTimestamp
  | calendar (fault : CalendarFault)
  /-- An escape has the code of no character. -/
  | noCharacter (code : Nat)
  /-- The bytes are those of no text. -/
  | undecodable (refusal : Utf8.Refusal)
  /-- Reading is stopped by something that has nothing to do with the format. -/
  | stopped (message : String)
  deriving DecidableEq, Repr

/-- A way to read YAML files. They are decoded while they are read, so bytes that are those of no text may be
refused for what stands before the fault. No value is made of them. -/
structure Reading where
  ofText : String → Except Refusal Value
  ofBroken : List UInt8 → Refusal

/-- The text is at fault, and not what it stands for. -/
def Refusal.isOfFormat (refusal : Refusal) : Bool :=
  refusal == .malformed

/-- How much is shown of a text that should be an integer. -/
def greatestShown : Nat := 200

/-- The refusal in words. What is wrong with a text that is not of the format is not told. -/
def Refusal.message : Refusal → String
  | .malformed => "<yaml>"
  | .nothingWritten => "string index out of range"
  | .noInteger base text =>
    s!"invalid literal for int() with base {base}: " ++
      String.ofList ((Text.quoted text.toList).take greatestShown)
  | .longInteger digits => (Json.Refusal.mk (.longInteger digits) 0 0 0).message
  | .noDouble text => "could not convert string to float: " ++ Text.quote text
  | .greatSixtieth => "int too large to convert to float"
  | .noTruthValue word => Text.quote word
  | .noTimestamp => "'NoneType' object has no attribute 'groupdict'"
  | .calendar fault => fault.message
  | .noCharacter code =>
    if code < 0x80000000 then "chr() arg not in range(0x110000)"
    else "Python int too large to convert to C int"
  | .undecodable refusal => refusal.message
  | .stopped message => message

/-- What has to be there in a text of the format. -/
def ofFormat {Found : Type} : Option Found → Except Refusal Found
  | some found => .ok found
  | none => .error .malformed

end Concord.Yaml
