/-
What a scalar of a YAML text stands for. A plain one shows by its form what it is: words for null and for
truth values, integers in four bases or in sixties, decimal fractions, dates and times; everything else is
text. A tag says so without regard to the form. Either way the scalar is then made of the text, which can
fail: the text may not fit the tag, and a form can be right although no value has it.
-/

import Concord.Text.Case
import Concord.Text.Integer
import Concord.Value.Yaml.Node

namespace Concord.Yaml

open Text

/-! ### Forms of numbers -/

/-- A digit or an underscore. -/
def isDigitOrGap (c : Char) : Bool :=
  c.isDigit || c == '_'

/-- Digits with underscores among them; the first is a digit. -/
def isWhole : List Char → Bool
  | c :: rest => c.isDigit && rest.all isDigitOrGap
  | [] => false

/-- A part of a number in sixties: one digit, or two of which the first is below six. -/
def isSixtieth : List Char → Bool
  | [c] => c.isDigit
  | [first, second] => '0' ≤ first && first ≤ '5' && second.isDigit
  | _ => false

/-- A number in sixties: some digits, and at least one part behind a colon. -/
def isInSixties (text : List Char) : Bool :=
  match pieces (· == ':') text with
  | first :: second :: others => isWhole first && (second :: others).all isSixtieth
  | _ => false

/-- Digits of a base and underscores, at least one of them. -/
def areDigitsOf (base : Nat) (text : List Char) : Bool :=
  !text.isEmpty && text.all fun c => (Json.hexValue? c).any (· < base) || c == '_'

/-- The form of an integer without a sign. -/
def isNatural : List Char → Bool
  | ['0'] => true
  | '0' :: 'b' :: digits => areDigitsOf 2 digits
  | '0' :: 'x' :: digits => areDigitsOf 16 digits
  | '0' :: digits => areDigitsOf 8 digits
  | text => isWhole text || isInSixties text

/-- The form of an integer. -/
def isInteger (text : List Char) : Bool :=
  isNatural (signed text).2

/-- The form of an exponent that ends a number: a letter, a sign and digits, or nothing. -/
def isExponent : List Char → Bool
  | [] => true
  | mark :: sign :: digits =>
    (mark == 'e' || mark == 'E') && (sign == '+' || sign == '-') && !digits.isEmpty &&
      digits.all Char.isDigit
  | [_] => false

/-- The form of a double whose parts before and behind the point are given. -/
def isPointed (hasSign : Bool) (whole rest : List Char) : Bool :=
  let fraction := rest.takeWhile isDigitOrGap
  let tail := rest.dropWhile isDigitOrGap
  if whole.isEmpty then
    ["inf", "Inf", "INF"].any (·.toList == rest) ||
      (!hasSign && (["nan", "NaN", "NAN"].any (·.toList == rest) ||
        (isWhole fraction && isExponent tail)))
  else (isWhole whole && isExponent tail) || (isInSixties whole && tail.isEmpty)

/-- The form of a double. -/
def isDouble (text : List Char) : Bool :=
  let digits := (signed text).2
  match cutAt (· == '.') digits with
  | (whole, some rest) => isPointed (digits.length != text.length) whole rest
  | (_, none) => false

/-! ### Integers -/

/-- The characters without underscores. -/
def withoutGaps (text : List Char) : List Char :=
  text.filter (· != '_')

/-- The value of a digit in a base: a decimal digit of any script, or a letter. -/
def digitIn? (base : Nat) (c : Char) : Option Nat :=
  ((digitValue? c).or (Json.hexValue? c)).filter (· < base)

/-- The text without the mark of a base in front. -/
def behindMark (base : Nat) : List Char → List Char
  | '0' :: c :: rest =>
    if [(2, 'b'), (8, 'o'), (16, 'x')].contains (base, c.toLower) then rest else '0' :: c :: rest
  | text => text

/-- The integer that a text writes in a base, with blanks around, a sign and the mark of the base in front.
Only decimal digits can be too many. -/
def integerIn (base : Nat) (text : List Char) : Except Refusal Int :=
  let (isNegative, unsigned) := signed (trim surroundsInteger text)
  match (behindMark base unsigned).mapM (digitIn? base) with
  | none | some [] => .error (.noInteger base (String.ofList text))
  | some values =>
    if base = 10 ∧ greatestDigitCount < values.length then .error (.longInteger values.length)
    else
      let size : Nat := values.foldl (fun number value => number * base + value) 0
      .ok (if isNegative then -(size : Int) else size)

/-- The integer that a text without a sign writes. A zero in front tells the base. -/
def unsignedInteger (text : List Char) : Except Refusal Int :=
  match text with
  | [] => .error .nothingWritten
  | '0' :: 'b' :: digits => integerIn 2 digits
  | '0' :: 'x' :: digits => integerIn 16 digits
  | '0' :: _ => integerIn 8 text
  | _ => do
    let parts ← (pieces (· == ':') text).mapM (integerIn 10)
    return parts.foldl (fun number part => number * 60 + part) 0

/-- The integer that a text writes. -/
def integerOf (text : List Char) : Except Refusal Int :=
  let (isNegative, unsigned) := signed (withoutGaps text)
  (unsignedInteger unsigned).map fun size => if isNegative then -size else size

/-! ### Doubles -/

/-- The exponent that ends a number: a letter, a sign that may be left out, and digits; or nothing. -/
def exponent? : List Char → Option Int
  | [] => some 0
  | mark :: rest => do
    let (isNegative, digits) := signed rest
    let values ← digits.mapM digitValue?
    let size : Int := numberOfDigits values
    if (mark = 'e' ∨ mark = 'E') ∧ !digits.isEmpty then some (if isNegative then -size else size)
    else none

/-- The double that a text writes in decimal digits or names, with blanks around and a sign in front. -/
def decimal? (text : List Char) : Option Binary64 := do
  let (isNegative, unsigned) := signed (trim surroundsInteger text)
  if ["inf", "infinity"].any (·.toList == unsigned) then return .infinite isNegative
  if "nan".toList == unsigned then return .undefined
  let whole := unsigned.takeWhile isDecimalDigit
  let (fraction, tail) := match unsigned.dropWhile isDecimalDigit with
    | '.' :: rest => (rest.takeWhile isDecimalDigit, rest.dropWhile isDecimalDigit)
    | rest => ([], rest)
  let exponent ← exponent? tail
  let values ← (whole ++ fraction).mapM digitValue?
  if values.isEmpty then none
  else return .ofDecimal isNegative (numberOfDigits values) (exponent - fraction.length)

/-- The double that one part of a number is. -/
def doublePart (text : List Char) : Except Refusal Binary64 :=
  match decimal? text with
  | some value => .ok value
  | none => .error (.noDouble (String.ofList text))

/-- What a part of a number in sixties counts for. -/
def sixtieth (part : Binary64) (power : Nat) : Except Refusal Binary64 :=
  match part, Binary64.ofInt (Nat.pow 60 power : Nat) with
  | _, .infinite _ => .error .greatSixtieth
  | .infinite isNegative, _ => .ok (.infinite isNegative)
  | part, weight => .ok (part.mul weight)

/-- The double that a text without a sign writes. The parts of a number in sixties are added up from the
last to the first. -/
def unsignedDouble (text : List Char) : Except Refusal Binary64 := do
  match ← (pieces (· == ':') text).mapM doublePart with
  | [whole] => return whole
  | parts =>
    let terms ← parts.reverse.zipIdx.mapM fun (part, power) => sixtieth part power
    return terms.foldl Binary64.add (.zero false)

/-- The double that a text writes. -/
def doubleOf (text : List Char) : Except Refusal Binary64 := do
  let written := lower (withoutGaps text)
  if written.isEmpty then throw .nothingWritten
  let (isNegative, unsigned) := signed written
  if unsigned == ".inf".toList then return .infinite isNegative
  if unsigned == ".nan".toList then return .undefined
  let size ← unsignedDouble unsigned
  return if isNegative then size.negate else size

/-! ### Dates and times -/

/-- Between `least` and `most` digits at the start of a text, as many as there are, and the rest. -/
def digitField? (least most : Nat) (text : List Char) : Option (Nat × List Char) :=
  let digits := (text.take most).takeWhile Char.isDigit
  if digits.length < least then none
  else some (Json.digitsNumber digits, text.drop digits.length)

/-- The rest of a text behind a character. -/
def past? (c : Char) : List Char → Option (List Char)
  | first :: rest => if first = c then some rest else none
  | [] => none

/-- How many days a month has. -/
def daysIn (year month : Nat) : Nat :=
  if month = 2 then
    if year % 4 = 0 ∧ (year % 100 ≠ 0 ∨ year % 400 = 0) then 29 else 28
  else if [4, 6, 9, 11].contains month then 30
  else 31

/-- The minutes of a day, which no zone is away. -/
def minutesOfDay : Nat := 1440

/-- The day exists. -/
def checkDay (day : Day) : Except Refusal Unit :=
  if day.year = 0 then .error (.calendar (.year day.year))
  else if day.month = 0 ∨ 12 < day.month then .error (.calendar .month)
  else if day.day = 0 ∨ daysIn day.year day.month < day.day then .error (.calendar .day)
  else .ok ()

/-- The zone exists. -/
def checkZone (zone : Option Int) : Except Refusal Unit :=
  match zone with
  | some distance =>
    if minutesOfDay ≤ distance.natAbs then .error (.calendar (.zone distance)) else .ok ()
  | none => .ok ()

/-- The time exists. -/
def checkMoment (moment : Moment) : Except Refusal Unit := do
  checkZone moment.zone
  checkDay moment.day
  if 23 < moment.hour then .error (.calendar .hour)
  else if 59 < moment.minute then .error (.calendar .minute)
  else if 59 < moment.second then .error (.calendar .second)
  else .ok ()

/-- The date that opens a text; `least` is the least width of month and day. -/
def date? (least : Nat) (text : List Char) : Option (Day × List Char) := do
  let (year, rest) ← digitField? 4 4 text
  let (month, rest) ← digitField? least 2 (← past? '-' rest)
  let (day, rest) ← digitField? least 2 (← past? '-' rest)
  return (⟨year, month, day⟩, rest)

/-- The text behind what stands between a date and a time: a letter, or blanks. -/
def behindDate? : List Char → Option (List Char)
  | c :: rest =>
    if c = 'T' ∨ c = 't' then some rest
    else if isWhite c then some (rest.dropWhile isWhite)
    else none
  | [] => none

/-- The microseconds that a time ends with, and the rest. Digits beyond the sixth are dropped. -/
def fraction (text : List Char) : Nat × List Char :=
  match text with
  | '.' :: rest =>
    let digits := rest.takeWhile Char.isDigit
    let six := (digits ++ List.replicate 6 '0').take 6
    (Json.digitsNumber six, rest.dropWhile Char.isDigit)
  | text => (0, text)

/-- The zone that ends a time; nothing when no zone is written. -/
def zone? (text : List Char) : Option (Option Int) :=
  if text.isEmpty then some none
  else match text.dropWhile isWhite with
    | ['Z'] => some (some 0)
    | sign :: rest =>
      if sign = '+' ∨ sign = '-' then do
        let (hours, rest) ← digitField? 1 2 rest
        let minutes ← match rest with
          | [] => some 0
          | ':' :: rest => do
            let (minutes, rest) ← digitField? 2 2 rest
            if rest.isEmpty then some minutes else none
          | _ => none
        let distance : Int := hours * 60 + minutes
        return some (if sign = '-' then -distance else distance)
      else none
    | [] => none

/-- The time that a text writes. -/
def moment? (text : List Char) : Option Moment := do
  let (day, rest) ← date? 1 text
  let (hour, rest) ← digitField? 1 2 (← behindDate? rest)
  let (minute, rest) ← digitField? 2 2 (← past? ':' rest)
  let (second, rest) ← digitField? 2 2 (← past? ':' rest)
  let (microsecond, rest) := fraction rest
  let zone ← zone? rest
  return { day, hour, minute, second, microsecond, zone }

/-- The day that a text writes; `least` is the least width of month and day. -/
def day? (least : Nat) (text : List Char) : Option Day :=
  match date? least text with
  | some (day, []) => some day
  | _ => none

/-- The form of a day or a time. -/
def isTimestamp (text : List Char) : Bool :=
  (day? 2 text).isSome || (moment? text).isSome

/-- The day or the time that a text writes. -/
def timestampOf (text : List Char) : Except Refusal Scalar :=
  match day? 1 text, moment? text with
  | some day, _ => (checkDay day).map fun _ => .day day
  | none, some moment => (checkMoment moment).map fun _ => .moment moment
  | none, none => .error .noTimestamp

/-! ### Words -/

/-- A word in small letters, with a capital first letter, or in capital letters. -/
def spellings (word : String) : List String :=
  [word, word.capitalize, word.map Char.toUpper]

/-- The words for truth values. -/
def truthWords : List (String × Bool) :=
  [("yes", true), ("no", false), ("true", true), ("false", false), ("on", true), ("off", false)]

/-- The form of a truth value. -/
def isTruthWord (text : String) : Bool :=
  truthWords.any fun (word, _) => (spellings word).contains text

/-- The truth value that a text stands for, in letters of any case. -/
def booleanOf (text : String) : Except Refusal Bool :=
  let word := String.ofList (lower text.toList)
  match truthWords.lookup word with
  | some value => .ok value
  | none => .error (.noTruthValue word)

/-- The form of null. -/
def isNull (text : String) : Bool :=
  text == "" || text == "~" || (spellings "null").contains text

/-! ### Forms of scalars -/

/-- What a scalar is, by its form or by its tag. -/
inductive Form where
  /-- The key under which the entries of other mappings are taken over. -/
  | merge
  /-- The key of the value that stands for a whole mapping. -/
  | whole
  | null
  | boolean
  | double
  | integer
  | timestamp
  | text
  deriving DecidableEq, Repr

namespace Form

/-- The form of an open scalar. -/
def of (text : String) : Form :=
  if text = "<<" then .merge
  else if text = "=" then .whole
  else if isNull text then .null
  else if isTruthWord text then .boolean
  else if isDouble text.toList then .double
  else if isInteger text.toList then .integer
  else if isTimestamp text.toList then .timestamp
  else .text

/-- The forms that tags tell, with the short names of the tags. -/
def shortNames : List (String × Form) :=
  [("merge", merge), ("value", whole), ("null", null), ("bool", boolean), ("float", double),
    ("int", integer), ("timestamp", timestamp), ("str", text)]

/-- The scalar that a text stands for in a form. -/
def scalar (form : Form) (written : String) : Except Refusal Scalar :=
  match form with
  | .merge | .whole => .error .malformed
  | .null => .ok .null
  | .boolean => (booleanOf written).map .boolean
  | .double => (doubleOf written.toList).map fun value => .number (.double value)
  | .integer => (integerOf written.toList).map fun value => .number (.integer value)
  | .timestamp => timestampOf written.toList
  | .text => .ok (.text written)

end Form

end Concord.Yaml
