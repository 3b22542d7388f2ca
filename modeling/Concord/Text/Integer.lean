/-
Integers written in decimal digits, as a user may write them: with blanks around, a sign in front, and
single underscores between digits. Digits of every script count, up to a limit on how many there are.
-/

import Concord.Text.Blank
import Concord.Text.DecimalDigit

namespace Concord.Text

/-- May stand around an integer: a blank, but none of the four separators of information. -/
def surroundsInteger (c : Char) : Bool :=
  isBlank c && !(0x1c ≤ c.toNat && c.toNat ≤ 0x1f)

/-- How many digits an integer may have. -/
def greatestDigitCount : Nat := 4300

/-- The values of digits that may have single underscores between them. -/
def digitValues? (characters : List Char) : Option (List Nat) :=
  let groups := pieces (· == '_') characters
  if groups.any List.isEmpty then none else groups.flatten.mapM digitValue?

/-- The number that digits make. -/
def numberOfDigits (values : List Nat) : Nat :=
  values.foldl (fun number value => number * 10 + value) 0

/-- The sign that opens a text: whether it is a minus, and what follows it. -/
def signed (characters : List Char) : Bool × List Char :=
  match characters with
  | '-' :: rest => (true, rest)
  | '+' :: rest => (false, rest)
  | rest => (false, rest)

/-- The integer that a text writes. -/
def integer? (characters : List Char) : Option Int := do
  let (isNegative, digits) := signed (trim surroundsInteger characters)
  let values ← digitValues? digits
  if greatestDigitCount < values.length then none
  else
    let size : Int := numberOfDigits values
    return if isNegative then -size else size

end Concord.Text
