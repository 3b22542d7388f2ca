/-
Values as JSON text. The text is canonical: keys stand in the order of their code points, everything
outside the printable part of ASCII is escaped, and the blanks between items are fixed. The compact
layout is one line; the indented layout gives every item a line of its own and two spaces per level.
-/

import Concord.Value.Display

namespace Concord.Json

open Text

/-! ### Texts -/

/-- One unit of 16 bits, escaped. -/
def unitEscape (unit : Nat) : List Char :=
  '\\' :: 'u' :: hexDigits 4 unit

/-- One character of a text between quotes. -/
def escaped (c : Char) : List Char :=
  if c = '\x22' then ['\\', '\x22']
  else if c = '\\' then ['\\', '\\']
  else if c = '\n' then ['\\', 'n']
  else if c = '\r' then ['\\', 'r']
  else if c = '\t' then ['\\', 't']
  else if c.toNat = 8 then ['\\', 'b']
  else if c.toNat = 12 then ['\\', 'f']
  else if 32 ≤ c.toNat ∧ c.toNat < 127 then [c]
  else if c.toNat < 0x10000 then unitEscape c.toNat
  else
    let offset := c.toNat - 0x10000
    unitEscape (0xd800 + offset / 0x400) ++ unitEscape (0xdc00 + offset % 0x400)

/-- A text between quotes. -/
def textLiteral (value : String) : List Char :=
  '\x22' :: value.toList.flatMap escaped ++ ['\x22']

/-! ### Scalars -/

/-- A double; the three that JSON has no number for are written by name. -/
def doubleText (value : Binary64) : String :=
  match value with
  | .infinite isNegative => if isNegative then "-Infinity" else "Infinity"
  | .undefined => "NaN"
  | value => Decimal.shortest value

/-- A scalar. -/
def scalarText : Scalar → List Char
  | .null => "null".toList
  | .boolean value => if value then "true".toList else "false".toList
  | .number (.integer value) => (integerText value).toList
  | .number (.double value) => (doubleText value).toList
  | .text value => textLiteral value
  | .day value => textLiteral (Scalar.day value).shown
  | .moment value => textLiteral (Scalar.moment value).shown

/-- The text that a key is written as. -/
def keyText : Scalar → String
  | .text value => value
  | other => String.ofList (scalarText other)

/-! ### Collections -/

/-- What stands before each item and before the closing bracket, at a depth. -/
def lead (isIndented : Bool) (depth : Nat) : List Char :=
  if isIndented then '\n' :: List.replicate (2 * depth) ' ' else []

/-- What stands between two items. -/
def separator (isIndented : Bool) (depth : Nat) : List Char :=
  if isIndented then ',' :: lead true depth else [',', ' ']

/-- Written items between brackets. -/
def bracketed (isIndented : Bool) (depth : Nat) (opening closing : Char) (items : List (List Char)) :
    List Char :=
  if items.isEmpty then [opening, closing]
  else
    opening :: lead isIndented (depth + 1) ++
      (separator isIndented (depth + 1)).intercalate items ++ lead isIndented depth ++ [closing]

/-- Entries in the order of their keys, each as key, colon and value. -/
def sortedEntries (entries : List (String × List Char)) : List (List Char) :=
  (entries.mergeSort fun first second => first.1 ≤ second.1).map fun (key, value) =>
    textLiteral key ++ [':', ' '] ++ value

mutual

/-- A value at a depth. -/
def written (isIndented : Bool) (depth : Nat) : Value → List Char
  | .scalar value => scalarText value
  | .list items => bracketed isIndented depth '[' ']' (writtenItems isIndented (depth + 1) items)
  | .mapping entries =>
    bracketed isIndented depth '\x7b' '\x7d'
      (sortedEntries (writtenEntries isIndented (depth + 1) entries))

/-- The items of a list. -/
def writtenItems (isIndented : Bool) (depth : Nat) : List Value → List (List Char)
  | [] => []
  | item :: items => written isIndented depth item :: writtenItems isIndented depth items

/-- The entries of a mapping, by the text of their keys. -/
def writtenEntries (isIndented : Bool) (depth : Nat) :
    List (Scalar × Value) → List (String × List Char)
  | [] => []
  | (key, value) :: entries =>
    (keyText key, written isIndented depth value) :: writtenEntries isIndented depth entries

end

/-- A value on one line. -/
def compact (value : Value) : String :=
  String.ofList (written false 0 value)

/-- A value with a line for every item. -/
def indented (value : Value) : String :=
  String.ofList (written true 0 value)

end Concord.Json
