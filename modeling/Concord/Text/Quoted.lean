/-
Quoted texts, as messages show them. A text stands between single quotes, or between double quotes
when it holds a single quote and no double one; the quote in use, the backslash and everything that
is not printable are escaped.
-/

import Concord.Text.Printable

namespace Concord.Text

/-! ### Hexadecimal digits -/

/-- The digit of a number below sixteen. -/
def hexDigit (value : Nat) : Char :=
  if value < 10 then Char.ofNat (48 + value) else Char.ofNat (87 + value)

/-- The last `width` hexadecimal digits of a number. -/
def hexDigits : (width value : Nat) → List Char
  | 0, _ => []
  | width + 1, value => hexDigits width (value / 16) ++ [hexDigit (value % 16)]

theorem length_hexDigits (width value : Nat) : (hexDigits width value).length = width := by
  induction width generalizing value with
  | zero => rfl
  | succ width inductionHypothesis => simp [hexDigits, inductionHypothesis]

/-! ### Escapes -/

/-- One character of a text quoted with `quote`. -/
def escapeIn (quote c : Char) : List Char :=
  if c = quote ∨ c = '\\' then ['\\', c]
  else if c = '\n' then ['\\', 'n']
  else if c = '\r' then ['\\', 'r']
  else if c = '\t' then ['\\', 't']
  else if isPrintable c then [c]
  else if c.toNat < 0x100 then '\\' :: 'x' :: hexDigits 2 c.toNat
  else if c.toNat < 0x10000 then '\\' :: 'u' :: hexDigits 4 c.toNat
  else '\\' :: 'U' :: hexDigits 8 c.toNat

/-- The quote that a text is shown with. -/
def quoteFor (text : List Char) : Char :=
  if text.contains '\x27' && !text.contains '\x22' then '\x22' else '\x27'

/-- The text between quotes. -/
def quoted (text : List Char) : List Char :=
  let quote := quoteFor text
  quote :: text.flatMap (escapeIn quote) ++ [quote]

/-- The text of a string between quotes. -/
def quote (text : String) : String :=
  String.ofList (quoted text.toList)

end Concord.Text
