/-
Lines of a text. Prose is cut at every line boundary of any script, a carriage return and a line feed
together counting once, and a boundary at the very end opens no further line. A text read from a file
has its carriage returns turned into line feeds first.
-/

import Concord.Text.Pieces

namespace Concord.Text

/-! ### Boundaries -/

/-- Ends a line of prose. -/
def isLineBoundary (c : Char) : Bool :=
  let code := c.toNat
  (10 ≤ code && code ≤ 13) || (0x1c ≤ code && code ≤ 0x1e) || code == 0x85 || code == 0x2028 ||
    code == 0x2029

/-- Every carriage return, alone or before a line feed, turned into one line feed. -/
def unixLines : List Char → List Char
  | [] => []
  | '\r' :: '\n' :: rest => '\n' :: unixLines rest
  | '\r' :: rest => '\n' :: unixLines rest
  | c :: rest => c :: unixLines rest

/-! ### Cutting -/

/-- The lines of a text that is inside a line whose characters so far are `line`, in reverse. -/
def linesFrom (line : List Char) : List Char → List (List Char)
  | [] => if line.isEmpty then [] else [line.reverse]
  | '\r' :: '\n' :: rest => line.reverse :: linesFrom [] rest
  | c :: rest =>
    if isLineBoundary c then line.reverse :: linesFrom [] rest
    else linesFrom (c :: line) rest

/-- The lines of a text, without their boundaries. -/
def lines (text : List Char) : List (List Char) :=
  linesFrom [] text

/-- How many line feeds stand before a position. -/
def lineOf (text : List Char) (offset : Nat) : Nat :=
  (text.take offset).count '\n'

theorem lineOf_zero (text : List Char) : lineOf text 0 = 0 := by
  simp [lineOf]

end Concord.Text
