/-
Blank characters and what is done with them: a text is stripped of the blanks at its ends, cut into
its words, or collapsed to its words with one space between neighbours. The class is that of all
scripts; the zero-width space and the byte order mark are not blank.
-/

import Concord.Text.Pieces

namespace Concord.Text

/-! ### The class -/

/-- White space: tabulators and breaks, the four separators of ASCII, the space and its relatives. -/
def isBlank (c : Char) : Bool :=
  let code := c.toNat
  (9 ≤ code && code ≤ 13) || (0x1c ≤ code && code ≤ 0x20) || code == 0x85 || code == 0xa0 ||
    code == 0x1680 || (0x2000 ≤ code && code ≤ 0x200a) || code == 0x2028 || code == 0x2029 ||
    code == 0x202f || code == 0x205f || code == 0x3000

/-- A space or a tabulator: the blanks that may stand between words of one line. -/
def isSpaceOrTab (c : Char) : Bool :=
  c == ' ' || c == '\t'

/-! ### Stripping -/

/-- The text without the blanks it opens with. -/
def stripStart (text : List Char) : List Char :=
  text.dropWhile isBlank

/-- The text without the blanks it ends with. -/
def stripEnd (text : List Char) : List Char :=
  (text.reverse.dropWhile isBlank).reverse

/-- The text without the blanks at its ends. -/
def strip (text : List Char) : List Char :=
  stripEnd (stripStart text)

/-- The text without the characters of a class at its end. -/
def trimEnd (dropped : Char → Bool) (text : List Char) : List Char :=
  (text.reverse.dropWhile dropped).reverse

/-- The text without the characters of a class at its ends. -/
def trim (dropped : Char → Bool) (text : List Char) : List Char :=
  trimEnd dropped (text.dropWhile dropped)

/-- Nothing but blanks. -/
def isAllBlank (text : List Char) : Bool :=
  text.all isBlank

/-! ### Words -/

/-- The words of a text: its longest parts without a blank. -/
def words (text : List Char) : List (List Char) :=
  (pieces isBlank text).filter fun word => !word.isEmpty

/-- The words of a text with one space between neighbours. -/
def collapse (text : List Char) : List Char :=
  [' '].intercalate (words text)

/-- The text without its blanks. -/
def unspaced (text : List Char) : List Char :=
  text.filter fun c => !isBlank c

theorem words_nil : words [] = [] := by
  simp [words, pieces]

theorem words_blank {c : Char} (blank : isBlank c = true) (rest : List Char) :
    words (c :: rest) = words rest := by
  simp [words, pieces_marked blank]

theorem words_eq_nil_of_isAllBlank {text : List Char} (blank : isAllBlank text = true) :
    words text = [] := by
  induction text with
  | nil => exact words_nil
  | cons c rest inductionHypothesis =>
    simp only [isAllBlank, List.all_cons, Bool.and_eq_true] at blank
    rw [words_blank blank.1]
    exact inductionHypothesis blank.2

end Concord.Text
