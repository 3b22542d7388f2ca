/-
Two views of a piece of source, both exactly as long as the source, so that a position means the same
in all three. In the clean view every comment is blanked; in the masked view the contents of string
literals are blanked as well, so that a brace, a semicolon or a keyword inside a string cannot be
mistaken for structure. Line feeds stay where they are in both.

The views come from one walk over the source. The mode of the walk says what the next character
belongs to, and each character yields one cell: what the two views show at its place.
-/

import Concord.Text.Lines

namespace Concord.Source

/-! ### The walk -/

/-- What the next character belongs to. -/
inductive Mode where
  | code
  | lineComment
  /-- The star that opens a block comment comes next. -/
  | blockOpening
  | block
  /-- The slash that closes a block comment comes next. -/
  | blockClosing
  /-- Inside a string literal. -/
  | literal (quote : Char)
  /-- Inside a string literal, behind a backslash. -/
  | escaped (quote : Char)
  deriving DecidableEq, Repr

/-- What the two views show in the place of one character. -/
structure Cell where
  clean : Char
  masked : Char
  deriving DecidableEq, Repr

/-- A blanked character: a line feed stays, all else becomes a space. -/
def blanked (c : Char) : Char :=
  if c = '\n' then '\n' else ' '

/-- Opens and closes a string literal. -/
def isQuote (c : Char) : Bool :=
  c == '\x27' || c == '\x22' || c == '\x60'

/-- May hold line feeds: a literal between back quotes. -/
def spansLines (quote : Char) : Bool :=
  quote == '\x60'

/-- The next character is `c`. -/
def opensWith (c : Char) (rest : List Char) : Bool :=
  rest.head? == some c

/-- The mode behind a character of code. -/
def Mode.behindCode (c : Char) (rest : List Char) : Mode :=
  if c = '/' ∧ opensWith '/' rest then .lineComment
  else if c = '/' ∧ opensWith '*' rest then .blockOpening
  else if isQuote c then .literal c
  else .code

/-- The mode behind a character inside a literal. -/
def Mode.behindLiteral (quote c : Char) : Mode :=
  if c = quote then .code
  else if c = '\\' then .escaped quote
  else if c = '\n' ∧ !spansLines quote then .code
  else .literal quote

/-- The mode behind one character; `rest` is what follows it. -/
def Mode.next (mode : Mode) (c : Char) (rest : List Char) : Mode :=
  match mode with
  | .code => Mode.behindCode c rest
  | .lineComment => if opensWith '\n' rest then .code else .lineComment
  | .blockOpening => .block
  | .block => if c = '*' ∧ opensWith '/' rest then .blockClosing else .block
  | .blockClosing => .code
  | .literal quote => Mode.behindLiteral quote c
  | .escaped quote => .literal quote

/-- The cell of one character. An escaped quote that ends the whole source still shows as a quote. -/
def Mode.cell (mode : Mode) (c : Char) (rest : List Char) : Cell :=
  match mode with
  | .code =>
    if c = '/' ∧ (opensWith '/' rest ∨ opensWith '*' rest) then ⟨blanked c, blanked c⟩ else ⟨c, c⟩
  | .lineComment | .blockOpening | .block | .blockClosing => ⟨blanked c, blanked c⟩
  | .literal quote => ⟨c, if c = quote then c else blanked c⟩
  | .escaped quote => ⟨c, if c = quote ∧ rest.isEmpty then c else blanked c⟩

/-- The cells of a source that is read in a mode. -/
def cellsFrom (mode : Mode) : List Char → List Cell
  | [] => []
  | c :: rest => mode.cell c rest :: cellsFrom (mode.next c rest) rest

/-! ### The views -/

/-- The clean and the masked view of one source. -/
structure Views where
  clean : List Char
  masked : List Char
  deriving DecidableEq, Repr

/-- The views of a source. -/
def Views.of (source : List Char) : Views :=
  let cells := cellsFrom .code source
  ⟨cells.map (·.clean), cells.map (·.masked)⟩

/-- The line, counted from zero, on which a position stands. -/
def Views.lineOf (views : Views) (offset : Nat) : Nat :=
  Text.lineOf views.masked offset

theorem length_cellsFrom (mode : Mode) (source : List Char) :
    (cellsFrom mode source).length = source.length := by
  induction source generalizing mode with
  | nil => rfl
  | cons c rest inductionHypothesis => simp [cellsFrom, inductionHypothesis]

theorem Views.length_clean (source : List Char) : (Views.of source).clean.length = source.length := by
  simp [Views.of, length_cellsFrom]

theorem Views.length_masked (source : List Char) :
    (Views.of source).masked.length = source.length := by
  simp [Views.of, length_cellsFrom]

end Concord.Source
