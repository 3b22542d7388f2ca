/-
A place in a YAML text: what follows it, and its line, column and index. Lines matter to the format, so a
cursor moves over a line end in one of its five spellings and comes to the first column of the next line.
A byte order mark takes no column.
-/

namespace Concord.Yaml

/-! ### Characters -/

/-- Ends a line. -/
def isBreak (c : Char) : Bool :=
  c == '\n' || c == '\r' || c == '\x85' || c == '\u2028' || c == '\u2029'

/-- A space or a tab. -/
def isWhite (c : Char) : Bool :=
  c == ' ' || c == '\t'

/-- May stand in a text: a tab, a line end, or a character that can be shown. -/
def isAllowed (c : Char) : Bool :=
  c == '\t' || c == '\n' || c == '\r' || c == '\x85' ||
    (0x20 ≤ c.toNat && c.toNat ≤ 0x7e) || (0xa0 ≤ c.toNat && c.toNat != 0xfffe && c.toNat != 0xffff)

/-- A gap opens the text: it is at its end, or at a space, a tab or a line end. -/
def opensWithGap : List Char → Bool
  | [] => true
  | c :: _ => isWhite c || isBreak c

/-- A text that is at its end, at a space or at a line end; a tab is no end. -/
def opensWithEnd : List Char → Bool
  | [] => true
  | c :: _ => c == ' ' || isBreak c

/-! ### Cursors -/

structure Cursor where
  rest : List Char
  line : Nat := 0
  column : Nat := 0
  index : Nat := 0
  deriving DecidableEq, Repr

namespace Cursor

/-- The character at the cursor. -/
def peek? (cursor : Cursor) : Option Char :=
  cursor.rest.head?

/-- The character at the cursor ends its line; a carriage return before a line feed does not. -/
def endsLine (c : Char) (rest : List Char) : Bool :=
  if c = '\r' then rest.head? != some '\n' else isBreak c

/-- The cursor behind the next character. -/
def next (cursor : Cursor) : Cursor :=
  match cursor.rest with
  | [] => cursor
  | c :: rest =>
    if endsLine c rest then ⟨rest, cursor.line + 1, 0, cursor.index + 1⟩
    else if c = Char.ofNat 0xfeff then ⟨rest, cursor.line, cursor.column, cursor.index + 1⟩
    else ⟨rest, cursor.line, cursor.column + 1, cursor.index + 1⟩

/-- The cursor behind a number of characters. -/
def forward : (count : Nat) → Cursor → Cursor
  | 0, cursor => cursor
  | count + 1, cursor => forward count cursor.next

/-- The characters of a class at the cursor, and the cursor behind them. -/
def run (belongs : Char → Bool) (cursor : Cursor) : List Char × Cursor :=
  let taken := cursor.rest.takeWhile belongs
  (taken, cursor.forward taken.length)

/-- The cursor behind the characters of a class. -/
def skip (belongs : Char → Bool) (cursor : Cursor) : Cursor :=
  (cursor.run belongs).2

/-- The line end at the cursor, and the cursor behind it. A separator of lines or paragraphs stands for
itself, any other line end for a line feed. -/
def lineEnd? (cursor : Cursor) : Option (Char × Cursor) :=
  match cursor.rest with
  | '\r' :: '\n' :: _ => some ('\n', cursor.forward 2)
  | c :: _ =>
    if c = '\u2028' ∨ c = '\u2029' then some (c, cursor.next)
    else if isBreak c then some ('\n', cursor.next)
    else none
  | [] => none

/-- The cursor behind spaces, a comment, and whatever else is left of the line. None if something else
stands there. -/
def behindLine? (cursor : Cursor) : Option Cursor :=
  let cursor := cursor.skip (· == ' ')
  let cursor := if cursor.peek? = some '#' then cursor.skip (!isBreak ·) else cursor
  match cursor.lineEnd? with
  | some (_, behind) => some behind
  | none => if cursor.rest.isEmpty then some cursor else none

/-- Three equal characters that mark the start or the end of a document stand at the cursor, and a gap
behind them. -/
def isAtMark (mark : Char) (cursor : Cursor) : Bool :=
  cursor.rest.take 3 == [mark, mark, mark] && opensWithGap (cursor.rest.drop 3)

/-- The start or the end of a document stands at the cursor. -/
def isAtDocumentMark (cursor : Cursor) : Bool :=
  cursor.isAtMark '-' || cursor.isAtMark '.'

/-- The cursor at the start of a text. A byte order mark there is passed over. -/
def ofText (text : List Char) : Cursor :=
  let start : Cursor := { rest := text }
  if start.peek? = some (Char.ofNat 0xfeff) then start.next else start

end Cursor

end Concord.Yaml
