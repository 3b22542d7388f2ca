/-
Scalars as they are written in a YAML text: plain, in quotes, or as a block. Lines are folded on the way:
a single line end between two lines of text becomes a space, and empty lines stay.
-/

import Concord.Value.Yaml.Cursor
import Concord.Value.Yaml.Refusal

namespace Concord.Yaml

/-! ### Folding -/

/-- What a line end and the empty lines behind it are folded to. -/
def folded (lineEnd : Char) (breaks : List Char) : List Char :=
  if lineEnd ≠ '\n' then lineEnd :: breaks
  else if breaks.isEmpty then [' ']
  else breaks

/-! ### Plain scalars -/

/-- Opens or closes a collection in brackets, or stands between its items. -/
def isFlowPunctuation (c : Char) : Bool :=
  [',', '[', ']', '\x7b', '\x7d'].contains c

/-- A plain scalar ends before the character. -/
def endsPlain (inFlow : Bool) (c : Char) (rest : List Char) : Bool :=
  isWhite c || isBreak c ||
    (c == ':' && (opensWithGap rest || (inFlow && rest.head?.any isFlowPunctuation))) ||
    (inFlow && (c == '?' || isFlowPunctuation c))

/-- The part of a plain scalar that opens a text. -/
def plainPart (inFlow : Bool) : List Char → List Char
  | [] => []
  | c :: rest => if endsPlain inFlow c rest then [] else c :: plainPart inFlow rest

/-- The line ends at the cursor, with spaces between them, and the cursor behind them. None of the
line ends count when a document mark follows one of them. -/
def plainBreaks : (steps : Nat) → Cursor → Option (List Char) × Cursor
  | 0, cursor => (some [], cursor)
  | steps + 1, cursor =>
    if cursor.peek? = some ' ' then plainBreaks steps cursor.next
    else match cursor.lineEnd? with
      | none => (some [], cursor)
      | some (lineEnd, behind) =>
        if behind.isAtDocumentMark then (none, behind)
        else
          let (breaks?, last) := plainBreaks steps behind
          (breaks?.map (lineEnd :: ·), last)

/-- What stands between two parts of a plain scalar. -/
structure Between where
  /-- The characters that the scalar takes from it; none when the scalar ends before it. -/
  characters : List Char
  cursor : Cursor
  /-- It holds a line end. -/
  holdsLineEnd : Bool

/-- What stands at the cursor behind a part of a plain scalar. -/
def between (cursor : Cursor) : Between :=
  let (spaces, behind) := cursor.run (· == ' ')
  match behind.lineEnd? with
  | none => ⟨spaces, behind, false⟩
  | some (lineEnd, next) =>
    if next.isAtDocumentMark then ⟨[], next, true⟩
    else match plainBreaks next.rest.length next with
      | (none, last) => ⟨[], last, true⟩
      | (some breaks, last) => ⟨folded lineEnd breaks, last, true⟩

/-- A scalar that has been read, and where reading goes on. -/
structure Lexeme where
  text : List Char
  cursor : Cursor
  /-- A line end has been passed behind the scalar, so that a key may follow. -/
  allowsKey : Bool := false

/-- A plain scalar from a part on. `gap` is what stood before the part; every part takes a character. -/
def plainFrom (indent : Int) (inFlow : Bool) :
    (steps : Nat) → (gap : List Char) → (allowsKey : Bool) → Cursor → Lexeme
  | 0, _, allowsKey, cursor => ⟨[], cursor, allowsKey⟩
  | steps + 1, gap, allowsKey, cursor =>
    let part := plainPart inFlow cursor.rest
    if part.isEmpty || cursor.peek? == some '#' then ⟨[], cursor, allowsKey⟩
    else
      let found := between (cursor.forward part.length)
      let isLast := found.characters.isEmpty || found.cursor.peek? == some '#' ||
        (!inFlow && decide ((found.cursor.column : Int) < indent))
      if isLast then ⟨gap ++ part, found.cursor, found.holdsLineEnd⟩
      else
        let others := plainFrom indent inFlow steps found.characters found.holdsLineEnd found.cursor
        { others with text := gap ++ part ++ others.text }

/-- The plain scalar at the cursor, whose lines are indented at least as far as given. -/
def plainScalar (indent : Int) (inFlow : Bool) (cursor : Cursor) : Lexeme :=
  plainFrom indent inFlow cursor.rest.length [] false cursor

/-! ### Scalars in quotes -/

/-- Line ends at the cursor with spaces and tabs before them, and the cursor behind. A document mark may
not follow. -/
def quotedBreaks : (steps : Nat) → Cursor → Option (List Char × Cursor)
  | 0, cursor => some ([], cursor)
  | steps + 1, cursor =>
    if cursor.isAtDocumentMark then none
    else
      let cursor := cursor.skip isWhite
      match cursor.lineEnd? with
      | none => some ([], cursor)
      | some (lineEnd, behind) => do
        let (breaks, last) ← quotedBreaks steps behind
        return (lineEnd :: breaks, last)

/-- The blanks at the cursor inside quotes, folded if they hold a line end. -/
def quotedBlanks (cursor : Cursor) : Option (List Char × Cursor) :=
  let (blanks, behind) := cursor.run isWhite
  match behind.lineEnd? with
  | some (lineEnd, next) => do
    let (breaks, last) ← quotedBreaks (next.rest.length + 1) next
    return (folded lineEnd breaks, last)
  | none => some (blanks, behind)

/-- The characters that one letter behind a backslash stands for. -/
def namedEscapes : List (Char × Char) :=
  [('0', '\x00'), ('a', '\x07'), ('b', '\x08'), ('t', '\t'), ('\t', '\t'), ('n', '\n'), ('v', '\x0b'),
    ('f', '\x0c'), ('r', '\r'), ('e', '\x1b'), (' ', ' '), ('\x22', '\x22'), ('\\', '\\'), ('/', '/'),
    ('N', '\x85'), ('_', '\xa0'), ('L', '\u2028'), ('P', '\u2029')]

/-- How many hexadecimal digits follow a letter behind a backslash. -/
def codeWidth? (c : Char) : Option Nat :=
  [('x', 2), ('u', 4), ('U', 8)].lookup c

/-- The character of a code. -/
def characterOf (code : Nat) : Except Refusal Char :=
  if code < 0x110000 then .ok (Json.loneCharacter code) else .error (.noCharacter code)

/-- What stands for an escape whose backslash has been passed. -/
def escaped (cursor : Cursor) : Except Refusal (List Char × Cursor) := do
  let c ← ofFormat cursor.peek?
  match namedEscapes.lookup c, codeWidth? c with
  | some character, _ => return ([character], cursor.next)
  | none, some width =>
    let digits := cursor.next.rest.take width
    if digits.length < width then throw .malformed
    else
      let code ← ofFormat (Json.hexNumber? digits)
      let character ← characterOf code
      return ([character], cursor.next.forward width)
  | none, none =>
    let (_, behind) ← ofFormat cursor.lineEnd?
    ofFormat (quotedBreaks (behind.rest.length + 1) behind)

/-- The text up to the closing quote. -/
def quotedFrom (quote : Char) : (steps : Nat) → Cursor → Except Refusal (List Char × Cursor)
  | 0, _ => .error .malformed
  | steps + 1, cursor => do
    let c ← ofFormat cursor.peek?
    if c = quote then
      if quote = '\x27' ∧ cursor.next.peek? = some quote then
        let (text, last) ← quotedFrom quote steps (cursor.forward 2)
        return (quote :: text, last)
      else return ([], cursor.next)
    else
      let (part, behind) ←
        if isWhite c || isBreak c then ofFormat (quotedBlanks cursor)
        else if c = '\\' ∧ quote = '\x22' then escaped cursor.next
        else pure ([c], cursor.next)
      let (text, last) ← quotedFrom quote steps behind
      return (part ++ text, last)

/-- The scalar whose opening quote is at the cursor. -/
def quotedScalar (quote : Char) (cursor : Cursor) : Except Refusal Lexeme :=
  (quotedFrom quote cursor.rest.length cursor.next).map fun (text, last) => { text, cursor := last }

/-! ### Block scalars -/

/-- What becomes of the line ends at the end of a block: they all stay, the first stays, or none. -/
inductive Chomping where
  | keep
  | clip
  | drop
  deriving DecidableEq, Repr

/-- The head of a block: what becomes of its end, and the indentation if it is given. -/
structure BlockHead where
  chomping : Chomping := .clip
  increment : Option Nat := none

/-- The chomping that a sign stands for. -/
def chomping? (c : Char) : Option Chomping :=
  if c = '+' then some .keep else if c = '-' then some .drop else none

/-- The indentation that a digit stands for. -/
def increment? (c : Char) : Option Nat :=
  if '1' ≤ c ∧ c ≤ '9' then some (c.toNat - 48) else none

/-- The head of a block at the cursor: a sign and a digit in either order, each of which may be left out. -/
def blockHead (cursor : Cursor) : BlockHead × Cursor :=
  match cursor.peek?.bind chomping?, cursor.peek?.bind increment? with
  | some chomping, _ =>
    match cursor.next.peek?.bind increment? with
    | some increment => (⟨chomping, some increment⟩, cursor.forward 2)
    | none => (⟨chomping, none⟩, cursor.next)
  | none, some increment =>
    match cursor.next.peek?.bind chomping? with
    | some chomping => (⟨chomping, some increment⟩, cursor.forward 2)
    | none => (⟨.clip, some increment⟩, cursor.next)
  | none, none => ({}, cursor)

/-- The empty lines that open a block, the greatest indentation among them, and the cursor behind. -/
def blockIndentation : (steps : Nat) → (greatest : Nat) → Cursor → List Char × Nat × Cursor
  | 0, greatest, cursor => ([], greatest, cursor)
  | steps + 1, greatest, cursor =>
    if cursor.peek? = some ' ' then
      blockIndentation steps (max greatest cursor.next.column) cursor.next
    else match cursor.lineEnd? with
      | none => ([], greatest, cursor)
      | some (lineEnd, behind) =>
        let (breaks, found, last) := blockIndentation steps greatest behind
        (lineEnd :: breaks, found, last)

/-- The cursor behind spaces, but not beyond a column. -/
def indentedTo (indent : Nat) : (steps : Nat) → Cursor → Cursor
  | 0, cursor => cursor
  | steps + 1, cursor =>
    if cursor.column < indent ∧ cursor.peek? = some ' ' then indentedTo indent steps cursor.next
    else cursor

/-- The empty lines inside a block, and the cursor at the next line of text. -/
def blockBreaks (indent : Nat) : (steps : Nat) → Cursor → List Char × Cursor
  | 0, cursor => ([], cursor)
  | steps + 1, cursor =>
    let cursor := indentedTo indent indent cursor
    match cursor.lineEnd? with
    | none => ([], cursor)
    | some (lineEnd, behind) =>
      let (breaks, last) := blockBreaks indent steps behind
      (lineEnd :: breaks, last)

/-- A line of a block opens with a space or a tab, so that it is not folded. -/
def isDeeper (cursor : Cursor) : Bool :=
  cursor.peek?.any isWhite

/-- The lines of a block from the cursor on, with `breaks` before the first. -/
def blockLines (isFolded : Bool) (chomping : Chomping) (indent : Nat) :
    (steps : Nat) → (breaks : List Char) → (lineEnd : List Char) → Cursor → List Char × Cursor
  | 0, _, _, cursor => ([], cursor)
  | steps + 1, breaks, lineEnd, cursor =>
    if cursor.column = indent ∧ !cursor.rest.isEmpty then
      let (line, ended) := cursor.run (!isBreak ·)
      let (lineEnd, behind) := match ended.lineEnd? with
        | some (lineEnd, behind) => ([lineEnd], behind)
        | none => ([], ended)
      let (emptyLines, next) := blockBreaks indent (behind.rest.length + 1) behind
      let goesOn := next.column = indent ∧ !next.rest.isEmpty
      let joint :=
        if goesOn then
          if isFolded ∧ lineEnd = ['\n'] ∧ !isDeeper cursor ∧ !isDeeper next then
            if emptyLines.isEmpty then [' '] else []
          else lineEnd
        else []
      let (others, last) := blockLines isFolded chomping indent steps emptyLines lineEnd next
      (breaks ++ line ++ joint ++ others, last)
    else
      let tail := match chomping with
        | .keep => lineEnd ++ breaks
        | .clip => lineEnd
        | .drop => []
      (tail, cursor)

/-- The block whose indicator is at the cursor, below a collection with the given indentation. -/
def blockScalar (isFolded : Bool) (indent : Int) (cursor : Cursor) : Option Lexeme := do
  let (head, behind) := blockHead cursor.next
  if !opensWithEnd behind.rest then none
  else
    let start ← behind.behindLine?
    let least := (max 1 (indent + 1)).toNat
    let (breaks, column, first) := match head.increment with
      | none =>
        let (breaks, greatest, first) := blockIndentation (start.rest.length + 1) 0 start
        (breaks, max least greatest, first)
      | some increment =>
        let column := least + increment - 1
        let (breaks, first) := blockBreaks column (start.rest.length + 1) start
        (breaks, column, first)
    let (text, last) :=
      blockLines isFolded head.chomping column (first.rest.length + 1) breaks [] first
    return { text, cursor := last, allowsKey := true }

end Concord.Yaml
