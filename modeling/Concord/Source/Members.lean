/-
The members of a body or list: the parts of a text between separators that stand outside every
bracket. Parentheses, braces and square brackets nest with their own partners, a closing bracket that
has no partner on top is passed over, and angle brackets are only counted, the `>` of an arrow `=>`
not among them. Where line breaks separate too, a break ends a member only when something shaped like
a new member begins behind it.
-/

import Concord.Source.Span
import Concord.Text.Identifier

namespace Concord.Source

open Concord.Text

/-! ### Nesting -/

/-- The brackets that are open: the partners still awaited, innermost first, and how many angle
brackets. -/
structure Nesting where
  awaited : List Char
  angles : Nat
  deriving DecidableEq, Repr

/-- No bracket is open. -/
def Nesting.flat : Nesting := ⟨[], 0⟩

/-- No bracket is open. -/
def Nesting.isFlat (nesting : Nesting) : Bool :=
  nesting.awaited.isEmpty && nesting.angles == 0

/-- The partner of an opening bracket. -/
def partner? (c : Char) : Option Char :=
  if c = '\x7b' then some '\x7d'
  else if c = '[' then some ']'
  else if c = '(' then some ')'
  else none

/-- A closing brace, square bracket or parenthesis. -/
def isClosing (c : Char) : Bool :=
  c == '\x7d' || c == ']' || c == ')'

/-- A bracket of any kind, an angle bracket included. -/
def isBracket (c : Char) : Bool :=
  (partner? c).isSome || isClosing c || c == '<' || c == '>'

/-- The nesting behind a bracket; `previous` is the character before it. -/
def Nesting.through (nesting : Nesting) (previous : Option Char) (c : Char) : Nesting :=
  match partner? c with
  | some closing => { nesting with awaited := closing :: nesting.awaited }
  | none =>
    if isClosing c then
      if nesting.awaited.head? = some c then { nesting with awaited := nesting.awaited.tail }
      else nesting
    else if c = '<' then { nesting with angles := nesting.angles + 1 }
    else if c = '>' then
      if previous = some '=' then nesting else { nesting with angles := nesting.angles - 1 }
    else nesting

/-! ### Where members end -/

/-- What separates members. -/
structure Separation where
  /-- The characters that separate. -/
  marks : List Char
  /-- Line breaks before something like a new member separate too. -/
  lineBreaks : Bool
  deriving DecidableEq, Repr

/-- Members of a body: semicolons, commas and line breaks separate. -/
def Separation.body : Separation := ⟨[';', ','], true⟩

/-- Entries of a list: only commas separate. -/
def Separation.list : Separation := ⟨[','], false⟩

/-- An identifier, perhaps a question mark, and then a colon, a parenthesis or an angle bracket. -/
def startsNamedMember (text : List Char) : Bool :=
  match identifier? text with
  | none => false
  | some (_, rest) =>
    match stripStart (skipQuestion rest) with
    | c :: _ => c == ':' || c == '(' || c == '<'
    | [] => false
where
  /-- Behind a question mark, if there is one. -/
  skipQuestion : List Char → List Char
    | '?' :: rest => rest
    | text => text

/-- Something shaped like a member begins here, perhaps after blanks. -/
def startsMember (text : List Char) : Bool :=
  let text := stripStart text
  match text with
  | '[' :: _ => true
  | _ =>
    startsNamedMember text ||
      ((spacedKeyword? "readonly".toList text).map startsNamedMember).getD false

/-! ### Splitting -/

/-- Where the walk over the text stands. -/
structure Walk where
  nesting : Nesting
  /-- The character before the next one. -/
  previous : Option Char
  /-- The position of the next character. -/
  index : Nat
  /-- Where the member that is being read began. -/
  begun : Nat
  /-- That member holds more than blanks so far. -/
  inhabited : Bool

/-- The member that is being read, if it holds more than blanks. -/
def Walk.member (walk : Walk) : List Span :=
  if walk.inhabited then [⟨walk.begun, walk.index⟩] else []

/-- The next character ends the member that is being read; `rest` is what follows it. -/
def Separation.separates (separation : Separation) (walk : Walk) (c : Char) (rest : List Char) : Bool :=
  !isBracket c && walk.nesting.isFlat &&
    (separation.marks.contains c ||
      (c == '\n' && separation.lineBreaks && walk.inhabited && startsMember rest))

/-- The walk behind a character that separates. -/
def Walk.restart (walk : Walk) (c : Char) : Walk :=
  { walk with
    previous := some c, index := walk.index + 1, begun := walk.index + 1, inhabited := false }

/-- The walk behind a character of a member. -/
def Walk.advance (walk : Walk) (c : Char) : Walk :=
  { walk with
    nesting := walk.nesting.through walk.previous c
    previous := some c
    index := walk.index + 1
    inhabited := walk.inhabited || !isBlank c }

/-- The members among the next `count` characters. -/
def membersFrom (separation : Separation) (walk : Walk) : (count : Nat) → List Char → List Span
  | 0, _ => walk.member
  | _ + 1, [] => walk.member
  | count + 1, c :: rest =>
    if separation.separates walk c rest then
      walk.member ++ membersFrom separation (walk.restart c) count rest
    else membersFrom separation (walk.advance c) count rest

/-- The members of a text from `start` up to `stop`. What stands around that stretch is looked at only
to tell an arrow from a bracket and to see a new member begin. -/
def members (separation : Separation) (text : List Char) (start stop : Nat) : List Span :=
  let previous := if start = 0 then none else text[start - 1]?
  membersFrom separation ⟨.flat, previous, start, start, false⟩ (stop - start) (text.drop start)

/-- The members of a whole text. -/
def allMembers (separation : Separation) (text : List Char) : List Span :=
  members separation text 0 text.length

end Concord.Source
