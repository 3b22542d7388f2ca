/-
Imports. A statement `import { names } from "module"` may say `type` before the braces and may name a
default as well; only the names between the braces are imported for our purposes, each under the name
that its own module knows it by. Statements are found in the masked view, so that a quoted module and
a name are told from text that only looks like them, and read in the clean view.
-/

import Concord.Declaration.Header
import Concord.Source.Location

namespace Concord

open Source Text

structure Import where
  name : String
  sourceModule : String
  location : Location
  deriving DecidableEq, Repr

namespace Import

/-! ### Names between the braces -/

/-- A list entry without the word `type` before it. -/
def withoutType : List (List Char) → List (List Char)
  | word :: next :: rest => if word = "type".toList then next :: rest else word :: next :: rest
  | entry => entry

/-- The name that an entry, given by its words, imports: `name` or `name as alias`. -/
def entryName? : List (List Char) → Option (List Char)
  | [name] => if isIdentifier name then some name else none
  | [name, as, alternative] =>
    if as = "as".toList ∧ isIdentifier name ∧ isIdentifier alternative then some name else none
  | _ => none

/-- The names that a list between braces imports. -/
def names (listed : List Char) : List (List Char) :=
  (pieces (· == ',') listed).filterMap fun entry => entryName? (withoutType (words entry))

/-! ### Statements -/

/-- An import statement: what stands between its braces, what stands between its quotes, and where it
ends, all by position. -/
structure Statement where
  listed : Span
  quoted : Span
  stop : Nat
  deriving DecidableEq, Repr

/-- A brace, opening or closing. -/
def isBrace (c : Char) : Bool :=
  c == '\x7b' || c == '\x7d'

/-- What cannot stand in the quoted name of a module. -/
def endsModule (c : Char) : Bool :=
  c == '\x27' || c == '\x22' || c == '\n'

/-- The quoted module behind `from`. Positions count back from the end `length` of the text. -/
def quotedModule? (length : Nat) : List Char → Option (Span × Nat)
  | [] => none
  | quote :: rest =>
    if quote = '\x27' ∨ quote = '\x22' then
      match rest.dropWhile fun c => !endsModule c with
      | close :: left =>
        if close = quote then
          some (⟨length - rest.length, length - (left.length + 1)⟩, length - left.length)
        else none
      | [] => none
    else none

/-- The part of a statement from its opening brace on. -/
def bindings? (length : Nat) : List Char → Option Statement
  | '\x7b' :: rest =>
    match rest.dropWhile fun c => !isBrace c with
    | '\x7d' :: left => do
      let source ← after? "from".toList (stripStart left)
      let (quoted, stop) ← quotedModule? length (stripStart source)
      return ⟨⟨length - rest.length, length - (left.length + 1)⟩, quoted, stop⟩
    | _ => none
  | _ => none

/-- Behind the name of a default import and the comma after it. -/
def behindDefault? (text : List Char) : Option (List Char) := do
  let (_, rest) ← identifier? text
  match stripStart rest with
  | ',' :: left => return stripStart left
  | _ => none

/-- The part of a statement behind `import` and perhaps `type`. -/
def clause? (length : Nat) (text : List Char) : Option Statement :=
  ((behindDefault? text).bind (bindings? length)).or (bindings? length text)

/-- The statement that opens a text; positions are those of the text. -/
def statement? (text : List Char) : Option Statement := do
  let rest ← spacedKeyword? "import".toList text
  ((spacedKeyword? "type".toList rest).bind (clause? text.length)).or (clause? text.length rest)

/-- The span further on in the text by `offset` positions. -/
def Statement.shifted (statement : Statement) (offset : Nat) : Statement :=
  ⟨⟨statement.listed.start + offset, statement.listed.stop + offset⟩,
    ⟨statement.quoted.start + offset, statement.quoted.stop + offset⟩, statement.stop + offset⟩

/-- The statements of a text from position `index` on, each with the position at which it begins. None
begins before `resume` or inside a word. -/
def statementsFrom (index resume : Nat) (previous : Option Char) :
    List Char → List (Nat × Statement)
  | [] => []
  | c :: rest =>
    let found :=
      if resume ≤ index && !Header.isWordAt previous then statement? (c :: rest) else none
    match found with
    | some statement =>
      (index, statement.shifted index) ::
        statementsFrom (index + 1) (index + statement.stop) (some c) rest
    | none => statementsFrom (index + 1) resume (some c) rest

/-- The statements of a text. -/
def statements (masked : List Char) : List (Nat × Statement) :=
  statementsFrom 0 0 none masked

/-! ### Regions -/

/-- What one statement imports. A statement whose module is blank imports nothing. -/
def ofStatement (passage : Passage) (start : Nat) (statement : Statement) : List Import :=
  match strip (statement.quoted.slice passage.views.clean) with
  | [] => []
  | c :: rest =>
    (names (statement.listed.slice passage.views.clean)).map fun name =>
      ⟨String.ofList name, String.ofList (c :: rest), passage.locate start⟩

/-- The imports of a region, in order of place. -/
def ofRegion (region : Region) (document : String) : List Import :=
  let passage := region.passage document
  (statements passage.views.masked).flatMap fun (start, statement) =>
    ofStatement passage start statement

end Import

end Concord
