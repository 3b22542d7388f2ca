/-
YAML text cut into tokens. Indentation becomes brackets: the first item of an indented list and the
first key of an indented mapping open a block, and a line that is indented less closes it. A key need
not be announced; it is one because a colon follows, so a token that may turn out to begin a key is
remembered until the colon comes or can no longer come.
-/

import Concord.Text.Utf8
import Concord.Value.Yaml.Scalar

namespace Concord.Yaml

/-! ### Tokens -/

inductive Directive where
  /-- The main part of the version of the format. -/
  | version (main : Nat)
  /-- A handle, and what it stands for in tags. -/
  | handle (name meaning : String)
  | other
  deriving DecidableEq, Repr

/-- A tag as it is written: a handle and the rest, or a tag in full. -/
structure WrittenTag where
  handle : Option String
  suffix : String
  deriving DecidableEq, Repr

inductive Token where
  | directive (directive : Directive)
  | documentStart
  | documentEnd
  | blockListStart
  | blockMappingStart
  | blockEnd
  | flowListStart
  | flowListEnd
  | flowMappingStart
  | flowMappingEnd
  | item
  | comma
  | key
  | value
  | reference (name : String)
  | anchor (name : String)
  | tag (tag : WrittenTag)
  | scalar (text : String) (isPlain : Bool)
  deriving DecidableEq, Repr

/-! ### Names, tags and directives -/

/-- May stand in the name of an anchor, a handle or a directive. -/
def isNameCharacter (c : Char) : Bool :=
  c.isAlphanum || c == '-' || c == '_'

/-- The name of an anchor or a reference whose mark is at the cursor. -/
def anchorName? (cursor : Cursor) : Option (String × Cursor) :=
  let (name, behind) := cursor.next.run isNameCharacter
  let isEnded := opensWithGap behind.rest ||
    behind.peek?.any fun c => ['?', ':', ',', ']', '\x7d', '%', '@', '\x60'].contains c
  if name.isEmpty || !isEnded then none else some (String.ofList name, behind)

/-- May stand in a tag as it is. -/
def isTagCharacter (c : Char) : Bool :=
  c.isAlphanum || ("-;/?:@&=+$,_.!~*'()[]".toList.contains c)

/-- The bytes that are written with percent signs at the cursor. -/
def percentBytes : (steps : Nat) → Cursor → Option (List UInt8 × Cursor)
  | 0, cursor => some ([], cursor)
  | steps + 1, cursor =>
    match cursor.rest with
    | '%' :: high :: low :: _ => do
      let byte ← Json.hexNumber? [high, low]
      let (bytes, last) ← percentBytes steps (cursor.forward 3)
      return (byte.toUInt8 :: bytes, last)
    | '%' :: _ => none
    | _ => some ([], cursor)

/-- The characters of a tag at the cursor. -/
def tagCharacters : (steps : Nat) → Cursor → Option (List Char × Cursor)
  | 0, cursor => some ([], cursor)
  | steps + 1, cursor => do
    let (plain, behind) := cursor.run isTagCharacter
    if behind.peek? = some '%' then
      let (bytes, last) ← percentBytes behind.rest.length behind
      let decoded ← (Utf8.decode bytes).toOption
      let (others, last) ← tagCharacters steps last
      return (plain ++ decoded ++ others, last)
    else return (plain, behind)

/-- The rest of a tag at the cursor; it may not be empty. -/
def tagSuffix? (cursor : Cursor) : Option (String × Cursor) := do
  let (text, behind) ← tagCharacters (cursor.rest.length + 1) cursor
  if text.isEmpty then none else return (String.ofList text, behind)

/-- The handle of a tag at the cursor: a name between exclamation marks, or one or two of them. -/
def tagHandle? (cursor : Cursor) : Option (String × Cursor) :=
  if cursor.peek? ≠ some '!' then none
  else
    let (name, behind) := cursor.next.run isNameCharacter
    if behind.peek? = some '!' then some (String.ofList ('!' :: name ++ ['!']), behind.next)
    else if cursor.next.peek? = some ' ' then some ("!", cursor.next)
    else none

/-- A second exclamation mark stands before the end of the tag whose text is given. -/
def hasHandle (text : List Char) : Bool :=
  (text.takeWhile fun c => !(c == ' ' || isBreak c)).contains '!'

/-- The tag whose exclamation mark is at the cursor. -/
def writtenTag? (cursor : Cursor) : Option (WrittenTag × Cursor) := do
  let (tag, behind) ←
    if cursor.next.peek? = some '<' then do
      let (suffix, behind) ← tagSuffix? (cursor.forward 2)
      if behind.peek? = some '>' then some (⟨none, suffix⟩, behind.next) else none
    else if opensWithGap cursor.next.rest then some (⟨none, "!"⟩, cursor.next)
    else if hasHandle cursor.next.rest then do
      let (handle, behind) ← tagHandle? cursor
      let (suffix, last) ← tagSuffix? behind
      some (⟨some handle, suffix⟩, last)
    else do
      let (suffix, behind) ← tagSuffix? cursor.next
      some (⟨some "!", suffix⟩, behind)
  if opensWithEnd behind.rest then return (tag, behind) else none

/-- The number at the cursor. -/
def number? (cursor : Cursor) : Option (Nat × Cursor) :=
  let (digits, behind) := cursor.run Char.isDigit
  if digits.isEmpty then none else some (Json.digitsNumber digits, behind)

/-- The version of the format, behind the name of its directive. -/
def versionDirective? (cursor : Cursor) : Option (Directive × Cursor) := do
  let (main, behind) ← number? (cursor.skip (· == ' '))
  if behind.peek? = some '.' then
    let (_, last) ← number? behind.next
    if opensWithEnd last.rest then return (.version main, last) else none
  else none

/-- A handle and its meaning, behind the name of their directive. -/
def handleDirective? (cursor : Cursor) : Option (Directive × Cursor) := do
  let (handle, behind) ← tagHandle? (cursor.skip (· == ' '))
  if behind.peek? = some ' ' then
    let (meaning, last) ← tagSuffix? (behind.skip (· == ' '))
    if opensWithEnd last.rest then return (.handle handle meaning, last) else none
  else none

/-- The directive whose percent sign is at the cursor, and the cursor at the next line. -/
def directive? (cursor : Cursor) : Option (Directive × Cursor) := do
  let (name, behind) := cursor.next.run isNameCharacter
  if name.isEmpty || !opensWithEnd behind.rest then none
  else
    let (directive, last) ←
      if String.ofList name = "YAML" then versionDirective? behind
      else if String.ofList name = "TAG" then handleDirective? behind
      else some (.other, behind.skip (!isBreak ·))
    let next ← last.behindLine?
    return (directive, next)

end Concord.Yaml
