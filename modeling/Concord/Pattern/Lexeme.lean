/-
The lexemes of a written form, and reading them one by one. A backslash and the character behind it make one
lexeme; a backslash that ends the form is refused as soon as reading comes right in front of it.
-/

import Concord.Pattern
import Concord.Pattern.Refusal

namespace Concord.Pattern

/-! ### Lexemes -/

inductive LexemeKind where
  | plain (c : Char)
  | escape (c : Char)
  deriving DecidableEq, Repr

structure Lexeme where
  kind : LexemeKind
  position : Nat
  deriving DecidableEq, Repr

namespace Lexeme

/-- The lexemes of a form from a position on, and whether a backslash is left over at its end. -/
def scan (position : Nat) : List Char → List Lexeme × Bool
  | [] => ([], false)
  | ['\\'] => ([], true)
  | '\\' :: c :: rest =>
    let (lexemes, isCutOff) := scan (position + 2) rest
    (⟨.escape c, position⟩ :: lexemes, isCutOff)
  | c :: rest =>
    let (lexemes, isCutOff) := scan (position + 1) rest
    (⟨.plain c, position⟩ :: lexemes, isCutOff)

/-- A lexeme as it is written. -/
def characters (lexeme : Lexeme) : List Char :=
  match lexeme.kind with
  | .plain c => [c]
  | .escape c => ['\\', c]

end Lexeme

/-! ### Flags -/

/-- What an inline flag turns on. -/
inductive Flag where
  | caseless
  | multiline
  | dotAll
  | verbose
  | template
  | ascii
  | allScripts
  | locale
  deriving DecidableEq, Repr

namespace Flag

/-- The flag that a letter stands for. -/
def ofLetter? (c : Char) : Option Flag :=
  [('i', caseless), ('m', multiline), ('s', dotAll), ('x', verbose), ('t', template), ('a', ascii),
    ('u', allScripts), ('L', locale)].lookup c

/-- The flag says from which alphabet the named kinds draw. -/
def isAlphabet : Flag → Bool
  | .ascii | .allScripts | .locale => true
  | _ => false

/-- Some flags with others turned on and off. An alphabet that is turned on takes the place of another. -/
def turned (flags added removed : List Flag) : List Flag :=
  let others := if added.any isAlphabet then flags.filter (!·.isAlphabet) else flags
  (others ++ added).filter fun flag => !removed.contains flag

/-- The alphabet under the flags. -/
def alphabet (flags : List Flag) : Alphabet :=
  if flags.contains .ascii then .ascii else .allScripts

/-- When two characters count as the same under the flags. -/
def likeness (flags : List Flag) : Likeness :=
  if flags.contains .caseless then .caseless (alphabet flags) else .exact

end Flag

/-! ### Reading -/

/-- A group that has been opened: its name, and its width once it is closed. -/
structure GroupRecord where
  name? : Option String
  width? : Option Width
  deriving DecidableEq, Repr

/-- The code points of the characters that are known by a name. -/
abbrev CharacterNames := String → Option Nat

/-- No character is known by a name. -/
def noNames : CharacterNames :=
  fun _ => none

/-- What is left of a form, and what has been learnt from it. Groups are numbered from one. -/
structure ReadState where
  rest : List Lexeme
  isCutOff : Bool
  length : Nat
  flags : List Flag
  groups : List GroupRecord
  /-- Inside a part that looks back, the first group that belongs to it. -/
  lookBehind? : Option Nat
  /-- The numbers of groups that conditions name, and where. -/
  awaited : List (Nat × Nat)
  names : CharacterNames

/-- Reading part of a form. -/
abbrev Reader := StateT ReadState (Except Refusal)

namespace Reader

/-- Reading ends with a fault at a position. -/
def failAt {Read : Type} (fault : Fault) (position : Nat) : Reader Read :=
  throw ⟨fault, some position⟩

/-- The position of the next lexeme, or the length of the form. -/
def here : Reader Nat := do
  let state ← get
  return (state.rest.head?.map (·.position)).getD state.length

/-- Reading ends with a fault so many characters back. -/
def failBack {Read : Type} (fault : Fault) (count : Nat) : Reader Read := do
  failAt fault ((← here) - count)

/-- The next lexeme, which stays where it is. -/
def peek : Reader (Option LexemeKind) := do
  return (← get).rest.head?.map (·.kind)

/-- Refuses a form in whose left-over backslash the next step would run. -/
def checkEnd : Reader Unit := do
  let state ← get
  if state.rest.isEmpty && state.isCutOff then failAt .danglingEscape (state.length - 1)

/-- The next lexeme. -/
def take : Reader (Option Lexeme) := do
  let state ← get
  match state.rest with
  | [] => return none
  | lexeme :: rest =>
    modify fun state => { state with rest := rest }
    checkEnd
    return some lexeme

/-- The next lexeme is the plain character, and is taken. -/
def accept (c : Char) : Reader Bool := do
  if (← peek) = some (.plain c) then
    let _ ← take
    return true
  else return false

/-- The characters of a class that come next, no more than `count`. -/
def run (belongs : Char → Bool) : (count : Nat) → Reader (List Char)
  | 0 => return []
  | count + 1 => do
    match ← peek with
    | some (.plain c) =>
      if belongs c then
        let _ ← take
        return c :: (← run belongs count)
      else return []
    | _ => return []

/-- The lexemes up to and including a mark, as they are written. -/
def upToMark (mark : Char) (what : String) : (steps : Nat) → (before : List Char) → Reader (List Char)
  | 0, _ => failBack .unexpectedEnd 0
  | steps + 1, before => do
    match ← take with
    | none =>
      if before.isEmpty then failBack (.missing what) 0
      else failBack (.unterminatedName mark) before.length
    | some lexeme =>
      if lexeme.kind = .plain mark then
        if before.isEmpty then failBack (.missing what) 1 else return before
      else upToMark mark what steps (before ++ lexeme.characters)

/-- The name up to a mark. -/
def nameUntil (mark : Char) (what : String) : Reader (List Char) := do
  upToMark mark what ((← get).rest.length + 1) []

end Reader

end Concord.Pattern
