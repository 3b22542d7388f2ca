/-
Heads of declarations. A head opens a line, perhaps behind `export` and `declare`, and goes as far as
the name of a record, the equals sign of an alias, or the opening brace of an enumeration or a
constant group. Each kind is looked for on its own from the top of the text to its end, a head never
beginning inside an earlier one of its kind; the heads of all kinds are then put in order of place.
Heads are looked for in the masked view.
-/

import Concord.Declaration
import Concord.Text.Identifier

namespace Concord

open Text

structure Head where
  kind : DeclarationKind
  name : List Char
  /-- The position of the line that the head opens. -/
  start : Nat
  /-- The position behind the head. -/
  stop : Nat
  deriving DecidableEq, Repr

namespace Head

/-! ### One head at the start of a line -/

/-- Behind the blanks that indent a line and the words `export` and `declare`. -/
def behindModifiers (line : List Char) : List Char :=
  skipInline "declare".toList (skipInline "export".toList (line.dropWhile isSpaceOrTab))

/-- Behind the type parameters of an alias whose opening angle bracket has been read. One level of
angle brackets may stand inside, where `inner` is true. -/
def behindTypeParameters : (inner : Bool) → List Char → Option (List Char)
  | _, [] => none
  | inner, c :: rest =>
    if c = '>' then if inner then behindTypeParameters false rest else some rest
    else if c = '<' then if inner then none else behindTypeParameters true rest
    else behindTypeParameters inner rest

/-- Behind type parameters, if the text opens with any. -/
def behindOptionalParameters : List Char → Option (List Char)
  | '<' :: rest => behindTypeParameters false rest
  | text => some text

/-- Behind one required character. -/
def behind? (expected : Char) : List Char → Option (List Char)
  | c :: rest => if c = expected then some rest else none
  | [] => none

/-- Behind the type annotation of a constant: a colon and at least one character, up to the equals
sign, a semicolon or a brace. -/
def behindAnnotation : List Char → Option (List Char)
  | ':' :: rest =>
    let ends := fun c => c == '=' || c == ';' || c == '\x7b'
    match before ends rest with
    | [] => none
    | _ :: _ => some (rest.dropWhile fun c => !ends c)
  | text => some text

/-- Behind the call that freezes an object, if the text opens with one. -/
def skipFreeze (text : List Char) : List Char :=
  ((after? "Object.freeze(".toList text).map stripStart).getD text

/-- The name of a record, and the rest. -/
def record? (text : List Char) : Option (List Char × List Char) :=
  (inlineKeyword? "interface".toList text).bind identifier?

/-- The name of an alias, and the rest behind its equals sign. -/
def typeAlias? (text : List Char) : Option (List Char × List Char) := do
  let (name, rest) ← (inlineKeyword? "type".toList text).bind identifier?
  let rest ← behindOptionalParameters (rest.dropWhile isSpaceOrTab)
  let rest ← behind? '=' (stripStart rest)
  return (name, rest)

/-- The name of an enumeration, and the rest behind its opening brace. -/
def enumeration? (text : List Char) : Option (List Char × List Char) := do
  let text := skipInline "const".toList text
  let (name, rest) ← (inlineKeyword? "enum".toList text).bind identifier?
  let rest ← behind? '\x7b' (stripStart rest)
  return (name, rest)

/-- The name of a constant group, and the rest behind its opening brace. -/
def constantGroup? (text : List Char) : Option (List Char × List Char) := do
  let (name, rest) ← (inlineKeyword? "const".toList text).bind identifier?
  let rest ← behindAnnotation (stripStart rest)
  let rest ← behind? '=' rest
  let rest ← behind? '\x7b' (skipFreeze (stripStart rest))
  return (name, rest)

/-- The name in a head of the given kind that opens the line, and the rest behind the head. -/
def read? (kind : DeclarationKind) (line : List Char) : Option (List Char × List Char) :=
  let text := behindModifiers line
  match kind with
  | .record => record? text
  | .typeAlias => typeAlias? text
  | .enumeration => enumeration? text
  | .constantGroup => constantGroup? text

/-! ### All heads of a text -/

/-- The heads of one kind in the text from position `index` on. None begins before `resume`, and only
the start of a line begins one. -/
def ofKindFrom (kind : DeclarationKind) (index resume : Nat) (startsLine : Bool) :
    List Char → List Head
  | [] => []
  | c :: rest =>
    let found := if startsLine && resume ≤ index then read? kind (c :: rest) else none
    match found with
    | some (name, left) =>
      let stop := index + ((c :: rest).length - left.length)
      ⟨kind, name, index, stop⟩ :: ofKindFrom kind (index + 1) stop (c == '\n') rest
    | none => ofKindFrom kind (index + 1) resume (c == '\n') rest

/-- The heads of one kind. -/
def ofKind (kind : DeclarationKind) (masked : List Char) : List Head :=
  ofKindFrom kind 0 0 true masked

/-- The heads of every kind in order of place. -/
def all (masked : List Char) : List Head :=
  (DeclarationKind.all.flatMap fun kind => ofKind kind masked).mergeSort fun first second =>
    first.start ≤ second.start

end Head

end Concord
