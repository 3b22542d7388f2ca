/-
Search patterns for names. A pattern describes texts by characters, classes of characters, conditions on a
place, sequence, choice and repetition; it may look around a place, name what a part of it has taken, and
ask for the same again. This module holds what patterns are; where they lead is told in
`Concord.Pattern.Search`.
-/

import Concord.Text.Blank
import Concord.Text.Caseless
import Concord.Text.DecimalDigit
import Concord.Text.WordCharacter

namespace Concord

open Text

/-! ### Characters -/

/-- The characters that the named kinds draw on. -/
inductive Alphabet where
  | allScripts
  | ascii
  deriving DecidableEq, Repr

/-- A class of characters that has a name. -/
inductive CharacterKind where
  | digit
  | word
  | blank
  deriving DecidableEq, Repr

/-- The character is of the kind. The separators of ASCII are blank among all scripts only. -/
def CharacterKind.holds (alphabet : Alphabet) (kind : CharacterKind) (c : Char) : Bool :=
  (alphabet == .allScripts || c.toNat < 128) &&
    match kind with
    | .digit => isDecimalDigit c
    | .word => isWordCharacter c
    | .blank => isBlank c && (alphabet == .allScripts || !(0x1c ≤ c.toNat && c.toNat ≤ 0x1f))

/-- When two characters count as the same. -/
inductive Likeness where
  | exact
  | caseless (alphabet : Alphabet)
  deriving DecidableEq, Repr

namespace Likeness

/-- The characters that count as the same as this one. -/
def variants : Likeness → Char → List Char
  | .exact, c => [c]
  | .caseless .allScripts, c => caseVariants c
  | .caseless .ascii, c => asciiCaseVariants c

/-- The form in which a character is compared with one that has been taken before. -/
def folded : Likeness → Char → Char
  | .exact, c => c
  | .caseless .allScripts, c => lowerAlone c
  | .caseless .ascii, c => c.toLower

end Likeness

/-- One entry of a set of characters: the code points of a range, or a named kind. -/
inductive SetItem where
  | range (first last : Nat)
  | kind (named : CharacterKind) (alphabet : Alphabet) (isNegated : Bool)
  deriving DecidableEq, Repr

namespace SetItem

/-- The entry of one character. -/
def ofCharacter (c : Char) : SetItem :=
  .range c.toNat c.toNat

/-- The entry covers the character. -/
def covers (likeness : Likeness) (item : SetItem) (c : Char) : Bool :=
  match item with
  | .range first last =>
    (likeness.variants c).any fun variant => first ≤ variant.toNat && variant.toNat ≤ last
  | .kind named alphabet isNegated => named.holds alphabet c != isNegated

end SetItem

/-! ### Places -/

/-- A condition on a place that takes no character. -/
inductive Anchor where
  | start
  | lineStart
  /-- The end of the text, or the line feed that ends it. -/
  | stop
  | lineStop
  /-- The end of the text proper. -/
  | absoluteStop
  /-- A word begins or ends here, or none does; an empty text has neither kind of place. -/
  | wordBoundary (alphabet : Alphabet) (isNegated : Bool)
  deriving DecidableEq, Repr

/-- A word character stands there. -/
def isWordAt (alphabet : Alphabet) : Option Char → Bool
  | some c => CharacterKind.holds alphabet .word c
  | none => false

/-- The condition holds at a place of the text. -/
def Anchor.holds (text : Array Char) (anchor : Anchor) (place : Nat) : Bool :=
  let before := if place = 0 then none else text[place - 1]?
  match anchor with
  | .start => place == 0
  | .lineStart => place == 0 || before == some '\n'
  | .stop => text.size ≤ place || (place + 1 == text.size && text[place]? == some '\n')
  | .lineStop => text.size ≤ place || text[place]? == some '\n'
  | .absoluteStop => text.size ≤ place
  | .wordBoundary alphabet isNegated =>
    !text.isEmpty && (isWordAt alphabet before != isWordAt alphabet text[place]?) != isNegated

/-! ### Patterns -/

/-- How few and how many characters a pattern takes. -/
structure Width where
  least : Nat
  most : Nat
  deriving DecidableEq, Repr

/-- Which of its ends a repetition prefers. -/
inductive Manner where
  /-- The longest first. -/
  | greedy
  /-- The shortest first. -/
  | lazy
  /-- The longest, and no other. -/
  | possessive
  deriving DecidableEq, Repr

inductive Pattern where
  | empty
  | set (isNegated : Bool) (likeness : Likeness) (items : List SetItem)
  | anchor (condition : Anchor)
  | sequence (first second : Pattern)
  | choice (first second : Pattern)
  /-- At least `least` times and, if there is a bound, at most `most?` times. -/
  | repeated (manner : Manner) (body : Pattern) (least : Nat) (most? : Option Nat)
  /-- The body fits, or does not fit, from as far back as it is wide; nothing is taken. Without width that
  is from here on. -/
  | look (back : Width) (isNegated : Bool) (body : Pattern)
  /-- The first way in which the body fits, and no other. -/
  | atomic (body : Pattern)
  /-- What the body takes is kept under a number. -/
  | group (number : Nat) (body : Pattern)
  /-- What is kept under a number, once more. -/
  | reference (likeness : Likeness) (number : Nat)
  /-- One body if something is kept under the number, and another if nothing is. -/
  | conditional (number : Nat) (kept missing : Pattern)
  deriving DecidableEq, Repr

namespace Pattern

/-- A set of characters without any entry but those given. -/
def ofItems (likeness : Likeness) (items : List SetItem) : Pattern :=
  .set false likeness items

/-- The numbers under which the pattern asks what is kept. -/
def asked : Pattern → List Nat
  | .empty | .set _ _ _ | .anchor _ => []
  | .sequence first second | .choice first second => asked first ++ asked second
  | .repeated _ body _ _ | .look _ _ body | .atomic body | .group _ body => asked body
  | .reference _ number => [number]
  | .conditional number kept missing => number :: (asked kept ++ asked missing)

/-! ### Widths -/

/-- No text is as long as this. -/
def unboundedWidth : Nat := 0x10000000000000000

/-- The width of a pattern, given those of the groups it refers to. -/
def width (groups : Nat → Width) : Pattern → Width
  | .empty | .anchor _ | .look _ _ _ => ⟨0, 0⟩
  | .set _ _ _ => ⟨1, 1⟩
  | .sequence first second =>
    let (first, second) := (width groups first, width groups second)
    ⟨first.least + second.least, first.most + second.most⟩
  | .choice first second | .conditional _ first second =>
    let (first, second) := (width groups first, width groups second)
    ⟨min first.least second.least, max first.most second.most⟩
  | .repeated _ body least most? =>
    let body := width groups body
    match most? with
    | some most => ⟨body.least * least, body.most * most⟩
    | none => ⟨body.least * least, if body.most = 0 then 0 else unboundedWidth⟩
  | .atomic body | .group _ body => width groups body
  | .reference _ number => groups number

end Pattern

end Concord
