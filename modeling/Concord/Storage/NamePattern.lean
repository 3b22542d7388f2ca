/-
Patterns for the names of files. An asterisk stands for any characters, a question mark for one, and a set
in square brackets for one of its characters, or for one of all others if an exclamation mark opens it.
Everything else stands for itself, an opening bracket that is never closed too.
-/

import Concord.Text.Pieces

namespace Concord.NamePattern

/-! ### Patterns -/

/-- One part of a pattern. -/
inductive Part where
  /-- Any characters, possibly none. -/
  | run
  | one
  | set (isNegated : Bool) (ranges : List (Char × Char))
  | character (c : Char)
  deriving DecidableEq, Repr

/-- Has a meaning other than itself in a pattern. -/
def isMagic (c : Char) : Bool :=
  c == '*' || c == '?' || c == '['

/-- The text holds a character with a meaning of its own. -/
def hasMagic (text : List Char) : Bool :=
  text.any isMagic

/-! ### Reading -/

/-- The ranges of a set: two characters with a dash between them, or a single one. -/
def rangesOf : List Char → List (Char × Char)
  | first :: '-' :: last :: rest => (first, last) :: rangesOf rest
  | c :: rest => (c, c) :: rangesOf rest
  | [] => []

/-- The text of a set whose opening bracket has been read, and what follows its closing bracket. A
closing bracket that comes first belongs to the set. -/
def setText? (text : List Char) : Option (Bool × List Char × List Char) :=
  let (isNegated, inside) := match text with
    | '!' :: rest => (true, rest)
    | rest => (false, rest)
  match inside with
  | [] => none
  | first :: rest =>
    match Text.cutAt (· == ']') rest with
    | (others, some behind) => some (isNegated, first :: others, behind)
    | (_, none) => none

/-- The parts of a pattern. Every step reads a character. -/
def partsFrom : (steps : Nat) → List Char → List Part
  | 0, _ => []
  | _ + 1, [] => []
  | steps + 1, c :: rest =>
    if c = '*' then .run :: partsFrom steps rest
    else if c = '?' then .one :: partsFrom steps rest
    else if c = '[' then
      match setText? rest with
      | some (isNegated, text, behind) =>
        .set isNegated (rangesOf text) :: partsFrom steps behind
      | none => .character c :: partsFrom steps rest
    else .character c :: partsFrom steps rest

/-- The parts of a pattern. -/
def parts (pattern : List Char) : List Part :=
  partsFrom pattern.length pattern

/-! ### Matching -/

/-- The part stands for the character. -/
def Part.admits : Part → Char → Bool
  | .run, _ => true
  | .one, _ => true
  | .set isNegated ranges, c =>
    (ranges.any fun (first, last) => first ≤ c && c ≤ last) != isNegated
  | .character expected, c => c == expected

/-- The parts stand for the whole name. -/
def fits : List Part → List Char → Bool
  | [], name => name.isEmpty
  | .run :: parts, [] => fits parts []
  | .run :: parts, c :: rest => fits parts (c :: rest) || fits (.run :: parts) rest
  | _ :: _, [] => false
  | part :: parts, c :: rest => part.admits c && fits parts rest
termination_by parts name => parts.length + name.length

/-- The pattern stands for the whole name. -/
def matchesName (pattern name : List Char) : Bool :=
  fits (parts pattern) name

end Concord.NamePattern
