/-
Type expressions: the names that one refers to, and when two say the same. String literals and the keys
of inline members are cut out of the text first, each leaving a space; what is left of identifiers are
the names referred to.
-/

import Concord.Document
import Concord.Text.Case

namespace Concord.TypeName

open Text

/-! ### Cutting out -/

/-- Opens and closes a string literal. -/
def isQuote (c : Char) : Bool :=
  c == '\x27' || c == '\x22' || c == '\x60'

/-- How long the string literal is that opens a text: up to the next quote of its kind. -/
def literalLength? : List Char → Option Nat
  | [] => none
  | quote :: rest =>
    if isQuote quote && rest.contains quote then some ((before (· == quote) rest).length + 2)
    else none

/-- What stands behind the name of an inline member: the text behind its colon, if just one. -/
def behindColon? (text : List Char) : Option (List Char) :=
  let text := match text with
    | '?' :: rest => rest
    | text => text
  match stripStart text with
  | ':' :: rest => if rest.head? = some ':' then none else some rest
  | _ => none

/-- What stands behind an identifier and its colon. -/
def behindKey? (text : List Char) : Option (List Char) := do
  let (_, rest) ← identifier? text
  behindColon? rest

/-- How long the member key is that opens a text, its colon included. -/
def keyLength? (text : List Char) : Option Nat :=
  (((spacedKeyword? "readonly".toList text).bind behindKey?).or (behindKey? text)).map fun rest =>
    text.length - rest.length

/-- The text with every part that `length?` measures replaced by a space. The first `skipped`
characters belong to a part that has been replaced already. -/
def withoutFrom (length? : List Char → Option Nat) (skipped : Nat) : List Char → List Char
  | [] => []
  | c :: rest =>
    match skipped with
    | skipped + 1 => withoutFrom length? skipped rest
    | 0 =>
      match length? (c :: rest) with
      | some (length + 1) => ' ' :: withoutFrom length? length rest
      | _ => c :: withoutFrom length? 0 rest

/-- The text with every part that `length?` measures replaced by a space. -/
def without (length? : List Char → Option Nat) (text : List Char) : List Char :=
  withoutFrom length? 0 text

/-- A type expression without string literals and member keys. -/
def bare (expression : List Char) : List Char :=
  without keyLength? (without literalLength? expression)

/-! ### Names -/

/-- The identifiers of a text; `inside` tells that an identifier has been opened. -/
def identifiersFrom (inside : Bool) : List Char → List (List Char)
  | [] => []
  | c :: rest =>
    if inside && continuesIdentifier c then identifiersFrom true rest
    else match identifier? (c :: rest) with
      | some (name, _) => name :: identifiersFrom true rest
      | none => identifiersFrom false rest

/-- The names that a type expression refers to, in order of first use. -/
def references (expression : String) : List String :=
  firstOccurrences ((identifiersFrom false (bare expression.toList)).map String.ofList)

/-! ### Agreement -/

/-- An expression without its blanks and in lower case. -/
def normalForm (expression : String) : List Char :=
  lower (unspaced expression.toList)

/-- An expression without the blanks at its ends. -/
def stripped (expression : String) : String :=
  String.ofList (strip expression.toList)

/-- Two expressions agree: they have one normal form, or an equivalence relates them. -/
def compatible (equivalences : List (String × String)) (first second : String) : Bool :=
  normalForm first == normalForm second ||
    equivalences.any fun (left, right) =>
      (stripped first == left && stripped second == right) ||
        (stripped first == right && stripped second == left)

end Concord.TypeName
