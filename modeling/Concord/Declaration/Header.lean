/-
The header of a record: what stands between its name and its body. It may hold type parameters and the
supertypes behind `extends`, and both may hold brackets of their own, so the body begins at the first
brace outside every bracket, and there is none when the header ends before.
-/

import Concord.Source.Members

namespace Concord.Header

open Source Text

/-! ### Where the body begins -/

/-- How far ahead the body begins, with `angles` angle brackets and `depth` other brackets open. -/
def bodyFrom (angles depth : Nat) (previous : Option Char) : List Char → Option Nat
  | [] => none
  | c :: rest =>
    let flat := angles == 0 && depth == 0
    if c = '<' then (bodyFrom (angles + 1) depth (some c) rest).map (· + 1)
    else if c = '>' then
      (bodyFrom (if previous = some '=' then angles else angles - 1) depth (some c) rest).map (· + 1)
    else if c = '(' ∨ c = '[' then (bodyFrom angles (depth + 1) (some c) rest).map (· + 1)
    else if c = ')' ∨ c = ']' then (bodyFrom angles (depth - 1) (some c) rest).map (· + 1)
    else if c = '\x7b' then
      if flat then some 0 else (bodyFrom angles (depth + 1) (some c) rest).map (· + 1)
    else if c = '\x7d' then
      if flat then none else (bodyFrom angles (depth - 1) (some c) rest).map (· + 1)
    else if (c = ';' ∨ c = '=') ∧ flat then none
    else (bodyFrom angles depth (some c) rest).map (· + 1)

/-- The position of the brace that opens the body of a record whose header begins at `start`. -/
def body? (masked : List Char) (start : Nat) : Option Nat :=
  (bodyFrom 0 0 none (masked.drop start)).map (start + ·)

/-! ### Supertypes -/

/-- What stands behind type parameters of which `depth` angle brackets are open; nothing when they are
never closed. -/
def behindTypeParameters (depth : Nat) (previous : Option Char) : List Char → List Char
  | [] => []
  | c :: rest =>
    if c = '<' then behindTypeParameters (depth + 1) (some c) rest
    else if c = '>' ∧ previous ≠ some '=' then
      if depth = 1 then rest else behindTypeParameters (depth - 1) (some c) rest
    else behindTypeParameters depth (some c) rest

/-- The header without the blanks and the type parameters it opens with. -/
def withoutTypeParameters (header : List Char) : List Char :=
  match stripStart header with
  | '<' :: rest => behindTypeParameters 1 (some '<') rest
  | text => text

/-- A word character stands at this place. -/
def isWordAt : Option Char → Bool
  | some c => isWordCharacter c
  | none => false

/-- What stands behind the first occurrence of a keyword as a word of its own. -/
def behindKeyword? (keyword : List Char) (previous : Option Char) : List Char → Option (List Char)
  | [] => none
  | c :: rest =>
    match if isWordAt previous then none else after? keyword (c :: rest) with
    | some tail =>
      if isWordAt tail.head? then behindKeyword? keyword (some c) rest else some tail
    | none => behindKeyword? keyword (some c) rest

/-- The supertypes that a header lists. -/
def supertypes (header : List Char) : List String :=
  match behindKeyword? "extends".toList none (withoutTypeParameters header) with
  | none => []
  | some listed =>
    (allMembers .list listed).map fun span => String.ofList (collapse (span.slice listed))

end Concord.Header
