/-
Identifiers of the declaration language. An identifier opens with an ASCII letter, an underscore or a
dollar sign and goes on with word characters of any script and dollar signs. Readers here take an
identifier, or a keyword with the blanks behind it, off the front of a text.
-/

import Concord.Text.Blank
import Concord.Text.WordCharacter

namespace Concord.Text

/-! ### The two classes -/

/-- May open an identifier. -/
def opensIdentifier (c : Char) : Bool :=
  c.isAlpha || c == '_' || c == '$'

/-- May stand inside an identifier. -/
def continuesIdentifier (c : Char) : Bool :=
  isWordCharacter c || c == '$'

/-! ### Reading -/

/-- The longest identifier that opens the text, and the rest. -/
def identifier? : List Char → Option (List Char × List Char)
  | [] => none
  | c :: rest =>
    if opensIdentifier c then
      some (c :: rest.takeWhile continuesIdentifier, rest.dropWhile continuesIdentifier)
    else none

/-- The whole text is an identifier. -/
def isIdentifier : List Char → Bool
  | [] => false
  | c :: rest => opensIdentifier c && rest.all continuesIdentifier

/-- What is left behind a keyword and the blanks that must follow it. -/
def spacedKeyword? (keyword text : List Char) : Option (List Char) :=
  match after? keyword text with
  | some (c :: rest) => if isBlank c then some (stripStart rest) else none
  | _ => none

/-- What is left behind a keyword and the spaces or tabulators that must follow it. -/
def inlineKeyword? (keyword text : List Char) : Option (List Char) :=
  match after? keyword text with
  | some (c :: rest) => if isSpaceOrTab c then some (rest.dropWhile isSpaceOrTab) else none
  | _ => none

/-- The text behind a keyword, or the text itself when it does not open with that keyword. -/
def skipInline (keyword text : List Char) : List Char :=
  (inlineKeyword? keyword text).getD text

theorem identifier?_append {text name rest : List Char}
    (found : identifier? text = some (name, rest)) : text = name ++ rest := by
  cases text with
  | nil => simp [identifier?] at found
  | cons c tail =>
    by_cases opens : opensIdentifier c = true
    · simp only [identifier?, opens, ↓reduceIte, Option.some.injEq, Prod.mk.injEq] at found
      rw [← found.1, ← found.2, List.cons_append, List.takeWhile_append_dropWhile]
    · simp [identifier?, opens] at found

theorem isIdentifier_of_identifier? {text name rest : List Char}
    (found : identifier? text = some (name, rest)) : isIdentifier name = true := by
  cases text with
  | nil => simp [identifier?] at found
  | cons c tail =>
    by_cases opens : opensIdentifier c = true
    · simp only [identifier?, opens, ↓reduceIte, Option.some.injEq, Prod.mk.injEq] at found
      rw [← found.1]
      simp [isIdentifier, opens, List.all_takeWhile]
    · simp [identifier?, opens] at found

end Concord.Text
