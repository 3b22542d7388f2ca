/-
String literals in full. A literal holds no quote of its own kind but behind a backslash, and a line feed
only between back quotes; other quotes stand in it as they are. Behind such a literal the walk over the
source is back in code, and the masked view shows its quotes and blanks between them.
-/

import Concord.Proofs.Source.Nested

namespace Concord.Source

/-- What may stand between two quotes of a kind. -/
inductive IsContent (quote : Char) : List Char → Prop
  | nil : IsContent quote []
  | plain {c : Char} {rest : List Char} (other : c ≠ quote) (noBackslash : c ≠ '\\')
      (inLine : c = '\n' → spansLines quote = true) (content : IsContent quote rest) :
      IsContent quote (c :: rest)
  | escaped {c : Char} {rest : List Char} (content : IsContent quote rest) :
      IsContent quote ('\\' :: c :: rest)

theorem IsContent.of_forall {quote : Char} {content : List Char}
    (plain : ∀ c ∈ content, c ≠ quote ∧ c ≠ '\\' ∧ c ≠ '\n') : IsContent quote content := by
  induction content with
  | nil => exact .nil
  | cons c content inductionHypothesis =>
    rw [List.forall_mem_cons] at plain
    exact .plain plain.1.1 plain.1.2.1 (fun isBreak => absurd isBreak plain.1.2.2)
      (inductionHypothesis plain.2)

/-- A string literal. -/
structure Literal where
  quote : Char
  content : List Char
  quotes : isQuote quote = true
  isContent : IsContent quote content

/-- The cells of a literal whose opening quote has been read. -/
theorem IsContent.cellsFrom_append {quote : Char} {content : List Char}
    (isContent : IsContent quote content) (noBackslash : '\\' ≠ quote) (rest : List Char) :
    cellsFrom (.literal quote) (content ++ quote :: rest) =
      content.map (fun c => ⟨c, blanked c⟩) ++ ⟨quote, quote⟩ :: cellsFrom .code rest := by
  induction isContent with
  | nil =>
    rw [List.nil_append, List.map_nil, List.nil_append, cellsFrom, Mode.cell, Mode.next,
      Mode.behindLiteral, if_pos rfl, if_pos rfl]
  | @plain c content other noEscape inLine _ inductionHypothesis =>
    have stays : ¬ (c = '\n' ∧ (!spansLines quote) = true) := by
      rintro ⟨isBreak, alone⟩
      rw [inLine isBreak] at alone
      exact absurd alone (by simp)
    rw [List.cons_append, cellsFrom, Mode.cell, Mode.next, Mode.behindLiteral, if_neg other,
      if_neg other, if_neg noEscape, if_neg stays, inductionHypothesis]
    rfl
  | @escaped c content _ inductionHypothesis =>
    have goesOn : ¬ (c = quote ∧ (content ++ quote :: rest).isEmpty = true) := by
      simp
    rw [List.cons_append, List.cons_append, cellsFrom, Mode.cell, Mode.next, Mode.behindLiteral,
      if_neg noBackslash, if_neg noBackslash, if_pos rfl, cellsFrom, Mode.cell, Mode.next,
      if_neg goesOn, inductionHypothesis]
    rfl

namespace Literal

/-- The literal as it is written. -/
def text (literal : Literal) : List Char :=
  literal.quote :: (literal.content ++ [literal.quote])

variable (literal : Literal)

theorem ne_of_isQuote {c : Char} (other : isQuote c = false) : literal.quote ≠ c := by
  rintro rfl
  exact absurd (literal.quotes.symm.trans other) (by simp)

theorem settled :
    Settled literal.text ∧
      mask literal.text = literal.quote :: (literal.content.map blanked ++ [literal.quote]) := by
  have noSlash : ¬ literal.quote = '/' := literal.ne_of_isQuote (by decide)
  have opens : ∀ rest, cellsFrom .code (literal.text ++ rest) = ⟨literal.quote, literal.quote⟩ ::
      (literal.content.map (fun c => ⟨c, blanked c⟩) ++
        ⟨literal.quote, literal.quote⟩ :: cellsFrom .code rest) := by
    intro rest
    rw [text, List.cons_append, List.append_assoc, List.singleton_append, cellsFrom, Mode.cell,
      if_neg fun both => noSlash both.1, Mode.next, Mode.behindCode, if_neg fun both => noSlash both.1,
      if_neg fun both => noSlash both.1, if_pos literal.quotes,
      literal.isContent.cellsFrom_append (literal.ne_of_isQuote (by decide)).symm]
  have alone := opens []
  rw [List.append_nil] at alone
  refine ⟨⟨fun rest => ?_, ?_⟩, ?_⟩
  · rw [opens, alone, List.cons_append, List.append_assoc, List.cons_append]
    rfl
  · rw [Views.of, alone]
    simp [Function.comp_def, cellsFrom, text]
  · rw [mask, Views.of, alone]
    simp [Function.comp_def, cellsFrom]

end Literal

end Concord.Source
