/-
Two scanners delimit string literals. The walk over a source knows escapes, ends a literal on one line
with that line, and passes comments over; the search for referenced names cuts out whatever stands
between two quotes of a kind. They delimit the same literals in an expression that holds no comment and
whose literals are closed and hold no quote of their own, not even behind a backslash. Of such an
expression the masked view refers to the same names as the expression itself.
-/

import Concord.Proofs.Source.Comments
import Concord.Proofs.Source.Literals
import Concord.TypeName

namespace Concord.TypeName

open Source Text

/-! ### Cutting out -/

section

variable {length? : List Char → Option Nat} {rest : List Char}

theorem withoutFrom_skipped (part : List Char) :
    withoutFrom length? part.length (part ++ rest) = without length? rest := by
  induction part with
  | nil => rfl
  | cons c part inductionHypothesis => exact inductionHypothesis

/-- A part that is measured leaves a space. -/
theorem without_measured {part : List Char} (something : part ≠ [])
    (measured : length? (part ++ rest) = some part.length) :
    without length? (part ++ rest) = ' ' :: without length? rest := by
  obtain ⟨c, part, rfl⟩ := List.exists_cons_of_ne_nil something
  rw [List.cons_append, List.length_cons] at measured
  rw [List.cons_append, without, withoutFrom, measured]
  exact congrArg (' ' :: ·) (withoutFrom_skipped part)

theorem without_passed {c : Char} (passed : length? (c :: rest) = none) :
    without length? (c :: rest) = c :: without length? rest := by
  rw [without, withoutFrom, passed]
  rfl

end

/-! ### Literals cut out -/

theorem without_code {c : Char} (noQuote : Source.isQuote c = false) (rest : List Char) :
    without literalLength? (c :: rest) = c :: without literalLength? rest := by
  refine without_passed (if_neg ?_)
  rw [show isQuote c = false from noQuote]
  simp

theorem without_run {run : List Char} (quiet : ∀ c ∈ run, isQuiet c = true) (rest : List Char) :
    without literalLength? (run ++ rest) = run ++ without literalLength? rest := by
  induction run with
  | nil => rfl
  | cons c run inductionHypothesis =>
    rw [List.forall_mem_cons] at quiet
    have noQuote := (Bool.and_eq_true_iff.1 quiet.1).2
    rw [List.cons_append, without_code (by simpa using noQuote), inductionHypothesis quiet.2,
      List.cons_append]

/-- A literal is cut out up to the next quote of its kind. -/
theorem without_literal {quote : Char} {content : List Char} (quotes : Source.isQuote quote = true)
    (unquoted : quote ∉ content) (rest : List Char) :
    without literalLength? (quote :: (content ++ quote :: rest)) = ' ' :: without literalLength? rest := by
  have inside : ∀ c ∈ content, (!(c == quote)) = true := by
    intro c member
    simp only [Bool.not_eq_true', beq_eq_false_iff_ne]
    rintro rfl
    exact unquoted member
  have stops : ∀ c, (quote :: rest).head? = some c → (!(c == quote)) = false := by
    rintro c ⟨⟩
    simp
  have isText : quote :: (content ++ quote :: rest) = (quote :: (content ++ [quote])) ++ rest := by
    rw [List.cons_append, List.append_assoc, List.singleton_append]
  have measured : literalLength? (quote :: (content ++ quote :: rest)) =
      some (quote :: (content ++ [quote])).length := by
    rw [literalLength?, if_pos (by simp [show isQuote quote = true from quotes]), before,
      takeWhile_append_of_stops inside stops, List.length_cons, List.length_append,
      List.length_singleton]
  rw [isText] at measured ⊢
  exact without_measured (by simp) measured

/-! ### The masked view -/

/-- Every literal in the text is closed and does not hold its own quote, not even behind a backslash, and
outside the literals no comment begins. -/
inductive IsDelimited : List Char → Prop
  | nil : IsDelimited []
  | code {c : Char} {rest : List Char} (noQuote : Source.isQuote c = false)
      (noComment : ¬ OpensComment c rest) (delimited : IsDelimited rest) : IsDelimited (c :: rest)
  | literal {rest : List Char} (literal : Literal) (unquoted : literal.quote ∉ literal.content)
      (delimited : IsDelimited rest) : IsDelimited (literal.text ++ rest)

theorem IsDelimited.run {run rest : List Char} (quiet : ∀ c ∈ run, isQuiet c = true)
    (delimited : IsDelimited rest) : IsDelimited (run ++ rest) := by
  induction run with
  | nil => exact delimited
  | cons c run inductionHypothesis =>
    rw [List.forall_mem_cons] at quiet
    obtain ⟨noSlash, noQuote⟩ := Bool.and_eq_true_iff.1 quiet.1
    exact .code (by simpa using noQuote) (fun comment => bne_iff_ne.1 noSlash comment.1)
      (inductionHypothesis quiet.2)

theorem mask_code {c : Char} {rest : List Char} (noQuote : Source.isQuote c = false)
    (noComment : ¬ OpensComment c rest) : mask (c :: rest) = c :: mask rest := by
  obtain ⟨cell, next⟩ := code_plain noComment
  rw [noQuote, if_neg (by simp)] at next
  rw [mask, mask, Views.of, Views.of, cellsFrom, cell, next]
  rfl

/-- The masked view of a text keeps all that is left when the literals are cut out. -/
theorem IsDelimited.without_mask {text : List Char} (delimited : IsDelimited text) :
    without literalLength? (mask text) = without literalLength? text := by
  induction delimited with
  | nil => rfl
  | @code c rest noQuote noComment _ inductionHypothesis =>
    rw [mask_code noQuote noComment, without_code noQuote, without_code noQuote, inductionHypothesis]
  | @literal rest literal unquoted _ inductionHypothesis =>
    have hidden : literal.quote ∉ literal.content.map blanked := by
      intro member
      obtain ⟨c, -, same⟩ := List.mem_map.1 member
      have shown := isQuote_blanked c
      rw [same, literal.quotes] at shown
      exact absurd shown (by simp)
    have isText : ∀ (content : List Char) more, (literal.quote :: (content ++ [literal.quote])) ++ more =
        literal.quote :: (content ++ literal.quote :: more) := by
      intro content more
      rw [List.cons_append, List.append_assoc, List.singleton_append]
    rw [mask_append literal.settled.1, literal.settled.2, Literal.text, isText, isText,
      without_literal literal.quotes hidden, without_literal literal.quotes unquoted,
      inductionHypothesis]

/-- An expression and its masked view refer to the same names. -/
theorem references_mask {expression : String} (delimited : IsDelimited expression.toList) :
    references (String.ofList (mask expression.toList)) = references expression := by
  rw [references, references, bare, bare, String.toList_ofList, delimited.without_mask]

/-- Literals of all three kinds, with other quotes, a backslash and the marks of comments in them. -/
def quotedExpression : String :=
  "'a // \x22b' | \x22it's\x22 | Order<\x60\\n /* c\x60>"

theorem references_mask_quotes :
    IsDelimited quotedExpression.toList ∧
      references (String.ofList (mask quotedExpression.toList)) = references quotedExpression ∧
      references quotedExpression = ["Order"] := by
  let first : Literal := ⟨'\x27', "a // \x22b".toList, by decide, .of_forall (by decide)⟩
  let second : Literal := ⟨'\x22', "it's".toList, by decide, .of_forall (by decide)⟩
  let third : Literal := ⟨'\x60', '\\' :: 'n' :: " /* c".toList, by decide,
    .escaped (.of_forall (by decide))⟩
  have isText : quotedExpression.toList = first.text ++ (" | ".toList ++ (second.text ++
      (" | Order<".toList ++ (third.text ++ (">".toList ++ []))))) := by
    decide
  have delimited : IsDelimited quotedExpression.toList := by
    rw [isText]
    exact .literal first (by decide) (.run (by decide) (.literal second (by decide)
      (.run (by decide) (.literal third (by decide) (.run (by decide) .nil)))))
  exact ⟨delimited, references_mask delimited, by decide +kernel⟩

/-- Behind an escaped quote, in a literal that is not closed, and behind a literal that goes on over a
line break the two scanners differ. -/
theorem references_mask_differ :
    ((declarationsOf ⟨1, "type T = 'it\\'s' | Order | 'x';\n"⟩ "doc.ts").map fun declaration =>
        (references declaration.typeExpression,
          references (String.ofList (mask declaration.typeExpression.toList)))) =
      [(["s", "x"], ["Order"])] ∧
    ((declarationsOf ⟨1, "type T = \x60x\nfoo\ny\x60 | B;\n"⟩ "doc.ts").map fun declaration =>
        (references declaration.typeExpression,
          references (String.ofList (mask declaration.typeExpression.toList)))) =
      [(["x"], [])] ∧
    ((declarationsOf ⟨1, "type T = 'x\n| ' // ' | B;\n"⟩ "doc.ts").map fun declaration =>
        (references declaration.typeExpression,
          references (String.ofList (mask declaration.typeExpression.toList)))) =
      [(["B"], [])] :=
  ⟨by decide +kernel, by decide +kernel, by decide +kernel⟩

end Concord.TypeName
