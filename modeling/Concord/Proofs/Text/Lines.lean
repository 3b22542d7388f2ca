/-
Lines written one after another are read back, as long as no line holds a boundary of its own. An empty
line at the very end that is not ended itself leaves no trace in the text.
-/

import Concord.Text.Lines
import Mathlib.Data.List.Basic

namespace Concord.Text

/-! ### Lines without a boundary -/

/-- The line holds no boundary. -/
def IsOneLine (line : List Char) : Prop :=
  ∀ c ∈ line, isLineBoundary c = false

instance (line : List Char) : Decidable (IsOneLine line) :=
  decidable_of_iff ((line.all fun c => !isLineBoundary c) = true) (by simp [IsOneLine])

theorem linesFrom_cons_of_quiet {c : Char} (quiet : isLineBoundary c = false) (line rest : List Char) :
    linesFrom line (c :: rest) = linesFrom (c :: line) rest := by
  rw [linesFrom, quiet]
  · rfl
  · rintro _ rfl
    exact absurd quiet (by decide)

theorem linesFrom_lineFeed (line rest : List Char) :
    linesFrom line ('\n' :: rest) = line.reverse :: linesFrom [] rest := by
  rw [linesFrom]
  · rfl
  · intro _ same
    exact absurd same (by decide)

theorem linesFrom_append {line : List Char} (isOneLine : IsOneLine line) (seen rest : List Char) :
    linesFrom seen (line ++ rest) = linesFrom (line.reverse ++ seen) rest := by
  induction line generalizing seen with
  | nil => rfl
  | cons c line inductionHypothesis =>
    rw [List.cons_append, linesFrom_cons_of_quiet (isOneLine c List.mem_cons_self),
      inductionHypothesis fun other member => isOneLine other (List.mem_cons_of_mem c member),
      List.reverse_cons, List.append_assoc, List.singleton_append]

/-! ### Lines of a whole text -/

/-- The lines, each ended by a line feed. -/
def ended (lines : List (List Char)) : List Char :=
  lines.flatMap (· ++ ['\n'])

theorem ended_cons (line : List Char) (texts : List (List Char)) :
    ended (line :: texts) = line ++ '\n' :: ended texts := by
  rw [ended, List.flatMap_cons, ← ended, List.append_assoc, List.singleton_append]

theorem lines_nil : lines [] = [] := rfl

theorem lines_ended_append {texts : List (List Char)} (areOneLine : ∀ line ∈ texts, IsOneLine line)
    (rest : List Char) : lines (ended texts ++ rest) = texts ++ lines rest := by
  induction texts with
  | nil => rfl
  | cons line texts inductionHypothesis =>
    rw [ended_cons, List.append_assoc, lines,
      linesFrom_append (areOneLine line List.mem_cons_self), List.cons_append, linesFrom_lineFeed,
      List.append_nil, List.reverse_reverse, ← lines,
      inductionHypothesis fun other member => areOneLine other (List.mem_cons_of_mem line member)]
    rfl

theorem lines_ended {texts : List (List Char)} (areOneLine : ∀ line ∈ texts, IsOneLine line) :
    lines (ended texts) = texts := by
  have read := lines_ended_append areOneLine []
  rwa [List.append_nil, lines_nil, List.append_nil] at read

theorem lines_of_isOneLine {line : List Char} (isOneLine : IsOneLine line) (something : line ≠ []) :
    lines line = [line] := by
  have read := linesFrom_append isOneLine [] []
  rw [List.append_nil, List.append_nil] at read
  rw [lines, read, linesFrom, if_neg (by simpa using something), List.reverse_reverse]

/-- All texts but the last have the separator behind them. -/
theorem intercalate_concat (separator : List Char) (texts : List (List Char)) (last : List Char) :
    separator.intercalate (texts ++ [last]) = texts.flatMap (· ++ separator) ++ last := by
  induction texts with
  | nil => simp [List.intercalate]
  | cons text texts inductionHypothesis =>
    have more : texts ++ [last] ≠ [] := by simp
    rw [List.cons_append, List.intercalate_cons_of_ne_nil more, inductionHypothesis,
      List.flatMap_cons, List.append_assoc, List.append_assoc, List.append_assoc]

theorem lines_intercalate {texts : List (List Char)} {last : List Char}
    (areOneLine : ∀ line ∈ texts, IsOneLine line) (isOneLine : IsOneLine last)
    (something : last ≠ []) : lines (['\n'].intercalate (texts ++ [last])) = texts ++ [last] := by
  rw [intercalate_concat, ← ended, lines_ended_append areOneLine,
    lines_of_isOneLine isOneLine something]

/-- An empty last line that is not ended is not read back. -/
theorem lines_intercalate_empty {texts : List (List Char)}
    (areOneLine : ∀ line ∈ texts, IsOneLine line) :
    lines (['\n'].intercalate (texts ++ [[]])) = texts := by
  rw [intercalate_concat, ← ended, List.append_nil, lines_ended areOneLine]

/-! ### Lines by position -/

theorem lineOf_behind {text piece rest : List Char} {start : Nat}
    (here : text.drop start = piece ++ rest) :
    lineOf text (start + piece.length) = lineOf text start + piece.count '\n' := by
  rw [lineOf, lineOf, List.take_add, here, List.take_left, List.count_append]

end Concord.Text
