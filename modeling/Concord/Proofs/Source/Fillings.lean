/-
What may stand between two tokens: blanks and comments. The walk over the source yields the same cells for
a comment as for blanks in its place, and behind either it is in code. So the views of a source with
comments are those of a source that has blanks instead.
-/

import Concord.Proofs.Declaration.Printed
import Concord.Proofs.Source.Comments

namespace Concord.Source

open Printed Text

/-! ### Comments -/

/-- The text of a block comment that goes on behind it: nowhere in it a slash follows a star. -/
def isOpen : List Char → Bool
  | [] => true
  | c :: rest => !(c == '*' && opensWith '/' rest) && isOpen rest

inductive Filling where
  | blank (c : Char) (blank : isBlank c = true)
  | lineComment (content : List Char) (oneLine : '\n' ∉ content)
  | blockComment (content : List Char) (goesOn : isOpen content = true)

namespace Filling

/-- The comment, or the blank. A line comment is written with the line feed that ends it. -/
def source : Filling → List Char
  | .blank c _ => [c]
  | .lineComment content _ => '/' :: '/' :: (content ++ ['\n'])
  | .blockComment content _ => '/' :: '*' :: (content ++ ['*', '/'])

/-- The blanks that both views show. -/
def shown : Filling → List Char
  | .blank c _ => [c]
  | .lineComment content _ => ('/' :: '/' :: (content ++ ['\n'])).map blanked
  | .blockComment content _ => ('/' :: '*' :: (content ++ ['*', '/'])).map blanked

end Filling

theorem isBlank_blanked (c : Char) : isBlank (blanked c) = true := by
  unfold blanked
  split <;> decide

theorem Filling.isAllBlank_shown (filling : Filling) : isAllBlank filling.shown = true := by
  cases filling with
  | blank c blank => rw [shown, isAllBlank_cons, blank, isAllBlank_nil, Bool.and_true]
  | lineComment | blockComment =>
    refine List.all_eq_true.2 fun c member => ?_
    obtain ⟨d, -, rfl⟩ := List.mem_map.1 member
    exact isBlank_blanked d

/-! ### The walk over comments -/

/-- The cells of characters that both views blank. -/
def blankCells (part : List Char) : List Cell :=
  part.map fun c => ⟨blanked c, blanked c⟩

theorem cellsFrom_blanked (part rest : List Char) :
    cellsFrom .code (part.map blanked ++ rest) = blankCells part ++ cellsFrom .code rest := by
  induction part with
  | nil => rfl
  | cons c part inductionHypothesis =>
    obtain ⟨cell, next⟩ := code_blanked c (part.map blanked ++ rest)
    rw [List.map_cons, List.cons_append, cellsFrom, cell, next, inductionHypothesis]
    rfl

/-- A line comment of which at least one character is left lasts up to the line feed. -/
theorem cellsFrom_lineComment {content : List Char} (oneLine : '\n' ∉ content) (c : Char)
    (rest : List Char) :
    cellsFrom .lineComment (c :: (content ++ '\n' :: rest)) =
      blankCells (c :: content) ++ cellsFrom .code ('\n' :: rest) := by
  induction content generalizing c with
  | nil =>
    have ends : Mode.lineComment.next c ('\n' :: rest) = .code := rfl
    rw [List.nil_append, cellsFrom, ends]
    rfl
  | cons d content inductionHypothesis =>
    rw [List.mem_cons, not_or] at oneLine
    have goesOn : Mode.lineComment.next c (d :: (content ++ '\n' :: rest)) = .lineComment :=
      if_neg (by simpa [opensWith] using Ne.symm oneLine.1)
    rw [List.cons_append, cellsFrom, goesOn, inductionHypothesis oneLine.2]
    rfl

theorem cellsFrom_blockComment {content : List Char} (goesOn : isOpen content = true)
    (rest : List Char) :
    cellsFrom .block (content ++ '*' :: '/' :: rest) =
      blankCells (content ++ ['*', '/']) ++ cellsFrom .code rest := by
  induction content with
  | nil =>
    have closes : Mode.block.next '*' ('/' :: rest) = .blockClosing := rfl
    rw [List.nil_append, cellsFrom, closes, cellsFrom]
    rfl
  | cons c content inductionHypothesis =>
    rw [isOpen, Bool.and_eq_true, Bool.not_eq_true', Bool.and_eq_false_iff, beq_eq_false_iff_ne] at goesOn
    have stays : Mode.block.next c (content ++ '*' :: '/' :: rest) = .block := by
      refine if_neg ?_
      rintro ⟨isStar, slash⟩
      refine goesOn.1.elim (fun noStar => noStar isStar) fun noSlash => ?_
      cases content with
      | nil => exact absurd slash (by simp [opensWith])
      | cons d content => exact absurd (noSlash.symm.trans slash) Bool.false_ne_true
    rw [List.cons_append, cellsFrom, stays, inductionHypothesis goesOn.2]
    rfl

/-! ### Sources and their clean views -/

/-- The walk over the source is that over its clean view, and the masked view shows it as `masked`. -/
structure Clears (source clean masked : List Char) : Prop where
  cells : ∀ rest, cellsFrom .code (source ++ rest) = cellsFrom .code (clean ++ rest)
  shows : Shows clean masked

theorem Clears.of_shows {clean masked : List Char} (shows : Shows clean masked) :
    Clears clean clean masked :=
  ⟨fun _ => rfl, shows⟩

theorem Clears.append {source clean masked sourceBehind cleanBehind maskedBehind : List Char}
    (clears : Clears source clean masked) (behind : Clears sourceBehind cleanBehind maskedBehind) :
    Clears (source ++ sourceBehind) (clean ++ cleanBehind) (masked ++ maskedBehind) := by
  refine ⟨fun rest => ?_, clears.shows.append behind.shows⟩
  have returns := clears.shows.settled.returns
  rw [List.append_assoc, clears.cells, returns, behind.cells, ← returns, List.append_assoc]

theorem clears_quiet {text : List Char} (quiet : ∀ c ∈ text, isQuiet c = true) :
    Clears text text text :=
  .of_shows (shows_quiet quiet)

theorem Clears.nil : Clears [] [] [] :=
  clears_quiet fun _ absent => absurd absent List.not_mem_nil

theorem clears_flatMap {parts : Type} {sources cleans masks : parts → List Char}
    (clears : ∀ part, Clears (sources part) (cleans part) (masks part)) (list : List parts) :
    Clears (list.flatMap sources) (list.flatMap cleans) (list.flatMap masks) := by
  induction list with
  | nil => exact .nil
  | cons part list inductionHypothesis => exact (clears part).append inductionHypothesis

section

variable {source clean masked : List Char} (clears : Clears source clean masked)

include clears

theorem Clears.views : Views.of source = ⟨clean, masked⟩ := by
  have sameCells := clears.cells []
  rw [List.append_nil, List.append_nil] at sameCells
  have sameViews : Views.of source = Views.of clean := by rw [Views.of, sameCells, Views.of]
  have isClean := clears.shows.settled.isClean
  have isMask : (Views.of clean).masked = masked := clears.shows.isMask
  rw [sameViews, ← isMask]
  exact congrArg (Views.mk · _) isClean

theorem Clears.count : masked.count '\n' = source.count '\n' := by
  have isMask : mask source = masked := congrArg Views.masked clears.views
  rw [← isMask, count_mask]

end

/-! ### Fillings in a row -/

theorem Filling.clears (filling : Filling) : Clears filling.source filling.shown filling.shown := by
  refine ⟨fun rest => ?_, shows_blank filling.isAllBlank_shown⟩
  cases filling with
  | blank => rfl
  | lineComment content oneLine =>
    have opened : Mode.code.next '/' ('/' :: (content ++ '\n' :: rest)) = .lineComment := rfl
    have ends : cellsFrom .code ('\n' :: rest) = blankCells ['\n'] ++ cellsFrom .code rest := rfl
    rw [shown, cellsFrom_blanked, source, List.cons_append, List.cons_append, List.append_assoc,
      List.singleton_append, cellsFrom, opened, cellsFrom_lineComment oneLine, ends]
    simp [blankCells, Mode.cell, opensWith]
  | blockComment content goesOn =>
    have opened : Mode.code.next '/' ('*' :: (content ++ '*' :: '/' :: rest)) = .blockOpening := rfl
    have inside : Mode.blockOpening.next '*' (content ++ '*' :: '/' :: rest) = .block := rfl
    rw [shown, cellsFrom_blanked, source, List.cons_append, List.cons_append, List.append_assoc,
      List.cons_append, List.singleton_append, cellsFrom, opened, cellsFrom, inside,
      cellsFrom_blockComment goesOn]
    rfl

/-- Fillings as they are written. -/
def written (fillings : List Filling) : List Char :=
  fillings.flatMap Filling.source

/-- The blanks that both views show. -/
def spaced (fillings : List Filling) : List Char :=
  fillings.flatMap Filling.shown

theorem clears_fillings (fillings : List Filling) :
    Clears (written fillings) (spaced fillings) (spaced fillings) :=
  clears_flatMap Filling.clears fillings

theorem isAllBlank_spaced (fillings : List Filling) : isAllBlank (spaced fillings) = true := by
  induction fillings with
  | nil => rfl
  | cons filling fillings inductionHypothesis =>
    rw [spaced, List.flatMap_cons, isAllBlank_append, filling.isAllBlank_shown, ← spaced,
      inductionHypothesis]
    rfl

/-- At least one blank or comment. -/
structure Gap where
  first : Filling
  others : List Filling

def Gap.fillings (gap : Gap) : List Filling :=
  gap.first :: gap.others

theorem Filling.shown_ne_nil (filling : Filling) : filling.shown ≠ [] := by
  cases filling <;> simp [shown]

theorem Gap.exists_spaced (gap : Gap) : ∃ c rest, spaced gap.fillings = c :: rest ∧
    isBlank c = true ∧ isAllBlank rest = true := by
  obtain ⟨c, rest, isText⟩ := List.exists_cons_of_ne_nil
    (List.append_ne_nil_of_left_ne_nil gap.first.shown_ne_nil (spaced gap.others))
  have blank := isAllBlank_spaced gap.fillings
  rw [show spaced gap.fillings = c :: rest from isText, isAllBlank_cons, Bool.and_eq_true] at blank
  exact ⟨c, rest, isText, blank⟩

end Concord.Source
