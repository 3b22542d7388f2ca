/-
Comments leave no trace. The clean view of a source has blanks in the place of its comments, and to read
it again is to read the source without them: where the walk over the source is in a comment, the walk
over the clean view is in code and meets a blank; everywhere else the two are in the same mode and yield
the same cell. For this a slash of code must not come to stand before a slash or a star that was not
there, and a quote that ends the source must end the clean view.
-/

import Concord.Declaration.Body
import Concord.Import
import Concord.Proofs.Source.Alignment
import Mathlib.Tactic.SplitIfs

namespace Concord

open Source

namespace Source

/-! ### One character -/

/-- The mode of the walk over the clean view. -/
def Mode.withoutComments : Mode → Mode
  | .lineComment | .blockOpening | .block | .blockClosing => .code
  | mode => mode

theorem Mode.withoutComments_code : Mode.code.withoutComments = .code :=
  rfl

theorem Mode.withoutComments_escaped (quote : Char) :
    (Mode.escaped quote).withoutComments = .escaped quote :=
  rfl

/-- The clean view of what is left of a source. -/
def cleanFrom (mode : Mode) (source : List Char) : List Char :=
  (cellsFrom mode source).map (·.clean)

theorem cleanFrom_cons (mode : Mode) (c : Char) (rest : List Char) :
    cleanFrom mode (c :: rest) = (mode.cell c rest).clean :: cleanFrom (mode.next c rest) rest :=
  rfl

theorem isEmpty_cleanFrom (mode : Mode) (source : List Char) :
    (cleanFrom mode source).isEmpty = source.isEmpty := by
  cases source <;> rfl

/-- A blanked character in code stands for itself and leaves the walk in code. -/
theorem code_blanked (c : Char) (rest : List Char) :
    Mode.code.cell (blanked c) rest = ⟨blanked c, blanked c⟩ ∧
      Mode.code.next (blanked c) rest = .code := by
  have noSlash : blanked c ≠ '/' := blanked_ne (by decide) (by decide)
  refine ⟨if_neg fun both => noSlash both.1, ?_⟩
  rw [Mode.next, Mode.behindCode, if_neg fun both => noSlash both.1, if_neg fun both => noSlash both.1,
    isQuote_blanked, if_neg (by simp)]

/-- In code the clean view opens with a character that is no blank only if the source does. -/
theorem opensWith_cleanFrom_code {c : Char} (noSpace : c ≠ ' ') (noBreak : c ≠ '\n')
    (rest : List Char) (opens : opensWith c (cleanFrom .code rest) = true) :
    opensWith c rest = true := by
  cases rest with
  | nil => exact opens
  | cons d rest =>
    rw [cleanFrom_cons, opensWith, List.head?_cons, beq_iff_eq, Option.some.injEq, Mode.cell] at opens
    split at opens
    · exact absurd opens (blanked_ne noSpace noBreak)
    · rw [opensWith, List.head?_cons, beq_iff_eq, ← opens]

/-- A character of code that opens a comment together with the next one. -/
def OpensComment (c : Char) (rest : List Char) : Prop :=
  c = '/' ∧ (opensWith '/' rest ∨ opensWith '*' rest)

theorem code_opensComment {c : Char} {rest : List Char} (opens : OpensComment c rest) :
    Mode.code.cell c rest = ⟨blanked c, blanked c⟩ ∧
      (Mode.code.next c rest).withoutComments = .code := by
  refine ⟨if_pos opens, ?_⟩
  obtain ⟨isSlash, slash | star⟩ := opens
  · rw [Mode.next, Mode.behindCode, if_pos ⟨isSlash, slash⟩]
    rfl
  · rw [Mode.next, Mode.behindCode]
    split
    · rfl
    · rw [if_pos ⟨isSlash, star⟩]
      rfl

theorem code_plain {c : Char} {rest : List Char} (plain : ¬ OpensComment c rest) :
    Mode.code.cell c rest = ⟨c, c⟩ ∧
      Mode.code.next c rest = if isQuote c then .literal c else .code := by
  refine ⟨if_neg plain, ?_⟩
  rw [Mode.next, Mode.behindCode, if_neg fun both => plain ⟨both.1, .inl both.2⟩,
    if_neg fun both => plain ⟨both.1, .inr both.2⟩]

/-- What is no comment in the source is none in the clean view. -/
theorem not_opensComment_cleanFrom {c : Char} {rest : List Char} (plain : ¬ OpensComment c rest) :
    ¬ OpensComment c (cleanFrom (Mode.code.next c rest) rest) := by
  rintro ⟨rfl, opens⟩
  rw [(code_plain plain).2, if_neg (by decide)] at opens
  exact plain ⟨rfl, opens.imp (opensWith_cleanFrom_code (by decide) (by decide) rest)
    (opensWith_cleanFrom_code (by decide) (by decide) rest)⟩

theorem withoutComments_behindLiteral (quote c : Char) :
    (Mode.behindLiteral quote c).withoutComments = Mode.behindLiteral quote c := by
  unfold Mode.behindLiteral
  split_ifs <;> rfl

/-- The walk over the clean view yields the cell that the walk over the source yields, and goes on in the
mode that belongs to the next one. -/
theorem Mode.step_withoutComments (mode : Mode) (c : Char) (rest : List Char) :
    mode.withoutComments.cell (mode.cell c rest).clean (cleanFrom (mode.next c rest) rest) =
        mode.cell c rest ∧
      mode.withoutComments.next (mode.cell c rest).clean (cleanFrom (mode.next c rest) rest) =
        (mode.next c rest).withoutComments := by
  cases mode with
  | code =>
    by_cases opens : OpensComment c rest
    · rw [(code_opensComment opens).1, (code_opensComment opens).2]
      exact code_blanked c _
    · have plain := code_plain opens
      have plainAgain := code_plain (not_opensComment_cleanFrom opens)
      rw [plain.1, withoutComments_code, plainAgain.1, plainAgain.2, plain.2]
      refine ⟨rfl, ?_⟩
      split <;> rfl
  | lineComment | block =>
    refine ⟨(code_blanked c _).1, (code_blanked c _).2.trans ?_⟩
    rw [next]
    split <;> rfl
  | blockOpening | blockClosing => exact code_blanked c _
  | literal quote => exact ⟨rfl, (withoutComments_behindLiteral quote c).symm⟩
  | escaped quote =>
    refine ⟨?_, rfl⟩
    rw [withoutComments_escaped, cell, cell, isEmpty_cleanFrom]

/-! ### The whole source -/

theorem cellsFrom_cleanFrom (mode : Mode) (source : List Char) :
    cellsFrom mode.withoutComments (cleanFrom mode source) = cellsFrom mode source := by
  induction source generalizing mode with
  | nil => rfl
  | cons c rest inductionHypothesis =>
    obtain ⟨sameCell, sameMode⟩ := mode.step_withoutComments c rest
    rw [cleanFrom_cons, cellsFrom, sameCell, sameMode, inductionHypothesis, cellsFrom]

/-- The views of the clean view are those of the source. -/
theorem Views.of_clean (source : List Char) : Views.of (Views.of source).clean = Views.of source := by
  have sameCells : cellsFrom .code (Views.of source).clean = cellsFrom .code source :=
    cellsFrom_cleanFrom .code source
  rw [of, sameCells]
  rfl

/-- The region with blanks in the place of its comments. -/
def Region.withoutComments (region : Region) : Region :=
  { region with text := String.ofList (Views.of region.text.toList).clean }

theorem Region.passage_withoutComments (region : Region) (document : String) :
    region.withoutComments.passage document = region.passage document := by
  rw [passage, withoutComments, String.toList_ofList, Views.of_clean]
  rfl

end Source

/-- A source without its comments has the views that it has with them, so a region without its comments
declares and imports what it does with them, in the same places. -/
theorem readings_withoutComments (region : Region) (document : String)
    (serviceSuffixes : List String) :
    Views.of (Views.of region.text.toList).clean = Views.of region.text.toList ∧
      declarationsOf region.withoutComments document = declarationsOf region document ∧
      methodsOf region.withoutComments document serviceSuffixes =
        methodsOf region document serviceSuffixes ∧
      Import.ofRegion region.withoutComments document = Import.ofRegion region document := by
  have samePassage := region.passage_withoutComments document
  refine ⟨Views.of_clean region.text.toList, ?_, ?_, ?_⟩
  · rw [declarationsOf, samePassage, declarationsOf]
  · rw [methodsOf, samePassage, methodsOf]
  · rw [Import.ofRegion, samePassage, Import.ofRegion]

end Concord
