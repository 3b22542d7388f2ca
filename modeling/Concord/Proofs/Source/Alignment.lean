/-
The views stay aligned with the source. The cell of a character shows that character or a space, the
masked view never more than the clean one, and neither view makes or loses a line feed; as the walk
yields one cell for each character, the same holds of the views at every position.
-/

import Concord.Source.Views
import Mathlib.Data.Option.Basic

namespace Concord.Source

/-! ### One cell -/

theorem blanked_eq_or (c : Char) : blanked c = c ∨ blanked c = ' ' := by
  unfold blanked
  split
  · rename_i isBreak
    exact .inl isBreak.symm
  · exact .inr rfl

theorem blanked_eq_break_iff (c : Char) : blanked c = '\n' ↔ c = '\n' := by
  unfold blanked
  split <;> simp [*]

theorem blanked_ne {c d : Char} (noSpace : d ≠ ' ') (noBreak : d ≠ '\n') : blanked c ≠ d := by
  unfold blanked
  split
  · exact noBreak.symm
  · exact noSpace.symm

theorem isQuote_blanked (c : Char) : isQuote (blanked c) = false := by
  unfold blanked
  split <;> decide

/-- What the cell of a character may show. -/
structure Cell.IsAligned (cell : Cell) (c : Char) : Prop where
  clean : cell.clean = c ∨ cell.clean = ' '
  masked : cell.masked = cell.clean ∨ cell.masked = ' '
  cleanBreak : cell.clean = '\n' ↔ c = '\n'
  maskedBreak : cell.masked = '\n' ↔ c = '\n'

theorem Cell.isAligned_shown (c : Char) : Cell.IsAligned ⟨c, c⟩ c :=
  ⟨.inl rfl, .inl rfl, .rfl, .rfl⟩

theorem Cell.isAligned_blanked (c : Char) : Cell.IsAligned ⟨blanked c, blanked c⟩ c :=
  ⟨blanked_eq_or c, .inl rfl, blanked_eq_break_iff c, blanked_eq_break_iff c⟩

theorem Cell.isAligned_hidden (c : Char) : Cell.IsAligned ⟨c, blanked c⟩ c :=
  ⟨.inl rfl, blanked_eq_or c, .rfl, blanked_eq_break_iff c⟩

theorem Mode.isAligned_cell (mode : Mode) (c : Char) (rest : List Char) :
    (mode.cell c rest).IsAligned c := by
  cases mode with
  | lineComment | blockOpening | block | blockClosing => exact Cell.isAligned_blanked c
  | code =>
    rw [cell]
    split
    · exact Cell.isAligned_blanked c
    · exact Cell.isAligned_shown c
  | literal quote | escaped quote =>
    rw [cell]
    split
    · exact Cell.isAligned_shown c
    · exact Cell.isAligned_hidden c

/-- At every position stands an aligned cell, or neither a cell nor a character. -/
theorem rel_getElem?_cellsFrom (mode : Mode) (source : List Char) (index : Nat) :
    Option.Rel Cell.IsAligned (cellsFrom mode source)[index]? source[index]? := by
  induction source generalizing mode index with
  | nil => exact .none
  | cons c rest inductionHypothesis =>
    cases index with
    | zero => exact .some (mode.isAligned_cell c rest)
    | succ index => exact inductionHypothesis (mode.next c rest) index

/-! ### Both views -/

/-- The views are exactly as long as the source. At every position the clean view shows the source or a
space and the masked view the clean one or a space, and all three break their lines in the same places. -/
structure Views.IsAlignedWith (views : Views) (source : List Char) : Prop where
  length_clean : views.clean.length = source.length
  length_masked : views.masked.length = source.length
  clean : ∀ index < source.length,
    views.clean[index]? = source[index]? ∨ views.clean[index]? = some ' '
  masked : ∀ index < source.length,
    views.masked[index]? = views.clean[index]? ∨ views.masked[index]? = some ' '
  cleanBreak : ∀ index : Nat, views.clean[index]? = some '\n' ↔ source[index]? = some '\n'
  maskedBreak : ∀ index : Nat, views.masked[index]? = some '\n' ↔ source[index]? = some '\n'

theorem Views.isAlignedWith_source (source : List Char) : (Views.of source).IsAlignedWith source := by
  refine ⟨length_clean source, length_masked source, fun index inside => ?_, fun index inside => ?_,
    fun index => ?_, fun index => ?_⟩ <;>
    have here := rel_getElem?_cellsFrom .code source index <;>
    simp only [Views.of, List.getElem?_map] <;>
    generalize (cellsFrom .code source)[index]? = cell at here ⊢
  · rw [List.getElem?_eq_getElem inside] at here ⊢
    cases here with
    | some aligned => exact aligned.clean.imp (congrArg some) (congrArg some)
  · rw [List.getElem?_eq_getElem inside] at here
    cases here with
    | some aligned => exact aligned.masked.imp (congrArg some) (congrArg some)
  · generalize source[index]? = found at here ⊢
    cases here with
    | none => exact iff_of_false (by simp) (by simp)
    | some aligned => simpa using aligned.cleanBreak
  · generalize source[index]? = found at here ⊢
    cases here with
    | none => exact iff_of_false (by simp) (by simp)
    | some aligned => simpa using aligned.maskedBreak

end Concord.Source
