/-
Runs of characters of one class at the front of a text, the place and the end of a text, and the blanks
around it.
-/

import Concord.Text.Blank
import Mathlib.Data.List.Basic

namespace Concord.Text

/-! ### Runs -/

/-- What holds of every character of a known text is decided by going through that text, and not
through all characters there are. -/
instance decidableForallMem (text : List Char) (p : Char → Prop) [DecidablePred p] :
    Decidable (∀ c ∈ text, p c) :=
  List.decidableBAll p text

section

variable {isIn : Char → Bool} {run rest : List Char} (inside : ∀ c ∈ run, isIn c = true)
  (stops : ∀ c, rest.head? = some c → isIn c = false)

include inside stops

/-- A run lasts until the first character that is not of its class. -/
theorem takeWhile_append_of_stops : (run ++ rest).takeWhile isIn = run := by
  rw [List.takeWhile_append_of_pos inside]
  cases rest with
  | nil => rw [List.takeWhile_nil, List.append_nil]
  | cons c rest =>
    rw [List.takeWhile_cons_of_neg (by simp [stops c rfl]), List.append_nil]

theorem dropWhile_append_of_stops : (run ++ rest).dropWhile isIn = rest := by
  rw [List.dropWhile_append_of_pos inside]
  cases rest with
  | nil => rfl
  | cons c rest => exact List.dropWhile_cons_of_neg (by simp [stops c rfl])

end

theorem dropWhile_of_stops {isIn : Char → Bool} {text : List Char}
    (stops : ∀ c, text.head? = some c → isIn c = false) : text.dropWhile isIn = text :=
  @dropWhile_append_of_stops _ [] text (fun _ absent => absurd absent List.not_mem_nil) stops

/-! ### Positions and ends -/

theorem drop_behind {text piece rest : List Char} {start : Nat} (here : text.drop start = piece ++ rest) :
    text.drop (start + piece.length) = rest := by
  rw [← List.drop_drop, here, List.drop_left]

/-- What holds of the last character of a text holds of the last one of a longer text, or that is the
character put in front. -/
theorem forall_getLast?_cons {p : Char → Prop} {c : Char} {rest : List Char} (here : rest = [] → p c)
    (later : ∀ d, rest.getLast? = some d → p d) : ∀ d, (c :: rest).getLast? = some d → p d := by
  intro d last
  cases rest with
  | nil =>
    rw [← Option.some.inj last]
    exact here rfl
  | cons e rest => exact later d ((List.getLast?_cons_cons).symm.trans last)

/-! ### Blanks -/

theorem isAllBlank_nil : isAllBlank [] = true :=
  rfl

theorem isAllBlank_cons (c : Char) (text : List Char) :
    isAllBlank (c :: text) = (isBlank c && isAllBlank text) :=
  rfl

theorem isAllBlank_append (first second : List Char) :
    isAllBlank (first ++ second) = (isAllBlank first && isAllBlank second) :=
  List.all_append

theorem stripStart_of_not_isBlank {text : List Char}
    (stops : ∀ c, text.head? = some c → isBlank c = false) : stripStart text = text :=
  dropWhile_of_stops stops

theorem words_stripStart (text : List Char) : words (stripStart text) = words text := by
  induction text with
  | nil => rfl
  | cons c text inductionHypothesis =>
    cases blank : isBlank c with
    | true =>
      rw [words_blank blank, ← inductionHypothesis, stripStart, List.dropWhile_cons_of_pos blank]
      rfl
    | false => rw [stripStart, List.dropWhile_cons_of_neg (by simp [blank])]

end Concord.Text
