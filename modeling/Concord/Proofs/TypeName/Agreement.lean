/-
When two type expressions agree, and which spellings of one of them are the same to another. Two expressions
with one normal form agree whatever the equivalences say. The equivalences are another matter: their sides
are names, and an expression is such a name only as it is spelled, blanks at its ends aside. So another
spelling of an expression changes what it agrees with exactly where an equivalence knows one of the two
spellings and not the other.
-/

import Concord.Proofs.Text.Runs
import Concord.TypeName
import Mathlib.Data.List.TakeWhile

namespace Concord

/-! ### Blanks at the ends -/

namespace Text

theorem unspaced_stripStart (text : List Char) : unspaced (stripStart text) = unspaced text := by
  have opening : unspaced (text.takeWhile isBlank) = [] := by
    refine List.filter_eq_nil_iff.2 fun c inside => ?_
    rw [List.mem_takeWhile_imp inside]
    decide
  calc unspaced (stripStart text)
      = unspaced (text.takeWhile isBlank) ++ unspaced (stripStart text) := by
        rw [opening, List.nil_append]
    _ = unspaced text := by
        rw [unspaced, unspaced, ← List.filter_append, stripStart, List.takeWhile_append_dropWhile]
        rfl

theorem unspaced_reverse (text : List Char) : unspaced text.reverse = (unspaced text).reverse :=
  List.filter_reverse ..

/-- Stripping takes off nothing but blanks. -/
theorem unspaced_strip (text : List Char) : unspaced (strip text) = unspaced text := by
  rw [strip, stripEnd, unspaced_reverse, ← stripStart, unspaced_stripStart, unspaced_reverse,
    List.reverse_reverse, unspaced_stripStart]

end Text

namespace TypeName

open Text

theorem normalForm_stripped (expression : String) :
    normalForm (stripped expression) = normalForm expression := by
  rw [normalForm, stripped, String.toList_ofList, unspaced_strip, ← normalForm]

/-! ### Equivalences -/

/-- An equivalence relates the two texts as they are spelled, in one order or the other. -/
def areRelated (equivalences : List (String × String)) (first second : String) : Bool :=
  equivalences.any fun (left, right) =>
    (first == left && second == right) || (first == right && second == left)

theorem compatible_eq (equivalences : List (String × String)) (first second : String) :
    compatible equivalences first second =
      (normalForm first == normalForm second ||
        areRelated equivalences (stripped first) (stripped second)) :=
  rfl

theorem areRelated_comm (equivalences : List (String × String)) (first second : String) :
    areRelated equivalences first second = areRelated equivalences second first := by
  refine congrArg equivalences.any (funext fun pair => ?_)
  show (first == pair.1 && second == pair.2 || first == pair.2 && second == pair.1) = _
  rw [Bool.or_comm, Bool.and_comm, Bool.and_comm (first == pair.1)]

/-- Whether two types agree does not depend on which is named first. -/
theorem compatible_comm (equivalences : List (String × String)) (first second : String) :
    compatible equivalences first second = compatible equivalences second first := by
  rw [compatible_eq, compatible_eq, BEq.comm, areRelated_comm]

/-! ### Spellings -/

section

variable {equivalences : List (String × String)} {first other : String}

theorem compatible_of_normalForm_eq {second : String} (same : normalForm first = normalForm second) :
    compatible equivalences first second = true := by
  rw [compatible_eq, same, beq_self_eq_true, Bool.true_or]

theorem compatible_of_normalForm_ne {second : String} (different : normalForm first ≠ normalForm second) :
    compatible equivalences first second =
      areRelated equivalences (stripped first) (stripped second) := by
  rw [compatible_eq, beq_false_of_ne different, Bool.false_or]

/-- Blanks at the ends of an expression do not change what it agrees with. -/
theorem compatible_of_stripped_eq (same : stripped first = stripped other) (second : String) :
    compatible equivalences first second = compatible equivalences other second := by
  have sameForm : normalForm first = normalForm other := by
    rw [← normalForm_stripped first, same, normalForm_stripped]
  rw [compatible_eq, compatible_eq, same, sameForm]

/-- Two spellings agree with the same expression alike exactly if it has their normal form, or if the
equivalences relate both of them to it or neither. -/
theorem compatible_eq_iff (same : normalForm first = normalForm other) (second : String) :
    compatible equivalences first second = compatible equivalences other second ↔
      normalForm first = normalForm second ∨
        areRelated equivalences (stripped first) (stripped second) =
          areRelated equivalences (stripped other) (stripped second) := by
  by_cases isForm : normalForm first = normalForm second
  · refine iff_of_true ?_ (.inl isForm)
    rw [compatible_of_normalForm_eq isForm, compatible_of_normalForm_eq (same.symm.trans isForm)]
  · rw [compatible_of_normalForm_ne isForm, compatible_of_normalForm_ne fun equal =>
      isForm (same.trans equal)]
    exact (or_iff_right isForm).symm

end

/-- Types agree in either order, and agree if they have one normal form. Blanks at the ends of one change
nothing. Any other change of blanks or of letter case changes its agreement with a second type exactly
if that type has another normal form and an equivalence relates it to one of the spellings alone. -/
theorem compatible_respelled (equivalences : List (String × String)) (second : String) :
    (∀ first, compatible equivalences first second = compatible equivalences second first) ∧
      (∀ first, normalForm first = normalForm second → compatible equivalences first second = true) ∧
      (∀ first other, stripped first = stripped other →
        compatible equivalences first second = compatible equivalences other second) ∧
      ∀ first other, normalForm first = normalForm other →
        (compatible equivalences first second = compatible equivalences other second ↔
          normalForm first = normalForm second ∨
            areRelated equivalences (stripped first) (stripped second) =
              areRelated equivalences (stripped other) (stripped second)) :=
  ⟨fun first => compatible_comm equivalences first second, fun _ same => compatible_of_normalForm_eq same,
    fun _ _ same => compatible_of_stripped_eq same second, fun _ _ same => compatible_eq_iff same second⟩

/-- Spellings of one list of dates agree with the name that is given to it, but not the one with a blank
inside. -/
theorem compatible_respelled_dates :
    compatible [("Date[]", "Dates")] " Date[]\n" "Dates" = true ∧
      compatible [("Date[]", "Dates")] "Date[]" "date [ ]" = true ∧
      normalForm "Date []" = normalForm "Date[]" ∧
      (compatible [("Date[]", "Dates")] "Date []" "Dates" ≠
        compatible [("Date[]", "Dates")] "Date[]" "Dates") := by
  have dates := compatible_respelled [("Date[]", "Dates")] "Dates"
  have forms := compatible_respelled [("Date[]", "Dates")] "date [ ]"
  refine ⟨?_, forms.2.1 "Date[]" (by decide +kernel), by decide +kernel, ?_⟩
  · rw [dates.2.2.1 " Date[]\n" "Date[]" (by decide +kernel)]
    decide +kernel
  · rw [ne_eq, dates.2.2.2 "Date []" "Date[]" (by decide +kernel)]
    decide +kernel

/-- The table knows `Date` and not `date`, though both have one normal form. -/
theorem compatible_lowerCase_lost :
    ¬ ∀ (equivalences : List (String × String)) (first other second : String),
      normalForm first = normalForm other →
        compatible equivalences first second = compatible equivalences other second := by
  intro respects
  have same := respects [("Date", "string")] "Date" "date" "string" (by decide +kernel)
  have known : compatible [("Date", "string")] "Date" "string" = true := by decide +kernel
  have unknown : compatible [("Date", "string")] "date" "string" = false := by decide +kernel
  rw [known, unknown] at same
  exact Bool.noConfusion same

end TypeName

end Concord
