/-
Texts are lists of characters. This file cuts a text into the pieces between marked characters,
takes a known opening off a text, and looks for a text inside another. Joining the pieces of a cut
at one character with that character gives the text back.
-/

namespace Concord.Text

/-! ### Cutting -/

/-- The pieces between the characters that are marked; one more than there are marks. -/
def pieces (marked : Char → Bool) : List Char → List (List Char)
  | [] => [[]]
  | c :: rest =>
    if marked c then [] :: pieces marked rest
    else (pieces marked rest).modifyHead (c :: ·)

theorem pieces_nil (marked : Char → Bool) : pieces marked [] = [[]] := rfl

theorem pieces_ne_nil (marked : Char → Bool) (text : List Char) : pieces marked text ≠ [] := by
  induction text with
  | nil => simp [pieces]
  | cons c rest inductionHypothesis =>
    unfold pieces
    split
    · simp
    · cases found : pieces marked rest with
      | nil => exact absurd found inductionHypothesis
      | cons first others => simp

theorem pieces_marked {marked : Char → Bool} {c : Char} (mark : marked c = true)
    (rest : List Char) : pieces marked (c :: rest) = [] :: pieces marked rest := by
  simp [pieces, mark]

theorem pieces_unmarked {marked : Char → Bool} {c : Char} (other : marked c = false)
    (rest : List Char) :
    pieces marked (c :: rest) = (pieces marked rest).modifyHead (c :: ·) := by
  simp [pieces, other]

/-- Everything before the first marked character, and what stands behind that character if there
is one. -/
def cutAt (marked : Char → Bool) : List Char → List Char × Option (List Char)
  | [] => ([], none)
  | c :: rest =>
    if marked c then ([], some rest)
    else let (before, behind) := cutAt marked rest
      (c :: before, behind)

/-- Everything up to the first marked character. -/
def before (marked : Char → Bool) (text : List Char) : List Char :=
  text.takeWhile fun c => !marked c

/-- What stands behind the last marked character; the whole text if there is none. -/
def behindLast (marked : Char → Bool) (text : List Char) : List Char :=
  (before marked text.reverse).reverse

/-! ### Known openings -/

/-- What is left of a text that opens with `opening`. -/
def after? : (opening text : List Char) → Option (List Char)
  | [], text => some text
  | _ :: _, [] => none
  | expected :: opening, found :: text =>
    if expected = found then after? opening text else none

@[simp] theorem after?_nil (text : List Char) : after? [] text = some text := by
  cases text <;> rfl

theorem after?_append (opening rest : List Char) : after? opening (opening ++ rest) = some rest := by
  induction opening with
  | nil => simp
  | cons c opening inductionHypothesis => simpa [after?] using inductionHypothesis

theorem eq_append_of_after? {opening text rest : List Char} (found : after? opening text = some rest) :
    text = opening ++ rest := by
  induction opening generalizing text with
  | nil => simpa using found
  | cons expected opening inductionHypothesis =>
    cases text with
    | nil => simp [after?] at found
    | cons c text =>
      by_cases same : expected = c
      · subst same
        simp only [after?, ↓reduceIte] at found
        simpa using inductionHypothesis found
      · simp [after?, same] at found

/-- The text ends with `ending`. -/
def endsWith (text ending : List Char) : Bool :=
  (after? ending.reverse text.reverse).isSome

/-- What is left of a text that ends with `ending`. -/
def upTo? (text ending : List Char) : Option (List Char) :=
  (after? ending.reverse text.reverse).map List.reverse

/-- The text holds `part` somewhere. -/
def holds (part : List Char) : List Char → Bool
  | [] => part.isEmpty
  | c :: rest => (after? part (c :: rest)).isSome || holds part rest

/-- Every occurrence of a character replaced by another. -/
def replaced (old new : Char) (text : List Char) : List Char :=
  text.map fun c => if c = old then new else c

end Concord.Text
