/-
The partner of an opening bracket: counting one kind of bracket up and down, the first place where the
count comes back to zero. The walk runs over the rest of the text alone, so it serves every position.
-/

namespace Concord.Source

/-! ### The walk -/

/-- How far behind the start of `text` the closing bracket stands, when `depth` brackets are open
already. The depth is an integer: a stray closing bracket takes it below zero. -/
def closingFrom (opening closing : Char) (depth : Int) : List Char → Option Nat
  | [] => none
  | c :: rest =>
    if c = opening then (closingFrom opening closing (depth + 1) rest).map (· + 1)
    else if c = closing then
      if depth - 1 = 0 then some 0
      else (closingFrom opening closing (depth - 1) rest).map (· + 1)
    else (closingFrom opening closing depth rest).map (· + 1)

/-- The position at which the bracket that stands at `index` is closed. -/
def closing? (opening closing : Char) (text : List Char) (index : Nat) : Option Nat :=
  (closingFrom opening closing 0 (text.drop index)).map (index + ·)

/-- The position of the brace that closes the one at `index`. -/
def closingBrace? (text : List Char) (index : Nat) : Option Nat :=
  closing? '\x7b' '\x7d' text index

/-- The position of the parenthesis that closes the one at `index`. -/
def closingParenthesis? (text : List Char) (index : Nat) : Option Nat :=
  closing? '(' ')' text index

/-! ### Small facts -/

theorem closingFrom_lt {opening closing : Char} {depth : Int} {text : List Char} {offset : Nat}
    (found : closingFrom opening closing depth text = some offset) : offset < text.length := by
  induction text generalizing depth offset with
  | nil => simp [closingFrom] at found
  | cons c rest inductionHypothesis =>
    unfold closingFrom at found
    split at found
    · obtain ⟨inner, innerFound, rfl⟩ := Option.map_eq_some_iff.1 found
      simpa using inductionHypothesis innerFound
    · split at found
      · split at found
        · simp only [Option.some.injEq] at found
          simp [← found]
        · obtain ⟨inner, innerFound, rfl⟩ := Option.map_eq_some_iff.1 found
          simpa using inductionHypothesis innerFound
      · obtain ⟨inner, innerFound, rfl⟩ := Option.map_eq_some_iff.1 found
        simpa using inductionHypothesis innerFound

theorem closing?_lt {opening closing : Char} {text : List Char} {index found : Nat}
    (closes : closing? opening closing text index = some found) :
    index ≤ found ∧ found < text.length := by
  obtain ⟨offset, offsetFound, rfl⟩ := Option.map_eq_some_iff.1 closes
  have bound := closingFrom_lt offsetFound
  simp only [List.length_drop] at bound
  omega

end Concord.Source
