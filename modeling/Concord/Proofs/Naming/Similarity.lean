/-
The edit distance computed row by row is the distance told by the last characters of two texts, and so
it does not matter which of the two texts comes first. Hence the similarity of two names is the same
either way.
-/

import Concord.Naming.Similarity
import Mathlib.Order.Lattice
import Mathlib.Order.Defs.LinearOrder
import Mathlib.Order.Lattice.Nat

namespace Concord.Naming

open Text

/-! ### The distance by first characters -/

/-- The least number of insertions, deletions and replacements, by the first characters: they are kept
or replaced, or one of them is deleted or inserted. -/
def distance : List Char → List Char → Nat
  | [], second => second.length
  | first, [] => first.length
  | c :: first, d :: second =>
    min (if c = d then distance first second else distance first second + 1)
      (min (distance first (d :: second) + 1) (distance (c :: first) second + 1))
termination_by first second => first.length + second.length

theorem distance_nil_left (second : List Char) : distance [] second = second.length := by
  rw [distance]

theorem distance_nil_right (first : List Char) : distance first [] = first.length := by
  cases first <;> simp [distance]

theorem distance_comm (first second : List Char) : distance first second = distance second first := by
  induction first, second using distance.induct with
  | case1 second => rw [distance_nil_left, distance_nil_right]
  | case2 first _ => rw [distance_nil_left, distance_nil_right]
  | case3 c first d second replaced deleted inserted =>
    rw [distance, distance, replaced, deleted, inserted]
    simp only [eq_comm]
    rw [min_comm (distance (d :: second) first + 1)]

/-! ### Rows -/

/-- The distances to every longer opening of a text, whose characters so far are `seen` in reverse. -/
def openings (distanceTo : List Char → Nat) (seen : List Char) : List Char → List Nat
  | [] => []
  | c :: rest => distanceTo (c :: seen) :: openings distanceTo (c :: seen) rest

/-- The distances from a text, in reverse, to every opening of another. -/
def row (first second : List Char) : List Nat :=
  distance first [] :: openings (distance first) [] second

theorem row_nil (second : List Char) : row [] second = List.range (second.length + 1) := by
  have counted : ∀ seen rest : List Char,
      openings (distance []) seen rest = List.range' (seen.length + 1) rest.length := by
    intro seen rest
    induction rest generalizing seen with
    | nil => rfl
    | cons c rest inductionHypothesis =>
      rw [openings, inductionHypothesis, distance_nil_left, List.length_cons, List.length_cons,
        List.range'_succ]
  rw [row, counted, distance_nil_left, List.range_eq_range', List.range'_succ]
  rfl

theorem nextDistances_openings (c : Char) (first seen rest : List Char) :
    nextDistances c (distance first seen) (distance (c :: first) seen) rest
      (openings (distance first) seen rest) = openings (distance (c :: first)) seen rest := by
  induction rest generalizing seen with
  | nil => rfl
  | cons d rest inductionHypothesis =>
    have entry : min (if c = d then distance first seen else distance first seen + 1)
        (min (distance first (d :: seen) + 1) (distance (c :: first) seen + 1)) =
          distance (c :: first) (d :: seen) := (distance.eq_3 c first d seen).symm
    rw [openings, openings, nextDistances]
    simp only [entry]
    rw [inductionHypothesis]

theorem nextRow_row (c : Char) (first second : List Char) :
    nextRow c second (row first second) = row (c :: first) second := by
  have corner : distance first [] + 1 = distance (c :: first) [] := by
    rw [distance_nil_right, distance_nil_right, List.length_cons]
  rw [row, nextRow, corner, nextDistances_openings, row]

theorem foldl_nextRow (first done second : List Char) :
    first.foldl (fun row c => nextRow c second row) (row done second) =
      row (first.reverse ++ done) second := by
  induction first generalizing done with
  | nil => rfl
  | cons c first inductionHypothesis =>
    rw [List.foldl_cons, nextRow_row, inductionHypothesis, List.reverse_cons, List.append_assoc]
    rfl

theorem getLast?_openings (distanceTo : List Char → Nat) (seen rest : List Char) :
    (distanceTo seen :: openings distanceTo seen rest).getLast? =
      some (distanceTo (rest.reverse ++ seen)) := by
  induction rest generalizing seen with
  | nil => rfl
  | cons c rest inductionHypothesis =>
    rw [openings, List.getLast?_cons_cons, inductionHypothesis, List.reverse_cons,
      List.append_assoc]
    rfl

/-- The last entry of the last row is the distance of the two texts, read from their ends. -/
theorem editDistance_eq (first second : List Char) :
    editDistance first second = distance first.reverse second.reverse := by
  rw [editDistance, ← row_nil, foldl_nextRow, List.append_nil, row, getLast?_openings,
    List.append_nil]
  rfl

theorem editDistance_comm (first second : List Char) :
    editDistance first second = editDistance second first := by
  rw [editDistance_eq, editDistance_eq, distance_comm]

/-! ### The similarity of names -/

theorem similarity_comm (first second : List Char) :
    similarity first second = similarity second first := by
  rw [similarity, similarity, editDistance_comm, max_comm]

theorem nameSimilarity_comm (first second : String) :
    nameSimilarity first second = nameSimilarity second first :=
  similarity_comm _ _

end Concord.Naming
