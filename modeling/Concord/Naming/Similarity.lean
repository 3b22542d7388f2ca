/-
How alike two names are: the least number of characters to insert, delete or replace to get from one to
the other, set against the length of the longer name. The ratio is a double, as a threshold compares
with it.
-/

import Concord.Number.Binary64
import Concord.Text.Case

namespace Concord.Naming

open Text

/-! ### Edit distance -/

/-- The distances from the first characters of one text, so many and one more, to every opening of the
other, made from those of one character less. `diagonal` and `left` are the neighbours of the next
entry. -/
def nextDistances (c : Char) (diagonal left : Nat) : List Char → List Nat → List Nat
  | other :: others, above :: row =>
    let substituted := if c = other then diagonal else diagonal + 1
    let distance := min substituted (min (above + 1) (left + 1))
    distance :: nextDistances c above distance others row
  | _, _ => []

/-- The distances from one more character of the first text to every opening of the second. -/
def nextRow (c : Char) (second : List Char) (row : List Nat) : List Nat :=
  match row with
  | corner :: row => (corner + 1) :: nextDistances c corner (corner + 1) second row
  | [] => []

/-- The least number of insertions, deletions and replacements that turn one text into the other. -/
def editDistance (first second : List Char) : Nat :=
  let start := List.range (second.length + 1)
  ((first.foldl (fun row c => nextRow c second row) start).getLast?).getD 0

/-! ### The ratio -/

/-- One minus the distance in units of the longer length; one for two empty texts. -/
def similarity (first second : List Char) : Binary64 :=
  let longest := max first.length second.length
  if longest = 0 then .ofInt 1
  else (Binary64.ofInt 1).sub (.ofRatio false (editDistance first second) longest)

/-- The similarity of two names, letter case aside. -/
def nameSimilarity (first second : String) : Binary64 :=
  similarity (lower first.toList) (lower second.toList)

/-- The ratio is at least the threshold and less than one. -/
def isNear (threshold : Number) (ratio : Binary64) : Bool :=
  threshold.atMost (.double ratio) && Number.less (.double ratio) (.integer 1)

/-- The ratio in whole percent. -/
def percent (ratio : Binary64) : Int :=
  (ratio.mul (.ofInt 100)).roundToInt

/-! ### Pairs of names -/

/-- Two names and their similarity. -/
structure SimilarPair where
  first : String
  second : String
  ratio : Binary64
  deriving DecidableEq, Repr

/-- The pairs of a name with later names that are near it. -/
def pairsWith (threshold : Number) (name : String) (later : List String) : List SimilarPair :=
  (later.map fun other => ⟨name, other, nameSimilarity name other⟩).filter fun pair =>
    isNear threshold pair.ratio

/-- The pairs of near names in a list without repetition. -/
def pairsOfDistinct (threshold : Number) : List String → List SimilarPair
  | [] => []
  | name :: later => pairsWith threshold name later ++ pairsOfDistinct threshold later

/-- The pairs of near names, each pair once, in order of first occurrence. -/
def similarPairs (threshold : Number) (names : List String) : List SimilarPair :=
  pairsOfDistinct threshold names.eraseDups

end Concord.Naming
