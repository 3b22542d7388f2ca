/-
The search for the partner of a bracket is exact. Each character moves the depth by what it opens less what
it closes, and the search ends where the depth comes to zero. So what it finds is told by counting alone: it
is the first position behind the bracket up to which as many brackets of the kind are closed as opened, and
where nothing is found there is no such position.
-/

import Concord.Source.Matching
import Concord.Source.Span
import Mathlib.Order.Bounds.Basic

namespace Concord.Source

section

variable {opening closing : Char}

/-! ### Counting -/

/-- The brackets of a kind that a text opens, less those that it closes. -/
def excess (opening closing : Char) (text : List Char) : Int :=
  text.count opening - text.count closing

theorem excess_nil : excess opening closing [] = 0 :=
  rfl

theorem excess_append (first second : List Char) :
    excess opening closing (first ++ second) =
      excess opening closing first + excess opening closing second := by
  simp only [excess, List.count_append]
  omega

theorem excess_cons (c : Char) (text : List Char) :
    excess opening closing (c :: text) = excess opening closing [c] + excess opening closing text :=
  excess_append [c] text

variable (different : opening ≠ closing)

include different

theorem excess_opening : excess opening closing [opening] = 1 := by
  rw [excess, List.count_singleton_self, List.count_singleton, beq_false_of_ne different]
  rfl

theorem excess_closing : excess opening closing [closing] = -1 := by
  rw [excess, List.count_singleton_self, List.count_singleton, beq_false_of_ne different.symm]
  rfl

omit different in
theorem excess_other {c : Char} (noOpening : c ≠ opening) (noClosing : c ≠ closing) :
    excess opening closing [c] = 0 := by
  rw [excess, List.count_singleton, List.count_singleton, beq_false_of_ne noOpening,
    beq_false_of_ne noClosing]
  rfl

theorem neg_one_le_excess (c : Char) : -1 ≤ excess opening closing [c] := by
  by_cases opens : c = opening
  · rw [opens, excess_opening different]
    decide
  · by_cases closes : c = closing
    · rw [closes, excess_closing different]
    · rw [excess_other opens closes]
      decide

/-! ### The search -/

/-- One step of the search: the depth moves by what the character opens and closes. -/
theorem closingFrom_cons {depth : Int} (isOpen : 1 ≤ depth) (c : Char) (rest : List Char) :
    closingFrom opening closing depth (c :: rest) =
      if depth + excess opening closing [c] = 0 then some 0
      else (closingFrom opening closing (depth + excess opening closing [c]) rest).map (· + 1) := by
  rw [closingFrom]
  -- The depth is positive, so only a closing bracket can bring it to zero.
  by_cases opens : c = opening
  · have deeper : ¬ depth + 1 = 0 := by omega
    rw [if_pos opens, opens, excess_opening different, if_neg deeper]
  · rw [if_neg opens]
    by_cases closes : c = closing
    · rw [if_pos closes, closes, excess_closing different]
      rfl
    · have same : ¬ depth = 0 := by omega
      rw [if_neg closes, excess_other opens closes, Int.add_zero, if_neg same]

/-- What the search finds is where the depth comes to zero, and before that it is positive. -/
theorem excess_of_closingFrom {depth : Int} (isOpen : 1 ≤ depth) {text : List Char} {offset : Nat}
    (found : closingFrom opening closing depth text = some offset) :
    depth + excess opening closing (text.take (offset + 1)) = 0 ∧
      ∀ count ≤ offset, 1 ≤ depth + excess opening closing (text.take count) := by
  induction text generalizing depth offset with
  | nil => exact absurd found (by simp [closingFrom])
  | cons c rest inductionHypothesis =>
    have above := neg_one_le_excess different c
    rw [closingFrom_cons different isOpen] at found
    split at found
    · next isClosed =>
      obtain rfl := Option.some.inj found
      refine ⟨isClosed, fun count within => ?_⟩
      rw [Nat.le_zero.1 within, List.take_zero, excess_nil]
      omega
    · next stillOpen =>
      obtain ⟨inner, innerFound, rfl⟩ := Option.map_eq_some_iff.1 found
      obtain ⟨isClosed, before⟩ := inductionHypothesis (by omega) innerFound
      refine ⟨?_, ?_⟩
      · rw [List.take_succ_cons, excess_cons, ← Int.add_assoc]
        exact isClosed
      · rintro (_ | count) within
        · rw [List.take_zero, excess_nil]
          omega
        · rw [List.take_succ_cons, excess_cons, ← Int.add_assoc]
          exact before count (Nat.le_of_succ_le_succ within)

/-- Where nothing is found the depth is positive throughout. -/
theorem excess_of_closingFrom_none {depth : Int} (isOpen : 1 ≤ depth) {text : List Char}
    (absent : closingFrom opening closing depth text = none) (count : Nat) :
    1 ≤ depth + excess opening closing (text.take count) := by
  induction text generalizing depth count with
  | nil =>
    rw [List.take_nil, excess_nil]
    omega
  | cons c rest inductionHypothesis =>
    have above := neg_one_le_excess different c
    rw [closingFrom_cons different isOpen] at absent
    split at absent
    · exact absurd absent (by simp)
    · next stillOpen =>
      cases count with
      | zero =>
        rw [List.take_zero, excess_nil]
        omega
      | succ count =>
        rw [List.take_succ_cons, excess_cons, ← Int.add_assoc]
        exact inductionHypothesis (by omega) (Option.map_eq_none_iff.1 absent) count

/-! ### Positions -/

/-- How many brackets are open behind a position, those from the bracket at `index` on. -/
theorem excess_slice (text : List Char) {index position : Nat} (here : text[index]? = some opening)
    (behind : index ≤ position) :
    excess opening closing (Span.slice ⟨index, position + 1⟩ text) =
      1 + excess opening closing ((text.drop (index + 1)).take (position - index)) := by
  obtain ⟨inside, isText⟩ := List.getElem?_eq_some_iff.1 here
  have size : position + 1 - index = position - index + 1 := by omega
  rw [Span.slice, List.drop_eq_getElem_cons inside, isText, size, List.take_succ_cons, excess_cons,
    excess_opening different]

omit different in
/-- The search for the partner of a bracket begins behind it. -/
theorem closing?_eq {text : List Char} {index : Nat} (here : text[index]? = some opening) :
    closing? opening closing text index =
      (closingFrom opening closing 1 (text.drop (index + 1))).map (index + 1 + ·) := by
  obtain ⟨inside, isText⟩ := List.getElem?_eq_some_iff.1 here
  rw [closing?, List.drop_eq_getElem_cons inside, isText, closingFrom, if_pos rfl, Int.zero_add,
    Option.map_map]
  refine congrArg (Option.map · _) (funext fun offset => ?_)
  simp only [Function.comp_apply]
  omega

/-- Up to the partner of a bracket, and not before, as many brackets are closed as opened. -/
theorem excess_of_closing? {text : List Char} {index found : Nat} (here : text[index]? = some opening)
    (closes : closing? opening closing text index = some found) :
    index < found ∧ excess opening closing (Span.slice ⟨index, found + 1⟩ text) = 0 ∧
      ∀ position, index ≤ position → position < found →
        0 < excess opening closing (Span.slice ⟨index, position + 1⟩ text) := by
  rw [closing?_eq here] at closes
  obtain ⟨offset, offsetFound, rfl⟩ := Option.map_eq_some_iff.1 closes
  obtain ⟨isClosed, before⟩ := excess_of_closingFrom different (by decide) offsetFound
  refine ⟨by omega, ?_, fun position behind within => ?_⟩
  · rw [excess_slice different text here (by omega)]
    have size : index + 1 + offset - index = offset + 1 := by omega
    rwa [size]
  · rw [excess_slice different text here behind]
    exact before (position - index) (by omega)

/-- A bracket without a partner is open at every position behind it. -/
theorem excess_of_closing?_none {text : List Char} {index position : Nat}
    (here : text[index]? = some opening) (absent : closing? opening closing text index = none)
    (behind : index ≤ position) :
    0 < excess opening closing (Span.slice ⟨index, position + 1⟩ text) := by
  rw [closing?_eq here, Option.map_eq_none_iff] at absent
  rw [excess_slice different text here behind]
  exact excess_of_closingFrom_none different (by decide) absent (position - index)

end

/-! ### The character that is found -/

theorem getElem?_of_closingFrom {opening closing : Char} {depth : Int} {text : List Char} {offset : Nat}
    (found : closingFrom opening closing depth text = some offset) : text[offset]? = some closing := by
  induction text generalizing depth offset with
  | nil => exact absurd found (by simp [closingFrom])
  | cons c rest inductionHypothesis =>
    have further : ∀ {depth}, (closingFrom opening closing depth rest).map (· + 1) = some offset →
        (c :: rest)[offset]? = some closing := by
      intro depth later
      obtain ⟨inner, innerFound, rfl⟩ := Option.map_eq_some_iff.1 later
      exact inductionHypothesis innerFound
    rw [closingFrom] at found
    split at found
    · exact further found
    · split at found
      · rename_i isClosing
        split at found
        · rw [← Option.some.inj found, isClosing]
          rfl
        · exact further found
      · exact further found

theorem getElem?_of_closing? {opening closing : Char} {text : List Char} {index found : Nat}
    (closes : closing? opening closing text index = some found) : text[found]? = some closing := by
  obtain ⟨offset, offsetFound, rfl⟩ := Option.map_eq_some_iff.1 closes
  rw [← List.getElem?_drop]
  exact getElem?_of_closingFrom offsetFound

/-! ### Exactness -/

/-- The positions behind `index` such that the text from there up to and including the position closes as
many brackets as it opens. -/
def evenPositions (opening closing : Char) (text : List Char) (index : Nat) : Set Nat :=
  {position | index < position ∧ position < text.length ∧
    (Span.slice ⟨index, position + 1⟩ text).count closing =
      (Span.slice ⟨index, position + 1⟩ text).count opening}

/-- The answer names the partner of the bracket at `index`. -/
structure IsExact (opening closing : Char) (text : List Char) (index : Nat) (answer : Option Nat) :
    Prop where
  least : ∀ found, answer = some found ↔ IsLeast (evenPositions opening closing text index) found
  absent : answer = none ↔ evenPositions opening closing text index = ∅
  closes : ∀ found, answer = some found → text[found]? = some closing
  /-- Every shorter stretch from the bracket on opens more than it closes. -/
  deeper : ∀ found, answer = some found → ∀ position, index ≤ position → position < found →
    (Span.slice ⟨index, position + 1⟩ text).count closing <
      (Span.slice ⟨index, position + 1⟩ text).count opening

section

variable {opening closing : Char} {text : List Char} {index : Nat}

theorem mem_evenPositions_iff {position : Nat} :
    position ∈ evenPositions opening closing text index ↔
      index < position ∧ position < text.length ∧
        excess opening closing (Span.slice ⟨index, position + 1⟩ text) = 0 := by
  simp only [evenPositions, Set.mem_ofPred_eq, excess]
  omega

variable (different : opening ≠ closing) (here : text[index]? = some opening)

include different here

theorem isLeast_of_closing? {found : Nat} (closes : closing? opening closing text index = some found) :
    IsLeast (evenPositions opening closing text index) found := by
  obtain ⟨behind, isEven, before⟩ := excess_of_closing? different here closes
  refine ⟨mem_evenPositions_iff.2 ⟨behind, (closing?_lt closes).2, isEven⟩, fun position member => ?_⟩
  obtain ⟨positionBehind, -, positionEven⟩ := mem_evenPositions_iff.1 member
  by_contra earlier
  have stillOpen := before position (Nat.le_of_lt positionBehind) (Nat.lt_of_not_le earlier)
  omega

theorem evenPositions_eq_empty (absent : closing? opening closing text index = none) :
    evenPositions opening closing text index = ∅ := by
  refine Set.eq_empty_of_forall_notMem fun position member => ?_
  obtain ⟨behind, -, isEven⟩ := mem_evenPositions_iff.1 member
  have stillOpen := excess_of_closing?_none different here absent (Nat.le_of_lt behind)
  omega

theorem isExact_closing? : IsExact opening closing text index (closing? opening closing text index) where
  least found := by
    refine ⟨isLeast_of_closing? different here, fun isLeast => ?_⟩
    cases answer : closing? opening closing text index with
    | none =>
      rw [evenPositions_eq_empty different here answer] at isLeast
      exact absurd isLeast.1 (Set.notMem_empty found)
    | some other => rw [(isLeast_of_closing? different here answer).unique isLeast]
  absent := by
    refine ⟨evenPositions_eq_empty different here, fun nothing => ?_⟩
    refine Option.eq_none_iff_forall_not_mem.2 fun found closes => ?_
    have member := (isLeast_of_closing? different here closes).1
    rw [nothing] at member
    exact absurd member (Set.notMem_empty found)
  closes _ := getElem?_of_closing?
  deeper found closes position behind within := by
    have stillOpen := (excess_of_closing? different here closes).2.2 position behind within
    rw [excess] at stillOpen
    omega

end

/-- The partners of braces and of parentheses are told by counting: the search answers with the least later
position up to which as many are closed as opened, and with nothing exactly if there is none. -/
theorem closing_isExact (text : List Char) (index : Nat) :
    (text[index]? = some '\x7b' → IsExact '\x7b' '\x7d' text index (closingBrace? text index)) ∧
      (text[index]? = some '(' → IsExact '(' ')' text index (closingParenthesis? text index)) :=
  ⟨isExact_closing? (by decide), isExact_closing? (by decide)⟩

/-- An outer and an inner pair of braces, a parenthesis that is closed across the end of the inner pair, and
one that is never closed. -/
def crossedBrackets : List Char :=
  ")\x7ba\x7b(b\x7d)c\x7d(".toList

theorem closing_isExact_crossed :
    (crossedBrackets[1]? = some '\x7b' ∧ crossedBrackets[4]? = some '(' ∧
        crossedBrackets[10]? = some '(') ∧
      IsExact '\x7b' '\x7d' crossedBrackets 1 (some 9) ∧ IsExact '(' ')' crossedBrackets 4 (some 7) ∧
      IsExact '(' ')' crossedBrackets 10 none :=
  ⟨by decide, (closing_isExact crossedBrackets 1).1 (by decide),
    (closing_isExact crossedBrackets 4).2 (by decide), (closing_isExact crossedBrackets 10).2 (by decide)⟩

end Concord.Source
