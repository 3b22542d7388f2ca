/-
What looks for the end of something passes a balanced text over. The walks are those behind an alias,
behind an opening brace and behind the name of a record; each comes out behind the text in the state in
which it went in, because every bracket that the text opens it closes, an arrow closes none, and a
semicolon stands inside braces only.
-/

import Concord.Declaration.Body
import Concord.Proofs.Source.Nested

namespace Concord.Source

open Text

/-! ### Characters that are no brackets -/

section

variable {c : Char} (plain : c ∉ structural)

include plain

theorem ne_of_not_structural {d : Char} (member : d ∈ structural) : c ≠ d := by
  rintro rfl
  exact plain member

theorem partner?_of_not_structural : partner? c = none := by
  rw [partner?, if_neg (ne_of_not_structural plain (by decide)),
    if_neg (ne_of_not_structural plain (by decide)), if_neg (ne_of_not_structural plain (by decide))]

theorem isClosing_of_not_structural : isClosing c = false := by
  rw [isClosing, beq_false_of_ne (ne_of_not_structural plain (by decide)),
    beq_false_of_ne (ne_of_not_structural plain (by decide)),
    beq_false_of_ne (ne_of_not_structural plain (by decide))]
  rfl

theorem isBracket_of_not_structural : isBracket c = false := by
  rw [isBracket, partner?_of_not_structural plain, isClosing_of_not_structural plain,
    beq_false_of_ne (ne_of_not_structural plain (by decide)),
    beq_false_of_ne (ne_of_not_structural plain (by decide))]
  rfl

end

/-! ### The end of an alias -/

theorem expressionLength_passed {inside braced : Bool} {c : Char} (passed : IsPassed inside braced c)
    {depth : Nat} (covered : braced = true → depth ≠ 0) (rest : List Char) :
    expressionLength depth (c :: rest) = expressionLength depth rest + 1 := by
  rw [expressionLength, partner?_of_not_structural passed.notStructural,
    isClosing_of_not_structural passed.notStructural, if_neg (by simp), if_neg (by simp), if_neg,
    if_neg]
  · rintro ⟨-, same, -⟩
    exact ne_of_not_structural passed.notStructural (by decide) same
  · rintro ⟨flat, same⟩
    exact covered (passed.semicolon same).2 flat

theorem expressionLength_arrow (depth : Nat) (rest : List Char) :
    expressionLength depth ('=' :: '>' :: rest) = expressionLength depth rest + 2 := by
  rw [expressionLength, if_neg (by decide), if_neg (by decide), if_neg (by simp), if_neg (by simp),
    expressionLength, if_neg (by decide), if_neg (by decide), if_neg (by simp), if_neg (by simp)]

/-- How deep the walk behind an alias stands inside a bracket; angle brackets are not counted. -/
def Bracket.within (bracket : Bracket) (depth : Nat) : Nat :=
  if bracket = .angle then depth else depth + 1

theorem expressionLength_opening (bracket : Bracket) (depth : Nat) (rest : List Char) :
    expressionLength depth (bracket.opening :: rest) =
      expressionLength (bracket.within depth) rest + 1 := by
  rw [expressionLength]
  cases bracket <;> simp [Bracket.opening, Bracket.within, partner?, isClosing]

theorem expressionLength_closing (bracket : Bracket) (depth : Nat) (rest : List Char) :
    expressionLength (bracket.within depth) (bracket.closing :: rest) =
      expressionLength depth rest + 1 := by
  rw [expressionLength]
  cases bracket <;> simp [Bracket.closing, Bracket.within, partner?, isClosing]

theorem Bracket.covered_within (bracket : Bracket) {braced : Bool} {depth : Nat}
    (covered : braced = true → depth ≠ 0) :
    (braced || bracket == .curly) = true → bracket.within depth ≠ 0 := by
  intro isBraced
  rcases Bool.or_eq_true_iff.1 isBraced with outer | curly
  · have positive := covered outer
    unfold Bracket.within
    split
    · exact positive
    · exact Nat.succ_ne_zero depth
  · rw [beq_iff_eq.1 curly, Bracket.within, if_neg (by decide)]
    exact Nat.succ_ne_zero depth

theorem Balanced.expressionLength_append {inside braced : Bool} {text : List Char}
    (balanced : Balanced inside braced text) {depth : Nat} (covered : braced = true → depth ≠ 0)
    (rest : List Char) :
    expressionLength depth (text ++ rest) = expressionLength depth rest + text.length := by
  induction balanced generalizing depth rest with
  | nil => rfl
  | passed passed _ inductionHypothesis =>
    rw [List.cons_append, expressionLength_passed passed covered, inductionHypothesis covered,
      List.length_cons, Nat.add_assoc]
  | arrow _ inductionHypothesis =>
    rw [List.cons_append, List.cons_append, expressionLength_arrow, inductionHypothesis covered,
      List.length_cons, List.length_cons, Nat.add_assoc]
  | @group _ _ inner after bracket _ _ innerHypothesis inductionHypothesis =>
    rw [List.cons_append, List.append_assoc, List.cons_append, expressionLength_opening,
      innerHypothesis (bracket.covered_within covered), expressionLength_closing,
      inductionHypothesis covered, List.length_cons, List.length_append, List.length_cons]
    omega

/-! ### The brace that closes a body -/

theorem closingFrom_other {opening closing c : Char} (noOpening : c ≠ opening) (noClosing : c ≠ closing)
    (depth : Int) (rest : List Char) :
    closingFrom opening closing depth (c :: rest) =
      (closingFrom opening closing depth rest).map (· + 1) := by
  rw [closingFrom, if_neg noOpening, if_neg noClosing]

/-- The walk in search of a closing brace passes the text over. -/
def KeepsBraces (text : List Char) : Prop :=
  ∀ (depth : Int) (rest : List Char), 1 ≤ depth →
    closingFrom '\x7b' '\x7d' depth (text ++ rest) =
      (closingFrom '\x7b' '\x7d' depth rest).map (· + text.length)

theorem KeepsBraces.nil : KeepsBraces [] := by
  intro depth rest _
  rw [List.nil_append, List.length_nil]
  exact Option.map_id'.symm

theorem KeepsBraces.append {first second : List Char} (keeps : KeepsBraces first)
    (keepsSecond : KeepsBraces second) : KeepsBraces (first ++ second) := by
  intro depth rest positive
  rw [List.append_assoc, keeps depth _ positive, keepsSecond depth rest positive, Option.map_map,
    List.length_append]
  refine congrArg (Option.map · _) (funext fun offset => ?_)
  simp only [Function.comp_apply]
  omega

theorem keepsBraces_singleton {c : Char} (noOpening : c ≠ '\x7b') (noClosing : c ≠ '\x7d') :
    KeepsBraces [c] := by
  intro depth rest _
  exact closingFrom_other noOpening noClosing depth rest

theorem keepsBraces_of_forall {text : List Char} (none : ∀ c ∈ text, c ≠ '\x7b' ∧ c ≠ '\x7d') :
    KeepsBraces text := by
  induction text with
  | nil => exact .nil
  | cons c text inductionHypothesis =>
    rw [List.forall_mem_cons] at none
    exact (keepsBraces_singleton none.1.1 none.1.2).append (inductionHypothesis none.2)

theorem KeepsBraces.braced {inner : List Char} (keeps : KeepsBraces inner) :
    KeepsBraces ('\x7b' :: (inner ++ ['\x7d'])) := by
  intro depth rest positive
  have outside : ¬ depth + 1 - 1 = 0 := by omega
  rw [List.cons_append, List.append_assoc, closingFrom, if_pos rfl,
    keeps (depth + 1) _ (by omega), List.singleton_append, closingFrom, if_neg (by decide), if_pos rfl,
    if_neg outside, Option.map_map, Option.map_map, Int.add_sub_cancel, List.length_cons,
    List.length_append, List.length_singleton]
  refine congrArg (Option.map · _) (funext fun offset => ?_)
  simp only [Function.comp_apply]
  omega

theorem KeepsBraces.bracketed (bracket : Bracket) {inner : List Char} (keeps : KeepsBraces inner) :
    KeepsBraces (bracket.opening :: (inner ++ [bracket.closing])) := by
  by_cases curly : bracket = .curly
  · subst curly
    exact keeps.braced
  · have opening : KeepsBraces [bracket.opening] :=
      keepsBraces_singleton (by cases bracket <;> simp_all [Bracket.opening])
        (by cases bracket <;> simp_all [Bracket.opening])
    have closing : KeepsBraces [bracket.closing] :=
      keepsBraces_singleton (by cases bracket <;> simp_all [Bracket.closing])
        (by cases bracket <;> simp_all [Bracket.closing])
    exact opening.append (keeps.append closing)

theorem Balanced.keepsBraces {inside braced : Bool} {text : List Char}
    (balanced : Balanced inside braced text) : KeepsBraces text := by
  induction balanced with
  | nil => exact .nil
  | passed passed _ inductionHypothesis =>
    have single := keepsBraces_singleton
      (ne_of_not_structural passed.notStructural (by decide))
      (ne_of_not_structural passed.notStructural (by decide))
    exact single.append inductionHypothesis
  | arrow _ inductionHypothesis =>
    have arrow : KeepsBraces ['=', '>'] := keepsBraces_of_forall (by decide)
    exact arrow.append inductionHypothesis
  | group bracket _ _ innerHypothesis inductionHypothesis =>
    have both := (KeepsBraces.bracketed bracket innerHypothesis).append inductionHypothesis
    rwa [List.cons_append, List.append_assoc, List.singleton_append] at both

/-- The brace behind a body closes the one before it. -/
theorem closingBrace?_of_keepsBraces {masked body rest : List Char} {opening : Nat}
    (keeps : KeepsBraces body) (here : masked.drop opening = '\x7b' :: (body ++ '\x7d' :: rest)) :
    closingBrace? masked opening = some (opening + 1 + body.length) := by
  rw [closingBrace?, closing?, here, closingFrom, if_pos rfl, keeps (0 + 1) _ (by decide), closingFrom,
    if_neg (by decide), if_pos rfl, if_pos (by decide), Nat.add_right_comm]
  simp [Nat.add_assoc]

/-! ### The brace that opens the body of a record -/

section

open Header

/-- Only the equals sign of an arrow is remembered. -/
theorem bodyFrom_previous {previous : Option Char} (noArrow : previous ≠ some '=') (angles depth : Nat)
    (rest : List Char) : bodyFrom angles depth previous rest = bodyFrom angles depth none rest := by
  cases rest with
  | nil => rfl
  | cons c rest =>
    have closes : (if previous = some '=' then angles else angles - 1) = angles - 1 := if_neg noArrow
    have closesNone : (if (none : Option Char) = some '=' then angles else angles - 1) = angles - 1 :=
      if_neg (by simp)
    rw [bodyFrom, bodyFrom, closes, closesNone]

theorem bodyFrom_not_structural {c : Char} (plain : c ∉ structural) {angles depth : Nat}
    (noEnd : c = ';' → angles ≠ 0 ∨ depth ≠ 0) (rest : List Char) :
    bodyFrom angles depth none (c :: rest) = (bodyFrom angles depth none rest).map (· + 1) := by
  have ne := fun d (member : d ∈ structural) => ne_of_not_structural plain member
  have previous : some c ≠ some '=' := fun same => ne '=' (by decide) (Option.some.inj same)
  have goesOn : ¬ ((c = ';' ∨ c = '=') ∧ (angles == 0 && depth == 0) = true) := by
    rintro ⟨semicolon | equals, flat⟩
    · rw [Bool.and_eq_true, beq_iff_eq, beq_iff_eq] at flat
      exact (noEnd semicolon).elim (· flat.1) (· flat.2)
    · exact ne '=' (by decide) equals
  rw [bodyFrom, if_neg (ne '<' (by decide)), if_neg (ne '>' (by decide)),
    if_neg (not_or.2 ⟨ne '(' (by decide), ne '[' (by decide)⟩),
    if_neg (not_or.2 ⟨ne ')' (by decide), ne ']' (by decide)⟩), if_neg (ne '\x7b' (by decide)),
    if_neg (ne '\x7d' (by decide)), if_neg goesOn, bodyFrom_previous previous]

/-- How many angle brackets are open inside a bracket. -/
def Bracket.anglesWithin (bracket : Bracket) (angles : Nat) : Nat :=
  if bracket = .angle then angles + 1 else angles

theorem Bracket.open_within (bracket : Bracket) (angles depth : Nat) :
    bracket.anglesWithin angles ≠ 0 ∨ bracket.within depth ≠ 0 := by
  cases bracket <;> simp [Bracket.anglesWithin, Bracket.within]

theorem bodyFrom_opening (bracket : Bracket) {angles depth : Nat}
    (isOpen : bracket = .curly → angles ≠ 0 ∨ depth ≠ 0) (rest : List Char) :
    bodyFrom angles depth none (bracket.opening :: rest) =
      (bodyFrom (bracket.anglesWithin angles) (bracket.within depth) none rest).map (· + 1) := by
  have previous : some bracket.opening ≠ some '=' := by
    cases bracket <;> decide
  rw [bodyFrom, ← bodyFrom_previous previous]
  cases bracket with
  | curly =>
    have noFlat : ¬ (angles == 0 && depth == 0) = true := by
      rw [Bool.and_eq_true, beq_iff_eq, beq_iff_eq]
      exact fun flat => (isOpen rfl).elim (· flat.1) (· flat.2)
    simp [Bracket.opening, Bracket.anglesWithin, Bracket.within, noFlat]
  | round | square | angle => simp [Bracket.opening, Bracket.anglesWithin, Bracket.within]

theorem bodyFrom_closing (bracket : Bracket) (angles depth : Nat) (rest : List Char) :
    bodyFrom (bracket.anglesWithin angles) (bracket.within depth) none (bracket.closing :: rest) =
      (bodyFrom angles depth none rest).map (· + 1) := by
  have previous : some bracket.closing ≠ some '=' := by
    cases bracket <;> decide
  rw [bodyFrom, ← bodyFrom_previous previous]
  cases bracket <;> simp [Bracket.closing, Bracket.anglesWithin, Bracket.within]

theorem bodyFrom_arrow {angles depth : Nat} (isOpen : angles ≠ 0 ∨ depth ≠ 0) (rest : List Char) :
    bodyFrom angles depth none ('=' :: '>' :: rest) =
      (bodyFrom angles depth none rest).map (· + 2) := by
  have noFlat : ¬ (angles == 0 && depth == 0) = true := by
    rw [Bool.and_eq_true, beq_iff_eq, beq_iff_eq]
    exact fun flat => isOpen.elim (· flat.1) (· flat.2)
  have equals : bodyFrom angles depth none ('=' :: '>' :: rest) =
      (bodyFrom angles depth (some '=') ('>' :: rest)).map (· + 1) := by
    rw [bodyFrom]
    simp [noFlat]
  have closes : bodyFrom angles depth (some '=') ('>' :: rest) =
      (bodyFrom angles depth (some '>') rest).map (· + 1) := by
    rw [bodyFrom]
    simp
  rw [equals, closes, bodyFrom_previous (by decide), Option.map_map]
  rfl

/-- Inside a bracket of a header a balanced text is passed over. -/
theorem Balanced.bodyFrom_append {inside braced : Bool} {text : List Char}
    (balanced : Balanced inside braced text) {angles depth : Nat} (isOpen : angles ≠ 0 ∨ depth ≠ 0)
    (rest : List Char) :
    bodyFrom angles depth none (text ++ rest) =
      (bodyFrom angles depth none rest).map (· + text.length) := by
  induction balanced generalizing angles depth rest with
  | nil => exact Option.map_id'.symm
  | passed passed _ inductionHypothesis =>
    rw [List.cons_append, bodyFrom_not_structural passed.notStructural fun _ => isOpen,
      inductionHypothesis isOpen, Option.map_map]
    rfl
  | arrow _ inductionHypothesis =>
    rw [List.cons_append, List.cons_append, bodyFrom_arrow isOpen, inductionHypothesis isOpen,
      Option.map_map]
    rfl
  | @group _ _ inner after bracket _ _ innerHypothesis inductionHypothesis =>
    rw [List.cons_append, List.append_assoc, List.cons_append, bodyFrom_opening bracket fun _ => isOpen,
      innerHypothesis (bracket.open_within angles depth), bodyFrom_closing, inductionHypothesis isOpen,
      Option.map_map, Option.map_map, Option.map_map, List.length_cons, List.length_append,
      List.length_cons]
    refine congrArg (Option.map · _) (funext fun offset => ?_)
    simp only [Function.comp_apply]
    omega

/-- Outside every bracket of a header the text is passed over. -/
def KeepsHeader (text : List Char) : Prop :=
  ∀ rest, bodyFrom 0 0 none (text ++ rest) = (bodyFrom 0 0 none rest).map (· + text.length)

theorem KeepsHeader.append {first second : List Char} (keeps : KeepsHeader first)
    (keepsSecond : KeepsHeader second) : KeepsHeader (first ++ second) := by
  intro rest
  rw [List.append_assoc, keeps, keepsSecond, Option.map_map, List.length_append]
  refine congrArg (Option.map · _) (funext fun offset => ?_)
  simp only [Function.comp_apply]
  omega

theorem keepsHeader_of_forall {text : List Char} (plain : ∀ c ∈ text, c ∉ structural ∧ c ≠ ';') :
    KeepsHeader text := by
  induction text with
  | nil => exact fun _ => Option.map_id'.symm
  | cons c text inductionHypothesis =>
    rw [List.forall_mem_cons] at plain
    have single : KeepsHeader [c] := fun rest =>
      bodyFrom_not_structural plain.1.1 (fun semicolon => absurd semicolon plain.1.2) rest
    exact single.append (inductionHypothesis plain.2)

theorem keepsHeader_arguments {inner : List Char} (balanced : Balanced true false inner) :
    KeepsHeader ('<' :: (inner ++ ['>'])) := by
  intro rest
  have opens := @bodyFrom_opening .angle 0 0 (by decide) (inner ++ '>' :: rest)
  have closes := bodyFrom_closing .angle 0 0 rest
  rw [List.cons_append, List.append_assoc, List.singleton_append]
  refine opens.trans ?_
  rw [balanced.bodyFrom_append (Bracket.open_within .angle 0 0),
    show '>' = Bracket.angle.closing from rfl, closes, Option.map_map, Option.map_map,
    List.length_cons, List.length_append, List.length_singleton]
  refine congrArg (Option.map · _) (funext fun offset => ?_)
  simp only [Function.comp_apply]
  omega

/-- The body of a record begins at the brace behind the header. -/
theorem body?_of_keepsHeader {masked header rest : List Char} {start : Nat} (keeps : KeepsHeader header)
    (here : masked.drop start = header ++ '\x7b' :: rest) :
    body? masked start = some (start + header.length) := by
  have opens : bodyFrom 0 0 none ('\x7b' :: rest) = some 0 := rfl
  rw [body?, here, keeps, opens]
  simp

end

end Concord.Source
