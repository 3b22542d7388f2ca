/-
Type parameters of records and of aliases. The header of a record is walked through with every bracket
counted, so whatever parameters stand there the record is found. The head of an alias takes one level of
angle brackets inside its parameters and knows no arrow: behind deeper parameters no alias is found, and
with an arrow the head ends at a wrong bracket or nowhere.
-/

import Concord.Proofs.Declaration.Opening
import Concord.Proofs.Declaration.Outlines

namespace Concord.Printed

open Source Text

/-! ### Parameters -/

/-- How many levels of angle brackets a bracket makes of those inside it. -/
def levels (bracket : Bracket) (inner : Nat) : Nat :=
  if bracket = .angle then inner + 1 else inner

/-- What may stand between the angle brackets behind a name, on one line and without string literals: how
many levels of angle brackets it has, and whether an arrow stands in it. -/
inductive IsParameters : (depth : Nat) → (hasArrow : Bool) → List Char → Prop
  | nil : IsParameters 0 false []
  | plain {depth : Nat} {hasArrow : Bool} {c : Char} {rest : List Char} (quiet : isQuiet c = true)
      (plain : c ∉ structural) (parameters : IsParameters depth hasArrow rest) :
      IsParameters depth hasArrow (c :: rest)
  | equals {depth : Nat} {hasArrow : Bool} {rest : List Char} (something : rest ≠ [])
      (parameters : IsParameters depth hasArrow rest) : IsParameters depth hasArrow ('=' :: rest)
  | arrow {depth : Nat} {hasArrow : Bool} {rest : List Char}
      (parameters : IsParameters depth hasArrow rest) :
      IsParameters depth true ('=' :: '>' :: rest)
  | group {depth innerDepth : Nat} {hasArrow innerHasArrow : Bool} {inner rest : List Char}
      (bracket : Bracket) (parametersInner : IsParameters innerDepth innerHasArrow inner)
      (parameters : IsParameters depth hasArrow rest) :
      IsParameters (max (levels bracket innerDepth) depth) (innerHasArrow || hasArrow)
        (bracket.opening :: (inner ++ bracket.closing :: rest))

/-- Type parameters. -/
structure Parameters where
  text : List Char
  depth : Nat
  hasArrow : Bool
  isParameters : IsParameters depth hasArrow text

namespace IsParameters

theorem run {depth : Nat} {hasArrow : Bool} {run rest : List Char}
    (plain : ∀ c ∈ run, isQuiet c = true ∧ c ∉ structural)
    (parameters : IsParameters depth hasArrow rest) : IsParameters depth hasArrow (run ++ rest) := by
  induction run with
  | nil => exact parameters
  | cons c run inductionHypothesis =>
    rw [List.forall_mem_cons] at plain
    exact .plain plain.1.1 plain.1.2 (inductionHypothesis plain.2)

variable {depth : Nat} {hasArrow : Bool} {text : List Char}

theorem isQuiet (parameters : IsParameters depth hasArrow text) :
    ∀ c ∈ text, Source.isQuiet c = true := by
  induction parameters with
  | nil => exact fun _ absent => absurd absent List.not_mem_nil
  | plain quiet _ _ inductionHypothesis =>
    rw [List.forall_mem_cons]
    exact ⟨quiet, inductionHypothesis⟩
  | equals _ _ inductionHypothesis =>
    rw [List.forall_mem_cons]
    exact ⟨by decide, inductionHypothesis⟩
  | arrow _ inductionHypothesis =>
    rw [List.forall_mem_cons, List.forall_mem_cons]
    exact ⟨by decide, by decide, inductionHypothesis⟩
  | group bracket _ _ innerHypothesis inductionHypothesis =>
    rw [List.forall_mem_cons, List.forall_mem_append, List.forall_mem_cons]
    exact ⟨isQuiet_opening bracket, innerHypothesis, isQuiet_closing bracket, inductionHypothesis⟩

/-- No parameters begin with a closing angle bracket. -/
theorem head_ne (parameters : IsParameters depth hasArrow text) :
    ∀ c, text.head? = some c → c ≠ '>' := by
  cases parameters with
  | nil => exact fun c absent => absurd absent (by simp)
  | plain _ plain _ =>
    rintro c ⟨⟩
    exact ne_of_not_structural plain (by decide)
  | equals | arrow =>
    rintro c ⟨⟩
    decide
  | group bracket _ _ =>
    rintro c ⟨⟩
    cases bracket <;> decide

/-! ### Headers of records -/

/-- The equals sign matters to an angle bracket behind it and to nothing else. -/
theorem bodyFrom_head {previous : Option Char} {rest : List Char}
    (noClosing : ∀ c, rest.head? = some c → c ≠ '>') (angles inside : Nat) :
    Header.bodyFrom angles inside previous rest = Header.bodyFrom angles inside none rest := by
  cases rest with
  | nil => rfl
  | cons c rest => rw [Header.bodyFrom, Header.bodyFrom, if_neg (noClosing c rfl), if_neg (noClosing c rfl)]

/-- Inside an angle bracket of a header the search for the body passes parameters over. -/
theorem bodyFrom_append (parameters : IsParameters depth hasArrow text) {angles inside : Nat}
    (isOpen : angles ≠ 0 ∨ inside ≠ 0) (rest : List Char) :
    Header.bodyFrom angles inside none (text ++ rest) =
      (Header.bodyFrom angles inside none rest).map (· + text.length) := by
  induction parameters generalizing angles inside rest with
  | nil => exact Option.map_id'.symm
  | plain _ plain _ inductionHypothesis =>
    rw [List.cons_append, bodyFrom_not_structural plain fun _ => isOpen, inductionHypothesis isOpen,
      Option.map_map]
    rfl
  | @equals _ _ after something parameters inductionHypothesis =>
    have noClosing : ∀ c, (after ++ rest).head? = some c → c ≠ '>' := by
      rw [List.head?_append_of_ne_nil _ something]
      exact parameters.head_ne
    have noFlat : ¬ (angles == 0 && inside == 0) = true := by
      rw [Bool.and_eq_true, beq_iff_eq, beq_iff_eq]
      exact fun flat => isOpen.elim (· flat.1) (· flat.2)
    have equals : Header.bodyFrom angles inside none ('=' :: (after ++ rest)) =
        (Header.bodyFrom angles inside (some '=') (after ++ rest)).map (· + 1) := by
      rw [Header.bodyFrom]
      simp [noFlat]
    rw [List.cons_append, equals, bodyFrom_head noClosing, inductionHypothesis isOpen, Option.map_map]
    rfl
  | arrow _ inductionHypothesis =>
    rw [List.cons_append, List.cons_append, bodyFrom_arrow isOpen, inductionHypothesis isOpen,
      Option.map_map]
    rfl
  | @group _ _ _ _ inner after bracket _ _ innerHypothesis inductionHypothesis =>
    rw [List.cons_append, List.append_assoc, List.cons_append, bodyFrom_opening bracket fun _ => isOpen,
      innerHypothesis (bracket.open_within angles inside), bodyFrom_closing, inductionHypothesis isOpen,
      Option.map_map, Option.map_map, Option.map_map, List.length_cons, List.length_append,
      List.length_cons]
    refine congrArg (Option.map · _) (funext fun offset => ?_)
    simp only [Function.comp_apply]
    omega

theorem behindTypeParameters_previous {previous : Option Char} (noArrow : previous ≠ some '=')
    (angles : Nat) (rest : List Char) :
    Header.behindTypeParameters angles previous rest = Header.behindTypeParameters angles none rest := by
  cases rest with
  | nil => rfl
  | cons c rest => simp only [Header.behindTypeParameters, ne_eq, noArrow, reduceCtorEq]

theorem behindTypeParameters_other {c : Char} (noOpening : c ≠ '<') (noClosing : c ≠ '>')
    (noEquals : c ≠ '=') (angles : Nat) (rest : List Char) :
    Header.behindTypeParameters angles none (c :: rest) =
      Header.behindTypeParameters angles none rest := by
  rw [Header.behindTypeParameters, if_neg noOpening, if_neg fun both => noClosing both.1,
    behindTypeParameters_previous fun same => noEquals (Option.some.inj same)]

theorem behindTypeParameters_opening (bracket : Bracket) (angles : Nat) (rest : List Char) :
    Header.behindTypeParameters angles none (bracket.opening :: rest) =
      Header.behindTypeParameters (bracket.anglesWithin angles) none rest := by
  by_cases angle : bracket = .angle
  · subst angle
    rw [Bracket.opening, Header.behindTypeParameters, if_pos rfl,
      behindTypeParameters_previous (by decide)]
    rfl
  · rw [Bracket.anglesWithin, if_neg angle]
    exact behindTypeParameters_other (by cases bracket <;> simp_all [Bracket.opening])
      (by cases bracket <;> decide) (by cases bracket <;> decide) angles rest

theorem behindTypeParameters_closing (bracket : Bracket) (angles : Nat) (rest : List Char) :
    Header.behindTypeParameters (bracket.anglesWithin (angles + 1)) none (bracket.closing :: rest) =
      Header.behindTypeParameters (angles + 1) none rest := by
  by_cases angle : bracket = .angle
  · subst angle
    rw [Bracket.closing, Bracket.anglesWithin, if_pos rfl, Header.behindTypeParameters,
      if_neg (by decide), if_pos ⟨rfl, by simp⟩, if_neg (by omega),
      behindTypeParameters_previous (by decide), Nat.add_sub_cancel]
  · rw [Bracket.anglesWithin, if_neg angle]
    exact behindTypeParameters_other (by cases bracket <;> decide)
      (by cases bracket <;> simp_all [Bracket.closing]) (by cases bracket <;> decide) (angles + 1) rest

theorem behindTypeParameters_equals {rest : List Char}
    (noClosing : ∀ c, rest.head? = some c → c ≠ '>') (angles : Nat) :
    Header.behindTypeParameters angles none ('=' :: rest) =
      Header.behindTypeParameters angles none rest := by
  rw [Header.behindTypeParameters, if_neg (by decide), if_neg fun both => absurd both.1 (by decide)]
  cases rest with
  | nil => rfl
  | cons c rest =>
    have other : ∀ previous : Option Char, ¬ (c = '>' ∧ previous ≠ some '=') :=
      fun _ both => noClosing c rfl both.1
    rw [Header.behindTypeParameters, Header.behindTypeParameters, if_neg (other _), if_neg (other _)]

theorem behindTypeParameters_arrow (angles : Nat) (rest : List Char) :
    Header.behindTypeParameters angles none ('=' :: '>' :: rest) =
      Header.behindTypeParameters angles none rest := by
  rw [Header.behindTypeParameters, if_neg (by decide), if_neg fun both => absurd both.1 (by decide),
    Header.behindTypeParameters, if_neg (by decide), if_neg fun both => both.2 rfl,
    behindTypeParameters_previous (by decide)]

/-- The search for supertypes passes parameters over. -/
theorem behindTypeParameters_append (parameters : IsParameters depth hasArrow text) (angles : Nat)
    (rest : List Char) :
    Header.behindTypeParameters (angles + 1) none (text ++ rest) =
      Header.behindTypeParameters (angles + 1) none rest := by
  induction parameters generalizing angles rest with
  | nil => rfl
  | plain _ plain _ inductionHypothesis =>
    rw [List.cons_append, behindTypeParameters_other (ne_of_not_structural plain (by decide))
      (ne_of_not_structural plain (by decide)) (ne_of_not_structural plain (by decide)),
      inductionHypothesis]
  | equals something parameters inductionHypothesis =>
    have noClosing := parameters.head_ne
    rw [← @List.head?_append_of_ne_nil _ _ rest something] at noClosing
    rw [List.cons_append, behindTypeParameters_equals noClosing, inductionHypothesis]
  | arrow _ inductionHypothesis =>
    rw [List.cons_append, List.cons_append, behindTypeParameters_arrow, inductionHypothesis]
  | group bracket _ _ innerHypothesis inductionHypothesis =>
    obtain ⟨open', isOpen⟩ : ∃ open', bracket.anglesWithin (angles + 1) = open' + 1 := by
      unfold Bracket.anglesWithin
      split
      · exact ⟨angles + 1, rfl⟩
      · exact ⟨angles, rfl⟩
    rw [List.cons_append, List.append_assoc, List.cons_append, behindTypeParameters_opening, isOpen,
      innerHypothesis, ← isOpen, behindTypeParameters_closing, inductionHypothesis]

/-! ### Heads of aliases -/

theorem aliasParameters_other {c : Char} (noOpening : c ≠ '<') (noClosing : c ≠ '>') (inner : Bool)
    (rest : List Char) :
    Head.behindTypeParameters inner (c :: rest) = Head.behindTypeParameters inner rest := by
  rw [Head.behindTypeParameters, if_neg noClosing, if_neg noOpening]

theorem ne_angle_of_bracket {bracket : Bracket} (other : bracket ≠ .angle) :
    (bracket.opening ≠ '<' ∧ bracket.opening ≠ '>') ∧
      bracket.closing ≠ '<' ∧ bracket.closing ≠ '>' := by
  cases bracket with
  | angle => exact absurd rfl other
  | round | square | curly => decide

/-- One level of angle brackets inside the parameters of an alias is passed over, if no arrow is there. -/
theorem aliasParameters_append (parameters : IsParameters depth hasArrow text)
    (noArrow : hasArrow = false) {inner : Bool} (fits : depth + inner.toNat ≤ 1) (rest : List Char) :
    Head.behindTypeParameters inner (text ++ rest) = Head.behindTypeParameters inner rest := by
  induction parameters generalizing inner rest with
  | nil => rfl
  | plain _ plain _ inductionHypothesis =>
    rw [List.cons_append, aliasParameters_other (ne_of_not_structural plain (by decide))
      (ne_of_not_structural plain (by decide)), inductionHypothesis noArrow fits]
  | equals _ _ inductionHypothesis =>
    rw [List.cons_append, aliasParameters_other (by decide) (by decide),
      inductionHypothesis noArrow fits]
  | arrow => exact absurd noArrow (by simp)
  | @group depth innerDepth _ _ innerText after bracket _ _ innerHypothesis inductionHypothesis =>
    obtain ⟨noArrowInner, noArrow⟩ := Bool.or_eq_false_iff.1 noArrow
    rw [List.cons_append, List.append_assoc, List.cons_append]
    by_cases angle : bracket = .angle
    · subst angle
      rw [levels, if_pos rfl] at fits
      cases inner with
      | true =>
        rw [Bool.toNat_true] at fits
        omega
      | false =>
        rw [Bool.toNat_false] at fits
        have opens : Head.behindTypeParameters false ('<' :: (innerText ++ '>' :: (after ++ rest))) =
            Head.behindTypeParameters true (innerText ++ '>' :: (after ++ rest)) := rfl
        have closes : Head.behindTypeParameters true ('>' :: (after ++ rest)) =
            Head.behindTypeParameters false (after ++ rest) := rfl
        rw [Bracket.opening, Bracket.closing, opens,
          innerHypothesis noArrowInner (by rw [Bool.toNat_true]; omega), closes,
          inductionHypothesis noArrow (by rw [Bool.toNat_false]; omega)]
    · obtain ⟨opening, closing⟩ := ne_angle_of_bracket angle
      rw [levels, if_neg angle] at fits
      rw [aliasParameters_other opening.1 opening.2, innerHypothesis noArrowInner (by omega),
        aliasParameters_other closing.1 closing.2, inductionHypothesis noArrow (by omega)]

/-- Behind two levels of angle brackets inside the parameters of an alias nothing is found. -/
theorem aliasParameters_deep (parameters : IsParameters depth hasArrow text)
    (noArrow : hasArrow = false) {inner : Bool} (deep : 1 < depth + inner.toNat) (rest : List Char) :
    Head.behindTypeParameters inner (text ++ rest) = none := by
  induction parameters generalizing inner rest with
  | nil => cases inner <;> exact absurd deep (by decide)
  | plain _ plain _ inductionHypothesis =>
    rw [List.cons_append, aliasParameters_other (ne_of_not_structural plain (by decide))
      (ne_of_not_structural plain (by decide)), inductionHypothesis noArrow deep]
  | equals _ _ inductionHypothesis =>
    rw [List.cons_append, aliasParameters_other (by decide) (by decide),
      inductionHypothesis noArrow deep]
  | arrow => exact absurd noArrow (by simp)
  | @group depth innerDepth _ _ innerText after bracket parametersInner _ innerHypothesis
      inductionHypothesis =>
    obtain ⟨noArrowInner, noArrow⟩ := Bool.or_eq_false_iff.1 noArrow
    rw [List.cons_append, List.append_assoc, List.cons_append]
    by_cases angle : bracket = .angle
    · subst angle
      rw [levels, if_pos rfl] at deep
      cases inner with
      | true => rfl
      | false =>
        rw [Bool.toNat_false] at deep
        have opens : Head.behindTypeParameters false ('<' :: (innerText ++ '>' :: (after ++ rest))) =
            Head.behindTypeParameters true (innerText ++ '>' :: (after ++ rest)) := rfl
        have closes : Head.behindTypeParameters true ('>' :: (after ++ rest)) =
            Head.behindTypeParameters false (after ++ rest) := rfl
        rw [Bracket.opening, Bracket.closing, opens]
        by_cases flat : innerDepth = 0
        · rw [parametersInner.aliasParameters_append noArrowInner (by rw [flat, Bool.toNat_true]), closes,
            inductionHypothesis noArrow (by rw [Bool.toNat_false]; omega)]
        · exact innerHypothesis noArrowInner (by rw [Bool.toNat_true]; omega) _
    · obtain ⟨opening, closing⟩ := ne_angle_of_bracket angle
      rw [levels, if_neg angle] at deep
      rw [aliasParameters_other opening.1 opening.2]
      by_cases fits : innerDepth + inner.toNat ≤ 1
      · rw [parametersInner.aliasParameters_append noArrowInner fits,
          aliasParameters_other closing.1 closing.2, inductionHypothesis noArrow (by omega)]
      · exact innerHypothesis noArrowInner (by omega) _

/-- Parameters close as many angle brackets as they open, and every arrow looks like one more. -/
theorem count_angles (parameters : IsParameters depth hasArrow text) :
    text.count '<' ≤ text.count '>' ∧ (hasArrow = true → text.count '<' < text.count '>') := by
  induction parameters with
  | nil => simp
  | plain _ plain _ inductionHypothesis =>
    rw [List.count_cons_of_ne (ne_of_not_structural plain (by decide)),
      List.count_cons_of_ne (ne_of_not_structural plain (by decide))]
    exact inductionHypothesis
  | equals _ _ inductionHypothesis =>
    rw [List.count_cons_of_ne (by decide), List.count_cons_of_ne (by decide)]
    exact inductionHypothesis
  | arrow _ inductionHypothesis =>
    rw [List.count_cons_of_ne (by decide), List.count_cons_of_ne (by decide),
      List.count_cons_of_ne (by decide), List.count_cons_self]
    exact ⟨Nat.le_succ_of_le inductionHypothesis.1, fun _ => Nat.lt_succ_of_le inductionHypothesis.1⟩
  | @group _ _ _ _ inner after bracket _ _ innerHypothesis inductionHypothesis =>
    have count : ∀ c, (bracket.opening :: (inner ++ bracket.closing :: after)).count c =
        inner.count c + after.count c + [bracket.opening, bracket.closing].count c := by
      intro c
      simp only [List.count_cons, List.count_append, List.count_nil]
      omega
    have even : [bracket.opening, bracket.closing].count '<' =
        [bracket.opening, bracket.closing].count '>' := by
      cases bracket <;> decide
    rw [count, count, even]
    refine ⟨by omega, fun isSome => ?_⟩
    rcases Bool.or_eq_true_iff.1 isSome with isInner | isRest
    · have := innerHypothesis.2 isInner
      omega
    · have := inductionHypothesis.2 isRest
      omega

end IsParameters

/-- What is passed over as parameters closes one angle bracket more than it opens, arrows included. -/
theorem count_of_behindTypeParameters {inner : Bool} {text rest : List Char}
    (found : Head.behindTypeParameters inner text = some rest) :
    ∃ passed, text = passed ++ rest ∧ passed.count '>' = passed.count '<' + 1 + inner.toNat := by
  induction text generalizing inner with
  | nil => exact absurd found (by simp [Head.behindTypeParameters])
  | cons c text inductionHypothesis =>
    rw [Head.behindTypeParameters] at found
    split at found
    · rename_i closing
      subst closing
      cases inner with
      | true =>
        obtain ⟨passed, rfl, count⟩ := inductionHypothesis found
        refine ⟨'>' :: passed, rfl, ?_⟩
        rw [List.count_cons_self, List.count_cons_of_ne (by decide), count]
        rfl
      | false =>
        rw [← Option.some.inj found]
        exact ⟨['>'], rfl, rfl⟩
    · rename_i noClosing
      split at found
      · rename_i opening
        subst opening
        cases inner with
        | true => exact absurd found (by simp)
        | false =>
          obtain ⟨passed, rfl, count⟩ := inductionHypothesis found
          refine ⟨'<' :: passed, rfl, ?_⟩
          rw [List.count_cons_self, List.count_cons_of_ne (by decide), count]
          rfl
      · rename_i noOpening
        obtain ⟨passed, rfl, count⟩ := inductionHypothesis found
        refine ⟨c :: passed, rfl, ?_⟩
        rw [List.count_cons_of_ne noClosing, List.count_cons_of_ne noOpening, count]

/-! ### Records with parameters -/

/-- The heading of a record with parameters. -/
def recordHeading (name : Name) (parameters : Parameters) : Heading where
  isExported := false
  isAmbient := false
  name := name
  header := '<' :: (parameters.text ++ ['>', ' '])
  shows := by
    have closed := (shows_quiet parameters.isParameters.isQuiet).append (@shows_quiet ['>', ' '] (by decide))
    exact closed.cons (by decide)
  keeps := by
    intro rest
    have opens := @bodyFrom_opening .angle 0 0 (by decide) (parameters.text ++ '>' :: ' ' :: rest)
    have closes := bodyFrom_closing .angle 0 0 (' ' :: rest)
    have space : Header.bodyFrom 0 0 none (' ' :: rest) = (Header.bodyFrom 0 0 none rest).map (· + 1) :=
      bodyFrom_not_structural (by decide) (fun semicolon => absurd semicolon (by decide)) rest
    rw [List.cons_append, List.append_assoc, List.cons_append, List.cons_append, List.nil_append]
    refine opens.trans ?_
    rw [parameters.isParameters.bodyFrom_append (Bracket.open_within .angle 0 0),
      show '>' = Bracket.angle.closing from rfl, closes, space, Option.map_map, Option.map_map,
      Option.map_map, List.length_cons, List.length_append]
    refine congrArg (Option.map · _) (funext fun offset => ?_)
    simp only [Function.comp_apply, List.length_cons, List.length_nil]
    omega
  stops := by
    rintro c ⟨⟩
    decide

theorem supertypes_recordHeading (name : Name) (parameters : Parameters) :
    Header.supertypes (recordHeading name parameters).header = [] := by
  have behind : Header.withoutTypeParameters (recordHeading name parameters).header = [' '] := by
    have opened : stripStart (recordHeading name parameters).header =
        '<' :: (parameters.text ++ ['>', ' ']) := rfl
    rw [Header.withoutTypeParameters, opened]
    simp only
    rw [IsParameters.behindTypeParameters_previous (by decide),
      parameters.isParameters.behindTypeParameters_append 0]
    rfl
  rw [Header.supertypes, behind]
  rfl

/-! ### Aliases with parameters -/

/-- The type expression of an alias: it goes as far as the semicolon behind it, and holds something. -/
structure AliasExpression where
  text : List Char
  settled : Settled text
  runs : expressionLength 0 (mask text ++ [';']) = text.length
  something : Concord.Member.typeText text ≠ ""

/-- A printed type is the expression of an alias. -/
def AliasExpression.ofTypeText (type : TypeText) : AliasExpression where
  text := type.text
  settled := type.nested.settled.1
  runs := by
    rw [type.nested.settled.2.expressionLength_append (by simp), length_mask]
    exact Nat.zero_add _
  something := by
    intro absent
    have recorded := typeText_printed type
    rw [typeText_space, absent] at recorded
    exact type.something (String.ofList_injective recorded.symm)

/-- The head of an alias with parameters. -/
def aliasHead (name : Name) (parameters : Parameters) : List Char :=
  "type".toList ++ ' ' :: (name.text ++ '<' :: (parameters.text ++ ['>', ' ', '=']))

/-- An alias with parameters. -/
def aliasText (name : Name) (parameters : Parameters) (expression : AliasExpression) : List Char :=
  aliasHead name parameters ++ ' ' :: (expression.text ++ [';'])

section

variable (name : Name) (parameters : Parameters)

theorem aliasHead_append (rest : List Char) :
    aliasHead name parameters ++ rest =
      "type".toList ++ ' ' :: (name.text ++ '<' :: (parameters.text ++ '>' :: ' ' :: '=' :: rest)) := by
  simp only [aliasHead, List.append_assoc, List.cons_append, List.nil_append]

theorem typeAlias?_aliasHead (rest : List Char) :
    Head.typeAlias? (aliasHead name parameters ++ rest) =
      (Head.behindTypeParameters false (parameters.text ++ '>' :: ' ' :: '=' :: rest)).bind fun behind =>
        (Head.behind? '=' (stripStart behind)).map fun left => (name.text, left) := by
  have stops : ∀ c, ('<' :: (parameters.text ++ '>' :: ' ' :: '=' :: rest)).head? = some c →
      continuesIdentifier c = false := by
    rintro c ⟨⟩
    decide
  have opened : ('<' :: (parameters.text ++ '>' :: ' ' :: '=' :: rest)).dropWhile isSpaceOrTab =
      '<' :: (parameters.text ++ '>' :: ' ' :: '=' :: rest) := rfl
  rw [aliasHead_append, Head.typeAlias?, Head.bind_identifier?_same (by decide) name stops]
  simp only [bind, Option.bind_some, opened, Head.behindOptionalParameters, Option.map_eq_bind]
  rfl

/-- The head of an alias ends where its equals sign stands if its parameters hold no arrow and at most one
level of angle brackets, and only then. -/
theorem read?_aliasHead_iff (rest : List Char) :
    Head.read? .typeAlias (aliasHead name parameters ++ rest) = some (name.text, rest) ↔
      parameters.depth ≤ 1 ∧ parameters.hasArrow = false := by
  rw [aliasHead_append, Outline.read?_type, if_pos rfl, ← aliasHead_append, typeAlias?_aliasHead]
  constructor
  · intro found
    obtain ⟨behind, isBehind, left⟩ := Option.bind_eq_some_iff.1 found
    obtain ⟨expression, isSign, same⟩ := Option.map_eq_some_iff.1 left
    obtain rfl : expression = rest := (Prod.mk.inj same).2
    have stripped := Head.eq_cons_of_behind? isSign
    obtain ⟨passed, isText, count⟩ := count_of_behindTypeParameters isBehind
    -- The head ends at its own equals sign, so what was passed over are all the parameters.
    have whole : passed ++ behind.takeWhile isBlank = parameters.text ++ ['>', ' '] := by
      have parts : behind.takeWhile isBlank ++ '=' :: expression = behind := by
        rw [← stripped, stripStart, List.takeWhile_append_dropWhile]
      refine @List.append_cancel_right _ _ ('=' :: expression) _ ?_
      rw [List.append_assoc, parts, ← isText, List.append_assoc]
      rfl
    have counts : ∀ c, isBlank c = false →
        passed.count c = parameters.text.count c + ['>', ' '].count c := by
      intro c noBlank
      have none : (behind.takeWhile isBlank).count c = 0 := List.count_eq_zero.2 fun inside => by
        rw [List.mem_takeWhile_imp inside] at noBlank
        exact absurd noBlank (by simp)
      have both := congrArg (List.count c) whole
      rwa [List.count_append, List.count_append, none] at both
    have closing : passed.count '>' = parameters.text.count '>' + 1 := counts '>' (by decide)
    have opening : passed.count '<' = parameters.text.count '<' := counts '<' (by decide)
    have noArrow : parameters.hasArrow = false := by
      refine Bool.eq_false_iff.2 fun isArrow => ?_
      have more := parameters.isParameters.count_angles.2 isArrow
      rw [closing, opening, Bool.toNat_false] at count
      omega
    refine ⟨Nat.le_of_not_lt fun deep => ?_, noArrow⟩
    rw [parameters.isParameters.aliasParameters_deep noArrow (by rwa [Bool.toNat_false])] at isBehind
    exact absurd isBehind (by simp)
  · rintro ⟨shallow, noArrow⟩
    rw [parameters.isParameters.aliasParameters_append noArrow (by rwa [Bool.toNat_false])]
    rfl

/-- An alias whose head is read is all that its text declares. -/
theorem declarationsOf_aliasText (expression : AliasExpression) (shallow : parameters.depth ≤ 1)
    (noArrow : parameters.hasArrow = false) (document : String) (startLine : Nat) :
    declarationsOf ⟨startLine, String.ofList (aliasText name parameters expression)⟩ document =
      [{ name := String.ofList name.text
         kind := .typeAlias
         location := ⟨document, startLine⟩
         typeExpression := Concord.Member.typeText expression.text }] := by
  generalize isHead : aliasHead name parameters = head
  have shows : Shows (aliasText name parameters expression)
      (head ++ ' ' :: (mask expression.text ++ [';'])) := by
    have keyword : ∀ c ∈ "type".toList, isQuiet c = true := by decide
    have closed := (shows_quiet parameters.isParameters.isQuiet).append
      (@shows_quiet ['>', ' ', '='] (by decide))
    have named := name.shows.append (closed.cons (show isQuiet '<' = true by decide))
    have front : Shows (aliasHead name parameters) (aliasHead name parameters) :=
      (shows_quiet keyword).append (named.cons (by decide))
    have behind := (Shows.mk expression.settled rfl).append (@shows_quiet [';'] (by decide))
    rw [← isHead]
    exact front.append (behind.cons (by decide))
  have masked : (Views.of (aliasText name parameters expression)).masked =
      head ++ ' ' :: (mask expression.text ++ [';']) := shows.isMask
  have clean : (Views.of (aliasText name parameters expression)).clean =
      head ++ ' ' :: (expression.text ++ [';']) := by
    rw [← isHead]
    exact shows.settled.isClean
  have size : expressionLength 0 (' ' :: (mask expression.text ++ [';'])) =
      expression.text.length + 1 := by
    rw [expressionLength_passed (isPassed_of_not_mem (by decide) false false) (by simp),
      expression.runs]
  have slice : Span.slice ⟨head.length, head.length + (expression.text.length + 1)⟩
      (head ++ ' ' :: (expression.text ++ [';'])) = ' ' :: expression.text :=
    @slice_of_drop _ _ [';'] _ _ List.drop_left List.length_cons
  have opens : (Head.mk .typeAlias name.text 0 head.length).Opens
      (Views.of (aliasText name parameters expression)).masked := by
    rw [masked]
    refine ⟨rfl, by simp, fun kind => ?_⟩
    have own := (read?_aliasHead_iff name parameters (' ' :: (mask expression.text ++ [';']))).2
      ⟨shallow, noArrow⟩
    rw [isHead] at own
    rw [List.drop_left]
    split
    · rename_i same
      rw [same]
      exact own
    · rename_i other
      rw [← isHead, aliasHead_append, Outline.read?_type, if_neg other]
  have found : (Head.mk .typeAlias name.text 0 head.length).body?
      (Views.of (aliasText name parameters expression)) =
        some (.expression ⟨head.length, head.length + (expression.text.length + 1)⟩) := by
    simp only [Head.body?, masked, clean, List.drop_left, size, slice, typeText_space,
      expression.something, ↓reduceIte]
  have covers : ∀ other ∈ Head.all (Views.of (aliasText name parameters expression)).masked,
      other.start < head.length + (expression.text.length + 1) := by
    intro other member
    have within := Head.lt_length_of_mem_all member
    obtain ⟨left, read, -⟩ := (Head.standsIn_of_mem_all member).read
    refine Nat.lt_of_le_of_ne ?_ fun atEnd => ?_
    · rw [masked] at within
      simp only [List.length_append, List.length_cons, List.length_nil, length_mask] at within
      omega
    · have isLast : (head ++ ' ' :: (mask expression.text ++ [';'])).drop other.start = [';'] := by
        have front : (head ++ ' ' :: mask expression.text).length = other.start := by
          rw [atEnd, List.length_append, List.length_cons, length_mask]
        rw [← front, ← List.cons_append, ← List.append_assoc, List.drop_left]
      have none : Head.read? other.kind [';'] = none := by cases other.kind <;> rfl
      rw [masked, isLast, none] at read
      exact absurd read (by simp)
  rw [Placed.declarationsOf_of_all (Placed.all_of_opens opens found covers) rfl]
  simp only [Placed.typeExpression, clean, slice, typeText_space]
  rfl

/-- A record with any parameters is declared. The head of an alias with the same parameters ends at its
equals sign if they hold no arrow and at most one level of angle brackets, and only then; such an alias is
declared with its expression. -/
theorem declarationsOf_parameters (expression : AliasExpression) (document : String) (startLine : Nat) :
    declarationsOf
        ⟨startLine, String.ofList (block (recordHeading name parameters).text [' '])⟩ document =
      [{ name := String.ofList name.text
         kind := .record
         location := ⟨document, startLine⟩ }] ∧
      (∀ rest, Head.read? .typeAlias (aliasHead name parameters ++ rest) = some (name.text, rest) ↔
        parameters.depth ≤ 1 ∧ parameters.hasArrow = false) ∧
      (parameters.depth ≤ 1 → parameters.hasArrow = false →
        declarationsOf ⟨startLine, String.ofList (aliasText name parameters expression)⟩ document =
          [{ name := String.ofList name.text
             kind := .typeAlias
             location := ⟨document, startLine⟩
             typeExpression := Concord.Member.typeText expression.text }]) := by
  have blank : isAllBlank [' '] = true := by decide
  have splits : ∀ rest, Splits .body ('\x7d' :: rest) (mask [' ']) [' '] [] := fun rest =>
    .blank (passes_blanks marks_body (by decide) (fun _ => rfl) _) (by decide)
  have keeps : KeepsBraces (mask [' ']) := keepsBraces_of_forall (by decide)
  have read := readsAs_splits (shows_blank blank).settled keeps splits
  refine ⟨?_, fun rest => read?_aliasHead_iff name parameters rest, fun shallow noArrow =>
    declarationsOf_aliasText name parameters expression shallow noArrow document startLine⟩
  rw [(recordHeading name parameters).declarationsOf_block read, supertypes_recordHeading]
  rfl

end

/-- A parameter with a constraint and a default. -/
def entryParameter : Parameters where
  text := "T extends Map<K, V> = Entry".toList
  depth := 1
  hasArrow := false
  isParameters := @IsParameters.run _ _ "T extends Map".toList _ (by decide)
    (.group .angle (@IsParameters.run _ _ "K, V".toList _ (by decide) .nil)
      (.plain (by decide) (by decide)
        (.equals (by simp) (@IsParameters.run _ _ " Entry".toList _ (by decide) .nil))))

/-- An array of what the parameter stands for. -/
def arrayOfParameter : AliasExpression where
  text := "T[]".toList
  settled := (settled_quiet (by decide)).1
  runs := by decide
  something := by decide

theorem declarationsOf_entryParameter :
    (entryParameter.depth ≤ 1 ∧ entryParameter.hasArrow = false) ∧
      declarationsOf ⟨1, "type Box<T extends Map<K, V> = Entry> = T[];"⟩ "doc.ts" =
        [{ name := "Box", kind := .typeAlias, location := ⟨"doc.ts", 1⟩, typeExpression := "T[]" }] := by
  have shallow : entryParameter.depth ≤ 1 ∧ entryParameter.hasArrow = false := by decide
  have declared := (declarationsOf_parameters ⟨"Box".toList, by decide⟩ entryParameter arrayOfParameter
    "doc.ts" 1).2.2 shallow.1 shallow.2
  exact ⟨shallow, declared⟩

/-- Two levels of angle brackets, or an arrow, and the record is found while the alias is not. -/
theorem declarationsOf_deepParameters :
    (declarationsOf ⟨1, "interface Box<T extends A<B<C>>> \x7b \x7d"⟩ "doc.ts").map (·.kind) =
        [.record] ∧
      declarationsOf ⟨1, "type Box<T extends A<B<C>>> = X;"⟩ "doc.ts" = [] ∧
      (declarationsOf ⟨1, "interface Box<T = () => void> \x7b \x7d"⟩ "doc.ts").map (·.kind) =
        [.record] ∧
      declarationsOf ⟨1, "type Box<T = () => void> = X;"⟩ "doc.ts" = [] := by
  exact ⟨by decide +kernel, by decide +kernel, by decide +kernel, by decide +kernel⟩

end Concord.Printed
