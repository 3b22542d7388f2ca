/-
What the look-ahead behind a line break depends on. It asks whether something shaped like a new member
begins there, and it skips blanks where it may; so it does not tell one run of blanks from another, and it
goes no further than a semicolon or a closing brace.
-/

import Concord.Proofs.Source.Splitting
import Mathlib.Data.List.TakeWhile

namespace Concord.Source

open Text

/-! ### Texts with something behind them -/

/-- Dropping from the front does not reach a character that stops it. -/
theorem dropWhile_append_cons {isIn : Char → Bool} {c : Char} (stops : isIn c = false)
    (text rest : List Char) :
    (text ++ c :: rest).dropWhile isIn = text.dropWhile isIn ++ c :: rest := by
  induction text with
  | nil => exact List.dropWhile_cons_of_neg (by simp [stops])
  | cons d text inductionHypothesis =>
    cases inside : isIn d with
    | true =>
      rw [List.cons_append, List.dropWhile_cons_of_pos inside, List.dropWhile_cons_of_pos inside,
        inductionHypothesis]
    | false =>
      rw [List.cons_append, List.dropWhile_cons_of_neg (by simp [inside]),
        List.dropWhile_cons_of_neg (by simp [inside]), List.cons_append]

theorem takeWhile_append_cons {isIn : Char → Bool} {c : Char} (stops : isIn c = false)
    (text rest : List Char) :
    (text ++ c :: rest).takeWhile isIn = text.takeWhile isIn := by
  induction text with
  | nil => exact List.takeWhile_cons_of_neg (by simp [stops])
  | cons d text inductionHypothesis =>
    cases inside : isIn d with
    | true =>
      rw [List.cons_append, List.takeWhile_cons_of_pos inside, List.takeWhile_cons_of_pos inside,
        inductionHypothesis]
    | false =>
      rw [List.cons_append, List.takeWhile_cons_of_neg (by simp [inside]),
        List.takeWhile_cons_of_neg (by simp [inside])]

/-- An identifier ends where no character of one stands. -/
theorem identifier?_append_cons {c : Char} (stops : continuesIdentifier c = false) (text rest : List Char) :
    identifier? (text ++ c :: rest) =
      (identifier? text).map fun found => (found.1, found.2 ++ c :: rest) := by
  cases text with
  | nil =>
    have noOpening : ¬ opensIdentifier c = true := fun opens => by
      rw [continuesIdentifier_of_opensIdentifier opens] at stops
      exact absurd stops (by simp)
    exact if_neg noOpening
  | cons d text =>
    rw [List.cons_append, identifier?, identifier?, takeWhile_append_cons stops,
      dropWhile_append_cons stops]
    split <;> rfl

theorem skipQuestion_append_cons {c : Char} (other : c ≠ '?') (text rest : List Char) :
    startsNamedMember.skipQuestion (text ++ c :: rest) =
      startsNamedMember.skipQuestion text ++ c :: rest := by
  unfold startsNamedMember.skipQuestion
  cases text with
  | nil =>
    rw [List.nil_append]
    split
    · rename_i same
      exact absurd (List.cons.inj same).1 other
    · rfl
  | cons d text =>
    by_cases question : d = '?'
    · subst question
      rfl
    · rw [List.cons_append]
      split
      · rename_i same
        exact absurd (List.cons.inj same).1 question
      · split
        · rename_i same
          exact absurd (List.cons.inj same).1 question
        · rfl

theorem after?_append_cons {keyword : List Char} {c : Char} (other : c ∉ keyword)
    (text rest : List Char) :
    after? keyword (text ++ c :: rest) = (after? keyword text).map (· ++ c :: rest) := by
  induction keyword generalizing text with
  | nil => rw [after?_nil, after?_nil, Option.map_some]
  | cons k keyword inductionHypothesis =>
    obtain ⟨different, other⟩ := not_or.1 (List.mem_cons.not.1 other)
    cases text with
    | nil => exact if_neg (Ne.symm different)
    | cons d text =>
      rw [List.cons_append, after?, after?]
      split
      · exact inductionHypothesis other text
      · rfl

/-- Stripping a text with something behind it either strips the text alone or goes through all of it. -/
theorem stripStart_append (text rest : List Char) :
    stripStart (text ++ rest) =
      if isAllBlank text = true then stripStart rest else stripStart text ++ rest := by
  induction text with
  | nil => rfl
  | cons c text inductionHypothesis =>
    rw [isAllBlank_cons]
    cases blank : isBlank c with
    | true =>
      rw [stripStart, List.cons_append, List.dropWhile_cons_of_pos blank, ← stripStart,
        inductionHypothesis, Bool.true_and, stripStart, stripStart, stripStart,
        List.dropWhile_cons_of_pos blank]
    | false =>
      have kept : ∀ rest, stripStart (c :: rest) = c :: rest := fun rest =>
        List.dropWhile_cons_of_neg (by simp [blank])
      rw [List.cons_append, kept, kept]
      rfl

theorem exists_stripStart_eq_cons {text : List Char} (something : ¬ isAllBlank text = true) :
    ∃ c rest, stripStart text = c :: rest :=
  List.exists_cons_of_ne_nil fun none =>
    something (List.all_eq_true.2 (List.dropWhile_eq_nil_iff.1 none))

/-! ### What is skipped and what stops -/

/-- A colon, a parenthesis or an angle bracket comes next, perhaps after blanks. -/
def comesMark (text : List Char) : Bool :=
  (stripStart text).head?.any fun c => c == ':' || c == '(' || c == '<'

theorem startsNamedMember_eq (text : List Char) :
    startsNamedMember text = ((identifier? text).map fun found =>
      comesMark (startsNamedMember.skipQuestion found.2)).getD false := by
  unfold startsNamedMember
  cases identifier? text with
  | none => rfl
  | some found =>
    simp only [Option.map_some, Option.getD_some, comesMark]
    cases stripStart (startsNamedMember.skipQuestion found.2) <;> rfl

theorem startsMember_eq (text : List Char) :
    startsMember text = ((stripStart text).head? == some '[' ||
      (startsNamedMember (stripStart text) ||
        ((spacedKeyword? "readonly".toList (stripStart text)).map startsNamedMember).getD false)) := by
  unfold startsMember
  cases stripStart text with
  | nil => rfl
  | cons c rest =>
    by_cases bracket : c = '['
    · subst bracket
      rfl
    · have other : ((c :: rest).head? == some '[') = false :=
        beq_false_of_ne fun same => bracket (Option.some.inj same)
      rw [other, Bool.false_or]
      dsimp only
      split
      · rename_i same
        exact absurd (List.cons.inj same).1 bracket
      · rfl

/-- A character at which the look-ahead ends, whatever stands behind it. -/
def isStop (c : Char) : Bool :=
  !isBlank c && !continuesIdentifier c && !(['[', '?', ':', '(', '<'].contains c)

section

variable {c : Char} (stop : isStop c = true) (text rest : List Char)

include stop

theorem isStop_spec : isBlank c = false ∧ continuesIdentifier c = false ∧
    ∀ d ∈ ['[', '?', ':', '(', '<'], c ≠ d := by
  simp only [isStop, Bool.and_eq_true, Bool.not_eq_true'] at stop
  refine ⟨stop.1.1, stop.1.2, fun d member same => ?_⟩
  rw [same, List.contains_iff_mem.2 member] at stop
  exact absurd stop.2 (by simp)

theorem comesMark_append_stop : comesMark (text ++ c :: rest) = comesMark text := by
  obtain ⟨noBlank, -, other⟩ := isStop_spec stop
  have stripped : stripStart (text ++ c :: rest) = stripStart text ++ c :: rest :=
    dropWhile_append_cons noBlank text rest
  rw [comesMark, comesMark, stripped]
  cases stripStart text with
  | nil =>
    show (c == ':' || c == '(' || c == '<') = false
    rw [beq_false_of_ne (other _ (by decide)), beq_false_of_ne (other _ (by decide)),
      beq_false_of_ne (other _ (by decide))]
    rfl
  | cons => rfl

theorem startsNamedMember_append_stop :
    startsNamedMember (text ++ c :: rest) = startsNamedMember text := by
  obtain ⟨-, noIdentifier, other⟩ := isStop_spec stop
  rw [startsNamedMember_eq, startsNamedMember_eq, identifier?_append_cons noIdentifier, Option.map_map]
  refine congrArg (Option.getD · false) (congrArg (Option.map · _) (funext fun found => ?_))
  rw [Function.comp_apply, skipQuestion_append_cons (other _ (by decide)), comesMark_append_stop stop]

theorem spacedKeyword?_append_stop {keyword : List Char} (other : c ∉ keyword) :
    spacedKeyword? keyword (text ++ c :: rest) =
      (spacedKeyword? keyword text).map (· ++ c :: rest) := by
  have noBlank := (isStop_spec stop).1
  rw [spacedKeyword?, spacedKeyword?, after?_append_cons other]
  cases after? keyword text with
  | none => rfl
  | some behind =>
    cases behind with
    | nil => exact if_neg (by simp [noBlank])
    | cons d behind =>
      show (if isBlank d = true then some (stripStart (behind ++ c :: rest)) else none) =
        (if isBlank d = true then some (stripStart behind) else none).map (· ++ c :: rest)
      rw [stripStart, dropWhile_append_cons noBlank]
      split <;> rfl

/-- The look-ahead goes no further than a character that stops it. -/
theorem startsMember_append_stop : startsMember (text ++ c :: rest) = startsMember text := by
  obtain ⟨noBlank, noIdentifier, other⟩ := isStop_spec stop
  have noLetter : c ∉ "readonly".toList := fun member => by
    have isWord : ∀ d ∈ "readonly".toList, continuesIdentifier d = true := by decide
    exact absurd ((isWord c member).symm.trans noIdentifier) (by simp)
  have bracket : ((stripStart text ++ c :: rest).head? == some '[') =
      ((stripStart text).head? == some '[') := by
    cases stripStart text with
    | nil => exact beq_false_of_ne fun same => other '[' (by decide) (Option.some.inj same)
    | cons => rfl
  have stripped : stripStart (text ++ c :: rest) = stripStart text ++ c :: rest :=
    dropWhile_append_cons noBlank text rest
  rw [startsMember_eq, startsMember_eq, stripped, bracket, startsNamedMember_append_stop stop,
    spacedKeyword?_append_stop stop _ _ noLetter, Option.map_map]
  refine congrArg (fun later => _ || (_ || Option.getD later false))
    (congrArg (Option.map · _) (funext fun behind => ?_))
  exact startsNamedMember_append_stop stop behind rest

end

/-! ### Blanks are alike -/

section

variable {c d : Char} {first second : List Char} (blank : isBlank c = true) (blankOther : isBlank d = true)
  (same : stripStart first = stripStart second) (text : List Char)

include blank blankOther same

theorem stripStart_blank : stripStart (c :: first) = stripStart (d :: second) := by
  rw [stripStart, List.dropWhile_cons_of_pos blank, ← stripStart, same, stripStart, stripStart,
    List.dropWhile_cons_of_pos blankOther]

theorem comesMark_blank : comesMark (text ++ c :: first) = comesMark (text ++ d :: second) := by
  have stripped := stripStart_blank blank blankOther same
  rw [comesMark, comesMark, stripStart_append, stripStart_append, stripped]
  split
  · rfl
  · rename_i something
    obtain ⟨e, behind, isStripped⟩ := exists_stripStart_eq_cons something
    rw [isStripped]
    rfl

theorem startsNamedMember_blank :
    startsNamedMember (text ++ c :: first) = startsNamedMember (text ++ d :: second) := by
  have noQuestion : ∀ e, isBlank e = true → e ≠ '?' := by
    rintro e isBlank rfl
    exact absurd isBlank (by decide)
  rw [startsNamedMember_eq, startsNamedMember_eq,
    identifier?_append_cons (continuesIdentifier_of_isBlank blank),
    identifier?_append_cons (continuesIdentifier_of_isBlank blankOther), Option.map_map, Option.map_map]
  refine congrArg (Option.getD · false) (congrArg (Option.map · _) (funext fun found => ?_))
  rw [Function.comp_apply, Function.comp_apply, skipQuestion_append_cons (noQuestion c blank),
    skipQuestion_append_cons (noQuestion d blankOther), comesMark_blank blank blankOther same]

theorem startsNamedMember_stripStart_blank :
    startsNamedMember (stripStart (text ++ c :: first)) =
      startsNamedMember (stripStart (text ++ d :: second)) := by
  rw [stripStart_append, stripStart_append, stripStart_blank blank blankOther same]
  split
  · rfl
  · exact startsNamedMember_blank blank blankOther same (stripStart text)

theorem readonlyMember_blank :
    (spacedKeyword? "readonly".toList (text ++ c :: first)).map startsNamedMember =
      (spacedKeyword? "readonly".toList (text ++ d :: second)).map startsNamedMember := by
  have noLetter : ∀ e, isBlank e = true → e ∉ "readonly".toList := by
    intro e isBlank member
    have solid : ∀ d ∈ "readonly".toList, Text.isBlank d = false := by decide
    exact absurd (isBlank.symm.trans (solid e member)) (by simp)
  rw [spacedKeyword?, spacedKeyword?, after?_append_cons (noLetter c blank),
    after?_append_cons (noLetter d blankOther)]
  cases after? "readonly".toList text with
  | none => rfl
  | some behind =>
    cases behind with
    | nil =>
      show Option.map _ (if isBlank c = true then some (stripStart first) else none) =
        Option.map _ (if isBlank d = true then some (stripStart second) else none)
      rw [if_pos blank, if_pos blankOther, same]
    | cons e behind =>
      show Option.map _ (if isBlank e = true then some (stripStart (behind ++ c :: first)) else none) =
        Option.map _ (if isBlank e = true then some (stripStart (behind ++ d :: second)) else none)
      split
      · exact congrArg some (startsNamedMember_stripStart_blank blank blankOther same behind)
      · rfl

/-- The look-ahead does not tell one run of blanks from another. -/
theorem startsMember_blank : startsMember (text ++ c :: first) = startsMember (text ++ d :: second) := by
  rw [startsMember_eq, startsMember_eq, stripStart_append, stripStart_append,
    stripStart_blank blank blankOther same]
  split
  · rfl
  · rename_i something
    rw [startsNamedMember_blank blank blankOther same (stripStart text),
      readonlyMember_blank blank blankOther same (stripStart text)]
    obtain ⟨e, behind, isStripped⟩ := exists_stripStart_eq_cons something
    rw [isStripped]
    rfl

end

end Concord.Source
