/-
Types that may go on over several lines. Every bracket that a type opens it closes, and outside them it
holds no comma, no semicolon and no line break before something shaped like a new member. The walk that
splits a body goes through such a type. A space in it may as well be a line break with an indentation,
unless what follows is outside every bracket and shaped like a new member.
-/

import Concord.Proofs.Source.MemberStart

namespace Concord.Source

open Text

/-- A type as the masked view shows it, or a part of one that stands `inside` a bracket. -/
inductive IsType : (inside : Bool) → List Char → Prop
  | nil {inside : Bool} : IsType inside []
  | passed {inside : Bool} {c : Char} {rest : List Char} (passed : IsPassed inside inside c)
      (isType : IsType inside rest) : IsType inside (c :: rest)
  | lineBreak {inside : Bool} {rest : List Char}
      (joins : inside = false → startsMember rest = false) (isType : IsType inside rest) :
      IsType inside ('\n' :: rest)
  | equals {inside : Bool} {rest : List Char} (something : rest ≠ []) (isType : IsType inside rest) :
      IsType inside ('=' :: rest)
  | arrow {inside : Bool} {rest : List Char} (isType : IsType inside rest) :
      IsType inside ('=' :: '>' :: rest)
  | group {inside : Bool} {inner rest : List Char} (bracket : Bracket) (isTypeInner : IsType true inner)
      (isType : IsType inside rest) :
      IsType inside (bracket.opening :: (inner ++ bracket.closing :: rest))

namespace IsType

variable {inside : Bool} {text : List Char}

/-- No type begins with a closing angle bracket. -/
theorem head_ne (isType : IsType inside text) : ∀ c, text.head? = some c → c ≠ '>' := by
  cases isType with
  | nil => exact fun c absent => absurd absent (by simp)
  | passed passed _ =>
    rintro c ⟨⟩
    exact ne_of_not_structural passed.notStructural (by decide)
  | lineBreak | equals | arrow =>
    rintro c ⟨⟩
    decide
  | group bracket _ _ =>
    rintro c ⟨⟩
    cases bracket <;> decide

theorem run {run rest : List Char} (passed : ∀ c ∈ run, IsPassed inside inside c)
    (isType : IsType inside rest) : IsType inside (run ++ rest) := by
  induction run with
  | nil => exact isType
  | cons c run inductionHypothesis =>
    rw [List.forall_mem_cons] at passed
    exact .passed passed.1 (inductionHypothesis passed.2)

/-- The search for the closing brace passes a type over. -/
theorem keepsBraces (isType : IsType inside text) : KeepsBraces text := by
  induction isType with
  | nil => exact .nil
  | passed passed _ inductionHypothesis =>
    have single := keepsBraces_singleton
      (ne_of_not_structural passed.notStructural (by decide))
      (ne_of_not_structural passed.notStructural (by decide))
    exact single.append inductionHypothesis
  | lineBreak _ _ inductionHypothesis | equals _ _ inductionHypothesis =>
    exact (keepsBraces_singleton (by decide) (by decide)).append inductionHypothesis
  | arrow _ inductionHypothesis =>
    have arrow : KeepsBraces ['=', '>'] := keepsBraces_of_forall (by decide)
    exact arrow.append inductionHypothesis
  | group bracket _ _ innerHypothesis inductionHypothesis =>
    have both := (KeepsBraces.bracketed bracket innerHypothesis).append inductionHypothesis
    rwa [List.cons_append, List.append_assoc, List.singleton_append] at both

/-! ### The walk through a type -/

/-- The walk that splits a body goes through a type and leaves open what was open before it. Behind a
type with line breaks a semicolon stands. -/
theorem leads (isType : IsType inside text) {nesting : Nesting}
    (covered : inside = true → nesting.isFlat = false) {following : List Char}
    (ends : inside = false → '\n' ∈ text → ∃ rest, following = ';' :: rest) :
    Leads .body text following nesting nesting := by
  induction isType generalizing nesting following with
  | nil => exact .nil nesting
  | @passed _ c _ passed _ inductionHypothesis =>
    exact (leads_passed marks_body passed covered).append _
      (inductionHypothesis covered fun outside isBreak => ends outside (List.mem_cons_of_mem c isBreak))
  | @lineBreak inside after joins _ inductionHypothesis =>
    have inner : ∀ index begun inhabited,
        Separation.body.separates ⟨nesting, none, index, begun, inhabited⟩ '\n'
          (after ++ following) = false := by
      intro index begun inhabited
      cases inside with
      | true => simp [Separation.separates, covered rfl]
      | false =>
        obtain ⟨rest, rfl⟩ := ends rfl List.mem_cons_self
        have goesOn : startsMember (after ++ ';' :: rest) = false :=
          (startsMember_append_stop (by decide) after rest).trans (joins rfl)
        simp [Separation.separates, goesOn, Separation.body]
    exact (leads_inner (by decide) (by decide) inner).append _
      (inductionHypothesis covered fun outside isBreak => ends outside (List.mem_cons_of_mem _ isBreak))
  | @equals _ after something isType inductionHypothesis =>
    refine (inductionHypothesis covered fun outside isBreak =>
      ends outside (List.mem_cons_of_mem _ isBreak)).assigned marks_body ?_
    rw [List.head?_append_of_ne_nil _ something]
    exact isType.head_ne
  | arrow _ inductionHypothesis =>
    exact (leads_arrow marks_body nesting).append _ (inductionHypothesis covered fun outside isBreak =>
      ends outside (List.mem_cons_of_mem _ (List.mem_cons_of_mem _ isBreak)))
  | group bracket _ _ innerHypothesis inductionHypothesis =>
    refine .bracketed bracket _ (innerHypothesis (fun _ => bracket.isFlat_nested nesting)
      fun outside => absurd outside (by simp)) (inductionHypothesis covered fun outside isBreak => ?_)
    exact ends outside (List.mem_cons_of_mem _
      (List.mem_append_right _ (List.mem_cons_of_mem _ isBreak)))

theorem passes (isType : IsType false text) (inhabited : Bool) {following : List Char}
    (ends : '\n' ∈ text → ∃ rest, following = ';' :: rest) : Passes .body inhabited text following :=
  (isType.leads (by simp) fun _ => ends).passes inhabited

end IsType

/-! ### Line breaks in place of spaces -/

/-- What is open behind a text. -/
def openBehind (nesting : Nesting) (previous : Option Char) : List Char → Nesting
  | [] => nesting
  | c :: rest => openBehind (nesting.through previous c) (some c) rest

theorem openBehind_head {nesting : Nesting} {previous : Option Char} {text : List Char}
    (noClosing : previous = some '=' → ∀ c, text.head? = some c → c ≠ '>') :
    openBehind nesting previous text = openBehind nesting none text := by
  cases text with
  | nil => rfl
  | cons c text =>
    have through : nesting.through previous c = nesting.through none c := by
      by_cases equals : previous = some '='
      · simp only [Nesting.through, if_neg (noClosing equals c rfl)]
      · simp only [Nesting.through, if_neg equals, reduceCtorEq, ↓reduceIte]
    rw [openBehind, openBehind, through]

theorem openBehind_passed {c : Char} (plain : isBracket c = false) {nesting : Nesting} {text : List Char}
    (noArrow : c = '=' → ∀ d, text.head? = some d → d ≠ '>') :
    openBehind nesting none (c :: text) = openBehind nesting none text := by
  rw [openBehind, through_of_not_isBracket plain,
    openBehind_head fun equals => noArrow (Option.some.inj equals)]

theorem openBehind_opening (bracket : Bracket) (nesting : Nesting) (text : List Char) :
    openBehind nesting none (bracket.opening :: text) = openBehind (bracket.nested nesting) none text := by
  rw [openBehind, bracket.through_opening, openBehind_head]
  intro equals
  cases bracket <;> exact absurd equals (by decide)

theorem openBehind_closing (bracket : Bracket) (nesting : Nesting) (text : List Char) :
    openBehind (bracket.nested nesting) none (bracket.closing :: text) = openBehind nesting none text := by
  rw [openBehind, bracket.through_closing, openBehind_head]
  intro equals
  cases bracket <;> exact absurd equals (by decide)

theorem openBehind_arrow (nesting : Nesting) (text : List Char) :
    openBehind nesting none ('=' :: '>' :: text) = openBehind nesting none text := by
  rw [openBehind, openBehind, openBehind_head fun equals => absurd equals (by decide)]
  rfl

/-- A type leaves open what was open before it. -/
theorem IsType.openBehind_append {inside : Bool} {text : List Char} (isType : IsType inside text)
    (nesting : Nesting) (rest : List Char) :
    openBehind nesting none (text ++ rest) = openBehind nesting none rest := by
  induction isType generalizing nesting rest with
  | nil => rfl
  | passed passed _ inductionHypothesis =>
    rw [List.cons_append, openBehind_passed (isBracket_of_not_structural passed.notStructural)
      (fun equals => absurd equals (ne_of_not_structural passed.notStructural (by decide))),
      inductionHypothesis]
  | lineBreak _ _ inductionHypothesis =>
    rw [List.cons_append, openBehind_passed (by decide) (fun equals => absurd equals (by decide)),
      inductionHypothesis]
  | @equals _ after something isType inductionHypothesis =>
    have noClosing : ∀ c, (after ++ rest).head? = some c → c ≠ '>' := by
      rw [List.head?_append_of_ne_nil _ something]
      exact isType.head_ne
    rw [List.cons_append, openBehind_passed (by decide) fun _ => noClosing, inductionHypothesis]
  | arrow _ inductionHypothesis =>
    rw [List.cons_append, List.cons_append, openBehind_arrow, inductionHypothesis]
  | group bracket _ _ innerHypothesis inductionHypothesis =>
    rw [List.cons_append, List.append_assoc, List.cons_append, openBehind_opening, innerHypothesis,
      openBehind_closing, inductionHypothesis]

theorem isPassed_of_isSpaceOrTab {c : Char} (space : isSpaceOrTab c = true) (inside braced : Bool) :
    IsPassed inside braced c :=
  isPassed_of_class space (by decide) inside braced

/-- In place of a space in a type a line break with an indentation may stand, unless that is outside every
bracket and what follows is shaped like a new member. -/
theorem IsType.broken {inside : Bool} {before behind indentation : List Char}
    (isType : IsType inside (before ++ ' ' :: behind))
    (indented : ∀ c ∈ indentation, isSpaceOrTab c = true) {nesting : Nesting}
    (joins : inside = false → (openBehind nesting none before).isFlat = true →
      startsMember behind = false)
    (level : inside = false → nesting.isFlat = true) :
    IsType inside (before ++ '\n' :: (indentation ++ behind)) := by
  have blankIndentation : isAllBlank indentation = true :=
    List.all_eq_true.2 fun c member => isBlank_of_isSpaceOrTab (indented c member)
  have stripped : ∀ text, stripStart text = stripStart (indentation ++ text) := fun text => by
    rw [stripStart_append, if_pos blankIndentation]
  have noSpace : ∀ bracket : Bracket, bracket.opening ≠ ' ' ∧ bracket.closing ≠ ' ' := by
    intro bracket
    cases bracket <;> decide
  generalize isText : before ++ ' ' :: behind = text at isType
  induction isType generalizing before behind nesting with
  | nil => exact absurd isText (by simp)
  | @passed inside c after passed isType inductionHypothesis =>
    cases before with
    | nil =>
      obtain ⟨-, rfl⟩ := List.cons.inj isText
      refine .lineBreak (fun outside => ?_)
        (isType.run fun c member => isPassed_of_isSpaceOrTab (indented c member) _ _)
      rw [startsMember_eq, ← stripped, ← startsMember_eq]
      exact joins outside (level outside)
    | cons d before =>
      obtain ⟨rfl, isRest⟩ := List.cons.inj isText
      refine .passed passed (inductionHypothesis (fun outside flat => joins outside ?_) level isRest)
      rwa [openBehind_passed (isBracket_of_not_structural passed.notStructural)
        (fun equals => absurd equals (ne_of_not_structural passed.notStructural (by decide)))]
  | @lineBreak inside after goesOn isType inductionHypothesis =>
    cases before with
    | nil => exact absurd (List.cons.inj isText).1 (by decide)
    | cons d before =>
      rw [List.cons_append] at isText
      obtain ⟨rfl, rfl⟩ := List.cons.inj isText
      refine .lineBreak (fun outside => ?_)
        (inductionHypothesis (fun outside flat => joins outside ?_) level rfl)
      · have space : isBlank ' ' = true := by decide
        have lineBreak : isBlank '\n' = true := by decide
        exact (startsMember_blank space lineBreak (stripped behind) before).symm.trans (goesOn outside)
      · rwa [openBehind_passed (by decide) fun equals => absurd equals (by decide)]
  | @equals inside after something isType inductionHypothesis =>
    cases before with
    | nil => exact absurd (List.cons.inj isText).1 (by decide)
    | cons d before =>
      rw [List.cons_append] at isText
      obtain ⟨rfl, rfl⟩ := List.cons.inj isText
      have noClosing : ∀ c, before.head? = some c → c ≠ '>' := by
        intro c first
        refine isType.head_ne c ?_
        rw [List.head?_append, first]
        rfl
      refine .equals (by simp) (inductionHypothesis (fun outside flat => joins outside ?_) level rfl)
      rwa [openBehind_passed (by decide) fun _ => noClosing]
  | @arrow inside after isType inductionHypothesis =>
    obtain _ | ⟨d, _ | ⟨e, before⟩⟩ := before
    · exact absurd (List.cons.inj isText).1 (by decide)
    · exact absurd (List.cons.inj (List.cons.inj isText).2).1 (by decide)
    · rw [List.cons_append, List.cons_append] at isText
      obtain ⟨rfl, isRest⟩ := List.cons.inj isText
      obtain ⟨rfl, rfl⟩ := List.cons.inj isRest
      refine .arrow (inductionHypothesis (fun outside flat => joins outside ?_) level rfl)
      rwa [openBehind_arrow]
  | @group inside inner after bracket isTypeInner isType innerHypothesis inductionHypothesis =>
    cases before with
    | nil => exact absurd (List.cons.inj isText).1.symm (noSpace bracket).1
    | cons d before =>
      obtain ⟨rfl, isRest⟩ := List.cons.inj isText
      -- The space stands inside the bracket or behind it.
      rcases List.append_eq_append_iff.1 isRest with ⟨middle, isInner, isBehind⟩ |
        ⟨middle, isBefore, isAfter⟩
      · cases middle with
        | nil => exact absurd (List.cons.inj isBehind).1.symm (noSpace bracket).2
        | cons e middle =>
          rw [List.cons_append] at isBehind
          obtain ⟨rfl, rfl⟩ := List.cons.inj isBehind
          have broken := @innerHypothesis before middle nesting
            (fun outside => absurd outside (by simp)) (fun outside => absurd outside (by simp)) isInner.symm
          have group := IsType.group bracket broken isType
          simp only [List.append_assoc, List.cons_append] at group ⊢
          exact group
      · cases middle with
        | nil => exact absurd (List.cons.inj isAfter).1 (noSpace bracket).2
        | cons e middle =>
          rw [List.cons_append] at isAfter
          obtain ⟨rfl, rfl⟩ := List.cons.inj isAfter
          subst isBefore
          have broken := @inductionHypothesis middle behind nesting
            (fun outside flat => joins outside (by
              rwa [openBehind_opening, isTypeInner.openBehind_append, openBehind_closing])) level rfl
          have group := IsType.group bracket isTypeInner broken
          simp only [List.append_assoc, List.cons_append] at group ⊢
          exact group

end Concord.Source
