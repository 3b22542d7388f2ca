/-
Splitting loses no text. The members of a stretch lie in it one behind the other, none of them is all blank,
and what stands in the stretch outside of them is blank or separates. The walk that splits keeps this of the
part that it has read: it knows where the member that it reads began and whether that member holds more than
blanks, and a member that holds nothing else is given up with all its text.
-/

import Concord.Source.Members

namespace Concord.Source

open Text

/-! ### Stretches of a text -/

/-- The position is one of the span. -/
def Span.Covers (span : Span) (position : Nat) : Prop :=
  span.start ≤ position ∧ position < span.stop

/-- The span holds a character that is not blank. -/
def Span.IsInhabited (span : Span) (text : List Char) : Prop :=
  ∃ position c, span.Covers position ∧ text[position]? = some c ∧ isBlank c = false

/-- The spans account for the stretch of the text from `start` up to `stop`: all that they leave out is blank
or one of the marks. -/
structure Accounts (marks : List Char) (text : List Char) (start stop : Nat) (spans : List Span) :
    Prop where
  within : ∀ span ∈ spans, start ≤ span.start ∧ span.stop ≤ stop
  inOrder : spans.Pairwise fun first second => first.stop < second.start
  inhabited : ∀ span ∈ spans, span.IsInhabited text
  leftOut : ∀ position, start ≤ position → position < stop →
    (∀ span ∈ spans, ¬ span.Covers position) →
    ∃ c, text[position]? = some c ∧ (isBlank c = true ∨ c ∈ marks)

theorem Span.not_isInhabited_of_le {span : Span} (empty : span.stop ≤ span.start) (text : List Char) :
    ¬ span.IsInhabited text := by
  rintro ⟨position, c, ⟨behind, before⟩, -, -⟩
  omega

/-- A stretch that is one character longer. -/
theorem Span.isInhabited_succ {text : List Char} {start stop : Nat} {c : Char}
    (here : text[stop]? = some c) (ordered : start ≤ stop) :
    Span.IsInhabited ⟨start, stop + 1⟩ text ↔
      Span.IsInhabited ⟨start, stop⟩ text ∨ isBlank c = false := by
  constructor
  · rintro ⟨position, d, ⟨behind, before⟩, isText, notBlank⟩
    rcases Nat.lt_succ_iff_lt_or_eq.1 before with earlier | last
    · exact .inl ⟨position, d, ⟨behind, earlier⟩, isText, notBlank⟩
    · rw [last, here] at isText
      exact .inr (Option.some.inj isText ▸ notBlank)
  · rintro (⟨position, d, ⟨behind, before⟩, found⟩ | notBlank)
    · exact ⟨position, d, ⟨behind, Nat.lt_succ_of_lt before⟩, found⟩
    · exact ⟨stop, c, ⟨ordered, Nat.lt_succ_self stop⟩, here, notBlank⟩

namespace Accounts

variable {marks text : List Char} {start stop : Nat}

/-- A stretch that holds something is accounted for by itself. -/
theorem whole (inhabited : Span.IsInhabited ⟨start, stop⟩ text) :
    Accounts marks text start stop [⟨start, stop⟩] where
  within := List.forall_mem_singleton.2 ⟨Nat.le_refl start, Nat.le_refl stop⟩
  inOrder := List.pairwise_singleton _ _
  inhabited := List.forall_mem_singleton.2 inhabited
  leftOut _ behind before uncovered :=
    absurd ⟨behind, before⟩ (uncovered _ (List.mem_singleton_self _))

/-- A stretch that holds nothing is accounted for by no span. -/
theorem nothing (empty : ¬ Span.IsInhabited ⟨start, stop⟩ text) (inText : stop ≤ text.length) :
    Accounts marks text start stop [] where
  within := fun _ member => absurd member List.not_mem_nil
  inOrder := .nil
  inhabited := fun _ member => absurd member List.not_mem_nil
  leftOut position behind before _ := by
    have isText := List.getElem?_eq_getElem (Nat.lt_of_lt_of_le before inText)
    refine ⟨_, isText, .inl (Bool.of_not_eq_false fun notBlank => ?_)⟩
    exact empty ⟨position, _, ⟨behind, before⟩, isText, notBlank⟩

/-- Two stretches with a character between them that may be left out. -/
theorem append {middle : Nat} {spans later : List Span} {c : Char}
    (accounts : Accounts marks text start middle spans) (here : text[middle]? = some c)
    (mayBeLeftOut : isBlank c = true ∨ c ∈ marks)
    (accountsLater : Accounts marks text (middle + 1) stop later) (near : start ≤ middle)
    (far : middle < stop) : Accounts marks text start stop (spans ++ later) where
  within := by
    refine List.forall_mem_append.2 ⟨fun span member => ?_, fun span member => ?_⟩
    · have within := accounts.within span member
      omega
    · have within := accountsLater.within span member
      omega
  inOrder := by
    refine List.pairwise_append.2 ⟨accounts.inOrder, accountsLater.inOrder, ?_⟩
    intro first member second laterMember
    have before := (accounts.within first member).2
    have behind := (accountsLater.within second laterMember).1
    omega
  inhabited := List.forall_mem_append.2 ⟨accounts.inhabited, accountsLater.inhabited⟩
  leftOut position behind before uncovered := by
    obtain ⟨uncoveredHere, uncoveredLater⟩ := List.forall_mem_append.1 uncovered
    rcases Nat.lt_trichotomy position middle with earlier | rfl | further
    · exact accounts.leftOut position behind earlier uncoveredHere
    · exact ⟨c, here, mayBeLeftOut⟩
    · exact accountsLater.leftOut position further before uncoveredLater

end Accounts

/-! ### The walk -/

/-- The walk stands in the text before `rest`, and knows whether the member that it reads holds anything. -/
structure Walk.StandsIn (walk : Walk) (text rest : List Char) : Prop where
  behind : text.drop walk.index = rest
  begun : walk.begun ≤ walk.index
  inhabited : walk.inhabited = true ↔ Span.IsInhabited ⟨walk.begun, walk.index⟩ text

namespace Walk.StandsIn

variable {walk : Walk} {text rest : List Char} {c : Char}

theorem getElem? (stands : walk.StandsIn text (c :: rest)) : text[walk.index]? = some c := by
  rw [← Nat.add_zero walk.index, ← List.getElem?_drop, stands.behind]
  rfl

theorem behind_succ (stands : walk.StandsIn text (c :: rest)) : text.drop (walk.index + 1) = rest := by
  rw [← List.drop_drop, stands.behind]
  rfl

theorem restart (stands : walk.StandsIn text (c :: rest)) : (walk.restart c).StandsIn text rest where
  behind := stands.behind_succ
  begun := Nat.le_refl _
  inhabited := iff_of_false Bool.false_ne_true (Span.not_isInhabited_of_le (Nat.le_refl _) text)

theorem advance (stands : walk.StandsIn text (c :: rest)) : (walk.advance c).StandsIn text rest where
  behind := stands.behind_succ
  begun := Nat.le_succ_of_le stands.begun
  inhabited := by
    rw [Walk.advance, Span.isInhabited_succ stands.getElem? stands.begun, ← stands.inhabited,
      Bool.or_eq_true, Bool.not_eq_true']

/-- The member that is being read accounts for what has been read of it. -/
theorem accounts_member (stands : walk.StandsIn text rest) (inText : walk.index ≤ text.length)
    (marks : List Char) : Accounts marks text walk.begun walk.index walk.member := by
  rw [Walk.member]
  split
  · next inhabited => exact .whole (stands.inhabited.1 inhabited)
  · next empty => exact .nothing (fun inhabited => empty (stands.inhabited.2 inhabited)) inText

end Walk.StandsIn

/-- What separates is a mark or a line break. -/
theorem Separation.blank_or_mark_of_separates {separation : Separation} {walk : Walk} {c : Char} {rest : List Char}
    (separates : separation.separates walk c rest = true) :
    isBlank c = true ∨ c ∈ separation.marks := by
  simp only [Separation.separates, Bool.and_eq_true, Bool.or_eq_true, List.contains_iff_mem,
    beq_iff_eq] at separates
  rcases separates.2 with mark | ⟨⟨⟨isBreak, -⟩, -⟩, -⟩
  · exact .inr mark
  · exact .inl (isBreak ▸ by decide)

/-- What the walk makes of the next characters accounts for the member that it reads and for all of them. -/
theorem accounts_membersFrom (separation : Separation) {walk : Walk} {text rest : List Char} {count : Nat}
    (stands : walk.StandsIn text rest) (inText : walk.index + count ≤ text.length) :
    Accounts separation.marks text walk.begun (walk.index + count)
      (membersFrom separation walk count rest) := by
  fun_induction membersFrom separation walk count rest with
  | case1 => exact stands.accounts_member inText _
  | case2 walk count =>
    -- The text does not end before the stretch does.
    have short : text.length ≤ walk.index := List.drop_eq_nil_iff.1 stands.behind
    omega
  | case3 walk count c rest separates inductionHypothesis =>
    -- The member read so far, the character that ends it, and what the walk makes of the rest.
    have later := inductionHypothesis stands.restart (by simp only [Walk.restart]; omega)
    simp only [Walk.restart, Nat.add_right_comm] at later
    exact (stands.accounts_member (by omega) _).append stands.getElem?
      (Separation.blank_or_mark_of_separates separates) later stands.begun (by omega)
  | case4 walk count c rest goesOn inductionHypothesis =>
    have later := inductionHypothesis stands.advance (by simp only [Walk.advance]; omega)
    simp only [Walk.advance, Nat.add_right_comm] at later
    exact later

theorem Walk.standsIn_start (text : List Char) (previous : Option Char) (start : Nat) :
    Walk.StandsIn ⟨.flat, previous, start, start, false⟩ text (text.drop start) where
  behind := rfl
  begun := Nat.le_refl start
  inhabited := iff_of_false Bool.false_ne_true (Span.not_isInhabited_of_le (Nat.le_refl start) text)

/-- The members of a stretch account for it, whatever the text and whatever separates. -/
theorem accounts_members (separation : Separation) {text : List Char} {start stop : Nat}
    (ordered : start ≤ stop) (inText : stop ≤ text.length) :
    Accounts separation.marks text start stop (members separation text start stop) := by
  have size : start + (stop - start) = stop := Nat.add_sub_cancel' ordered
  have walked : Accounts separation.marks text start (start + (stop - start))
      (members separation text start stop) :=
    accounts_membersFrom separation (Walk.standsIn_start text _ start) (size.symm ▸ inText)
  rwa [size] at walked

/-- A stray bracket, separators with blanks between them, and a line break at the end of the stretch before a
member that begins behind it. -/
def strayText : List Char :=
  "a] ; ,b\nc: d".toList

theorem accounts_members_stray :
    (1 ≤ 8 ∧ 8 ≤ strayText.length) ∧ members .body strayText 1 8 = [⟨1, 3⟩, ⟨6, 7⟩] ∧
      Accounts [';', ','] strayText 1 8 [⟨1, 3⟩, ⟨6, 7⟩] := by
  have spans : members .body strayText 1 8 = [⟨1, 3⟩, ⟨6, 7⟩] := by decide
  have accounts : Accounts [';', ','] strayText 1 8 (members .body strayText 1 8) :=
    accounts_members .body (by decide) (by decide)
  rw [spans] at accounts
  exact ⟨by decide, spans, accounts⟩

end Concord.Source
