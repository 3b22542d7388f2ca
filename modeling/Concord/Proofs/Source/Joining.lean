/-
Splitting undoes joining. A member whose brackets are properly nested leaves no bracket open behind it, so the
walk that splits comes to the separator behind it as it came to its first character, and the separator ends it.
Line breaks have no part in that: a member holds none outside of its brackets.
-/

import Concord.Proofs.Source.Splitting

namespace Concord.Source

open Text

/-! ### Properly nested texts -/

/-- Stands for itself: it is no bracket, and outside of brackets it neither separates nor ends a line. -/
structure IsFree (marks : List Char) (inside : Bool) (c : Char) : Prop where
  noBracket : isBracket c = false
  noMark : c ∈ marks → inside = true
  noBreak : c = '\n' → inside = true

instance (marks : List Char) (inside : Bool) : DecidablePred (IsFree marks inside) := fun c =>
  decidable_of_iff
    (isBracket c = false ∧ (c ∈ marks → inside = true) ∧ (c = '\n' → inside = true))
    ⟨fun all => ⟨all.1, all.2.1, all.2.2⟩, fun free => ⟨free.noBracket, free.noMark, free.noBreak⟩⟩

/-- Every bracket of the text has its partner, and pairs do not cross. A `>` right behind an equals sign makes
an arrow and is no bracket. The text may stand `inside` a bracket itself. -/
inductive ProperlyNested (marks : List Char) : (inside : Bool) → List Char → Prop
  | nil {inside : Bool} : ProperlyNested marks inside []
  | free {inside : Bool} {c : Char} {rest : List Char} (free : IsFree marks inside c)
      (nested : ProperlyNested marks inside rest) : ProperlyNested marks inside (c :: rest)
  | arrow {inside : Bool} {rest : List Char} (nested : ProperlyNested marks inside rest) :
      ProperlyNested marks inside ('=' :: '>' :: rest)
  | group {inside : Bool} {inner rest : List Char} (bracket : Bracket)
      (nestedInner : ProperlyNested marks true inner)
      (noArrow : bracket = .angle → inner.getLast? ≠ some '=')
      (nested : ProperlyNested marks inside rest) :
      ProperlyNested marks inside (bracket.opening :: (inner ++ bracket.closing :: rest))

namespace ProperlyNested

variable {marks : List Char} {inside : Bool} {text : List Char}

theorem run {rest : List Char} (run : List Char) (free : ∀ c ∈ run, IsFree marks inside c)
    (nested : ProperlyNested marks inside rest) : ProperlyNested marks inside (run ++ rest) := by
  induction run with
  | nil => exact nested
  | cons c run inductionHypothesis =>
    obtain ⟨here, later⟩ := List.forall_mem_cons.1 free
    exact .free here (inductionHypothesis later)

/-- No text opens with a bracket that closes. -/
theorem head?_ne (nested : ProperlyNested marks inside text) : text.head? ≠ some '>' := by
  cases nested with
  | nil => simp
  | free free _ =>
    rintro ⟨⟩
    exact absurd free.noBracket (by decide)
  | arrow _ => simp
  | group bracket _ _ _ => cases bracket <;> simp [Bracket.opening]

end ProperlyNested

/-! ### The walk through a member -/

section

variable {separation : Separation}

theorem separates_free {inside : Bool} {c : Char} (free : IsFree separation.marks inside c) {walk : Walk}
    (covered : inside = true → walk.nesting.isFlat = false) (rest : List Char) :
    separation.separates walk c rest = false := by
  cases inside with
  | true => simp [Separation.separates, covered rfl]
  | false =>
    have noMark : c ∉ separation.marks := fun mark => absurd (free.noMark mark) (by simp)
    have noBreak : c ≠ '\n' := fun same => absurd (free.noBreak same) (by simp)
    simp [Separation.separates, noMark, noBreak]

/-- The walk goes through the text and leaves open what was open before it. Only an equals sign at its end
could make an arrow of what follows. -/
theorem ProperlyNested.leads (marks : separation.marks ⊆ [',', ';']) {inside : Bool} {text : List Char}
    (nested : ProperlyNested separation.marks inside text) {nesting : Nesting}
    (covered : inside = true → nesting.isFlat = false) {following : List Char}
    (noArrow : text.getLast? = some '=' → following.head? ≠ some '>') :
    Leads separation text following nesting nesting := by
  induction nested generalizing nesting following with
  | nil => exact .nil nesting
  | @free inside c rest free nested inductionHypothesis =>
    have noArrowBehind : rest.getLast? = some '=' → following.head? ≠ some '>' := fun last => noArrow
      (by rw [List.getLast?_cons, last]; rfl)
    have leadsRest := inductionHypothesis covered noArrowBehind
    -- An equals sign is a character like any other unless a `>` comes next; neither the rest of the text nor
    -- what follows the text opens with one.
    by_cases isEquals : c = '='
    · rw [isEquals]
      refine leadsRest.assigned marks fun d first => ?_
      rintro rfl
      cases rest with
      | nil => exact noArrow (by rw [isEquals]; rfl) first
      | cons => exact nested.head?_ne first
    · exact (leads_inner free.noBracket isEquals fun _ _ _ => separates_free free covered _).append rest
        leadsRest
  | @arrow inside rest nested inductionHypothesis =>
    refine (leads_arrow marks nesting).append rest (inductionHypothesis covered fun last => noArrow ?_)
    rw [List.getLast?_cons, List.getLast?_cons, last]
    rfl
  | @group inside inner rest bracket nestedInner noArrowInside nested innerHypothesis inductionHypothesis =>
    refine .bracketed bracket rest (innerHypothesis (fun _ => bracket.isFlat_nested nesting) ?_)
      (inductionHypothesis covered fun last => noArrow ?_)
    · intro last
      cases bracket with
      | angle => exact absurd last (noArrowInside rfl)
      | round | square | curly => simp [Bracket.closing]
    · rw [List.getLast?_cons_of_ne_nil (by simp), List.getLast?_append_of_ne_nil _ (by simp),
        List.getLast?_cons, last]
      rfl

end

/-! ### Members between separators -/

/-- A member: more than blanks, with its brackets properly nested, and neither a mark nor a line break outside
of them. -/
structure IsMember (marks member : List Char) : Prop where
  something : isAllBlank member = false
  nested : ProperlyNested marks false member

/-- The text is the members one after another, with one of the marks between neighbours. -/
inductive IsJoined (marks : List Char) : (members : List (List Char)) → (text : List Char) → Prop
  | none : IsJoined marks [] []
  | last (member : List Char) : IsJoined marks [member] member
  | next {member other text : List Char} {members : List (List Char)} {separator : Char}
      (mark : separator ∈ marks) (joined : IsJoined marks (other :: members) text) :
      IsJoined marks (member :: other :: members) (member ++ separator :: text)

/-- Where the members stand that are written one after another from a position on, with one character between
neighbours. -/
def spansFrom (begun : Nat) : List (List Char) → List Span
  | [] => []
  | member :: members =>
    ⟨begun, begun + member.length⟩ :: spansFrom (begun + member.length + 1) members

section

variable {separation : Separation} (marks : separation.marks ⊆ [',', ';'])

include marks

/-- The walk that stands outside of every bracket before joined members finds each of them where it stands. -/
theorem membersFrom_joined {members : List (List Char)} {text : List Char}
    (joined : IsJoined separation.marks members text)
    (each : ∀ member ∈ members, IsMember separation.marks member) (begun : Nat) :
    membersFrom separation (.level begun begun false) text.length text = spansFrom begun members := by
  induction joined generalizing begun with
  | none => rfl
  | last member =>
    obtain ⟨something, nested⟩ := each member (List.mem_singleton_self member)
    have passes : Passes separation false member [] :=
      (nested.leads marks (by simp) fun _ => by simp).passes false
    have walked := passes.membersFrom_last begun
    rwa [List.append_nil, something, if_neg (by simp)] at walked
  | @next member other text members separator mark _ inductionHypothesis =>
    obtain ⟨⟨something, nested⟩, others⟩ := List.forall_mem_cons.1 each
    have noBracket : isBracket separator = false := by
      have known : ∀ c ∈ [',', ';'], isBracket c = false := by decide
      exact known separator (marks mark)
    have noArrow : (separator :: text).head? ≠ some '>' := by
      rintro ⟨⟩
      exact absurd noBracket (by decide)
    have passes : Passes separation false member (separator :: (text ++ [])) := by
      rw [List.append_nil]
      exact (nested.leads marks (by simp) fun _ => noArrow).passes false
    have walked := passes.membersFrom_next marks something (ends_mark mark noBracket _) begun
    rw [List.append_nil, List.append_nil, inductionHypothesis others] at walked
    exact walked

omit marks in
/-- Each span covers the member that it stands for. -/
theorem slices_spansFrom {marks : List Char} {members : List (List Char)} {text whole : List Char}
    (joined : IsJoined marks members text) {begun : Nat} (here : whole.drop begun = text) :
    (spansFrom begun members).map (·.slice whole) = members := by
  induction joined generalizing begun with
  | none => rfl
  | last member =>
    rw [← List.append_nil member] at here
    rw [spansFrom, spansFrom, List.map_singleton, slice_of_drop here rfl]
  | @next member other text members separator _ _ inductionHypothesis =>
    have behind : whole.drop (begun + member.length + 1) = text := by
      rw [← List.drop_drop, drop_behind here]
      rfl
    rw [spansFrom, List.map_cons, slice_of_drop here rfl, inductionHypothesis behind]

end

/-- Splitting undoes joining: the members of a text that has been joined of members are these, each where it
stands in the text, whichever of the marks stand between them and whether line breaks separate or not. -/
theorem allMembers_joined {marks : List Char} (known : marks ⊆ [',', ';']) (lineBreaks : Bool)
    {texts : List (List Char)} {text : List Char} (joined : IsJoined marks texts text)
    (each : ∀ member ∈ texts, IsMember marks member) :
    allMembers ⟨marks, lineBreaks⟩ text = spansFrom 0 texts ∧
      (allMembers ⟨marks, lineBreaks⟩ text).map (·.slice text) = texts := by
  have spans : allMembers ⟨marks, lineBreaks⟩ text = spansFrom 0 texts :=
    @membersFrom_joined ⟨marks, lineBreaks⟩ known _ _ joined each 0
  rw [spans]
  exact ⟨rfl, slices_spansFrom joined rfl⟩

/-- A call with a comma inside its parentheses, an unfinished assignment, and an arrow between angle
brackets. -/
def callTexts : List (List Char) :=
  ["f(a, b)".toList, " x =".toList, "g<(y) => \x7bz; w\x7d>".toList]

/-- The three with a comma and a semicolon between them. -/
def callText : List Char :=
  "f(a, b), x =;g<(y) => \x7bz; w\x7d>".toList

theorem isJoined_callTexts : IsJoined [';', ','] callTexts callText :=
  .next (by decide) (.next (by decide) (.last _))

theorem isMember_callTexts : ∀ member ∈ callTexts, IsMember [';', ','] member := by
  have call : ProperlyNested [';', ','] false "f(a, b)".toList :=
    .run ['f'] (by decide) (.group .round (.run "a, b".toList (by decide) .nil) (by simp) .nil)
  have assignment : ProperlyNested [';', ','] false " x =".toList := .run " x =".toList (by decide) .nil
  have body : ProperlyNested [';', ','] true " \x7bz; w\x7d".toList :=
    .run [' '] (by decide) (.group .curly (.run "z; w".toList (by decide) .nil) (by simp) .nil)
  have arrow : ProperlyNested [';', ','] true "(y) => \x7bz; w\x7d".toList :=
    .group .round (.run ['y'] (by decide) .nil) (by simp) (.run [' '] (by decide) (.arrow body))
  have application : ProperlyNested [';', ','] false "g<(y) => \x7bz; w\x7d>".toList :=
    .run ['g'] (by decide) (.group .angle arrow (by decide) .nil)
  have something : ∀ member ∈ callTexts, isAllBlank member = false := by decide
  intro member isText
  refine ⟨something member isText, ?_⟩
  simp only [callTexts, List.mem_cons, List.not_mem_nil, or_false] at isText
  rcases isText with rfl | rfl | rfl
  · exact call
  · exact assignment
  · exact application

theorem allMembers_joined_callTexts :
    ([';', ','] ⊆ [',', ';'] ∧ IsJoined [';', ','] callTexts callText ∧
        ∀ member ∈ callTexts, IsMember [';', ','] member) ∧
      allMembers .body callText = [⟨0, 7⟩, ⟨8, 12⟩, ⟨13, 29⟩] ∧
      (allMembers .body callText).map (·.slice callText) = callTexts := by
  have joined := allMembers_joined (by decide) true isJoined_callTexts isMember_callTexts
  exact ⟨⟨by decide, isJoined_callTexts, isMember_callTexts⟩, joined.1, joined.2⟩

end Concord.Source
