/-
Splitting a body or list into its members undoes writing them one after another. The walk that splits
passes a balanced text over: no separator inside it counts, and it leaves no bracket open. So the
members of pieces with separators between them are those pieces, and a piece of blanks alone is none.
The pieces are found in the masked view and taken from the clean view, which is just as long.
-/

import Concord.Proofs.Source.Scanning

namespace Concord.Source

open Text

/-! ### The walk past one character -/

section

variable (separation : Separation)

/-- Only the equals sign of an arrow is remembered. -/
theorem membersFrom_previous (nesting : Nesting) {previous : Option Char}
    (noArrow : previous ≠ some '=') (index begun : Nat) (inhabited : Bool) (count : Nat)
    (rest : List Char) :
    membersFrom separation ⟨nesting, previous, index, begun, inhabited⟩ count rest =
      membersFrom separation ⟨nesting, none, index, begun, inhabited⟩ count rest := by
  cases count with
  | zero => rfl
  | succ count =>
    cases rest with
    | nil => rfl
    | cons c rest =>
      have through : nesting.through previous c = nesting.through none c := by
        simp only [Nesting.through, if_neg noArrow, reduceCtorEq, ↓reduceIte]
      simp only [membersFrom, Separation.separates, Walk.advance, Walk.restart, Walk.member, through]

/-- An equals sign matters to an angle bracket behind it and to nothing else. -/
theorem membersFrom_head {nesting : Nesting} {previous : Option Char} {index begun count : Nat}
    {inhabited : Bool} {text : List Char} (noClosing : ∀ c, text.head? = some c → c ≠ '>') :
    membersFrom separation ⟨nesting, previous, index, begun, inhabited⟩ count text =
      membersFrom separation ⟨nesting, none, index, begun, inhabited⟩ count text := by
  cases count with
  | zero => rfl
  | succ count =>
    cases text with
    | nil => rfl
    | cons c text =>
      have through : nesting.through previous c = nesting.through none c := by
        simp only [Nesting.through, if_neg (noClosing c rfl)]
      simp only [membersFrom, Separation.separates, Walk.advance, Walk.restart, Walk.member, through]

theorem membersFrom_bracket {c : Char} (bracket : isBracket c = true) (nesting : Nesting)
    (previous : Option Char) (index begun : Nat) (inhabited : Bool) (count : Nat) (rest : List Char) :
    membersFrom separation ⟨nesting, previous, index, begun, inhabited⟩ (count + 1) (c :: rest) =
      membersFrom separation
        ⟨nesting.through previous c, some c, index + 1, begun, inhabited || !isBlank c⟩ count rest := by
  rw [membersFrom, if_neg]
  · rfl
  · rw [Separation.separates, bracket]
    simp

/-- What is open inside a bracket. -/
def Bracket.nested : Bracket → Nesting → Nesting
  | .angle, nesting => { nesting with angles := nesting.angles + 1 }
  | bracket, nesting => { nesting with awaited := bracket.closing :: nesting.awaited }

theorem Bracket.isFlat_nested (bracket : Bracket) (nesting : Nesting) :
    (bracket.nested nesting).isFlat = false := by
  cases bracket <;> simp [Bracket.nested, Nesting.isFlat]

theorem Bracket.through_opening (bracket : Bracket) (nesting : Nesting) :
    nesting.through none bracket.opening = bracket.nested nesting := by
  cases bracket <;> rfl

theorem Bracket.through_closing (bracket : Bracket) (nesting : Nesting) :
    (bracket.nested nesting).through none bracket.closing = nesting := by
  cases bracket <;> rfl

omit separation in
/-- What is no bracket opens and closes nothing. -/
theorem through_of_not_isBracket {c : Char} (plain : isBracket c = false) (nesting : Nesting)
    (previous : Option Char) : nesting.through previous c = nesting := by
  simp only [isBracket, Bool.or_eq_false_iff, Option.isSome_eq_false_iff, Option.isNone_iff_eq_none,
    beq_eq_false_iff_ne] at plain
  obtain ⟨⟨⟨noOpening, noClosing⟩, noLess⟩, noGreater⟩ := plain
  simp only [Nesting.through, noOpening, noClosing, noLess, noGreater, ↓reduceIte, Bool.false_eq_true]

/-- A character that is no bracket and separates nothing here. -/
theorem membersFrom_inner {c : Char} (plain : isBracket c = false) {nesting : Nesting}
    {previous : Option Char} {index begun : Nat} {inhabited : Bool} {rest : List Char}
    (inner : separation.separates ⟨nesting, previous, index, begun, inhabited⟩ c rest = false)
    (count : Nat) :
    membersFrom separation ⟨nesting, previous, index, begun, inhabited⟩ (count + 1) (c :: rest) =
      membersFrom separation ⟨nesting, some c, index + 1, begun, inhabited || !isBlank c⟩ count
        rest := by
  rw [membersFrom, inner, Walk.advance, through_of_not_isBracket plain]
  rfl

end

/-- Nothing separates but commas, semicolons and line breaks. -/
theorem marks_body : Separation.body.marks ⊆ [',', ';'] := by
  decide

theorem marks_list : Separation.list.marks ⊆ [',', ';'] := by
  decide

section

variable {separation : Separation} (marks : separation.marks ⊆ [',', ';'])

include marks

theorem separates_passed {inside braced : Bool} {c : Char} (passed : IsPassed inside braced c)
    {walk : Walk} (covered : inside = true → walk.nesting.isFlat = false) (rest : List Char) :
    separation.separates walk c rest = false := by
  have noBreak : (c == '\n') = false :=
    beq_false_of_ne (ne_of_not_structural passed.notStructural (by decide))
  rw [Separation.separates, noBreak]
  by_cases flat : walk.nesting.isFlat = false
  · simp [flat]
  · have outside : inside ≠ true := fun isInside => flat (covered isInside)
    have noMark : c ∉ separation.marks := by
      intro mark
      rcases List.mem_cons.1 (marks mark) with comma | later
      · exact outside (passed.comma comma)
      · exact outside (passed.semicolon (List.mem_singleton.1 later)).1
    simp [noMark]

end

/-! ### Where the walk leads -/

/-- The walk goes through the text without ending the member that it reads, and what is open before it
turns into what is open behind it. -/
def Leads (separation : Separation) (text following : List Char) (before after : Nesting) : Prop :=
  ∀ index begun inhabited count,
    membersFrom separation ⟨before, none, index, begun, inhabited⟩ (text.length + count)
        (text ++ following) =
      membersFrom separation ⟨after, none, index + text.length, begun, inhabited || !isAllBlank text⟩
        count following

section

variable {separation : Separation} {following : List Char}

theorem Leads.nil (nesting : Nesting) : Leads separation [] following nesting nesting := by
  intro index begun inhabited count
  simp [isAllBlank]

theorem Leads.append {first : List Char} (second : List Char) {before middle after : Nesting}
    (leads : Leads separation first (second ++ following) before middle)
    (leadsSecond : Leads separation second following middle after) :
    Leads separation (first ++ second) following before after := by
  intro index begun inhabited count
  rw [List.length_append, Nat.add_assoc, List.append_assoc, leads, leadsSecond, isAllBlank_append,
    Bool.not_and, Bool.or_assoc, Nat.add_assoc]

theorem leads_inner {c : Char} (plain : isBracket c = false) (noEquals : c ≠ '=') {nesting : Nesting}
    (inner : ∀ index begun inhabited,
      separation.separates ⟨nesting, none, index, begun, inhabited⟩ c following = false) :
    Leads separation [c] following nesting nesting := by
  intro index begun inhabited count
  rw [List.length_singleton, Nat.add_comm 1 count, List.singleton_append,
    membersFrom_inner _ plain (inner index begun inhabited),
    membersFrom_previous _ _ (fun same => noEquals (Option.some.inj same)), isAllBlank_cons, isAllBlank,
    List.all_nil, Bool.and_true]

theorem leads_bracket {c : Char} (bracket : isBracket c = true) (before : Nesting) :
    Leads separation [c] following before (before.through none c) := by
  have noEquals : some c ≠ some '=' := by
    intro same
    rw [Option.some.inj same] at bracket
    exact absurd bracket (by decide)
  intro index begun inhabited count
  rw [List.length_singleton, Nat.add_comm 1 count, List.singleton_append,
    membersFrom_bracket _ bracket, membersFrom_previous _ _ noEquals, isAllBlank_cons, isAllBlank,
    List.all_nil, Bool.and_true]

theorem leads_opening (bracket : Bracket) (nesting : Nesting) :
    Leads separation [bracket.opening] following nesting (bracket.nested nesting) := by
  have isBracket : isBracket bracket.opening = true := by cases bracket <;> rfl
  rw [← bracket.through_opening]
  exact leads_bracket isBracket nesting

theorem leads_closing (bracket : Bracket) (nesting : Nesting) :
    Leads separation [bracket.closing] following (bracket.nested nesting) nesting := by
  have isBracket : isBracket bracket.closing = true := by cases bracket <;> rfl
  have leads := @leads_bracket separation following _ isBracket (bracket.nested nesting)
  rwa [bracket.through_closing] at leads

/-- A text between brackets. -/
theorem Leads.bracketed (bracket : Bracket) {inner : List Char} (rest : List Char) {nesting : Nesting}
    (leads : Leads separation inner (bracket.closing :: (rest ++ following)) (bracket.nested nesting)
      (bracket.nested nesting))
    (leadsRest : Leads separation rest following nesting nesting) :
    Leads separation (bracket.opening :: (inner ++ bracket.closing :: rest)) following nesting nesting :=
  (leads_opening bracket nesting).append (inner ++ bracket.closing :: rest)
    (leads.append (bracket.closing :: rest) ((leads_closing bracket nesting).append rest leadsRest))

variable (marks : separation.marks ⊆ [',', ';'])

include marks

/-- An equals sign that makes no arrow. -/
theorem Leads.assigned {text : List Char} {before after : Nesting}
    (leads : Leads separation text following before after)
    (noClosing : ∀ c, (text ++ following).head? = some c → c ≠ '>') :
    Leads separation ('=' :: text) following before after := by
  intro index begun inhabited count
  have noMark : '=' ∉ separation.marks := fun mark => absurd (marks mark) (by decide)
  have inner : separation.separates ⟨before, none, index, begun, inhabited⟩ '=' (text ++ following) =
      false := by
    simp [Separation.separates, noMark]
  rw [List.length_cons, Nat.add_right_comm, List.cons_append, membersFrom_inner _ (by decide) inner,
    membersFrom_head _ noClosing, leads, isAllBlank_cons, show isBlank '=' = false by decide,
    Bool.not_false, Bool.or_true, Bool.false_and, Bool.not_false, Bool.or_true, Bool.true_or,
    Nat.add_assoc, Nat.add_comm 1]

theorem leads_arrow (nesting : Nesting) : Leads separation ['=', '>'] following nesting nesting := by
  intro index begun inhabited count
  have noMark : '=' ∉ separation.marks := fun mark => absurd (marks mark) (by decide)
  have inner : separation.separates ⟨nesting, none, index, begun, inhabited⟩ '=' ('>' :: following) =
      false := by
    simp [Separation.separates, noMark]
  have size : ['=', '>'].length + count = count + 1 + 1 := Nat.add_comm 2 count
  rw [size, List.cons_append, List.cons_append, List.nil_append,
    membersFrom_inner _ (by decide) inner, membersFrom_bracket _ (by decide),
    membersFrom_previous _ _ (by decide)]
  simp [Nesting.through, partner?, isClosing, isAllBlank, show isBlank '=' = false by decide]

theorem leads_passed {inside braced : Bool} {c : Char} (passed : IsPassed inside braced c)
    {nesting : Nesting} (covered : inside = true → nesting.isFlat = false) :
    Leads separation [c] following nesting nesting :=
  leads_inner (isBracket_of_not_structural passed.notStructural)
    (ne_of_not_structural passed.notStructural (by decide))
    fun _ _ _ => separates_passed marks passed covered following

/-- The walk goes through a balanced text and leaves open what was open before it. -/
theorem Balanced.leads {inside braced : Bool} {text : List Char}
    (balanced : Balanced inside braced text) {nesting : Nesting}
    (covered : inside = true → nesting.isFlat = false) :
    Leads separation text following nesting nesting := by
  induction balanced generalizing nesting following with
  | nil => exact .nil nesting
  | passed passed _ inductionHypothesis =>
    exact (leads_passed marks passed covered).append _ (inductionHypothesis covered)
  | arrow _ inductionHypothesis =>
    exact (leads_arrow marks nesting).append _ (inductionHypothesis covered)
  | group bracket _ _ innerHypothesis inductionHypothesis =>
    exact .bracketed bracket _ (innerHypothesis fun _ => bracket.isFlat_nested nesting)
      (inductionHypothesis covered)

end

/-! ### Pieces between separators -/

/-- The walk outside every bracket. -/
def Walk.level (begun index : Nat) (inhabited : Bool) : Walk :=
  ⟨.flat, none, index, begun, inhabited⟩

/-- Outside every bracket the walk goes through the text without ending the member that it reads; that
member is `inhabited` before the text. -/
def Passes (separation : Separation) (inhabited : Bool) (text following : List Char) : Prop :=
  ∀ begun index count,
    membersFrom separation (.level begun index inhabited) (text.length + count) (text ++ following) =
      membersFrom separation (.level begun (index + text.length) (inhabited || !isAllBlank text)) count
        following

/-- Outside every bracket the character ends a member that holds something. -/
def Ends (separation : Separation) (c : Char) (following : List Char) : Prop :=
  ∀ begun index, separation.separates (.level begun index true) c following = true

theorem Passes.append {separation : Separation} {inhabited : Bool} {first following : List Char}
    (second : List Char) (passes : Passes separation inhabited first (second ++ following))
    (passesSecond : Passes separation (inhabited || !isAllBlank first) second following) :
    Passes separation inhabited (first ++ second) following := by
  intro begun index count
  rw [List.length_append, Nat.add_assoc, List.append_assoc, passes, passesSecond, isAllBlank_append,
    Bool.not_and, Bool.or_assoc, Nat.add_assoc]

theorem Leads.passes {separation : Separation} {text following : List Char}
    (leads : Leads separation text following .flat .flat) (inhabited : Bool) :
    Passes separation inhabited text following :=
  fun begun index count => leads index begun inhabited count

theorem Balanced.passes {separation : Separation} (marks : separation.marks ⊆ [',', ';'])
    {braced : Bool} {text : List Char} (balanced : Balanced false braced text) (inhabited : Bool)
    (following : List Char) : Passes separation inhabited text following :=
  (balanced.leads marks (by simp)).passes inhabited

theorem membersFrom_separator {separation : Separation} (marks : separation.marks ⊆ [',', ';'])
    {c : Char} {following : List Char} (ends : Ends separation c following) (begun index count : Nat) :
    membersFrom separation (.level begun index true) (count + 1) (c :: following) =
      ⟨begun, index⟩ ::
        membersFrom separation (.level (index + 1) (index + 1) false) count following := by
  have separates := ends begun index
  have noEquals : some c ≠ some '=' := by
    intro same
    rw [Option.some.inj same, Separation.separates] at separates
    have noMark : '=' ∉ separation.marks := fun mark => absurd (marks mark) (by decide)
    simp [noMark] at separates
  rw [membersFrom, if_pos separates]
  exact congrArg (_ :: ·) (membersFrom_previous separation _ noEquals _ _ _ _ _)

theorem not_isBracket_of_isBlank {c : Char} (blank : isBlank c = true) : isBracket c = false := by
  have other : ∀ d ∈ ['\x7b', '\x7d', '[', ']', '(', ')', '<', '>'], c ≠ d := by
    rintro d member rfl
    have never : ∀ d ∈ ['\x7b', '\x7d', '[', ']', '(', ')', '<', '>'], isBlank d = false := by decide
    rw [never c member] at blank
    exact absurd blank (by simp)
  simp [isBracket, partner?, isClosing, other]

section

variable {separation : Separation} (marks : separation.marks ⊆ [',', ';'])

include marks

/-- A blank goes on with the member unless it is a line break before a new one. -/
theorem passes_blank {c : Char} (blank : isBlank c = true) {inhabited : Bool} {following : List Char}
    (joins : c = '\n' → separation.lineBreaks = true → inhabited = true →
      startsMember following = false) :
    Passes separation inhabited [c] following := by
  intro begun index count
  have noBracket := not_isBracket_of_isBlank blank
  have noMark : c ∉ separation.marks := by
    intro mark
    rcases List.mem_cons.1 (marks mark) with rfl | later
    · exact absurd blank (by decide)
    · rw [List.mem_singleton.1 later] at blank
      exact absurd blank (by decide)
  have noEquals : some c ≠ some '=' := by
    intro same
    rw [Option.some.inj same] at blank
    exact absurd blank (by decide)
  have goesOn : separation.separates (.level begun index inhabited) c following = false := by
    rw [Separation.separates, noBracket, Bool.not_false, Bool.true_and]
    by_cases isBreak : c = '\n' ∧ separation.lineBreaks = true ∧ inhabited = true
    · simp [noMark, joins isBreak.1 isBreak.2.1 isBreak.2.2]
    · have absent : (c == '\n' && separation.lineBreaks && inhabited) = false := by
        simpa [and_assoc] using isBreak
      simp [noMark, Walk.level, absent]
  rw [List.length_singleton, Nat.add_comm 1 count, List.singleton_append, Walk.level,
    membersFrom_inner separation noBracket goesOn, membersFrom_previous separation _ noEquals,
    isAllBlank_cons, isAllBlank, List.all_nil, Bool.and_true]
  rfl

/-- Blanks go on with a member, if line breaks do not separate or the member holds nothing so far. -/
theorem passes_blanks {text : List Char} (blank : isAllBlank text = true) {inhabited : Bool}
    (joins : separation.lineBreaks = true → inhabited = false) (following : List Char) :
    Passes separation inhabited text following := by
  induction text with
  | nil =>
    intro begun index count
    simp [isAllBlank]
  | cons c text inductionHypothesis =>
    rw [isAllBlank_cons, Bool.and_eq_true] at blank
    have first : Passes separation inhabited [c] (text ++ following) := by
      refine passes_blank marks blank.1 fun _ breaks isInhabited => ?_
      rw [joins breaks] at isInhabited
      exact absurd isInhabited (by simp)
    refine first.append text ?_
    rw [isAllBlank_cons, blank.1]
    simpa [isAllBlank] using inductionHypothesis blank.2

theorem passes_assignment {inhabited : Bool} (following : List Char) :
    Passes separation inhabited ['=', ' '] following := by
  have space : IsPassed false false ' ' := by decide
  have leads : Leads separation [' '] following .flat .flat := leads_passed marks space (by simp)
  refine (leads.assigned marks ?_).passes inhabited
  rintro c ⟨⟩
  decide

end

theorem ends_mark {separation : Separation} {c : Char} (mark : c ∈ separation.marks)
    (plain : isBracket c = false) (following : List Char) : Ends separation c following := by
  intro begun index
  simp [Separation.separates, plain, mark, Walk.level, Nesting.isFlat, Nesting.flat]

theorem ends_break {following : List Char} (starts : startsMember following = true) :
    Ends .body '\n' following := by
  intro begun index
  simp [Separation.separates, starts, Walk.level, Nesting.isFlat, Nesting.flat, Separation.body,
    isBracket, partner?, isClosing]

/-- Written one after another with a separator behind each but the last, the pieces are what the text
splits into; `rest` stands behind the text. -/
inductive Splits (separation : Separation) (rest : List Char) :
    (masked clean : List Char) → (pieces : List (List Char)) → Prop
  | blank {masked clean : List Char} (passes : Passes separation false masked rest)
      (blank : isAllBlank masked = true) : Splits separation rest masked clean []
  | last {masked clean : List Char} (passes : Passes separation false masked rest)
      (something : isAllBlank masked = false) (same : clean.length = masked.length) :
      Splits separation rest masked clean [clean]
  | next {masked clean text textClean : List Char} {separator : Char} {pieces : List (List Char)}
      (passes : Passes separation false masked (separator :: (text ++ rest)))
      (something : isAllBlank masked = false) (same : clean.length = masked.length)
      (ends : Ends separation separator (text ++ rest))
      (splits : Splits separation rest text textClean pieces) :
      Splits separation rest (masked ++ separator :: text) (clean ++ separator :: textClean)
        (clean :: pieces)

theorem slice_of_drop {text piece rest : List Char} {start size : Nat}
    (here : text.drop start = piece ++ rest) (same : piece.length = size) :
    Span.slice ⟨start, start + size⟩ text = piece := by
  rw [Span.slice, here, ← same, Nat.add_sub_cancel_left, List.take_left]

/-- A text that the walk passes to its end is one member, if it holds something. -/
theorem Passes.membersFrom_last {separation : Separation} {text rest : List Char}
    (passes : Passes separation false text rest) (begun : Nat) :
    membersFrom separation (.level begun begun false) text.length (text ++ rest) =
      if isAllBlank text then [] else [⟨begun, begun + text.length⟩] := by
  have walked := passes begun begun 0
  rw [Nat.add_zero] at walked
  rw [walked]
  cases isAllBlank text <;> rfl

/-- A text before a separator is one member; the walk goes on behind the separator. -/
theorem Passes.membersFrom_next {separation : Separation} (marks : separation.marks ⊆ [',', ';'])
    {text behind rest : List Char} {separator : Char}
    (passes : Passes separation false text (separator :: (behind ++ rest)))
    (something : isAllBlank text = false) (ends : Ends separation separator (behind ++ rest))
    (begun : Nat) :
    membersFrom separation (.level begun begun false) (text ++ separator :: behind).length
        (text ++ separator :: behind ++ rest) =
      ⟨begun, begun + text.length⟩ ::
        membersFrom separation (.level (begun + text.length + 1) (begun + text.length + 1) false)
          behind.length (behind ++ rest) := by
  have size : (text ++ separator :: behind).length = text.length + (behind.length + 1) := by
    rw [List.length_append, List.length_cons]
  have inhabited : (false || !isAllBlank text) = true := by
    rw [something]
    rfl
  rw [size, List.append_assoc, List.cons_append, passes, inhabited, membersFrom_separator marks ends]

theorem Splits.slices_membersFrom {separation : Separation} (marks : separation.marks ⊆ [',', ';'])
    {rest masked clean : List Char} {pieces : List (List Char)}
    (splits : Splits separation rest masked clean pieces) {whole tail : List Char} {begun : Nat}
    (here : whole.drop begun = clean ++ tail) :
    (membersFrom separation (.level begun begun false) masked.length (masked ++ rest)).map
      (·.slice whole) = pieces := by
  induction splits generalizing begun with
  | blank passes blank => rw [passes.membersFrom_last, if_pos blank, List.map_nil]
  | last passes something same =>
    rw [passes.membersFrom_last, something, if_neg (by simp), List.map_singleton, slice_of_drop here same]
  | @next masked clean text textClean separator pieces passes something same ends _ inductionHypothesis =>
    have behind : whole.drop (begun + masked.length + 1) = textClean ++ tail := by
      rw [List.append_assoc] at here
      rw [← same, ← List.drop_drop, drop_behind here]
      rfl
    rw [List.append_assoc] at here
    rw [passes.membersFrom_next marks something ends, List.map_cons, inductionHypothesis behind,
      slice_of_drop here same]

/-- The members of a stretch before which no equals sign stands. -/
theorem members_of_noArrow (separation : Separation) {text : List Char} {start : Nat}
    (noArrow : start = 0 ∨ text[start - 1]? ≠ some '=') (stop : Nat) :
    members separation text start stop =
      membersFrom separation (.level start start false) (stop - start) (text.drop start) := by
  have previous : (if start = 0 then none else text[start - 1]?) ≠ some '=' := by
    split
    · simp
    · rename_i positive
      exact noArrow.resolve_left positive
  exact membersFrom_previous separation _ previous _ _ _ _ _

/-- The members of a stretch of the masked view that stands where the clean view shows `clean`. -/
theorem Splits.slices_members {separation : Separation} (marks : separation.marks ⊆ [',', ';'])
    {rest masked clean : List Char} {pieces : List (List Char)}
    (splits : Splits separation rest masked clean pieces) (views : Views) {tail : List Char}
    {start : Nat} (maskedHere : views.masked.drop start = masked ++ rest)
    (cleanHere : views.clean.drop start = clean ++ tail)
    (noArrow : start = 0 ∨ views.masked[start - 1]? ≠ some '=') :
    (members separation views.masked start (start + masked.length)).map (·.slice views.clean) =
      pieces := by
  rw [members_of_noArrow separation noArrow, maskedHere, Nat.add_sub_cancel_left]
  exact splits.slices_membersFrom marks cleanHere

end Concord.Source
