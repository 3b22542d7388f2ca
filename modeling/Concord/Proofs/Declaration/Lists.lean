/-
Lists of parameters and of supertypes. Both are split in the clean view, so a bracket or a comma in a
string literal splits them, and the word `extends` in one begins a list of supertypes: of two regions with
the same masked view one may list more than the other. Where the literals hold nothing of the kind, the
clean view is split as the masked view is, every name stands before the first quote of its entry, and the
lists agree.
-/

import Concord.Proofs.Declaration.Fields
import Concord.Proofs.Declaration.Signatures

namespace Concord

open Source Text

/-! ### Walks over both views of a list -/

namespace Source

/-- A text that opens with no bracket and no comma. -/
def splitsNothing : List Char → Bool
  | [] => true
  | c :: _ => !isBracket c && c != ','

theorem isBracket_of_ends {c : Char} (ends : isQuote c = true ∨ c = '\n') :
    isBracket c = false ∧ c ≠ ',' := by
  rcases ends with quotes | rfl
  · refine ⟨isIn_of_isQuote quotes (by decide), ?_⟩
    rintro rfl
    exact absurd quotes (by decide)
  · decide

theorem isBracket_blanked (c : Char) : isBracket (blanked c) = false ∧ blanked c ≠ ',' := by
  unfold blanked
  split <;> decide

theorem isBracket_of_splitsNothing {c : Char} {rest : List Char}
    (harmless : splitsNothing (c :: rest) = true) : isBracket c = false ∧ c ≠ ',' := by
  simpa [splitsNothing] using harmless

theorem separates_list (walk : Walk) (c : Char) (rest : List Char) :
    Separation.list.separates walk c rest = (!isBracket c && walk.nesting.isFlat && c == ',') := by
  simp only [Separation.separates, Separation.list, List.contains_cons, List.contains_nil, Bool.or_false,
    Bool.and_false, Bool.false_and]

theorem Nesting.through_plain {c : Char} (plain : isBracket c = false) (nesting : Nesting)
    (previous : Option Char) : nesting.through previous c = nesting := by
  simp only [isBracket, Bool.or_eq_false_iff, Option.isSome_eq_false_iff, Option.isNone_iff_eq_none,
    beq_eq_false_iff_ne] at plain
  obtain ⟨⟨⟨noPartner, notClosing⟩, notLess⟩, notGreater⟩ := plain
  rw [through, noPartner]
  simp only [notClosing, notLess, notGreater, if_false, Bool.false_eq_true]

/-- The walk goes on over a character that neither nests nor separates. -/
theorem membersFrom_plain {c : Char} (plain : isBracket c = false ∧ c ≠ ',') (walk : Walk)
    (count : Nat) (rest : List Char) :
    membersFrom .list walk (count + 1) (c :: rest) =
      membersFrom .list
        ⟨walk.nesting, some c, walk.index + 1, walk.begun, walk.inhabited || !isBlank c⟩ count rest := by
  rw [membersFrom, separates_list, if_neg (by simp [plain.2]), Walk.advance,
    Nesting.through_plain plain.1]

section

variable {mayHide : List Char → Prop} {inLiteral : Bool} {clean masked : List Char}
  (harmless : ∀ text, mayHide text → splitsNothing text = true)

include harmless

/-- Both views of a list have the same entries. Outside a literal the walks have met the same character
last; inside, each has met a quote in its entry. -/
theorem Veils.membersFrom_eq (veils : Veils mayHide inLiteral clean masked) {walk : Walk}
    {previous : Option Char} (outside : inLiteral = false → previous = walk.previous)
    (inside : inLiteral = true → walk.inhabited = true) (count : Nat) :
    membersFrom .list walk count clean =
      membersFrom .list { walk with previous := previous } count masked := by
  induction veils generalizing walk previous count with
  | nil => cases count <;> rfl
  | code _ _ inductionHypothesis =>
    cases count with
    | zero => rfl
    | succ count =>
      rw [outside rfl, membersFrom, membersFrom, separates_list, separates_list]
      split
      · exact congrArg (walk.member ++ ·) (inductionHypothesis (fun _ => rfl) (by simp) count)
      · exact inductionHypothesis (fun _ => rfl) (by simp) count
  | opening quotes _ inductionHypothesis =>
    cases count with
    | zero => rfl
    | succ count =>
      rw [membersFrom_plain (isBracket_of_ends (.inl quotes)),
        membersFrom_plain (isBracket_of_ends (.inl quotes))]
      refine inductionHypothesis (by simp) (fun _ => ?_) count
      simp [not_isBlank_of_isQuote quotes]
  | closing ends _ inductionHypothesis =>
    cases count with
    | zero => rfl
    | succ count =>
      rw [membersFrom_plain (isBracket_of_ends ends), membersFrom_plain (isBracket_of_ends ends)]
      exact inductionHypothesis (fun _ => rfl) (by simp) count
  | hidden may _ inductionHypothesis =>
    cases count with
    | zero => rfl
    | succ count =>
      rw [membersFrom_plain (isBracket_of_splitsNothing (harmless _ may)),
        membersFrom_plain (isBracket_blanked _)]
      simp only [inside rfl, Bool.true_or]
      exact inductionHypothesis (by simp) (fun _ => rfl) count

theorem Veils.allMembers_eq (veils : Veils mayHide false clean masked) :
    allMembers .list clean = allMembers .list masked := by
  rw [allMembers, allMembers, members, members, veils.length_eq]
  exact veils.membersFrom_eq harmless (fun _ => rfl) (by simp) _

end

end Source

/-! ### Reading an entry -/

namespace Member

variable {first second : List Char}

/-- A colon, perhaps behind blanks, and a type behind it. -/
def typed? (isOptional : Bool) (text : List Char) : Option (Bool × List Char) :=
  match stripStart text with
  | ':' :: c :: rest => some (isOptional, c :: rest)
  | _ => none

theorem annotation?_of_ne {text : List Char} (noQuestion : text.head? ≠ some '?') :
    annotation? text = typed? false text := by
  unfold annotation?
  split
  rename_i isOptional behind isMatch
  split at isMatch
  · exact absurd rfl noQuestion
  · obtain ⟨rfl, rfl⟩ := Prod.mk.inj isMatch
    rfl

theorem typed?_of_ne {isOptional : Bool} {text : List Char}
    (noColon : (stripStart text).head? ≠ some ':') : typed? isOptional text = none := by
  unfold typed?
  split
  · rename_i isText
    rw [isText] at noColon
    exact absurd rfl noColon
  · rfl

theorem typed?_alike (alike : LookAlike first second) (isOptional : Bool) :
    Option.Rel (fun read other => read.1 = other.1) (typed? isOptional first)
      (typed? isOptional second) := by
  have stripped := SameToQuote.stripStart alike
  by_cases colon : (stripStart first).head? = some ':'
  · obtain ⟨rest, other, isFirst, isSecond, same⟩ := stripped.exists_cons (by decide) colon
    rw [typed?, typed?, isFirst, isSecond]
    cases same with
    | nil => exact .none
    | quote | plain => exact .some rfl
  · rw [typed?_of_ne colon, typed?_of_ne (stripped.head?_eq ▸ colon)]
    exact .none

theorem annotation?_alike (alike : LookAlike first second) :
    Option.Rel (fun read other => read.1 = other.1) (annotation? first) (annotation? second) := by
  by_cases question : first.head? = some '?'
  · obtain ⟨rest, other, rfl, rfl, same⟩ := alike.exists_cons (by decide) question
    exact typed?_alike same true
  · rw [annotation?_of_ne question, annotation?_of_ne (alike.head?_eq ▸ question)]
    exact typed?_alike alike false

/-- Entries that look alike have the same name and are both optional or neither is. -/
def SameName (read other : List Char × Bool × List Char) : Prop :=
  read.1 = other.1 ∧ read.2.1 = other.2.1

theorem annotated?_alike (alike : LookAlike first second) :
    Option.Rel SameName (annotated? identifier? first) (annotated? identifier? second) := by
  refine rel_bind (SameToQuote.identifier? alike) fun read other sameRead => ?_
  exact rel_bind (annotation?_alike sameRead.2) fun _ _ sameMark => .some ⟨sameRead.1, sameMark⟩

theorem readonlyAnnotated?_alike (alike : LookAlike first second) :
    Option.Rel SameName (readonlyAnnotated? identifier? first)
      (readonlyAnnotated? identifier? second) := by
  refine rel_or (rel_bind (SameToQuote.spacedKeyword? alike (by decide)) fun _ _ rest => ?_)
    (annotated?_alike alike)
  exact annotated?_alike rest

end Member

/-- What of a parameter does not hang on its type. -/
def Parameter.outline (parameter : Parameter) : String × Bool :=
  (parameter.name, parameter.isOptional)

namespace Member

variable {mayHide : List Char → Prop} {clean masked : List Char}
  (harmless : ∀ text, mayHide text → splitsNothing text = true)

include harmless

/-- Where nothing hidden splits a list, its entries have the names and marks that the masked view shows. -/
theorem outlines_parameters (veils : Veils mayHide false clean masked) :
    (parameters clean).map (·.outline) = (parameters masked).map (·.outline) := by
  rw [parameters, parameters, veils.allMembers_eq harmless, List.map_filterMap, List.map_filterMap]
  refine List.filterMap_congr fun span isMember => ?_
  have alike : LookAlike (span.slice clean) (span.slice masked) := by
    rcases start_of_mem_list isMember with begins | ⟨later, comma⟩
    · have whole := veils.take (span.stop - span.start)
      rw [← List.drop_zero (l := clean), ← List.drop_zero (l := masked), ← begins] at whole
      exact whole.sameToQuote.lookAlike
    · have fromHere := veils.behind comma (by decide)
      rw [Nat.sub_add_cancel later] at fromHere
      exact (fromHere.take _).sameToQuote.lookAlike
  have read := readonlyAnnotated?_alike alike.strip
  generalize readonlyAnnotated? identifier? (strip (span.slice clean)) = found,
    readonlyAnnotated? identifier? (strip (span.slice masked)) = other at read ⊢
  cases read with
  | none => rfl
  | some same => simp only [Option.map_some, Parameter.outline, same.1, same.2]

end Member

/-! ### Supertypes in both views -/

namespace Header

/-- A text that opens with nothing that a header heeds: no bracket, no comma and not the word `extends`. -/
def isUnheeded (text : List Char) : Bool :=
  splitsNothing text && (after? "extends".toList text).isNone

theorem after?_extends {c : Char} (other : c ≠ 'e') (rest : List Char) :
    after? "extends".toList (c :: rest) = none :=
  if_neg other.symm

theorem isUnheeded_shown {c : Char} (shown : blanked c = c) (rest : List Char) :
    isUnheeded (c :: rest) = true := by
  have noLetter : c ≠ 'e' := by
    rintro rfl
    exact absurd shown (by decide)
  have plain := isBracket_blanked c
  rw [shown] at plain
  rw [isUnheeded, after?_extends noLetter, splitsNothing, plain.1, bne_iff_ne.2 plain.2]
  rfl

theorem splitsNothing_of_isUnheeded {text : List Char} (unheeded : isUnheeded text = true) :
    splitsNothing text = true :=
  (Bool.and_eq_true_iff.1 unheeded).1

theorem ne_of_ends {c : Char} (ends : isQuote c = true ∨ c = '\n') : c ≠ 'e' := by
  rintro rfl
  exact absurd ends (by decide)

/-- The walk behind type parameters goes on over a character that is no bracket. -/
theorem behindTypeParameters_plain {c : Char} (plain : isBracket c = false) (depth : Nat)
    (previous : Option Char) (rest : List Char) :
    behindTypeParameters depth previous (c :: rest) = behindTypeParameters depth (some c) rest := by
  have other : c ≠ '<' ∧ c ≠ '>' := by
    constructor <;> rintro rfl <;> exact absurd plain (by decide)
  rw [behindTypeParameters, if_neg other.1, if_neg fun both => other.2 both.1]

/-- The search for a keyword goes on over a place where the keyword does not stand. -/
theorem behindKeyword?_of_none {keyword rest : List Char} {c : Char}
    (absent : after? keyword (c :: rest) = none) (previous : Option Char) :
    behindKeyword? keyword previous (c :: rest) = behindKeyword? keyword (some c) rest := by
  rw [behindKeyword?, absent, ite_self]

section

variable {inLiteral : Bool} {clean masked : List Char}
  (veils : Veils (fun text => isUnheeded text = true) inLiteral clean masked)

include veils

theorem veils_behindTypeParameters {depth : Nat} {previous other : Option Char}
    (outside : inLiteral = false → other = previous) :
    Veils (fun text => isUnheeded text = true) false (behindTypeParameters depth previous clean)
      (behindTypeParameters depth other masked) := by
  induction veils generalizing depth previous other with
  | nil => exact .nil
  | code _ rest inductionHypothesis =>
    rw [outside rfl, behindTypeParameters, behindTypeParameters]
    split
    · exact inductionHypothesis fun _ => rfl
    · split
      · split
        · exact rest
        · exact inductionHypothesis fun _ => rfl
      · exact inductionHypothesis fun _ => rfl
  | opening quotes _ inductionHypothesis =>
    have plain := (isBracket_of_ends (.inl quotes)).1
    rw [behindTypeParameters_plain plain, behindTypeParameters_plain plain]
    exact inductionHypothesis fun _ => rfl
  | closing ends _ inductionHypothesis =>
    have plain := (isBracket_of_ends ends).1
    rw [behindTypeParameters_plain plain, behindTypeParameters_plain plain]
    exact inductionHypothesis fun _ => rfl
  | hidden may _ inductionHypothesis =>
    have plain := (isBracket_of_splitsNothing (splitsNothing_of_isUnheeded may)).1
    rw [behindTypeParameters_plain plain, behindTypeParameters_plain (isBracket_blanked _).1]
    exact inductionHypothesis (by simp)

theorem veils_behindKeyword? {previous other : Option Char}
    (outside : inLiteral = false → other = previous) :
    Option.Rel (Veils (fun text => isUnheeded text = true) false)
      (behindKeyword? "extends".toList previous clean)
      (behindKeyword? "extends".toList other masked) := by
  induction veils generalizing previous other with
  | nil => exact .none
  | @code c clean masked plain rest inductionHypothesis =>
    have later := inductionHypothesis fun _ => Eq.refl (some c)
    rw [outside rfl, behindKeyword?, behindKeyword?]
    have found : Option.Rel (SameToQuote _) (after? "extends".toList (c :: clean))
        (after? "extends".toList (c :: masked)) := (rest.sameToQuote.plain plain).after? (by decide)
    generalize after? "extends".toList (c :: clean) = tail,
      after? "extends".toList (c :: masked) = otherTail at found ⊢
    cases isWordAt previous with
    | true => exact later
    | false =>
      cases found with
      | none => exact later
      | some same =>
        simp only [same.head?_eq, Bool.false_eq_true, if_false]
        split
        · exact later
        · exact .some same.veils
  | opening quotes _ inductionHypothesis =>
    have absent := after?_extends (ne_of_ends (.inl quotes))
    rw [behindKeyword?_of_none (absent _), behindKeyword?_of_none (absent _)]
    exact inductionHypothesis fun _ => rfl
  | closing ends _ inductionHypothesis =>
    have absent := after?_extends (ne_of_ends ends)
    rw [behindKeyword?_of_none (absent _), behindKeyword?_of_none (absent _)]
    exact inductionHypothesis fun _ => rfl
  | @hidden c _ _ may _ inductionHypothesis =>
    have absent := Option.isNone_iff_eq_none.1 (Bool.and_eq_true_iff.1 may).2
    have absentMasked := after?_extends (blanked_ne (c := c) (d := 'e') (by decide) (by decide))
    rw [behindKeyword?_of_none absent, behindKeyword?_of_none (absentMasked _)]
    exact inductionHypothesis (by simp)

end

variable {clean masked : List Char}

theorem withoutTypeParameters_of_ne {header : List Char}
    (none : (stripStart header).head? ≠ some '<') : withoutTypeParameters header = stripStart header := by
  unfold withoutTypeParameters
  split
  · rename_i isHeader
    rw [isHeader] at none
    exact absurd rfl none
  · rfl

theorem veils_withoutTypeParameters
    (veils : Veils (fun text => isUnheeded text = true) false clean masked) :
    Veils (fun text => isUnheeded text = true) false (withoutTypeParameters clean)
      (withoutTypeParameters masked) := by
  have stripped := veils.sameToQuote.stripStart
  by_cases less : (stripStart clean).head? = some '<'
  · obtain ⟨rest, other, isClean, isMasked, same⟩ := stripped.exists_cons (by decide) less
    rw [withoutTypeParameters, withoutTypeParameters, isClean, isMasked]
    exact veils_behindTypeParameters same.veils fun _ => rfl
  · rw [withoutTypeParameters_of_ne less, withoutTypeParameters_of_ne (stripped.head?_eq ▸ less)]
    exact stripped.veils

/-- Where a literal holds nothing that a header heeds, the header lists as many supertypes as the masked
view shows. -/
theorem length_supertypes (veils : Veils (fun text => isUnheeded text = true) false clean masked) :
    (supertypes clean).length = (supertypes masked).length := by
  have found := veils_behindKeyword? (veils_withoutTypeParameters veils) fun _ => Eq.refl none
  unfold supertypes
  generalize behindKeyword? "extends".toList none (withoutTypeParameters clean) = listed,
    behindKeyword? "extends".toList none (withoutTypeParameters masked) = other at found ⊢
  cases found with
  | none => rfl
  | some veils =>
    simp only [List.length_map, veils.allMembers_eq fun _ => splitsNothing_of_isUnheeded]

end Header

/-! ### Methods and records -/

/-- No literal between the parentheses of a method hides a bracket or a comma. -/
def Member.Signature.IsPlain (signature : Member.Signature) (views : Views) : Prop :=
  HidesOnly splitsNothing (signature.listed.slice views.clean) (signature.listed.slice views.masked)

instance (signature : Member.Signature) (views : Views) : Decidable (signature.IsPlain views) :=
  inferInstanceAs (Decidable (HidesOnly _ _ _))

/-- What stands between the head and the body of a declaration. -/
def Placed.header (placed : Placed) : Span :=
  ⟨placed.head.stop, placed.body.start⟩

/-- No literal in the header of a declaration hides a bracket, a comma or the word `extends`. -/
def Placed.HasPlainHeader (placed : Placed) (views : Views) : Prop :=
  HidesOnly Header.isUnheeded (placed.header.slice views.clean) (placed.header.slice views.masked)

instance (placed : Placed) (views : Views) : Decidable (placed.HasPlainHeader views) :=
  inferInstanceAs (Decidable (HidesOnly _ _ _))

theorem splitsNothing_shown {c : Char} (shown : blanked c = c) (rest : List Char) :
    splitsNothing (c :: rest) = true :=
  Header.splitsNothing_of_isUnheeded (Header.isUnheeded_shown shown rest)

theorem getElem?_of_mem_signaturesOf {masked : List Char} {serviceSuffixes : List String}
    {signature : Member.Signature} (listed : signature ∈ signaturesOf masked serviceSuffixes) :
    0 < signature.listed.start ∧ masked[signature.listed.start - 1]? = some '(' := by
  obtain ⟨placed, -, inPlaced⟩ := List.mem_flatMap.1 listed
  unfold Placed.signatures at inPlaced
  split at inPlaced
  · split at inPlaced
    · obtain ⟨span, -, found⟩ := List.mem_filterMap.1 inPlaced
      exact Member.getElem?_of_signature? found
    · exact absurd inPlaced List.not_mem_nil
  · exact absurd inPlaced List.not_mem_nil

/-- The names and marks of plain parameters are those that the masked view shows. -/
theorem outlines_of_isPlain {source : List Char} {serviceSuffixes : List String}
    {signature : Member.Signature}
    (listed : signature ∈ signaturesOf (Views.of source).masked serviceSuffixes)
    (plain : signature.IsPlain (Views.of source)) :
    (Member.parameters (signature.listed.slice (Views.of source).clean)).map (·.outline) =
      (Member.parameters (signature.listed.slice (Views.of source).masked)).map (·.outline) := by
  obtain ⟨behind, parenthesis⟩ := getElem?_of_mem_signaturesOf listed
  have veils := (Views.veils_slice source _ behind parenthesis (by decide)).restrict plain
    fun c rest shown => splitsNothing_shown shown rest
  exact Member.outlines_parameters (fun _ harmless => harmless) veils

theorem showsCode_of_continuesIdentifier {c : Char} (inside : continuesIdentifier c = true) :
    showsCode c = true := by
  have different : c ≠ ' ' ∧ c ≠ '\n' := by
    constructor <;> rintro rfl <;> exact absurd inside (by decide)
  have noQuote : isQuote c = false := by
    by_contra quotes
    rw [not_continuesIdentifier_of_isQuote (Bool.not_eq_false _ ▸ quotes)] at inside
    exact absurd inside (by simp)
  rw [showsCode, bne_iff_ne.2 different.1, bne_iff_ne.2 different.2, noQuote]
  rfl

/-- A record with a plain header names as many supertypes as the masked view shows. -/
theorem length_supertypes_of_hasPlainHeader {source : List Char} {placed : Placed}
    (emitted : placed ∈ Placed.all (Views.of source)) (plain : placed.HasPlainHeader (Views.of source)) :
    (placed.supertypes (Views.of source)).length =
      (placed.supertypes (Views.of source).veiled).length := by
  cases isKind : placed.head.kind with
  | typeAlias | enumeration | constantGroup => simp only [Placed.supertypes, isKind]
  | record =>
    obtain ⟨opening, closing, isBody, -, -⟩ := Placed.exists_braces emitted isKind
    obtain ⟨left, read, isStop⟩ := (Head.standsIn_of_mem_all (Placed.of_mem_among emitted).1).read
    rw [isKind] at read
    obtain ⟨c, inName, ends⟩ := Head.exists_isSuffix_of_record? read
    obtain ⟨behind, shown⟩ := Head.getElem?_of_isSuffix isStop ends
    have veils := (Views.veils_slice source placed.header behind shown
      (showsCode_of_continuesIdentifier inName)).restrict plain
        fun c rest shown => Header.isUnheeded_shown shown rest
    have same := Header.length_supertypes veils
    rw [Placed.header, isBody] at same
    simp only [Placed.supertypes, isKind, isBody]
    exact same

section

variable {first second : Region}
  (sameMask : (Views.of first.text.toList).masked = (Views.of second.text.toList).masked)

include sameMask

/-- Two regions with the same masked view have methods with the same signatures and declarations in the
same places. A method lists the same parameters in both as long as no literal between its parentheses hides
a bracket or a comma, and a record as many supertypes as long as no literal in its header hides one of
these or the word `extends`. -/
theorem lists_of_sameMask (document : String) (serviceSuffixes : List String) :
    methodsOf first document serviceSuffixes =
        (signaturesOf (Views.of first.text.toList).masked serviceSuffixes).map
          (·.method (first.passage document)) ∧
      methodsOf second document serviceSuffixes =
        (signaturesOf (Views.of first.text.toList).masked serviceSuffixes).map
          (·.method (second.passage document)) ∧
      (∀ signature ∈ signaturesOf (Views.of first.text.toList).masked serviceSuffixes,
        signature.IsPlain (Views.of first.text.toList) →
        signature.IsPlain (Views.of second.text.toList) →
          (signature.method (first.passage document)).parameters.map (·.outline) =
            (signature.method (second.passage document)).parameters.map (·.outline)) ∧
      Placed.all (Views.of first.text.toList) = Placed.all (Views.of second.text.toList) ∧
      ∀ placed ∈ Placed.all (Views.of first.text.toList),
        placed.HasPlainHeader (Views.of first.text.toList) →
        placed.HasPlainHeader (Views.of second.text.toList) →
          (placed.declaration (first.passage document)).supertypes.length =
            (placed.declaration (second.passage document)).supertypes.length := by
  have samePlaces := all_of_sameMask sameMask
  refine ⟨methodsOf_eq first document serviceSuffixes, ?_, fun signature listed plain plainToo => ?_,
    samePlaces, fun placed emitted plain plainToo => ?_⟩
  · rw [sameMask]
    exact methodsOf_eq second document serviceSuffixes
  · have listedToo := listed
    rw [sameMask] at listedToo
    refine (outlines_of_isPlain listed plain).trans ?_
    rw [sameMask]
    exact (outlines_of_isPlain listedToo plainToo).symm
  · have emittedToo := emitted
    rw [samePlaces] at emittedToo
    refine (length_supertypes_of_hasPlainHeader emitted plain).trans ?_
    rw [Views.veiled, sameMask]
    exact (length_supertypes_of_hasPlainHeader emittedToo plainToo).symm

end

/-- A service with literals in its header and in its list of parameters. -/
def colonRegion : Region :=
  { startLine := 1
    text := "interface OrderService extends Keyed<'k: v'> \x7b place(note?: 'a: b'): void \x7d\n" }

/-- The same with other literals of the same length. -/
def wordRegion : Region :=
  { startLine := 1
    text := "interface OrderService extends Keyed<'word'> \x7b place(note?: 'text'): void \x7d\n" }

/-- The signature of the method of the service. -/
def placeSignature : Member.Signature :=
  ⟨"OrderService", "place", 47, ⟨53, 66⟩, ⟨67, 74⟩⟩

/-- The place of the service. -/
def placedService : Placed :=
  ⟨⟨.record, "OrderService".toList, 0, 22⟩, .block 45 74⟩

theorem lists_of_sameMask_colon :
    ((Views.of colonRegion.text.toList).masked = (Views.of wordRegion.text.toList).masked ∧
      placeSignature ∈ signaturesOf (Views.of colonRegion.text.toList).masked ["Service"] ∧
      (placeSignature.IsPlain (Views.of colonRegion.text.toList) ∧
        placeSignature.IsPlain (Views.of wordRegion.text.toList)) ∧
      placedService ∈ Placed.all (Views.of colonRegion.text.toList) ∧
      (placedService.HasPlainHeader (Views.of colonRegion.text.toList) ∧
        placedService.HasPlainHeader (Views.of wordRegion.text.toList)) ∧
      (placeSignature.method (colonRegion.passage "orders.ts")).parameters.map (·.outline) =
        [("note", true)] ∧
      (placedService.declaration (colonRegion.passage "orders.ts")).supertypes = ["Keyed<'k: v'>"]) ∧
      (placeSignature.method (wordRegion.passage "orders.ts")).parameters.map (·.outline) =
        [("note", true)] ∧
      (placedService.declaration (wordRegion.passage "orders.ts")).supertypes.length = 1 := by
  refine (and_iff_left_of_imp ?_).2 (by decide +kernel)
  rintro ⟨sameMask, listed, plain, emitted, header, parameters, supertypes⟩
  obtain ⟨-, -, sameParameters, -, sameSupertypes⟩ :=
    @lists_of_sameMask colonRegion wordRegion sameMask "orders.ts" ["Service"]
  refine ⟨(sameParameters _ listed plain.1 plain.2).symm.trans parameters, ?_⟩
  rw [← sameSupertypes _ emitted header.1 header.2, supertypes]
  rfl

/-- A comma in a literal lists one parameter more, and an angle bracket in a literal hides the word
`extends` and with it a supertype. -/
theorem splits_of_sameMask :
    (∃ first second : Region, first.startLine = second.startLine ∧
      (Views.of first.text.toList).masked = (Views.of second.text.toList).masked ∧
      (methodsOf first "orders.ts" ["Service"]).map (·.parameters.map (·.outline)) =
        [[("note", false), ("b", false)]] ∧
      (methodsOf second "orders.ts" ["Service"]).map (·.parameters.map (·.outline)) =
        [[("note", false)]]) ∧
    ∃ first second : Region, first.startLine = second.startLine ∧
      (Views.of first.text.toList).masked = (Views.of second.text.toList).masked ∧
      (declarationsOf first "orders.ts").map (fun box => (box.kind, box.supertypes)) = [(.record, [])] ∧
      (declarationsOf second "orders.ts").map (fun box => (box.kind, box.supertypes)) =
        [(.record, ["Base"])] := by
  constructor
  · refine ⟨⟨1, "interface OrderService \x7b place(note: 'a, b: c'): void \x7d\n"⟩,
      ⟨1, "interface OrderService \x7b place(note: 'a and b'): void \x7d\n"⟩, ?_⟩
    decide +kernel
  · refine ⟨⟨1, "interface Box<T = '<'> extends Base \x7b a: string \x7d\n"⟩,
      ⟨1, "interface Box<T = 'x'> extends Base \x7b a: string \x7d\n"⟩, ?_⟩
    decide +kernel

end Concord
