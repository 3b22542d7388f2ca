/-
What stands between the braces of a printed declaration is read back: the fields of a record with their
types and question marks, the members of an enumeration, and before the brace the supertypes of a record.
Each part is a piece that the walk splits off, and each piece is read as what was printed.
-/

import Concord.Declaration.Body
import Concord.Proofs.Declaration.Heads
import Concord.Proofs.Source.Splitting
import Concord.Proofs.Text.Collapse
import Mathlib.Data.List.Nodup

namespace Concord.Printed

open Source Text

/-! ### Balanced parts -/

/-- A character that separates nothing anywhere. -/
theorem isPassed_of_not_mem {c : Char} (other : c ∉ ',' :: ';' :: structural) (inside braced : Bool) :
    IsPassed inside braced c := by
  rw [List.mem_cons, List.mem_cons, not_or, not_or] at other
  exact ⟨other.2.2, fun comma => absurd comma other.1, fun semicolon => absurd semicolon other.2.1⟩

theorem isPassed_of_isWord {text : List Char} (isWord : IsWord text) (inside braced : Bool) :
    ∀ c ∈ text, IsPassed inside braced c :=
  fun c member => isPassed_of_isPlain (isPlain_of_isWord isWord c member) inside braced

theorem Name.head (name : Name) (rest : List Char) :
    ∀ c, (name.text ++ rest).head? = some c → continuesIdentifier c = true := by
  obtain ⟨c, tail, isCons⟩ := List.exists_cons_of_ne_nil name.ne_nil
  rw [isCons]
  rintro d ⟨⟩
  exact name.isWord c (by rw [isCons]; exact List.mem_cons_self)

theorem Name.stripStart (name : Name) (rest : List Char) :
    stripStart (name.text ++ rest) = name.text ++ rest :=
  stripStart_of_not_isBlank fun c found => isBlank_of_continuesIdentifier (name.head rest c found)

theorem Name.something (name : Name) : isAllBlank name.text = false := by
  obtain ⟨c, tail, isCons⟩ := List.exists_cons_of_ne_nil name.ne_nil
  have inside := name.isWord c (by rw [isCons]; exact List.mem_cons_self)
  rw [isCons, isAllBlank_cons, isBlank_of_continuesIdentifier inside, Bool.false_and]

theorem Name.balanced (name : Name) : Balanced false false name.text :=
  balanced_of_passed (isPassed_of_isWord name.isWord false false)

theorem TypeText.isTrimmed (type : TypeText) : IsTrimmed type.text :=
  type.collapsed ▸ isTrimmed_collapse type.text

theorem Field.balanced_annotated (field : Field) : Balanced false false (field.annotated mask) := by
  have type := field.type.nested.settled.2
  have colon : IsPassed false false ':' := isPassed_of_not_mem (by decide) false false
  have question : IsPassed false false '?' := isPassed_of_not_mem (by decide) false false
  have space : IsPassed false false ' ' := isPassed_of_not_mem (by decide) false false
  refine .run (isPassed_of_isWord field.name.isWord false false) ?_
  cases field.isOptional with
  | true => exact .passed question (.passed colon (.passed space type))
  | false => exact .passed colon (.passed space type)

theorem Field.balanced_signature (field : Field) : Balanced false false (field.signature mask) := by
  rw [Field.signature]
  cases field.isReadonly with
  | true =>
    refine .run (fun c member => isPassed_of_not_mem ?_ false false) field.balanced_annotated
    revert c
    decide
  | false => exact field.balanced_annotated

/-! ### Reading a field -/

/-- Blanks around a type leave no trace in what is recorded. -/
theorem typeText_surrounded {before after : List Char} (text : List Char)
    (isBlankBefore : isAllBlank before = true) (isBlankAfter : isAllBlank after = true) :
    Concord.Member.typeText (before ++ (text ++ after)) = Concord.Member.typeText text := by
  rw [Concord.Member.typeText, collapse_surrounded text isBlankBefore isBlankAfter,
    ← Concord.Member.typeText]

theorem typeText_space (text : List Char) :
    Concord.Member.typeText (' ' :: text) = Concord.Member.typeText text := by
  have around := typeText_surrounded text (show isAllBlank [' '] = true from rfl) isAllBlank_nil
  rwa [List.append_nil] at around

/-- A collapsed text that ends with no separator is recorded as it is, whatever blank stands before it. -/
theorem typeText_collapsed {text : List Char} (collapsed : collapse text = text)
    (noSeparator : ∀ c, text.getLast? = some c → c ≠ ';' ∧ c ≠ ',') :
    Member.typeText (' ' :: text) = String.ofList text := by
  have trimmed : trimEnd (fun c => c == ';' || c == ',') text = text := by
    have stops : ∀ c, text.reverse.head? = some c → (c == ';' || c == ',') = false := by
      intro c last
      rw [List.head?_reverse] at last
      rw [beq_false_of_ne (noSeparator c last).1, beq_false_of_ne (noSeparator c last).2]
      rfl
    rw [trimEnd, dropWhile_of_stops stops, List.reverse_reverse]
  rw [typeText_space, Member.typeText, collapsed, trimmed,
    strip_of_isTrimmed (collapsed ▸ isTrimmed_collapse text)]

theorem typeText_printed (type : TypeText) :
    Member.typeText (' ' :: type.text) = String.ofList type.text :=
  typeText_collapsed type.collapsed type.nested.noSeparator

/-- The quotes around the name of a field are taken off; an identifier has none. -/
theorem trim_name (name : Name) : trim Member.isNameQuote name.text = name.text := by
  have noQuote : ∀ c ∈ name.text, Member.isNameQuote c = false := by
    intro c member
    have inside := name.isWord c member
    have ne : ∀ d, continuesIdentifier d = false → c ≠ d := by
      rintro d outside rfl
      exact absurd (inside.symm.trans outside) (by simp)
    rw [Member.isNameQuote, beq_false_of_ne (ne _ (by decide)), beq_false_of_ne (ne _ (by decide))]
    rfl
  have kept : ∀ text : List Char, (∀ c ∈ text, Member.isNameQuote c = false) →
      text.dropWhile Member.isNameQuote = text := fun text none =>
    dropWhile_of_stops fun c found => none c (List.mem_of_head? found)
  rw [trim, trimEnd, kept _ noQuote, kept _ fun c member => noQuote c (List.mem_reverse.1 member),
    List.reverse_reverse]

theorem annotation?_printed (isOptional : Bool) (type : List Char) :
    Member.annotation? ((if isOptional then ['?'] else []) ++ ':' :: ' ' :: type) =
      some (isOptional, ' ' :: type) := by
  cases isOptional <;> rfl

theorem stops_mark (isOptional : Bool) (type : List Char) :
    ∀ c, ((if isOptional then ['?'] else []) ++ ':' :: type).head? = some c →
      continuesIdentifier c = false := by
  cases isOptional <;> (rintro c ⟨⟩; decide)

theorem annotated?_printed (field : Field) :
    Member.annotated? Member.fieldName? (field.annotated id) =
      some (field.name.text, field.isOptional, ' ' :: field.type.text) := by
  have named : Member.fieldName? (field.annotated id) =
      some (field.name.text,
        (if field.isOptional then ['?'] else []) ++ ':' :: ' ' :: field.type.text) := by
    have isName := identifier?_word field.name.isIdentifier
      (stops_mark field.isOptional (' ' :: field.type.text))
    rw [Member.fieldName?, Field.annotated, id_eq, isName]
    rfl
  rw [Member.annotated?, named]
  simp only [Option.bind_eq_bind, Option.bind_some, annotation?_printed, Option.pure_def]

/-- A field is read as it was printed. -/
theorem field?_printed (field : Field) : Member.field? (field.signature id) = some field.recorded := by
  have read : Member.readonlyAnnotated? Member.fieldName? (field.signature id) =
      some (field.name.text, field.isOptional, ' ' :: field.type.text) := by
    rw [Member.readonlyAnnotated?, Field.signature]
    cases field.isReadonly with
    | true =>
      have behind : spacedKeyword? "readonly".toList
          ("readonly".toList ++ [' '] ++ field.annotated id) = some (field.annotated id) := by
        rw [List.append_assoc, List.singleton_append,
          spacedKeyword?_word isWord_readonly isWord_readonly (by decide), if_pos ⟨rfl, by decide⟩,
          Field.annotated, Name.stripStart]
      rw [if_pos rfl, behind, Option.bind_some, annotated?_printed]
      rfl
    | false =>
      -- A field may have the name `readonly`; a question mark or a colon follows it, and no blank.
      have none : spacedKeyword? "readonly".toList (field.annotated id) = none := by
        rw [Field.annotated]
        cases field.isOptional with
        | true =>
          exact (spacedKeyword?_word isWord_readonly field.name.isWord (by decide)).trans
            (if_neg fun both => absurd both.2 (by decide))
        | false =>
          exact (spacedKeyword?_word isWord_readonly field.name.isWord (by decide)).trans
            (if_neg fun both => absurd both.2 (by decide))
      rw [if_neg (by simp), List.nil_append, none, annotated?_printed]
      rfl
  rw [Member.field?, read, Option.map_some, Field.recorded]
  simp only [typeText_printed, trim_name]

/-! ### Splitting the body of a record -/

theorem startsNamedMember_annotated (field : Field) (rest : List Char) :
    startsNamedMember (field.annotated mask ++ rest) = true := by
  have named := identifier?_word field.name.isIdentifier
    (stops_mark field.isOptional (' ' :: (mask field.type.text ++ rest)))
  have isText : field.annotated mask ++ rest = field.name.text ++
      ((if field.isOptional then ['?'] else []) ++ ':' :: ' ' :: (mask field.type.text ++ rest)) := by
    simp only [Field.annotated, List.append_assoc, List.cons_append]
  rw [isText, startsNamedMember, named]
  cases field.isOptional <;> rfl

/-- The line of a field is where a new member may begin. -/
theorem startsMember_line (field : Field) (rest : List Char) :
    startsMember (field.line mask ++ rest) = true := by
  have isText : field.line mask ++ rest =
      field.indentation ++ (field.signature mask ++ (field.ending.text ++ '\n' :: rest)) := by
    simp only [Field.line, List.append_assoc, List.singleton_append]
  generalize field.ending.text ++ '\n' :: rest = behind at isText
  have indented : stripStart (field.line mask ++ rest) = stripStart (field.signature mask ++ behind) := by
    rw [isText, stripStart, List.dropWhile_append_of_pos]
    · rfl
    · exact fun c member => isBlank_of_isSpaceOrTab (field.isIndentation c member)
  have either : (startsNamedMember (stripStart (field.signature mask ++ behind)) ||
      ((spacedKeyword? "readonly".toList (stripStart (field.signature mask ++ behind))).map
        startsNamedMember).getD false) = true := by
    rw [Field.signature]
    cases field.isReadonly with
    | true =>
      have behindKeyword : spacedKeyword? "readonly".toList
          ("readonly".toList ++ ' ' :: (field.annotated mask ++ behind)) =
            some (field.annotated mask ++ behind) := by
        rw [spacedKeyword?_word isWord_readonly isWord_readonly (by decide), if_pos ⟨rfl, by decide⟩,
          Field.annotated, List.append_assoc, Name.stripStart]
      have stripped : stripStart ("readonly".toList ++ ' ' :: (field.annotated mask ++ behind)) =
          "readonly".toList ++ ' ' :: (field.annotated mask ++ behind) := rfl
      rw [if_pos rfl, List.append_assoc, List.append_assoc, List.singleton_append, stripped,
        behindKeyword, Option.map_some, startsNamedMember_annotated, Option.getD_some, Bool.or_true]
    | false =>
      have stripped : stripStart (field.annotated mask ++ behind) = field.annotated mask ++ behind := by
        rw [Field.annotated, List.append_assoc, Name.stripStart]
      rw [if_neg (by simp), List.nil_append, stripped, startsNamedMember_annotated, Bool.true_or]
  rw [startsMember, indented]
  split
  · rfl
  · exact either

theorem Field.isTrimmed_signature (field : Field) : IsTrimmed (field.signature id) := by
  constructor
  · rw [Field.signature]
    cases field.isReadonly with
    | true =>
      rintro c ⟨⟩
      decide
    | false =>
      exact fun c found => isBlank_of_continuesIdentifier (field.name.head _ c found)
  · have ends : (field.signature id).getLast? = field.type.text.getLast? := by
      have something := field.type.something
      rw [Field.signature, Field.annotated, List.getLast?_append_of_ne_nil _ (by simp),
        List.getLast?_append_of_ne_nil _ (by simp), List.getLast?_append_of_ne_nil _ (by simp),
        List.getLast?_cons_cons, id_eq, List.getLast?_cons_of_ne_nil something]
    rw [ends]
    exact field.type.isTrimmed.last

/-- What the lines of a record hold before the next separator is a field between blanks. -/
theorem field?_piece (field : Field) {lead : List Char} (isLead : isAllBlank lead = true)
    (trail : List Char) (isTrail : isAllBlank trail = true) :
    Member.field? (strip (lead ++ field.indentation ++ (field.signature id ++ trail))) =
      some field.recorded := by
  have before : isAllBlank (lead ++ field.indentation) = true := by
    rw [isAllBlank_append, isLead, field.isAllBlank_indentation, Bool.true_and]
  rw [strip_surrounded before field.isTrimmed_signature isTrail, field?_printed]

/-- The walk through the lead, the indentation and the signature of a field. -/
theorem Field.passes (field : Field) {lead : List Char} (isLead : isAllBlank lead = true)
    (following : List Char) :
    Passes .body false (lead ++ field.indentation ++ field.signature mask) following ∧
      isAllBlank (lead ++ field.indentation ++ field.signature mask) = false := by
  have before : isAllBlank (lead ++ field.indentation) = true := by
    rw [isAllBlank_append, isLead, field.isAllBlank_indentation, Bool.true_and]
  have something : isAllBlank (field.signature mask) = false := by
    rw [Field.signature, isAllBlank_append, Field.annotated, isAllBlank_append, field.name.something,
      Bool.false_and, Bool.and_false]
  refine ⟨(passes_blanks marks_body before (fun _ => rfl) _).append _ ?_, ?_⟩
  · exact field.balanced_signature.passes marks_body _ following
  · rw [isAllBlank_append, something, Bool.and_false]

theorem Field.length_signature (field : Field) :
    (field.signature id).length = (field.signature mask).length := by
  rw [← field.shows_signature.isMask, length_mask]

/-- The lines of fields split into the fields; `lead` is blank text before them. -/
theorem splits_fields (fields : List Field) (lead : List Char) (isLead : isAllBlank lead = true)
    (rest : List Char) :
    ∃ pieces, Splits .body ('\x7d' :: rest) (lead ++ fields.flatMap (·.line mask))
        (lead ++ fields.flatMap (·.line id)) pieces ∧
      pieces.filterMap (fun piece => Member.field? (strip piece)) = fields.map (·.recorded) := by
  induction fields generalizing lead with
  | nil =>
    refine ⟨[], ?_, rfl⟩
    rw [List.flatMap_nil, List.flatMap_nil, List.append_nil]
    exact .blank (passes_blanks marks_body isLead (fun _ => rfl) _) isLead
  | cons field fields inductionHypothesis =>
    have isText : ∀ view, lead ++ (field :: fields).flatMap (·.line view) =
        lead ++ field.indentation ++ field.signature view ++
          (field.ending.text ++ '\n' :: fields.flatMap (·.line view)) := by
      intro view
      simp only [List.flatMap_cons, Field.line, List.append_assoc, List.singleton_append]
    have same : (lead ++ field.indentation ++ field.signature id).length =
        (lead ++ field.indentation ++ field.signature mask).length := by
      rw [List.length_append, field.length_signature, ← List.length_append]
    have piece := field?_piece field isLead [] rfl
    rw [List.append_nil] at piece
    rw [isText, isText]
    have marked : ∀ mark ∈ Separation.body.marks, isBracket mark = false →
        ∃ pieces, Splits .body ('\x7d' :: rest)
          (lead ++ field.indentation ++ field.signature mask ++
            mark :: '\n' :: fields.flatMap (·.line mask))
          (lead ++ field.indentation ++ field.signature id ++
            mark :: '\n' :: fields.flatMap (·.line id)) pieces ∧
          pieces.filterMap (fun piece => Member.field? (strip piece)) =
            (field :: fields).map (·.recorded) := by
      intro mark isMark plain
      obtain ⟨pieces, splits, read⟩ := inductionHypothesis ['\n'] rfl
      obtain ⟨passes, something⟩ := field.passes isLead
        (mark :: ('\n' :: fields.flatMap (·.line mask) ++ '\x7d' :: rest))
      refine ⟨_, .next passes something same (ends_mark isMark plain _) splits, ?_⟩
      rw [List.filterMap_cons_some (f := fun piece => Member.field? (strip piece)) piece, read]
      rfl
    cases field.ending with
    | semicolon => exact marked ';' (by decide) (by decide)
    | comma => exact marked ',' (by decide) (by decide)
    | lineBreak =>
      -- Without a mark the field goes up to the line break, if a new one begins behind it.
      cases fields with
      | nil =>
        obtain ⟨passes, something⟩ := field.passes isLead ('\n' :: '\x7d' :: rest)
        have passesBreak : Passes .body true ['\n'] ('\x7d' :: rest) :=
          passes_blank marks_body (by decide) fun _ _ _ => rfl
        refine ⟨[lead ++ field.indentation ++ field.signature id ++ ['\n']],
          .last (passes.append ['\n'] ?_) ?_ ?_, ?_⟩
        · rw [something]
          exact passesBreak
        · rw [isAllBlank_append, something, Bool.false_and]
        · rw [List.length_append, same, ← List.length_append]
          rfl
        · have ended := field?_piece field isLead ['\n'] (by decide)
          rw [← List.append_assoc] at ended
          exact List.filterMap_cons_some (f := fun piece => Member.field? (strip piece)) ended
      | cons second others =>
        obtain ⟨pieces, splits, read⟩ := inductionHypothesis [] rfl
        obtain ⟨passes, something⟩ := field.passes isLead
          ('\n' :: ((second :: others).flatMap (·.line mask) ++ '\x7d' :: rest))
        have starts : startsMember ((second :: others).flatMap (·.line mask) ++ '\x7d' :: rest) =
            true := by
          rw [List.flatMap_cons, List.append_assoc]
          exact startsMember_line second _
        refine ⟨_, .next passes something same (ends_break starts) splits, ?_⟩
        rw [List.filterMap_cons_some (f := fun piece => Member.field? (strip piece)) piece, read]
        rfl

theorem firstOfName_of_nodup {seen : List String} {fields : List Concord.Field}
    (distinct : (fields.map (·.name)).Nodup) (unseen : ∀ field ∈ fields, field.name ∉ seen) :
    Member.firstOfName seen fields = fields := by
  induction fields generalizing seen with
  | nil => rfl
  | cons field fields inductionHypothesis =>
    rw [List.map_cons, List.nodup_cons] at distinct
    rw [List.forall_mem_cons] at unseen
    have later : ∀ other ∈ fields, other.name ∉ field.name :: seen := by
      intro other member
      rw [List.mem_cons, not_or]
      refine ⟨fun same => distinct.1 ?_, unseen.2 other member⟩
      rw [← same]
      exact List.mem_map_of_mem member
    rw [Member.firstOfName, if_neg (by simpa using unseen.1), inductionHypothesis distinct.2 later]

section

variable {views : Views} {opening : Nat} {rest tail : List Char}

/-- Behind a brace no arrow is closed. -/
theorem noArrow_of_brace {masked : List Char} (here : masked.drop opening = '\x7b' :: rest) :
    opening + 1 = 0 ∨ masked[opening + 1 - 1]? ≠ some '=' := by
  have first : (masked.drop opening)[0]? = some '\x7b' := by
    rw [here]
    rfl
  rw [List.getElem?_drop, Nat.add_zero] at first
  refine .inr ?_
  rw [Nat.add_sub_cancel, first]
  decide

theorem drop_succ {text : List Char} {c : Char} (here : text.drop opening = c :: rest) :
    text.drop (opening + 1) = rest := by
  rw [← List.drop_drop, here]
  rfl

/-- The fields of a record are read back from its body. -/
theorem fields_printed {fields : List Field} (distinct : (fields.map (·.name.text)).Nodup)
    (maskedHere : views.masked.drop opening =
      '\x7b' :: ('\n' :: fields.flatMap (·.line mask) ++ '\x7d' :: rest))
    (cleanHere : views.clean.drop opening =
      '\x7b' :: ('\n' :: fields.flatMap (·.line id) ++ tail)) :
    Member.fields views opening (opening + 1 + ('\n' :: fields.flatMap (·.line mask)).length) =
      fields.map (·.recorded) := by
  obtain ⟨pieces, splits, read⟩ := splits_fields fields ['\n'] rfl rest
  have slices := splits.slices_members marks_body views (drop_succ maskedHere) (drop_succ cleanHere)
    (noArrow_of_brace maskedHere)
  have names : ((fields.map (·.recorded)).map (·.name)).Nodup := by
    rw [List.map_map]
    have injective : Function.Injective String.ofList := fun _ _ same => String.ofList_injective same
    have mapped := List.Nodup.map injective distinct
    rwa [List.map_map] at mapped
  have all : (members .body views.masked (opening + 1)
      (opening + 1 + ('\n' :: fields.flatMap (·.line mask)).length)).filterMap
        (fun span => Member.field? (strip (span.slice views.clean))) = fields.map (·.recorded) := by
    rw [← read, ← slices, List.filterMap_map]
    rfl
  rw [Member.fields, all]
  exact firstOfName_of_nodup names fun _ _ => List.not_mem_nil

end

/-! ### Splitting an enumeration -/

/-- Behind the equals sign of an initialiser stands a balanced text. -/
theorem Initialiser.text_mask (initialiser : Initialiser) :
    initialiser.text mask = [] ∨
      ∃ value, Balanced false false value ∧ initialiser.text mask = ' ' :: '=' :: ' ' :: value := by
  cases initialiser with
  | none => exact .inl rfl
  | integer isNegative digits isNumeral =>
    have run : Balanced false false digits := balanced_of_passed fun c member =>
      isPassed_of_class (isNumeral c member) (by decide) false false
    refine .inr ⟨_, ?_, rfl⟩
    cases isNegative with
    | true => exact .passed (isPassed_of_not_mem (by decide) false false) run
    | false => exact run
  | literal quote content quotes contents =>
    refine .inr ⟨_, ?_, rfl⟩
    rw [(settled_literal contents quotes).2]
    have passed := isPassed_of_isQuote quotes false false
    refine .passed passed (.run ?_ (.passed passed .nil))
    intro c member
    rw [List.eq_of_mem_replicate member]
    exact isPassed_of_isPlain (by decide) false false

theorem Initialiser.passes (initialiser : Initialiser) (following : List Char) :
    Passes .list true (initialiser.text mask) following := by
  rcases initialiser.text_mask with absent | ⟨value, balanced, isText⟩
  · rw [absent]
    exact fun begun index count => by simp [isAllBlank]
  · rw [isText]
    have space : Passes .list true [' '] ('=' :: ' ' :: value ++ following) :=
      passes_blanks marks_list (by decide) (fun breaks => absurd breaks (by decide)) _
    exact space.append ('=' :: ' ' :: value)
      ((passes_assignment marks_list _).append value (balanced.passes marks_list _ _))

theorem Member.passes (member : Member) (following : List Char) :
    Passes .list false (member.text mask) following ∧ isAllBlank (member.text mask) = false := by
  refine ⟨(passes_blanks marks_list member.isGap (fun _ => rfl) _).append _
    ((member.name.balanced.passes marks_list _ _).append _ ?_), ?_⟩
  · rw [member.name.something, Bool.not_false, Bool.or_true]
    exact member.initialiser.passes following
  · rw [Member.text, isAllBlank_append, isAllBlank_append, member.name.something, Bool.false_and,
      Bool.and_false]

theorem Member.length_text (member : Member) :
    (member.text id).length = (member.text mask).length := by
  rw [← member.shows.isMask, length_mask]

theorem noEquals_blank {text : List Char} (blank : isAllBlank text = true) : ∀ c ∈ text, c ≠ '=' := by
  rintro c member rfl
  exact absurd (List.all_eq_true.1 blank '=' member) (by decide)

theorem Name.noEquals (name : Name) : ∀ c ∈ name.text, c ≠ '=' := by
  rintro c member rfl
  exact absurd (name.isWord '=' member) (by decide)

theorem Name.isTrimmed (name : Name) : IsTrimmed name.text :=
  ⟨fun c found => isBlank_of_continuesIdentifier (name.isWord c (List.mem_of_head? found)),
    fun c found => isBlank_of_continuesIdentifier (name.isWord c (List.mem_of_getLast? found))⟩

/-- A member is known by what stands before its first equals sign, without the blanks around. -/
theorem enumerationMember?_name (name : Name) {lead blanks behind : List Char}
    (isLead : isAllBlank lead = true) (isGap : isAllBlank blanks = true)
    (stops : ∀ c, behind.head? = some c → c = '=') :
    Concord.Member.enumerationMember? (lead ++ (name.text ++ blanks) ++ behind) =
      some ⟨String.ofList name.text, "", false⟩ := by
  have noEquals : ∀ c ∈ lead ++ (name.text ++ blanks), (!(c == '=')) = true := by
    simp only [Bool.not_eq_true', beq_eq_false_iff_ne]
    rw [List.forall_mem_append, List.forall_mem_append]
    exact ⟨noEquals_blank isLead, name.noEquals, noEquals_blank isGap⟩
  have isBefore : before (· == '=') (lead ++ (name.text ++ blanks) ++ behind) =
      lead ++ (name.text ++ blanks) :=
    takeWhile_append_of_stops noEquals fun c found => by rw [stops c found]; rfl
  have stripped : strip (lead ++ (name.text ++ blanks)) = name.text :=
    strip_surrounded isLead name.isTrimmed isGap
  rw [Concord.Member.enumerationMember?, isBefore, stripped, if_pos name.isIdentifier]

theorem enumerationMember?_piece (member : Member) (trail : List Char)
    (isTrail : isAllBlank trail = true) :
    Concord.Member.enumerationMember? (member.text id ++ trail) = some member.recorded := by
  have isText : member.text id ++ trail =
      member.gap ++ (member.name.text ++ (member.initialiser.text id ++ trail)) := by
    simp only [Member.text, List.append_assoc]
  rw [isText]
  cases member.initialiser with
  | none =>
    have found := @enumerationMember?_name member.name _ _ [] member.isGap isTrail (by simp)
    rwa [List.append_nil] at found
  | integer | literal =>
    have found := fun rest => @enumerationMember?_name member.name _ _ ('=' :: rest) member.isGap
      (show isAllBlank [' '] = true by decide) (by simp)
    simp only [List.append_assoc, List.singleton_append] at found
    exact found _

/-- The members of an enumeration with their commas split into the members; blanks may follow. -/
theorem splits_memberList (lastComma : Bool) (members : List Member) {gap : List Char}
    (isGap : isAllBlank gap = true) (rest : List Char) :
    ∃ pieces, Splits .list ('\x7d' :: rest) (memberList mask lastComma members ++ gap)
        (memberList id lastComma members ++ gap) pieces ∧
      pieces.filterMap Concord.Member.enumerationMember? = members.map (·.recorded) := by
  have ends : ∀ following, Ends .list ',' following := ends_mark (by decide) (by decide)
  induction members with
  | nil => exact ⟨[], .blank (passes_blanks marks_list isGap (fun _ => rfl) _) isGap, rfl⟩
  | cons member members inductionHypothesis =>
    have piece := enumerationMember?_piece member [] rfl
    rw [List.append_nil] at piece
    cases members with
    | nil =>
      rw [memberList, memberList]
      cases lastComma with
      | true =>
        obtain ⟨passes, something⟩ := member.passes (',' :: (gap ++ '\x7d' :: rest))
        have blank : Splits .list ('\x7d' :: rest) gap gap [] :=
          .blank (passes_blanks marks_list isGap (fun _ => rfl) _) isGap
        refine ⟨[member.text id], ?_, List.filterMap_cons_some piece⟩
        rw [List.append_assoc, List.append_assoc]
        exact .next passes something member.length_text (ends _) blank
      | false =>
        obtain ⟨passes, something⟩ := member.passes (gap ++ '\x7d' :: rest)
        refine ⟨[member.text id ++ gap], ?_,
          List.filterMap_cons_some (enumerationMember?_piece member gap isGap)⟩
        rw [if_neg (by simp), List.append_nil, List.append_nil]
        refine .last (passes.append gap ?_) ?_ ?_
        · exact passes_blanks marks_list isGap (fun breaks => absurd breaks (by decide)) _
        · rw [isAllBlank_append, something, Bool.false_and]
        · rw [List.length_append, List.length_append, member.length_text]
    | cons second others =>
      obtain ⟨pieces, splits, read⟩ := inductionHypothesis
      obtain ⟨passes, something⟩ := member.passes
        (',' :: (memberList mask lastComma (second :: others) ++ gap ++ '\x7d' :: rest))
      have isText : ∀ view, memberList view lastComma (member :: second :: others) ++ gap =
          member.text view ++ ',' :: (memberList view lastComma (second :: others) ++ gap) :=
        fun view => List.append_assoc ..
      refine ⟨member.text id :: pieces, ?_, ?_⟩
      · rw [isText, isText]
        exact .next passes something member.length_text (ends _) splits
      · rw [List.filterMap_cons_some piece, read]
        rfl

/-- The members of an enumeration are read back from its body. -/
theorem enumerationMembers_printed {views : Views} {opening : Nat} {rest tail : List Char}
    {lastComma : Bool} {members : List Member} {gap : List Char} (isGap : isAllBlank gap = true)
    (maskedHere : views.masked.drop opening =
      '\x7b' :: (memberList mask lastComma members ++ gap ++ '\x7d' :: rest))
    (cleanHere : views.clean.drop opening =
      '\x7b' :: (memberList id lastComma members ++ gap ++ tail)) :
    Member.enumerationMembers views opening
        (opening + 1 + (memberList mask lastComma members ++ gap).length) =
      members.map (·.recorded) := by
  obtain ⟨pieces, splits, read⟩ := splits_memberList lastComma members isGap rest
  have slices := splits.slices_members marks_list views (drop_succ maskedHere) (drop_succ cleanHere)
    (noArrow_of_brace maskedHere)
  rw [Concord.Member.enumerationMembers, ← read, ← slices, List.filterMap_map]
  rfl

/-! ### The supertypes of a record -/

theorem Supertype.balanced (supertype : Supertype) : Balanced false false supertype.text := by
  cases supertype with
  | plain name => exact name.balanced
  | applied name arguments nested noLiteral _ =>
    have inner := nested.settled.2
    rw [nested.mask_of_no_quote noLiteral] at inner
    exact .run (isPassed_of_isWord name.isWord false false) (.group .angle inner .nil)

theorem Supertype.keepsHeader (supertype : Supertype) : KeepsHeader supertype.text := by
  have named : ∀ name : Name, KeepsHeader name.text := fun name =>
    keepsHeader_of_forall fun c member =>
      have passed := isPassed_of_isWord name.isWord false false c member
      ⟨passed.notStructural, fun semicolon => absurd (passed.semicolon semicolon).1 (by simp)⟩
  cases supertype with
  | plain name => exact named name
  | applied name arguments nested noLiteral _ =>
    have inner := nested.settled.2
    rw [nested.mask_of_no_quote noLiteral] at inner
    exact (named name).append (keepsHeader_arguments inner)

/-- The search for the body of a record passes its supertypes over. -/
theorem keepsHeader_extension (supertypes : List Supertype) : KeepsHeader (extension supertypes) :=
  @extension_induction KeepsHeader (keepsHeader_of_forall (by decide)) KeepsHeader.append
    (keepsHeader_of_forall (by decide)) (keepsHeader_of_forall (by decide)) Supertype.keepsHeader
    supertypes

theorem Name.isSolid (name : Name) : IsSolid name.text :=
  ⟨name.ne_nil, fun c member => isBlank_of_continuesIdentifier (name.isWord c member)⟩

theorem Supertype.collapse_text (supertype : Supertype) : collapse supertype.text = supertype.text := by
  have bracket : ∀ c, isBlank c = false → IsSolid [c] := fun c noBlank =>
    ⟨by simp, List.forall_mem_singleton.2 noBlank⟩
  refine IsSpaced.collapse_eq ?_
  cases supertype with
  | plain name =>
    exact ⟨[name.text], List.forall_mem_singleton.2 name.isSolid, List.intercalate_singleton.symm⟩
  | applied name arguments nested noLiteral collapsed =>
    have closed := (isSpaced_of_collapse_eq collapsed).suffixed (bracket '>' (by decide))
    exact (closed.prefixed (bracket '<' (by decide))).prefixed name.isSolid

theorem Supertype.something (supertype : Supertype) : isAllBlank supertype.text = false := by
  cases supertype with
  | plain name => exact name.something
  | applied name => rw [Supertype.text, isAllBlank_append, name.something, Bool.false_and]

/-- The supertypes with a space before each split into the supertypes. -/
theorem splits_supertypes (supertype : Supertype) (supertypes : List Supertype) :
    ∃ pieces, Splits .list []
        (' ' :: [',', ' '].intercalate ((supertype :: supertypes).map (·.text)) ++ [' '])
        (' ' :: [',', ' '].intercalate ((supertype :: supertypes).map (·.text)) ++ [' ']) pieces ∧
      pieces.map collapse = (supertype :: supertypes).map (·.text) := by
  have spaced : ∀ (supertype : Supertype) following,
      Passes .list false (' ' :: supertype.text) following := fun supertype following =>
    (passes_blanks marks_list (show isAllBlank [' '] = true from rfl) (fun _ => rfl) _).append
      supertype.text (supertype.balanced.passes marks_list _ following)
  have something : ∀ supertype : Supertype, isAllBlank (' ' :: supertype.text) = false := by
    intro supertype
    rw [isAllBlank_cons, supertype.something, Bool.and_false]
  have collapsed : ∀ (supertype : Supertype) trail, isAllBlank trail = true →
      collapse (' ' :: supertype.text ++ trail) = supertype.text := fun supertype trail isTrail =>
    (collapse_surrounded supertype.text (show isAllBlank [' '] = true from rfl) isTrail).trans
      supertype.collapse_text
  induction supertypes generalizing supertype with
  | nil =>
    rw [List.map_singleton, List.intercalate_singleton]
    refine ⟨[' ' :: supertype.text ++ [' ']], .last ((spaced supertype _).append [' '] ?_) ?_ rfl, ?_⟩
    · exact passes_blanks marks_list (by decide) (fun breaks => absurd breaks (by decide)) _
    · rw [isAllBlank_append, something, Bool.false_and]
    · rw [List.map_singleton, collapsed supertype [' '] (by decide)]
  | cons second others inductionHypothesis =>
    obtain ⟨pieces, splits, read⟩ := inductionHypothesis second
    have isText : ' ' :: [',', ' '].intercalate ((supertype :: second :: others).map (·.text)) ++ [' '] =
        (' ' :: supertype.text) ++
          ',' :: (' ' :: [',', ' '].intercalate ((second :: others).map (·.text)) ++ [' ']) := by
      simp only [List.map_cons, List.intercalate_cons_cons, List.append_assoc, List.cons_append,
        List.nil_append]
    rw [isText]
    refine ⟨(' ' :: supertype.text) :: pieces, .next (spaced supertype _) (something supertype) rfl
      (ends_mark (by decide) (by decide) _) splits, ?_⟩
    have first := collapsed supertype [] rfl
    rw [List.append_nil] at first
    rw [List.map_cons, read, first]
    rfl

/-- The supertypes are read back from what stands between the name and the body. -/
theorem supertypes_printed (supertypes : List Supertype) :
    Header.supertypes (extension supertypes ++ [' ']) = supertypes.map (String.ofList ·.text) := by
  cases supertypes with
  | nil => rfl
  | cons supertype supertypes =>
    obtain ⟨pieces, splits, read⟩ := splits_supertypes supertype supertypes
    generalize isListed :
      ' ' :: [',', ' '].intercalate ((supertype :: supertypes).map (·.text)) ++ [' '] = listed at splits
    have behind : Header.behindKeyword? "extends".toList none
        (Header.withoutTypeParameters (extension (supertype :: supertypes) ++ [' '])) = some listed := by
      rw [← isListed]
      rfl
    have whole : listed.drop 0 = listed ++ [] := by
      rw [List.drop_zero, List.append_nil]
    have slices := splits.slices_members marks_list ⟨listed, listed⟩ whole whole (.inl rfl)
    rw [Nat.zero_add] at slices
    have texts := congrArg (List.map String.ofList) read
    rw [← slices, List.map_map, List.map_map, List.map_map] at texts
    rw [Header.supertypes, behind]
    exact texts

end Concord.Printed
