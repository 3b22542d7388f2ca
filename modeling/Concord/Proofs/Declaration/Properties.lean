/-
Bodies of records in full: fields with names of any form, perhaps behind `readonly`, whose types may go
on over several lines. A semicolon ends a field, and so does a line break where the next field is named
by an identifier. Written so, the fields are read back one for one: the body splits into a piece for
each of them, and each piece is read as the field that was printed.
-/

import Concord.Proofs.Declaration.Fields
import Concord.Proofs.Declaration.Opening
import Concord.Proofs.Source.Literals
import Concord.Proofs.Source.Types

namespace Concord.Printed

open Source Text

/-! ### Parts of a field -/

/-- Blank text on one line. -/
structure Spacing where
  text : List Char
  isGap : isAllBlank text = true
  oneLine : '\n' ∉ text

def Spacing.none : Spacing :=
  ⟨[], isAllBlank_nil, List.not_mem_nil⟩

/-- The name of a field: an identifier, or a text between quotes that holds no such quote. -/
inductive FieldName where
  | identifier (name : Name)
  | quoted (literal : Literal) (isName : Concord.Member.isNameQuote literal.quote = true)
    (something : literal.content ≠ [])
    (plain : ∀ c ∈ literal.content, Concord.Member.isNameQuote c = false ∧ c ≠ '\n')

/-- The name as it is printed. -/
def FieldName.source : FieldName → List Char
  | .identifier name => name.text
  | .quoted literal .. => literal.text

/-- The name as it is recorded. -/
def FieldName.text : FieldName → List Char
  | .identifier name => name.text
  | .quoted literal .. => literal.content

def FieldName.isQuoted : FieldName → Bool
  | .identifier _ => false
  | .quoted .. => true

inductive Modifier where
  | none
  | readonly (spacing : Spacing) (something : spacing.text ≠ [])

def Modifier.text : Modifier → List Char
  | .none => []
  | .readonly spacing _ => "readonly".toList ++ spacing.text

theorem Modifier.text_readonly (spacing : Spacing) (something : spacing.text ≠ []) :
    (Modifier.readonly spacing something).text = "readonly".toList ++ spacing.text :=
  rfl

/-- A type with the blanks around it, perhaps over several lines. -/
structure TypeExpression where
  text : List Char
  settled : Settled text
  isType : IsType false (mask text)
  something : isAllBlank text = false

/-- A field without what ends it. -/
structure Property where
  modifier : Modifier
  name : FieldName
  isOptional : Bool
  /-- The blanks before the colon. -/
  spacing : Spacing
  type : TypeExpression

/-- A field with what stands behind it, perhaps a semicolon and perhaps blanks. -/
structure Line where
  property : Property
  isEnded : Bool
  trail : Gap

/-- The question mark behind the name of an optional field. -/
def Property.mark (property : Property) : List Char :=
  if property.isOptional then ['?'] else []

/-- What stands behind the name, when the colon is followed by `rest`. -/
def Property.behindName (property : Property) (rest : List Char) : List Char :=
  property.mark ++ (property.spacing.text ++ ':' :: rest)

section

variable (view : List Char → List Char)

/-- What stands before the type of a field. -/
def Property.front (property : Property) : List Char :=
  property.modifier.text ++ (view property.name.source ++ property.behindName [])

def Property.text (property : Property) : List Char :=
  property.front view ++ view property.type.text

def Line.text (line : Line) : List Char :=
  line.property.text view ++ ((if line.isEnded then [';'] else []) ++ line.trail.text)

/-- The fields of a body, with blanks before them. -/
def fieldLines (lead : Gap) (lines : List Line) : List Char :=
  lead.text ++ lines.flatMap (·.text view)

theorem Property.front_append (property : Property) (rest : List Char) :
    property.front view ++ rest =
      property.modifier.text ++ (view property.name.source ++ property.behindName rest) := by
  simp only [front, behindName, List.append_assoc, List.cons_append, List.nil_append]

end

/-- The field as it is recorded. -/
def Property.recorded (property : Property) : Concord.Field :=
  ⟨String.ofList property.name.text, Concord.Member.typeText property.type.text, property.isOptional⟩

/-! ### The masked view -/

theorem Spacing.shows (spacing : Spacing) : Shows spacing.text spacing.text :=
  shows_blank spacing.isGap

theorem FieldName.shows (name : FieldName) : Shows name.source (mask name.source) := by
  cases name with
  | identifier name => exact ⟨name.shows.settled, rfl⟩
  | quoted literal => exact ⟨literal.settled.1, rfl⟩

theorem Modifier.shows (modifier : Modifier) : Shows modifier.text modifier.text := by
  cases modifier with
  | none => exact shows_quiet fun _ absent => absurd absent List.not_mem_nil
  | readonly spacing =>
    have word : Shows "readonly".toList "readonly".toList :=
      shows_quiet (isQuiet_of_isWord isWord_readonly)
    rw [text_readonly]
    exact word.append spacing.shows

theorem Property.shows_front (property : Property) : Shows (property.front id) (property.front mask) := by
  have colon : Shows [':'] [':'] := shows_quiet (by decide)
  have mark : Shows property.mark property.mark := shows_optional _ (by decide)
  exact property.modifier.shows.append
    (property.name.shows.append (mark.append (property.spacing.shows.append colon)))

theorem Property.shows (property : Property) : Shows (property.text id) (property.text mask) :=
  property.shows_front.append ⟨property.type.settled, rfl⟩

theorem Line.shows (line : Line) : Shows (line.text id) (line.text mask) :=
  line.property.shows.append ((shows_optional _ (by decide)).append (shows_blank line.trail.isGap))

theorem shows_fieldLines (lead : Gap) (lines : List Line) :
    Shows (fieldLines id lead lines) (fieldLines mask lead lines) :=
  (shows_blank lead.isGap).append (shows_flatMap _ _ Line.shows lines)

theorem isPassed_spacing (spacing : Spacing) : ∀ c ∈ spacing.text, IsPassed false false c := by
  intro c member
  have blank : isBlank c = true := List.all_eq_true.1 spacing.isGap c member
  have inLine : c ≠ '\n' := fun same => spacing.oneLine (same ▸ member)
  have none : ∀ d ∈ ',' :: ';' :: structural, (isBlank d && d != '\n') = false := by decide
  refine isPassed_of_not_mem (fun mark => absurd (none c mark) ?_) false false
  simp [blank, inLine]

theorem FieldName.isPassed (name : FieldName) : ∀ c ∈ mask name.source, IsPassed false false c := by
  cases name with
  | identifier name =>
    rw [source, name.shows.isMask]
    exact isPassed_of_isWord name.isWord false false
  | quoted literal _ _ plain =>
    have quote := isPassed_of_isQuote literal.quotes false false
    rw [source, literal.settled.2, List.forall_mem_cons, List.forall_mem_append,
      List.forall_mem_singleton]
    refine ⟨quote, fun c member => ?_, quote⟩
    obtain ⟨d, inside, rfl⟩ := List.mem_map.1 member
    rw [blanked, if_neg (plain d inside).2]
    exact isPassed_of_not_mem (by decide) false false

theorem Modifier.isPassed (modifier : Modifier) : ∀ c ∈ modifier.text, IsPassed false false c := by
  cases modifier with
  | none => exact fun c absent => absurd absent List.not_mem_nil
  | readonly spacing =>
    rw [text_readonly, List.forall_mem_append]
    exact ⟨isPassed_of_isWord isWord_readonly false false, isPassed_spacing spacing⟩

theorem Property.isPassed_front (property : Property) :
    ∀ c ∈ property.front mask, IsPassed false false c := by
  have mark : ∀ c ∈ property.mark, IsPassed false false c := by
    intro c member
    unfold Property.mark at member
    split at member
    · rw [List.mem_singleton.1 member]
      exact isPassed_of_not_mem (by decide) false false
    · exact absurd member List.not_mem_nil
  have colon : ∀ c ∈ [':'], IsPassed false false c :=
    List.forall_mem_singleton.2 (isPassed_of_not_mem (by decide) false false)
  simp only [front, behindName, List.forall_mem_append]
  exact ⟨property.modifier.isPassed, property.name.isPassed, mark, isPassed_spacing property.spacing,
    colon⟩

/-- A field in the masked view is built like a type. -/
theorem Property.isType (property : Property) : IsType false (property.text mask) :=
  .run property.isPassed_front property.type.isType

theorem Property.mem_of_break (property : Property) (isBreak : '\n' ∈ property.text mask) :
    '\n' ∈ property.type.text := by
  have inType := (List.mem_append.1 isBreak).resolve_left fun inFront =>
    (property.isPassed_front _ inFront).notStructural (by decide)
  have count := count_mask property.type.text
  rw [← List.count_pos_iff] at inType ⊢
  omega

theorem Property.something (property : Property) : isAllBlank (property.text mask) = false := by
  have colon : isAllBlank [':'] = false := by decide
  simp only [text, front, behindName, isAllBlank_append, colon, Bool.and_false, Bool.false_and]

theorem Property.length_text (property : Property) :
    (property.text id).length = (property.text mask).length := by
  rw [← property.shows.isMask, length_mask]

/-! ### Reading the parts of a field -/

theorem FieldName.head (name : FieldName) (rest : List Char) :
    ∀ c, (name.source ++ rest).head? = some c → isBlank c = false := by
  cases name with
  | identifier name =>
    exact fun c found => isBlank_of_continuesIdentifier (name.head rest c found)
  | quoted literal =>
    rintro c ⟨⟩
    exact Bool.eq_false_iff.2 fun blank => absurd (isQuiet_of_isBlank blank)
      (by simp [isQuiet, literal.quotes])

theorem FieldName.fieldName? (name : FieldName) {rest : List Char}
    (stops : ∀ c, rest.head? = some c → continuesIdentifier c = false) :
    Concord.Member.fieldName? (name.source ++ rest) = some (name.source, rest) := by
  cases name with
  | identifier name =>
    rw [Concord.Member.fieldName?, source, identifier?_word name.isIdentifier stops]
    rfl
  | quoted literal isName something plain =>
    have quotes : literal.quote = '\x27' ∨ literal.quote = '\x22' := by
      simpa [Concord.Member.isNameQuote] using isName
    have noQuote : literal.quote ∉ literal.content := fun inside =>
      absurd (isName.symm.trans (plain _ inside).1) (by simp)
    have read : Concord.Member.quotedName? (literal.text ++ rest) = some (literal.text, rest) := by
      refine Concord.Member.quotedName?_eq_some_iff.2
        ⟨literal.quote, literal.content, quotes, something, noQuote, ?_, rfl⟩
      rw [Literal.text, List.cons_append, List.append_assoc, List.singleton_append]
    have noIdentifier : identifier? (literal.text ++ rest) = none := by
      have opens : opensIdentifier literal.quote = false := by
        rcases quotes with same | same <;> rw [same] <;> decide
      exact if_neg (by simp [opens])
    rw [Concord.Member.fieldName?, source, noIdentifier, read]
    rfl

/-- The quotes around the name of a field are taken off. -/
theorem FieldName.trim_source (name : FieldName) :
    trim Concord.Member.isNameQuote name.source = name.text := by
  cases name with
  | identifier name => exact trim_name name
  | quoted literal isName something plain =>
    have none : ∀ c ∈ literal.content, Concord.Member.isNameQuote c = false :=
      fun c member => (plain c member).1
    have front : literal.text.dropWhile Concord.Member.isNameQuote =
        literal.content ++ [literal.quote] := by
      refine (List.dropWhile_cons_of_pos isName).trans (dropWhile_of_stops fun c found => ?_)
      rw [List.head?_append_of_ne_nil _ something] at found
      exact none c (List.mem_of_head? found)
    have back : literal.content.reverse.dropWhile Concord.Member.isNameQuote =
        literal.content.reverse :=
      dropWhile_of_stops fun c found => none c (List.mem_reverse.1 (List.mem_of_head? found))
    rw [source, trim, front, trimEnd, List.reverse_append, List.reverse_singleton,
      List.singleton_append, List.dropWhile_cons_of_pos isName, back, List.reverse_reverse]
    rfl

/-- A name is no keyword, or it is `readonly` with a blank behind it. -/
theorem FieldName.spacedKeyword?_eq (name : FieldName) {c : Char}
    (stops : continuesIdentifier c = false) (rest : List Char) :
    spacedKeyword? "readonly".toList (name.source ++ c :: rest) = none ∨
      isBlank c = true ∧
        spacedKeyword? "readonly".toList (name.source ++ c :: rest) = some (stripStart rest) := by
  cases name with
  | identifier name =>
    rw [source, spacedKeyword?_word isWord_readonly name.isWord stops]
    split
    · rename_i both
      exact .inr ⟨both.2, rfl⟩
    · exact .inl rfl
  | quoted literal =>
    have different : ¬ 'r' = literal.quote := (literal.ne_of_isQuote (by decide)).symm
    have isKeyword : "readonly".toList = 'r' :: "eadonly".toList := by decide
    rw [isKeyword, source, Literal.text, List.cons_append, spacedKeyword?, after?, if_neg different]
    exact .inl rfl

theorem spacedKeyword?_readonly {spacing : Spacing} (something : spacing.text ≠ []) {rest : List Char}
    (stops : ∀ c, rest.head? = some c → isBlank c = false) :
    spacedKeyword? "readonly".toList ("readonly".toList ++ (spacing.text ++ rest)) = some rest := by
  obtain ⟨c, blanks, isSpacing⟩ := List.exists_cons_of_ne_nil something
  have blank := spacing.isGap
  rw [isSpacing, isAllBlank_cons, Bool.and_eq_true] at blank
  have stripped : stripStart (blanks ++ rest) = rest :=
    dropWhile_append_of_stops (List.all_eq_true.1 blank.2) stops
  rw [isSpacing, List.cons_append, spacedKeyword?_word isWord_readonly isWord_readonly
    (continuesIdentifier_of_isBlank blank.1), if_pos ⟨rfl, blank.1⟩, stripped]

namespace Property

variable (property : Property) (rest : List Char)

theorem stripStart_spacing :
    stripStart (property.spacing.text ++ ':' :: rest) = ':' :: rest := by
  refine dropWhile_append_of_stops (List.all_eq_true.1 property.spacing.isGap) ?_
  rintro c ⟨⟩
  decide

/-- The blanks before the colon, or the colon. -/
theorem head_spacing : ∀ c, (property.spacing.text ++ ':' :: rest).head? = some c →
    continuesIdentifier c = false ∧ c ≠ '?' := by
  have blank := property.spacing.isGap
  intro c found
  cases isSpacing : property.spacing.text with
  | nil =>
    rw [isSpacing] at found
    rw [← Option.some.inj found]
    decide
  | cons d blanks =>
    rw [isSpacing] at found blank
    rw [isAllBlank_cons, Bool.and_eq_true] at blank
    obtain rfl : d = c := Option.some.inj found
    refine ⟨continuesIdentifier_of_isBlank blank.1, ?_⟩
    rintro rfl
    exact absurd blank.1 (by decide)

theorem head_behindName : ∀ c, (property.behindName rest).head? = some c →
    continuesIdentifier c = false := by
  intro c found
  unfold behindName mark at found
  split at found
  · rw [← Option.some.inj found]
    decide
  · exact (property.head_spacing rest c found).1

/-- A blank behind the name goes on up to the colon. -/
theorem stripStart_behindName {c : Char} {behind : List Char}
    (isBehind : property.behindName rest = c :: behind) (blank : isBlank c = true) :
    Text.stripStart behind = ':' :: rest := by
  have stripped := property.stripStart_spacing rest
  unfold behindName mark at isBehind
  split at isBehind
  · rw [← (List.cons.inj isBehind).1] at blank
    exact absurd blank (by decide)
  · rw [List.nil_append] at isBehind
    rwa [isBehind, Text.stripStart, List.dropWhile_cons_of_pos blank] at stripped

theorem annotation?_behindName {type : List Char} (something : type ≠ []) :
    Concord.Member.annotation? (property.behindName type) = some (property.isOptional, type) := by
  obtain ⟨c, tail, rfl⟩ := List.exists_cons_of_ne_nil something
  have stripped := property.stripStart_spacing (c :: tail)
  have other := property.head_spacing (c :: tail)
  rw [behindName, mark]
  generalize property.spacing.text ++ ':' :: c :: tail = behind at stripped other ⊢
  cases property.isOptional with
  | true =>
    rw [if_pos rfl, List.singleton_append, Concord.Member.annotation?]
    simp only [stripped]
  | false =>
    rw [if_neg (by simp), List.nil_append, Concord.Member.annotation?]
    · simp only [stripped]
    · rintro rest rfl
      exact (other '?' rfl).2 rfl

/-- What stands before the type of a field is read with the type behind it. -/
theorem readonlyAnnotated?_front {type : List Char} (something : type ≠ []) :
    Concord.Member.readonlyAnnotated? Concord.Member.fieldName? (property.front id ++ type) =
      some (property.name.source, property.isOptional, type) := by
  have annotated : Concord.Member.annotated? Concord.Member.fieldName?
      (property.name.source ++ property.behindName type) =
        some (property.name.source, property.isOptional, type) := by
    rw [Concord.Member.annotated?, property.name.fieldName? (property.head_behindName type)]
    simp only [Option.bind_eq_bind, Option.bind_some, property.annotation?_behindName something,
      Option.pure_def]
  rw [front_append, id_eq, Concord.Member.readonlyAnnotated?]
  cases property.modifier with
  | readonly spacing isSpaced =>
    rw [Modifier.text_readonly, List.append_assoc,
      spacedKeyword?_readonly isSpaced (property.name.head _), Option.bind_some, annotated]
    rfl
  | none =>
    -- A field may have the name `readonly`. Behind it stands a colon then, and that is no name.
    have noName : (spacedKeyword? "readonly".toList
        (property.name.source ++ property.behindName type)).bind
          (Concord.Member.annotated? Concord.Member.fieldName?) = none := by
      have behindName : property.behindName type ≠ [] := by simp [Property.behindName]
      obtain ⟨c, behind, isBehind⟩ := List.exists_cons_of_ne_nil behindName
      have stops : continuesIdentifier c = false :=
        property.head_behindName type c (congrArg List.head? isBehind)
      rw [isBehind]
      rcases property.name.spacedKeyword?_eq stops behind with none | ⟨blank, found⟩
      · rw [none]
        rfl
      · rw [found, property.stripStart_behindName type isBehind blank]
        rfl
    rw [show Modifier.none.text = [] from rfl, List.nil_append, noName, annotated]
    rfl

/-! ### Reading a field -/

theorem head_text (rest : List Char) :
    ∀ c, (property.front id ++ rest).head? = some c → isBlank c = false := by
  rw [front_append, id_eq]
  cases property.modifier with
  | none => exact property.name.head _
  | readonly spacing something =>
    rw [Modifier.text_readonly]
    rintro c ⟨⟩
    decide

/-- A field between blanks is read as it was printed, whatever blanks stand around its type. -/
theorem field?_surrounded {lead trail : List Char} (isLead : isAllBlank lead = true)
    (isTrail : isAllBlank trail = true) :
    Concord.Member.field? (strip (lead ++ (property.text id ++ trail))) = some property.recorded := by
  obtain ⟨type, blanks, isType, something, isGap, last⟩ := exists_stripEnd property.type.something
  have trimmed : IsTrimmed (property.front id ++ type) := by
    refine ⟨property.head_text type, fun c found => ?_⟩
    rw [List.getLast?_append_of_ne_nil _ something] at found
    exact last c found
  have isText : lead ++ (property.text id ++ trail) =
      lead ++ ((property.front id ++ type) ++ (blanks ++ trail)) := by
    simp only [text, id_eq, isType, List.append_assoc]
  have around : isAllBlank (blanks ++ trail) = true := by
    rw [isAllBlank_append, isGap, isTrail, Bool.true_and]
  have recorded : Concord.Member.typeText property.type.text = Concord.Member.typeText type := by
    have ended := typeText_surrounded type isAllBlank_nil isGap
    rwa [List.nil_append, ← isType] at ended
  rw [isText, strip_surrounded isLead trimmed around, Concord.Member.field?,
    property.readonlyAnnotated?_front something, Option.map_some, Property.recorded, recorded]
  simp only [FieldName.trim_source]

/-! ### Where a field begins -/

theorem startsNamedMember_identifier (name : Name) :
    startsNamedMember (name.text ++ property.behindName rest) = true := by
  have skipped : startsNamedMember.skipQuestion (property.behindName rest) =
      property.spacing.text ++ ':' :: rest := by
    have other := property.head_spacing rest
    rw [behindName, mark]
    generalize property.spacing.text ++ ':' :: rest = behind at other ⊢
    cases property.isOptional with
    | true => rfl
    | false =>
      rw [if_neg (by simp), List.nil_append, startsNamedMember.skipQuestion]
      rintro rest rfl
      exact (other '?' rfl).2 rfl
  rw [startsNamedMember_eq, identifier?_word name.isIdentifier (property.head_behindName rest),
    Option.map_some, Option.getD_some, skipped, comesMark, property.stripStart_spacing]
  rfl

/-- A field named by an identifier is where a new member may begin. -/
theorem startsMember_text (unquoted : property.name.isQuoted = false) {lead : List Char}
    (isLead : isAllBlank lead = true) :
    startsMember (lead ++ (property.text mask ++ rest)) = true := by
  cases isName : property.name with
  | quoted =>
    rw [isName] at unquoted
    exact absurd unquoted (by simp [FieldName.isQuoted])
  | identifier name =>
    have isText : property.text mask ++ rest = property.modifier.text ++
        (name.text ++ property.behindName (mask property.type.text ++ rest)) := by
      rw [text, List.append_assoc, front_append, isName, FieldName.source, name.shows.isMask]
    have starts := property.startsNamedMember_identifier (mask property.type.text ++ rest) name
    have head := name.head (property.behindName (mask property.type.text ++ rest))
    generalize name.text ++ property.behindName (mask property.type.text ++ rest) = named
      at isText starts head
    have noBlank : ∀ c, named.head? = some c → isBlank c = false := fun c found =>
      isBlank_of_continuesIdentifier (head c found)
    rw [startsMember_eq, stripStart_append, if_pos isLead, isText]
    cases property.modifier with
    | none =>
      rw [show Modifier.none.text = [] from rfl, List.nil_append, stripStart_of_not_isBlank noBlank,
        starts, Bool.true_or, Bool.or_true]
    | readonly spacing something =>
      have stripped : Text.stripStart ("readonly".toList ++ (spacing.text ++ named)) =
          "readonly".toList ++ (spacing.text ++ named) := rfl
      rw [Modifier.text_readonly, List.append_assoc, stripped,
        spacedKeyword?_readonly something noBlank, Option.map_some, Option.getD_some, starts,
        Bool.or_true, Bool.or_true]

/-! ### The walk through a field -/

section

variable {lead : List Char} (isLead : isAllBlank lead = true)

include isLead

/-- The walk goes through the blanks before a field and the field. -/
theorem passes {following : List Char}
    (ends : '\n' ∈ property.type.text → ∃ rest, following = ';' :: rest) :
    Passes .body false (lead ++ property.text mask) following :=
  (passes_blanks marks_body isLead (fun _ => rfl) _).append _
    (property.isType.passes _ fun isBreak => ends (property.mem_of_break isBreak))

theorem filterMap_piece {trail : List Char} (isTrail : isAllBlank trail = true)
    (pieces : List (List Char)) :
    ((lead ++ property.text id ++ trail) :: pieces).filterMap
        (fun piece => Concord.Member.field? (strip piece)) =
      property.recorded ::
        pieces.filterMap fun piece => Concord.Member.field? (strip piece) := by
  rw [List.append_assoc]
  exact List.filterMap_cons_some (property.field?_surrounded isLead isTrail)

end

theorem something_lead (lead : List Char) :
    isAllBlank (lead ++ property.text mask) = false := by
  rw [isAllBlank_append, property.something, Bool.and_false]

theorem length_lead (lead : List Char) :
    (lead ++ property.text id).length = (lead ++ property.text mask).length := by
  rw [List.length_append, property.length_text, ← List.length_append]

end Property

/-! ### Splitting the lines -/

/-- Blanks with a line break in them end no member if none begins behind them. -/
theorem passes_gap {text : List Char} (blank : isAllBlank text = true) {inhabited : Bool}
    {following : List Char} (joins : '\n' ∈ text → startsMember following = false) :
    Passes .body inhabited text following := by
  induction text with
  | nil =>
    intro begun index count
    simp [isAllBlank]
  | cons c text inductionHypothesis =>
    rw [isAllBlank_cons, Bool.and_eq_true] at blank
    have first : Passes .body inhabited [c] (text ++ following) := by
      refine passes_blank marks_body blank.1 fun isBreak _ _ => ?_
      have goesOn := joins (isBreak ▸ List.mem_cons_self)
      rwa [startsMember_eq, stripStart_append, if_pos blank.2, ← startsMember_eq]
    refine first.append text ?_
    rw [isAllBlank_cons, blank.1]
    simpa [isAllBlank] using
      inductionHypothesis blank.2 fun isBreak => joins (List.mem_cons_of_mem c isBreak)

/-- Each field is ended by a semicolon, or it is on one line and a line break ends it: behind that an
identifier names the next field, or there is none. -/
def Separated : List Line → Prop
  | [] => True
  | [line] => line.isEnded = false → '\n' ∉ line.property.type.text
  | line :: next :: lines =>
    (line.isEnded = false → '\n' ∉ line.property.type.text ∧ '\n' ∈ line.trail.text ∧
      next.property.name.isQuoted = false) ∧
    Separated (next :: lines)

theorem Separated.tail {line : Line} {lines : List Line} (separated : Separated (line :: lines)) :
    Separated lines := by
  cases lines with
  | nil => trivial
  | cons next lines => exact separated.2

theorem flatMap_ended {line : Line} (isEnded : line.isEnded = true) (view : List Char → List Char)
    (lead : List Char) (lines : List Line) :
    lead ++ (line :: lines).flatMap (·.text view) = (lead ++ line.property.text view) ++
      ';' :: (line.trail.text ++ lines.flatMap (·.text view)) := by
  simp only [List.flatMap_cons, Line.text, isEnded, List.append_assoc, List.cons_append,
    List.nil_append, ↓reduceIte]

theorem flatMap_bare {line : Line} (isBare : line.isEnded = false) (view : List Char → List Char)
    (lead : List Char) (lines : List Line) :
    lead ++ (line :: lines).flatMap (·.text view) = (lead ++ line.property.text view) ++
      (line.trail.text ++ lines.flatMap (·.text view)) := by
  simp only [List.flatMap_cons, Line.text, isBare, List.append_assoc, List.nil_append,
    Bool.false_eq_true, ↓reduceIte]

/-- The lines of fields split into the fields; `lead` is blank text before them. -/
theorem splits_lines {lines : List Line} (separated : Separated lines) {lead : List Char}
    (isLead : isAllBlank lead = true) :
    ∃ pieces, (∀ rest, Splits .body ('\x7d' :: rest) (lead ++ lines.flatMap (·.text mask))
        (lead ++ lines.flatMap (·.text id)) pieces) ∧
      pieces.filterMap (fun piece => Concord.Member.field? (strip piece)) =
        lines.map (·.property.recorded) := by
  induction lines generalizing lead with
  | nil =>
    refine ⟨[], fun rest => ?_, rfl⟩
    rw [List.flatMap_nil, List.flatMap_nil, List.append_nil]
    exact .blank (passes_blanks marks_body isLead (fun _ => rfl) _) isLead
  | cons line lines inductionHypothesis =>
    have something := line.property.something_lead lead
    have same := line.property.length_lead lead
    cases isEnded : line.isEnded with
    | true =>
      obtain ⟨pieces, splits, later⟩ := inductionHypothesis separated.tail line.trail.isGap
      have read := line.property.filterMap_piece isLead isAllBlank_nil pieces
      rw [List.append_nil, later] at read
      refine ⟨_, fun rest => ?_, read⟩
      rw [flatMap_ended isEnded, flatMap_ended isEnded]
      exact .next (line.property.passes isLead fun _ => ⟨_, rfl⟩) something same
        (ends_mark (by decide) (by decide) _) (splits rest)
    | false =>
      cases lines with
      | nil =>
        have noBreak := separated isEnded
        refine ⟨[lead ++ line.property.text id ++ line.trail.text], fun rest => ?_,
          line.property.filterMap_piece isLead line.trail.isGap []⟩
        rw [flatMap_bare isEnded, flatMap_bare isEnded, List.flatMap_nil, List.flatMap_nil,
          List.append_nil]
        refine .last ((line.property.passes isLead fun isBreak => absurd isBreak noBreak).append _
          (passes_gap line.trail.isGap fun _ => rfl)) ?_ ?_
        · rw [isAllBlank_append, something, Bool.false_and]
        · rw [List.length_append, same, ← List.length_append]
      | cons next lines =>
        obtain ⟨noBreak, isBreak, unquoted⟩ := separated.1 isEnded
        -- The field ends at the first line break behind it.
        obtain ⟨before, behind, isTrail, inLine⟩ := List.eq_append_cons_of_mem isBreak
        have blank := line.trail.isGap
        rw [isTrail, isAllBlank_append, isAllBlank_cons, Bool.and_eq_true, Bool.and_eq_true] at blank
        obtain ⟨pieces, splits, later⟩ := inductionHypothesis separated.2 blank.2.2
        have read := line.property.filterMap_piece isLead blank.1 pieces
        rw [later] at read
        have isText : ∀ view, lead ++ (line :: next :: lines).flatMap (·.text view) =
            (lead ++ line.property.text view ++ before) ++
              '\n' :: (behind ++ (next :: lines).flatMap (·.text view)) := by
          intro view
          rw [flatMap_bare isEnded, isTrail]
          simp only [List.append_assoc, List.cons_append]
        have starts : ∀ rest, startsMember
            (behind ++ (next :: lines).flatMap (·.text mask) ++ rest) = true := by
          intro rest
          rw [List.flatMap_cons, Line.text, List.append_assoc, List.append_assoc, List.append_assoc]
          exact next.property.startsMember_text _ unquoted blank.2.2
        refine ⟨_, fun rest => ?_, read⟩
        rw [isText, isText]
        refine .next ((line.property.passes isLead fun isBreak => absurd isBreak noBreak).append _
          (passes_gap blank.1 fun isBreak => absurd isBreak inLine)) ?_ ?_
            (ends_break (starts _)) (splits rest)
        · rw [isAllBlank_append, something, Bool.false_and]
        · rw [List.length_append, same, ← List.length_append]

/-! ### The body of a record -/

theorem keepsBraces_fieldLines (lead : Gap) (lines : List Line) :
    KeepsBraces (fieldLines mask lead lines) := by
  have semicolon : ∀ line : Line, KeepsBraces (if line.isEnded then [';'] else []) := by
    intro line
    split <;> exact keepsBraces_of_forall (by decide)
  refine (keepsBraces_blank lead.isGap).append ?_
  induction lines with
  | nil => exact .nil
  | cons line lines inductionHypothesis =>
    exact (line.property.isType.keepsBraces.append
      ((semicolon line).append (keepsBraces_blank line.trail.isGap))).append inductionHypothesis

/-- The fields of a body are read back; of one name the first counts. -/
theorem readsAs_fieldLines (lead : Gap) {lines : List Line} (separated : Separated lines) :
    ReadsAs Concord.Member.fields (fieldLines id lead lines)
      (Concord.Member.firstOfName [] (lines.map (·.property.recorded))) := by
  obtain ⟨pieces, splits, read⟩ := splits_lines separated lead.isGap
  have shows := shows_fieldLines lead lines
  have keeps := keepsBraces_fieldLines lead lines
  rw [← shows.isMask] at keeps
  rw [← read]
  refine readsAs_splits shows.settled keeps fun rest => ?_
  rw [shows.isMask]
  exact splits rest

end Concord.Printed
