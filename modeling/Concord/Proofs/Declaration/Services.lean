/-
Bodies of services. Fields `name?: type` and methods `name?<type parameters>(parameters): type` stand in any
order, one on a line, with a semicolon behind a member or without. The walk that splits the body finds one
piece for each of them; what reads fields passes over the methods and what reads methods passes over the
fields, so each gets its own back, in order, and every method with the line on which it begins.
-/

import Concord.Proofs.Declaration.Properties
import Concord.Proofs.Source.Brackets

namespace Concord.Service

open Source Text Printed

/-! ### Parts of a member -/

/-- A type on one line, without literals and without comments. -/
structure InlineType where
  text : List Char
  quiet : ∀ c ∈ text, isQuiet c = true
  closes : Closes false [] text
  collapsed : collapse text = text
  something : text ≠ []

/-- What stands between the angle brackets of a method. With the brackets it is well nested: at its end no
equals sign makes an arrow of the closing one. -/
structure TypeParameters where
  text : List Char
  quiet : ∀ c ∈ text, isQuiet c = true
  noParenthesis : ∀ c ∈ text, Concord.Member.isParenthesis c = false
  closes : Closes false [] ('<' :: (text ++ ['>']))

structure Parameter where
  name : Name
  isOptional : Bool
  type : InlineType

/-- What stands behind the name of a member and the question mark, if there is one. -/
inductive Form where
  | field (type : InlineType)
  | method (typeParameters : Option TypeParameters) (parameters : List Parameter)
    (returnType : InlineType)

structure Member where
  name : Name
  isOptional : Bool
  form : Form

/-- A member with what ends its line. -/
structure Line where
  member : Member
  isEnded : Bool
  trail : Printed.Gap
  breaks : '\n' ∈ trail.text

/-! ### As it is printed -/

/-- A name, perhaps a question mark, and what stands behind. -/
def named (name : Name) (isOptional : Bool) (behind : List Char) : List Char :=
  name.text ++ ((if isOptional then ['?'] else []) ++ behind)

def typed (type : InlineType) : List Char :=
  ':' :: ' ' :: type.text

def Parameter.text (parameter : Parameter) : List Char :=
  named parameter.name parameter.isOptional (typed parameter.type)

/-- Parameters with commas between them. -/
def listed (parameters : List Parameter) : List Char :=
  [',', ' '].intercalate (parameters.map (·.text))

def angled : Option TypeParameters → List Char
  | none => []
  | some typeParameters => '<' :: (typeParameters.text ++ ['>'])

def Form.text : Form → List Char
  | .field type => typed type
  | .method typeParameters parameters returnType =>
    angled typeParameters ++ '(' :: (listed parameters ++ ')' :: typed returnType)

def Member.text (member : Member) : List Char :=
  named member.name member.isOptional member.form.text

def Line.text (line : Line) : List Char :=
  line.member.text ++ ((if line.isEnded then [';'] else []) ++ line.trail.text)

/-- The lines of a body, with blanks before them. -/
def bodyText (lead : Printed.Gap) (lines : List Line) : List Char :=
  lead.text ++ lines.flatMap (·.text)

/-! ### As it is recorded -/

def Parameter.recorded (parameter : Parameter) : Concord.Parameter :=
  ⟨String.ofList parameter.name.text, String.ofList parameter.type.text, parameter.isOptional⟩

/-- The field that a member is. -/
def Member.field? (member : Member) : Option Concord.Field :=
  match member.form with
  | .field type => some ⟨String.ofList member.name.text, String.ofList type.text, member.isOptional⟩
  | .method .. => none

/-- The method that a member is. -/
def Member.method? (owner : String) (location : Location) (member : Member) : Option ServiceMethod :=
  match member.form with
  | .field _ => none
  | .method _ parameters returnType =>
    some ⟨owner, String.ofList member.name.text, parameters.map (·.recorded),
      String.ofList returnType.text, location⟩

/-- The members with their lines, when the first begins on `line`. -/
def numbered : (line : Nat) → List Line → List (Nat × Member)
  | _, [] => []
  | line, first :: lines =>
    (line, first.member) :: numbered (line + first.trail.text.count '\n') lines

/-! ### What a member is made of -/

theorem InlineType.isTrimmed (type : InlineType) : IsTrimmed type.text :=
  type.collapsed ▸ isTrimmed_collapse type.text

theorem InlineType.typeText (type : InlineType) :
    Concord.Member.typeText (' ' :: type.text) = String.ofList type.text :=
  typeText_collapsed type.collapsed type.closes.noSeparator

theorem isTrimmed_typed (type : InlineType) : IsTrimmed (typed type) := by
  refine ⟨fun c found => ?_, fun c found => ?_⟩
  · rw [← Option.some.inj found]
    decide
  · rw [typed, List.getLast?_cons_cons, List.getLast?_cons_of_ne_nil type.something] at found
    exact type.isTrimmed.last c found

/-- A colon, a parenthesis or an angle bracket comes first. -/
def Introduces (behind : List Char) : Prop :=
  ∃ c rest, behind = c :: rest ∧ c ∈ [':', '(', '<']

theorem Form.introduces (form : Form) (rest : List Char) : Introduces (form.text ++ rest) := by
  cases form with
  | field type => exact ⟨_, _, rfl, by decide⟩
  | method typeParameters =>
    cases typeParameters with
    | none => exact ⟨_, _, rfl, by decide⟩
    | some => exact ⟨_, _, rfl, by decide⟩

theorem closes_named {inside : Bool} (name : Name) (isOptional : Bool) {behind : List Char}
    (closes : Closes inside [] behind) : Closes inside [] (named name isOptional behind) := by
  refine .run name.text (isPassed_of_isWord name.isWord inside inside) (.run _ (fun c member => ?_) closes)
  cases isOptional with
  | false => exact absurd member List.not_mem_nil
  | true =>
    rw [List.mem_singleton.1 member]
    exact isPassed_of_not_mem (by decide) inside inside

theorem closes_typed (type : InlineType) : Closes false [] (typed type) :=
  .run [':', ' '] (by decide) type.closes

theorem Parameter.closes (parameter : Parameter) : Closes false [] parameter.text :=
  closes_named parameter.name parameter.isOptional (closes_typed parameter.type)

theorem listed_cons (parameter next : Parameter) (parameters : List Parameter) :
    listed (parameter :: next :: parameters) =
      parameter.text ++ ',' :: ' ' :: listed (next :: parameters) := by
  rw [listed, List.map_cons, List.map_cons, List.intercalate_cons_cons, List.append_assoc]
  rfl

theorem listed_singleton (parameter : Parameter) : listed [parameter] = parameter.text :=
  List.intercalate_singleton

theorem closes_listed (parameters : List Parameter) : Closes true [] (listed parameters) := by
  have inList : ∀ (parameter : Parameter) {text : List Char}, Closes true [] text →
      text.head? ≠ some '>' → Closes true [] (parameter.text ++ text) :=
    fun parameter _ closes => parameter.closes.append closes (by simp)
  induction parameters with
  | nil => exact .nil
  | cons parameter parameters inductionHypothesis =>
    cases parameters with
    | nil =>
      have alone := inList parameter .nil (by simp)
      rwa [List.append_nil, ← listed_singleton] at alone
    | cons next parameters =>
      rw [listed_cons]
      exact inList parameter (.run [',', ' '] (by decide) inductionHypothesis) (by simp)

theorem Form.closes (form : Form) : Closes false [] form.text := by
  cases form with
  | field type => exact closes_typed type
  | method typeParameters parameters returnType =>
    have closes : Closes false [] ('(' :: (listed parameters ++ ')' :: typed returnType)) :=
      .opening .round ((closes_listed parameters).append
        (.closing .round (closes_typed returnType)) (by simp) (by simp))
    cases typeParameters with
    | none => exact closes
    | some typeParameters => exact typeParameters.closes.append closes (by simp) (by simp)

theorem Member.closes (member : Member) : Closes false [] member.text :=
  closes_named member.name member.isOptional member.form.closes

/-! ### Without literals and comments -/

theorem quiet_named (name : Name) (isOptional : Bool) {behind : List Char}
    (quiet : ∀ c ∈ behind, isQuiet c = true) :
    ∀ c ∈ named name isOptional behind, isQuiet c = true := by
  rw [named, List.forall_mem_append, List.forall_mem_append]
  refine ⟨isQuiet_of_isWord name.isWord, ?_, quiet⟩
  cases isOptional <;> decide

theorem quiet_typed (type : InlineType) : ∀ c ∈ typed type, isQuiet c = true := by
  rw [typed, List.forall_mem_cons, List.forall_mem_cons]
  exact ⟨by decide, by decide, type.quiet⟩

theorem quiet_listed (parameters : List Parameter) : ∀ c ∈ listed parameters, isQuiet c = true := by
  refine forall_mem_intercalate (by decide) fun text member => ?_
  obtain ⟨parameter, _, rfl⟩ := List.mem_map.1 member
  exact quiet_named parameter.name parameter.isOptional (quiet_typed parameter.type)

theorem Form.quiet (form : Form) : ∀ c ∈ form.text, isQuiet c = true := by
  cases form with
  | field type => exact quiet_typed type
  | method typeParameters parameters returnType =>
    rw [text, List.forall_mem_append, List.forall_mem_cons, List.forall_mem_append,
      List.forall_mem_cons]
    refine ⟨?_, by decide, quiet_listed parameters, by decide, quiet_typed returnType⟩
    cases typeParameters with
    | none => exact fun _ absent => absurd absent List.not_mem_nil
    | some typeParameters =>
      rw [angled, List.forall_mem_cons, List.forall_mem_append, List.forall_mem_singleton]
      exact ⟨by decide, typeParameters.quiet, by decide⟩

theorem Line.quiet (line : Line) : ∀ c ∈ line.text, isQuiet c = true := by
  have blank : ∀ gap : Printed.Gap, ∀ c ∈ gap.text, isQuiet c = true := fun gap c member =>
    isQuiet_of_isBlank (List.all_eq_true.1 gap.isGap c member)
  rw [text, List.forall_mem_append, List.forall_mem_append]
  refine ⟨quiet_named line.member.name line.member.isOptional line.member.form.quiet, ?_,
    blank line.trail⟩
  cases line.isEnded <;> decide

theorem shows_bodyText (lead : Printed.Gap) (lines : List Line) :
    Shows (bodyText lead lines) (bodyText lead lines) := by
  have shows : ∀ line : Line, Shows line.text line.text := fun line => shows_quiet line.quiet
  exact (shows_blank lead.isGap).append (shows_flatMap _ _ shows lines)

theorem keepsBraces_bodyText (lead : Printed.Gap) (lines : List Line) : KeepsBraces (bodyText lead lines) := by
  refine (keepsBraces_blank lead.isGap).append ?_
  induction lines with
  | nil => exact .nil
  | cons line lines inductionHypothesis =>
    have semicolon : KeepsBraces (if line.isEnded then [';'] else []) := by
      split <;> exact keepsBraces_of_forall (by decide)
    exact (line.member.closes.keepsBraces.append
      (semicolon.append (keepsBraces_blank line.trail.isGap))).append inductionHypothesis

/-! ### Reading a name -/

section

variable (name : Name) (isOptional : Bool) {behind : List Char} (introduces : Introduces behind)

theorem head_named (rest : List Char) :
    ∀ c, (named name isOptional behind ++ rest).head? = some c → isBlank c = false := by
  rw [named, List.append_assoc]
  exact fun c found => isBlank_of_continuesIdentifier (name.head _ c found)

include introduces

/-- Directly behind a name stands neither a blank nor a character of a name. -/
theorem exists_behindName : ∃ c rest, (if isOptional then ['?'] else []) ++ behind = c :: rest ∧
    continuesIdentifier c = false ∧ isBlank c = false := by
  obtain ⟨c, rest, rfl, member⟩ := introduces
  have none : ∀ c ∈ [':', '(', '<'], continuesIdentifier c = false ∧ isBlank c = false := by decide
  cases isOptional with
  | false => exact ⟨c, rest, rfl, none c member⟩
  | true => exact ⟨'?', c :: rest, rfl, by decide⟩

theorem identifier?_named :
    identifier? (named name isOptional behind) =
      some (name.text, (if isOptional then ['?'] else []) ++ behind) := by
  obtain ⟨c, rest, isBehind, stops, -⟩ := exists_behindName isOptional introduces
  rw [named, isBehind]
  refine identifier?_word name.isIdentifier ?_
  rintro d ⟨⟩
  exact stops

/-- No keyword stands before a name, not even where the name itself is one. -/
theorem spacedKeyword?_named {keyword : List Char} (isKeyword : IsWord keyword) :
    spacedKeyword? keyword (named name isOptional behind) = none := by
  obtain ⟨c, rest, isBehind, stops, noBlank⟩ := exists_behindName isOptional introduces
  rw [named, isBehind, spacedKeyword?_word isKeyword name.isWord stops, if_neg]
  rw [noBlank]
  simp

theorem startsMember_named {lead : List Char} (isLead : isAllBlank lead = true) :
    startsMember (lead ++ named name isOptional behind) = true := by
  have starts : startsNamedMember (named name isOptional behind) = true := by
    rw [startsNamedMember_eq, identifier?_named name isOptional introduces, Option.map_some,
      Option.getD_some]
    obtain ⟨c, rest, rfl, member⟩ := introduces
    have marks : ∀ c ∈ [':', '(', '<'],
        c ≠ '?' ∧ isBlank c = false ∧ (c == ':' || c == '(' || c == '<') = true := by
      decide
    obtain ⟨noQuestion, noBlank, isMark⟩ := marks c member
    have skipped : startsNamedMember.skipQuestion ((if isOptional then ['?'] else []) ++ c :: rest) =
        c :: rest := by
      cases isOptional with
      | true => rfl
      | false => simp [startsNamedMember.skipQuestion, noQuestion]
    rw [skipped, comesMark, stripStart_of_not_isBlank, List.head?_cons, Option.any_some, isMark]
    rintro d ⟨⟩
    exact noBlank
  have stripped : stripStart (named name isOptional behind) = named name isOptional behind :=
    stripStart_of_not_isBlank fun c found => head_named name isOptional [] c (by rwa [List.append_nil])
  rw [startsMember_eq, stripStart_append, if_pos isLead, stripped, starts, Bool.true_or, Bool.or_true]

/-- What reads names with a type reads the name, whatever else it takes for one. -/
theorem readonlyAnnotated?_named {name? : List Char → Option (List Char × List Char)}
    (reads : ∀ text found, identifier? text = some found → name? text = some found) :
    Concord.Member.readonlyAnnotated? name? (named name isOptional behind) =
      (Concord.Member.annotation? ((if isOptional then ['?'] else []) ++ behind)).map
        fun found => (name.text, found.1, found.2) := by
  rw [Concord.Member.readonlyAnnotated?, spacedKeyword?_named name isOptional introduces isWord_readonly,
    Option.bind_none, Option.none_or, Concord.Member.annotated?,
    reads _ _ (identifier?_named name isOptional introduces)]
  simp only [Option.bind_eq_bind, Option.bind_some, Option.pure_def]
  cases Concord.Member.annotation? ((if isOptional then ['?'] else []) ++ behind) <;> rfl

theorem methodHead?_named :
    Concord.Member.methodHead? (named name isOptional behind) =
      match stripStart (Concord.Member.behindMethodParameters behind) with
      | '(' :: rest => some (name.text, '(' :: rest)
      | _ => none := by
  have isWord : IsWord "async".toList := by decide
  have noKeyword := spacedKeyword?_named name isOptional introduces isWord
  simp only [Concord.Member.methodHead?, spacedKeyword?_named name isOptional introduces isWord_readonly,
    noKeyword, Option.bind_none, Option.none_or, Concord.Member.methodName?,
    identifier?_named name isOptional introduces, Option.bind_eq_bind, Option.bind_some]
  obtain ⟨c, rest, rfl, member⟩ := introduces
  simp only [List.mem_cons, List.not_mem_nil, or_false] at member
  rcases member with rfl | rfl | rfl <;> cases isOptional <;> rfl

end

/-! ### Fields -/

theorem Member.head_text (member : Member) (rest : List Char) :
    ∀ c, (member.text ++ rest).head? = some c → isBlank c = false :=
  head_named member.name member.isOptional rest

theorem Form.exists_typed (form : Form) :
    ∃ front, ∃ type : InlineType, form.text = front ++ typed type := by
  cases form with
  | field type => exact ⟨[], type, rfl⟩
  | method typeParameters parameters returnType =>
    refine ⟨angled typeParameters ++ '(' :: (listed parameters ++ [')']), returnType, ?_⟩
    simp only [text, List.append_assoc, List.cons_append, List.nil_append]

/-- A member begins with a name and ends with a type. -/
theorem Member.isTrimmed (member : Member) : IsTrimmed member.text := by
  refine ⟨fun c found => member.head_text [] c (by rwa [List.append_nil]), fun c found => ?_⟩
  obtain ⟨front, type, isText⟩ := member.form.exists_typed
  have something : typed type ≠ [] := List.cons_ne_nil _ _
  rw [text, named, isText, ← List.append_assoc, ← List.append_assoc,
    List.getLast?_append_of_ne_nil _ something] at found
  exact (isTrimmed_typed type).last c found

/-- A field is read as it was printed, and no field is read where a method stands. -/
theorem Member.field?_text (member : Member) : Concord.Member.field? member.text = member.field? := by
  have introduces : Introduces member.form.text := by
    have introduces := member.form.introduces []
    rwa [List.append_nil] at introduces
  have reads : ∀ text found, identifier? text = some found →
      Concord.Member.fieldName? text = some found := by
    intro text found named
    rw [Concord.Member.fieldName?, named]
    rfl
  rw [Concord.Member.field?, text, readonlyAnnotated?_named member.name member.isOptional introduces reads,
    field?]
  cases member.form with
  | field type =>
    rw [Form.text, typed, annotation?_printed, Option.map_some, Option.map_some]
    simp only [type.typeText, trim_name]
  | method typeParameters parameters returnType =>
    have none : Concord.Member.annotation? ((if member.isOptional then ['?'] else []) ++
        Form.text (.method typeParameters parameters returnType)) = none := by
      cases member.isOptional <;> cases typeParameters <;> rfl
    rw [none]
    rfl

/-! ### Parameters -/

/-- What is read of a piece between the commas of a list. -/
def parameter? (piece : List Char) : Option Concord.Parameter :=
  (Concord.Member.readonlyAnnotated? identifier? (strip piece)).map
    fun (name, isOptional, typeExpression) =>
      ⟨String.ofList name, Concord.Member.typeText typeExpression, isOptional⟩

theorem Parameter.isTrimmed (parameter : Parameter) : IsTrimmed parameter.text :=
  Member.isTrimmed ⟨parameter.name, parameter.isOptional, .field parameter.type⟩

theorem Parameter.something (parameter : Parameter) : isAllBlank parameter.text = false := by
  rw [text, named, isAllBlank_append, parameter.name.something, Bool.false_and]

/-- A parameter is read as it was printed. -/
theorem Parameter.parameter?_text (parameter : Parameter) {lead : List Char}
    (isLead : isAllBlank lead = true) :
    parameter? (lead ++ parameter.text) = some parameter.recorded := by
  have stripped := strip_surrounded isLead parameter.isTrimmed isAllBlank_nil
  have introduces : Introduces (typed parameter.type) := ⟨_, _, rfl, by decide⟩
  rw [List.append_nil] at stripped
  rw [parameter?, stripped, text, readonlyAnnotated?_named parameter.name parameter.isOptional introduces
    fun _ _ found => found, typed, annotation?_printed, Option.map_some, Option.map_some]
  simp only [parameter.type.typeText, recorded]

/-- The parameters split into the parameters; `lead` is blank text before them. -/
theorem splits_listed (parameters : List Parameter) {lead : List Char} (isLead : isAllBlank lead = true) :
    ∃ pieces, Splits .list [] (lead ++ listed parameters) (lead ++ listed parameters) pieces ∧
      pieces.filterMap parameter? = parameters.map (·.recorded) := by
  have passes : ∀ {lead : List Char}, isAllBlank lead = true → ∀ (parameter : Parameter) {following},
      List.head? following ≠ some '>' → Passes .list false (lead ++ parameter.text) following :=
    fun isLead parameter _ noArrow => (passes_blanks marks_list isLead (fun _ => rfl) _).append
      parameter.text (parameter.closes.passes marks_list _ noArrow)
  have something : ∀ (lead : List Char) (parameter : Parameter),
      isAllBlank (lead ++ parameter.text) = false := by
    intro lead parameter
    rw [isAllBlank_append, parameter.something, Bool.and_false]
  induction parameters generalizing lead with
  | nil =>
    have isBlank : isAllBlank (lead ++ listed []) = true := by
      rwa [listed, List.map_nil, List.intercalate_nil, List.append_nil]
    exact ⟨[], .blank (passes_blanks marks_list isBlank (fun _ => rfl) _) isBlank, rfl⟩
  | cons parameter parameters inductionHypothesis =>
    have read := parameter.parameter?_text isLead
    cases parameters with
    | nil =>
      rw [listed_singleton]
      exact ⟨[lead ++ parameter.text],
        .last (passes isLead parameter (by simp)) (something lead parameter) rfl,
        List.filterMap_cons_some read⟩
    | cons next parameters =>
      obtain ⟨pieces, splits, later⟩ := inductionHypothesis (show isAllBlank [' '] = true by decide)
      rw [listed_cons, ← List.append_assoc]
      refine ⟨(lead ++ parameter.text) :: pieces, .next (passes isLead parameter (by simp))
        (something lead parameter) rfl (ends_mark (by decide) (by decide) _) splits, ?_⟩
      rw [List.filterMap_cons_some read, later]
      rfl

/-- The parameters of a method are read back. -/
theorem parameters_listed (parameters : List Parameter) :
    Concord.Member.parameters (listed parameters) = parameters.map (·.recorded) := by
  obtain ⟨pieces, splits, read⟩ := splits_listed parameters isAllBlank_nil
  rw [List.nil_append] at splits
  have whole : (listed parameters).drop 0 = listed parameters ++ [] := by
    rw [List.drop_zero, List.append_nil]
  have slices := splits.slices_members marks_list ⟨listed parameters, listed parameters⟩ whole whole
    (.inl rfl)
  rw [Nat.zero_add] at slices
  rw [Concord.Member.parameters, ← read, ← slices, List.filterMap_map]
  rfl

/-! ### Methods -/

/-- A method is read from its head, what stands listed between the parentheses and what stands behind. -/
theorem method?_of_parts {views : Views} {start : Nat} {lead front inner behind rest tail : List Char}
    {name returnType : List Char} (isLead : isAllBlank lead = true)
    (solid : ∀ c, (front ++ '(' :: (inner ++ ')' :: behind)).head? = some c → isBlank c = false)
    (head : Concord.Member.methodHead? (front ++ '(' :: (inner ++ ')' :: behind)) =
      some (name, '(' :: (inner ++ ')' :: behind)))
    (closes : Closes true [] inner) (isBehind : strip behind = ':' :: returnType)
    (maskedHere : views.masked.drop start =
      lead ++ (front ++ '(' :: (inner ++ ')' :: behind)) ++ rest)
    (cleanHere : views.clean.drop start =
      lead ++ (front ++ '(' :: (inner ++ ')' :: behind)) ++ tail) :
    Concord.Member.method? views
        ⟨start, start + (lead ++ (front ++ '(' :: (inner ++ ')' :: behind))).length⟩ =
      some (start + lead.length, String.ofList name, Concord.Member.parameters inner,
        Concord.Member.typeText returnType) := by
  have slice := slice_of_drop maskedHere rfl
  simp only [List.append_assoc, List.cons_append] at maskedHere cleanHere
  have stripped : stripStart (lead ++ (front ++ '(' :: (inner ++ ')' :: behind))) =
      front ++ '(' :: (inner ++ ')' :: behind) :=
    dropWhile_append_of_stops (List.all_eq_true.1 isLead) solid
  have begun : ∀ text : List Char,
      start + ((lead ++ text).length - text.length) = start + lead.length := by
    intro text
    rw [List.length_append, Nat.add_sub_cancel]
  have opening : ∀ text : List Char, start + lead.length + ((front ++ text).length - text.length) =
      start + lead.length + front.length := by
    intro text
    rw [List.length_append, Nat.add_sub_cancel]
  have closing := closes.closingParenthesis?_eq (drop_behind (drop_behind maskedHere))
  have cleanInner := drop_succ (drop_behind (drop_behind cleanHere))
  have cleanBehind := drop_succ (drop_behind cleanInner)
  have stop : start + (lead ++ (front ++ '(' :: (inner ++ ')' :: behind))).length =
      start + lead.length + front.length + 1 + inner.length + 1 + behind.length := by
    simp only [List.length_append, List.length_cons]
    omega
  have within : start + lead.length + front.length + 1 + inner.length <
      start + (lead ++ (front ++ '(' :: (inner ++ ')' :: behind))).length := by
    omega
  rw [Concord.Member.method?]
  simp only [slice, stripped, begun, head, opening, closing, within, ↓reduceIte, Option.bind_eq_bind,
    Option.bind_some]
  rw [stop]
  simp only [slice_of_drop cleanInner rfl, slice_of_drop cleanBehind rfl, isBehind, Option.pure_def]

theorem behindMethodParameters_angled (typeParameters : Option TypeParameters) (rest : List Char) :
    Concord.Member.behindMethodParameters (angled typeParameters ++ '(' :: rest) = '(' :: rest := by
  cases typeParameters with
  | none => rfl
  | some typeParameters =>
    have inside : ∀ c ∈ typeParameters.text ++ ['>'], (!Concord.Member.isParenthesis c) = true := by
      rw [List.forall_mem_append, List.forall_mem_singleton]
      exact ⟨fun c member => by rw [typeParameters.noParenthesis c member]; rfl, by decide⟩
    have stops : ∀ c, ('(' :: rest).head? = some c → (!Concord.Member.isParenthesis c) = false := by
      rintro c ⟨⟩
      decide
    have isBefore : before Concord.Member.isParenthesis (typeParameters.text ++ ['>'] ++ '(' :: rest) =
        typeParameters.text ++ ['>'] := takeWhile_append_of_stops inside stops
    have isStripped : stripEnd (typeParameters.text ++ ['>']) = typeParameters.text ++ ['>'] := by
      rw [stripEnd, List.reverse_append, List.reverse_singleton, List.singleton_append,
        List.dropWhile_cons_of_neg (by decide), List.reverse_cons, List.reverse_reverse]
    rw [angled, List.cons_append, Concord.Member.behindMethodParameters, isBefore, isStripped,
      List.getLast?_concat, if_pos rfl]
    exact dropWhile_append_of_stops inside stops

/-- Where a member stands: at the end of what is read before it, with blanks around. -/
inductive Covers (views : Views) : Span → Nat × Member → Prop
  | mk {start : Nat} {lead trail rest tail : List Char} (member : Member)
      (isLead : isAllBlank lead = true) (isTrail : isAllBlank trail = true)
      (maskedHere : views.masked.drop start = lead ++ (member.text ++ trail) ++ rest)
      (cleanHere : views.clean.drop start = lead ++ (member.text ++ trail) ++ tail) :
      Covers views ⟨start, start + (lead ++ (member.text ++ trail)).length⟩
        (views.lineOf (start + lead.length), member)

section

variable {views : Views} {span : Span} {line : Nat} {member : Member}

theorem Covers.field? (covers : Covers views span (line, member)) :
    Concord.Member.field? (strip (span.slice views.clean)) = member.field? := by
  cases covers with
  | @mk start lead trail rest tail _ isLead isTrail maskedHere cleanHere =>
    rw [slice_of_drop cleanHere rfl, strip_surrounded isLead member.isTrimmed isTrail, member.field?_text]

/-- A method is read as it was printed, where it begins, and no method is read where a field stands. -/
theorem Covers.method? {passage : Passage} (covers : Covers passage.views span (line, member))
    (owner : String) :
    ((Concord.Member.method? passage.views span).map fun (start, name, parameters, returnType) =>
      (⟨owner, name, parameters, returnType, passage.locate start⟩ : ServiceMethod)) =
      member.method? owner ⟨passage.document, passage.startLine + line⟩ := by
  cases covers with
  | @mk start lead trail rest tail _ isLead isTrail maskedHere cleanHere =>
    have isNamed : member.text ++ trail =
        named member.name member.isOptional (member.form.text ++ trail) := by
      simp only [Member.text, named, List.append_assoc]
    have solid := member.head_text trail
    have head := methodHead?_named member.name member.isOptional (member.form.introduces trail)
    rw [← isNamed] at head
    cases isForm : member.form with
    | field type =>
      have stripped : stripStart (lead ++ (member.text ++ trail)) = member.text ++ trail :=
        dropWhile_append_of_stops (List.all_eq_true.1 isLead) solid
      rw [isForm] at head
      rw [Concord.Member.method?]
      simp only [slice_of_drop maskedHere rfl, stripped, head, Member.method?, isForm]
      rfl
    | method typeParameters parameters returnType =>
      obtain ⟨front, isCut⟩ : ∃ front, member.text ++ trail =
          front ++ '(' :: (listed parameters ++ ')' :: (typed returnType ++ trail)) := by
        refine ⟨member.name.text ++ ((if member.isOptional then ['?'] else []) ++ angled typeParameters),
          ?_⟩
        simp only [Member.text, named, isForm, Form.text, List.append_assoc, List.cons_append]
      have isBehind : strip (typed returnType ++ trail) = ':' :: ' ' :: returnType.text :=
        strip_surrounded isAllBlank_nil (isTrimmed_typed returnType) isTrail
      rw [isForm, Form.text, List.append_assoc, List.cons_append, List.append_assoc, List.cons_append,
        behindMethodParameters_angled] at head
      rw [isCut] at maskedHere cleanHere head solid
      have read := method?_of_parts isLead solid head (closes_listed parameters) isBehind maskedHere
        cleanHere
      rw [isCut, read, Option.map_some, Member.method?, isForm, parameters_listed, returnType.typeText]
      rfl

end

/-! ### Splitting the lines -/

theorem Member.something (member : Member) (lead trail : List Char) :
    isAllBlank (lead ++ (member.text ++ trail)) = false := by
  rw [isAllBlank_append, isAllBlank_append, text, named, isAllBlank_append, member.name.something,
    Bool.false_and, Bool.false_and, Bool.and_false]

/-- The walk goes through a member and the blanks around it. -/
theorem Member.passes (member : Member) {lead trail following : List Char} {c : Char}
    (isLead : isAllBlank lead = true) (isTrail : isAllBlank trail = true) (noArrow : c ≠ '>')
    (joins : '\n' ∈ trail → startsMember (c :: following) = false) :
    Passes .body false (lead ++ (member.text ++ trail)) (c :: following) := by
  have noArrowBehind : (trail ++ c :: following).head? ≠ some '>' := by
    cases trail with
    | nil => exact fun same => noArrow (Option.some.inj same)
    | cons d trail =>
      rw [isAllBlank_cons, Bool.and_eq_true] at isTrail
      intro same
      rw [Option.some.inj same] at isTrail
      exact absurd isTrail.1 (by decide)
  exact (passes_blanks marks_body isLead (fun _ => rfl) _).append _
    ((member.closes.passes marks_body _ noArrowBehind).append _ (passes_gap isTrail joins))

theorem Line.count_text (line : Line) : line.text.count '\n' = line.trail.text.count '\n' := by
  have ended : (if line.isEnded then [';'] else []).count '\n' = 0 := by
    cases line.isEnded <;> rfl
  rw [text, List.count_append, List.count_append, ended,
    List.count_eq_zero_of_not_mem line.member.closes.oneLine, Nat.zero_add, Nat.zero_add]

theorem startsMember_lines (line : Line) (lines : List Line) {lead : List Char}
    (isLead : isAllBlank lead = true) (rest : List Char) :
    startsMember (lead ++ (line :: lines).flatMap (·.text) ++ rest) = true := by
  have isText : ∃ behind, lead ++ (line :: lines).flatMap (·.text) ++ rest =
      lead ++ named line.member.name line.member.isOptional (line.member.form.text ++ behind) := by
    refine ⟨(if line.isEnded then [';'] else []) ++ (line.trail.text ++ (lines.flatMap (·.text) ++ rest)),
      ?_⟩
    simp only [List.flatMap_cons, Line.text, Member.text, named, List.append_assoc]
  obtain ⟨behind, isText⟩ := isText
  rw [isText]
  exact startsMember_named line.member.name line.member.isOptional (line.member.form.introduces behind)
    isLead

section

variable {views : Views} {rest tail : List Char}

/-- Wherever the lines stand behind blanks and before a brace, the walk finds a piece for each member. -/
def AreSplit (views : Views) (rest tail : List Char) (lines : List Line) : Prop :=
  ∀ (lead : List Char) (begun : Nat), isAllBlank lead = true →
    views.masked.drop begun = lead ++ lines.flatMap (·.text) ++ '\x7d' :: rest →
    views.clean.drop begun = lead ++ lines.flatMap (·.text) ++ tail →
    List.Forall₂ (Covers views)
      (membersFrom .body (.level begun begun false) (lead ++ lines.flatMap (·.text)).length
        (lead ++ lines.flatMap (·.text) ++ '\x7d' :: rest))
      (numbered (views.lineOf (begun + lead.length)) lines)

theorem areSplit_nil : AreSplit views rest tail [] := by
  intro lead begun isLead _ _
  have passes : Passes .body false lead ('\x7d' :: rest) :=
    passes_blanks marks_body isLead (fun _ => rfl) _
  rw [List.flatMap_nil, List.append_nil, passes.membersFrom_last, if_pos isLead]
  exact .nil

/-- A line whose member is ended by a separator, with the blanks `before` and `behind` it. -/
theorem areSplit_cons {line : Line} {lines : List Line} {before behind : List Char} {separator : Char}
    (isText : line.text = line.member.text ++ (before ++ separator :: behind))
    (isBefore : isAllBlank before = true) (isBehind : isAllBlank behind = true) (inLine : '\n' ∉ before)
    (noArrow : separator ≠ '>')
    (ends : Ends .body separator (behind ++ lines.flatMap (·.text) ++ '\x7d' :: rest))
    (areSplit : AreSplit views rest tail lines) : AreSplit views rest tail (line :: lines) := by
  intro lead begun isLead maskedHere cleanHere
  have isLines : lead ++ (line :: lines).flatMap (·.text) =
      (lead ++ (line.member.text ++ before)) ++ separator :: (behind ++ lines.flatMap (·.text)) := by
    rw [List.flatMap_cons, isText]
    simp only [List.append_assoc, List.cons_append]
  have passes : Passes .body false (lead ++ (line.member.text ++ before))
      (separator :: (behind ++ lines.flatMap (·.text) ++ '\x7d' :: rest)) :=
    line.member.passes isLead isBefore noArrow fun isBreak => absurd isBreak inLine
  have lineBehind : views.lineOf (begun + (lead ++ (line.member.text ++ before)).length + 1 +
      behind.length) = views.lineOf (begun + lead.length) + line.trail.text.count '\n' := by
    have here : views.masked.drop (begun + lead.length) =
        line.text ++ (lines.flatMap (·.text) ++ '\x7d' :: rest) := by
      refine drop_behind (maskedHere.trans ?_)
      simp only [List.flatMap_cons, List.append_assoc]
    have place : begun + (lead ++ (line.member.text ++ before)).length + 1 + behind.length =
        begun + lead.length + line.text.length := by
      simp only [isText, List.length_append, List.length_cons]
      omega
    rw [place, ← line.count_text]
    exact lineOf_behind here
  rw [isLines] at maskedHere cleanHere ⊢
  rw [passes.membersFrom_next marks_body (line.member.something lead before) ends, numbered]
  rw [List.append_assoc] at maskedHere cleanHere
  refine .cons (.mk line.member isLead isBefore maskedHere cleanHere) ?_
  rw [← lineBehind]
  exact areSplit behind _ isBehind (drop_succ (drop_behind maskedHere)) (drop_succ (drop_behind cleanHere))

theorem Line.text_ended {line : Line} (isEnded : line.isEnded = true) :
    line.text = line.member.text ++ ([] ++ ';' :: line.trail.text) := by
  rw [text, isEnded]
  rfl

theorem Line.text_bare {line : Line} (isBare : line.isEnded = false) :
    line.text = line.member.text ++ line.trail.text := by
  rw [text, isBare]
  rfl

/-- Behind the last member a brace stands; without a semicolon the blanks before it belong to the member. -/
theorem areSplit_last {line : Line} (isBare : line.isEnded = false) :
    AreSplit views rest tail [line] := by
  intro lead begun isLead maskedHere cleanHere
  have isLines : lead ++ [line].flatMap (·.text) = lead ++ (line.member.text ++ line.trail.text) := by
    rw [List.flatMap_singleton, Line.text_bare isBare]
  have passes := line.member.passes isLead line.trail.isGap (by decide)
    fun _ => show startsMember ('\x7d' :: rest) = false from rfl
  rw [isLines] at maskedHere cleanHere ⊢
  rw [passes.membersFrom_last, line.member.something, if_neg (by simp), numbered]
  exact .cons (.mk line.member isLead line.trail.isGap maskedHere cleanHere) .nil

theorem areSplit_lines (lines : List Line) : AreSplit views rest tail lines := by
  induction lines with
  | nil => exact areSplit_nil
  | cons line lines inductionHypothesis =>
    cases isEnded : line.isEnded with
    | true =>
      exact areSplit_cons (Line.text_ended isEnded) rfl line.trail.isGap List.not_mem_nil (by decide)
        (ends_mark (by decide) (by decide) _) inductionHypothesis
    | false =>
      cases lines with
      | nil => exact areSplit_last isEnded
      | cons second others =>
        -- The member ends at the first line break behind it.
        obtain ⟨before, behind, isTrail, inLine⟩ := List.eq_append_cons_of_mem line.breaks
        have isText := Line.text_bare isEnded
        have blank := line.trail.isGap
        rw [isTrail] at isText
        rw [isTrail, isAllBlank_append, isAllBlank_cons, Bool.and_eq_true, Bool.and_eq_true] at blank
        exact areSplit_cons isText blank.1 blank.2.2 inLine (by decide)
          (ends_break (startsMember_lines second others blank.2.2 _)) inductionHypothesis

end

/-! ### The body of a service -/

theorem filterMap_of_forall₂ {first second results : Type} {related : first → second → Prop}
    {read : first → Option results} {readOther : second → Option results}
    (same : ∀ a b, related a b → read a = readOther b) {texts : List first} {others : List second}
    (all : List.Forall₂ related texts others) : texts.filterMap read = others.filterMap readOther := by
  induction all with
  | nil => rfl
  | cons here _ inductionHypothesis =>
    rw [List.filterMap_cons, List.filterMap_cons, same _ _ here, inductionHypothesis]

theorem numbered_add (line further : Nat) (lines : List Line) :
    numbered (line + further) lines =
      (numbered further lines).map fun (other, member) => (line + other, member) := by
  induction lines generalizing further with
  | nil => rfl
  | cons first lines inductionHypothesis =>
    rw [numbered, numbered, Nat.add_assoc, inductionHypothesis]
    rfl

theorem filterMap_numbered {results : Type} (read : Member → Option results) (line : Nat)
    (lines : List Line) :
    (numbered line lines).filterMap (fun (_, member) => read member) =
      lines.filterMap fun first => read first.member := by
  induction lines generalizing line with
  | nil => rfl
  | cons first lines inductionHypothesis =>
    rw [numbered, List.filterMap_cons, List.filterMap_cons, inductionHypothesis]

/-- The body of a service. No two of its fields have one name. -/
structure Body where
  lead : Printed.Gap
  lines : List Line
  distinct : ((lines.filterMap (·.member.field?)).map (·.name)).Nodup

namespace Body

variable (body : Body) {rest tail : List Char} {opening : Nat}

def text : List Char :=
  bodyText body.lead body.lines

/-- The fields in order. -/
def fields : List Concord.Field :=
  body.lines.filterMap (·.member.field?)

/-- The methods in order, when the brace before the body stands on `line`. -/
def methods (owner document : String) (line : Nat) : List ServiceMethod :=
  (numbered (line + body.lead.text.count '\n') body.lines).filterMap fun (line, member) =>
    member.method? owner ⟨document, line⟩

theorem shows : Shows body.text body.text :=
  shows_bodyText body.lead body.lines

/-- Between its braces a body splits into its members. -/
theorem covers {views : Views}
    (maskedHere : views.masked.drop opening = '\x7b' :: (body.text ++ '\x7d' :: rest))
    (cleanHere : views.clean.drop opening = '\x7b' :: (body.text ++ tail)) :
    List.Forall₂ (Covers views)
      (members .body views.masked (opening + 1) (opening + 1 + body.text.length))
      (numbered (views.lineOf (opening + 1 + body.lead.text.length)) body.lines) := by
  rw [members_of_noArrow .body (noArrow_of_brace maskedHere), drop_succ maskedHere,
    Nat.add_sub_cancel_left]
  exact areSplit_lines body.lines body.lead.text (opening + 1) body.lead.isGap (drop_succ maskedHere)
    (drop_succ cleanHere)

/-- The fields are read back. -/
theorem readsAs : ReadsAs Concord.Member.fields body.text body.fields := by
  have isMask : mask body.text = body.text := body.shows.isMask
  have keeps : KeepsBraces (mask body.text) := by
    rw [isMask]
    exact keepsBraces_bodyText body.lead body.lines
  refine ⟨body.shows.settled, keeps, fun maskedHere cleanHere => ?_⟩
  rw [isMask] at maskedHere ⊢
  have read := filterMap_of_forall₂ (fun _ _ covers => Covers.field? covers)
    (body.covers maskedHere cleanHere)
  rw [Concord.Member.fields, read, filterMap_numbered]
  exact firstOfName_of_nodup body.distinct fun _ _ => List.not_mem_nil

/-- The methods are read back, each with the line on which it begins. -/
theorem methods_eq {passage : Passage}
    (maskedHere : passage.views.masked.drop opening = '\x7b' :: (body.text ++ '\x7d' :: rest))
    (cleanHere : passage.views.clean.drop opening = '\x7b' :: (body.text ++ tail)) (owner : String) :
    Concord.Member.methods passage owner opening (opening + 1 + body.text.length) =
      body.methods owner passage.document (passage.startLine + passage.views.lineOf opening) := by
  have line : passage.views.lineOf (opening + 1 + body.lead.text.length) =
      passage.views.lineOf opening + body.lead.text.count '\n' := by
    have here : passage.views.masked.drop opening = ('\x7b' :: body.lead.text) ++
        (body.lines.flatMap (·.text) ++ '\x7d' :: rest) := by
      rw [maskedHere, text, bodyText, List.append_assoc, List.cons_append]
    have behind := lineOf_behind here
    rwa [List.length_cons, Nat.add_comm body.lead.text.length, ← Nat.add_assoc,
      List.count_cons_of_ne (by decide)] at behind
  have read := filterMap_of_forall₂
    (fun _ numbered covers => @Covers.method? _ numbered.1 numbered.2 passage covers owner)
    (body.covers maskedHere cleanHere)
  rw [Concord.Member.methods, read, methods, line, Nat.add_assoc, numbered_add passage.startLine,
    List.filterMap_map]
  rfl

end Body

/-- Fields and methods are told apart: a record alone in a text has the fields of its body, and if the end
of its name marks it as a service the methods of its body are the methods of the text. -/
theorem fields_and_methods_apart (heading : Heading) (body : Body) (document : String) (startLine : Nat)
    (serviceSuffixes : List String) :
    declarationsOf ⟨startLine, String.ofList (block heading.text body.text)⟩ document =
        [{ name := String.ofList heading.name.text
           kind := .record
           location := ⟨document, startLine⟩
           fields := body.fields
           supertypes := Header.supertypes heading.header }] ∧
      methodsOf ⟨startLine, String.ofList (block heading.text body.text)⟩ document serviceSuffixes =
        if serviceSuffixes.any fun suffix => endsWith heading.name.text suffix.toList then
          body.methods (String.ofList heading.name.text) document
            (startLine + heading.text.count '\n')
        else [] := by
  refine ⟨heading.declarationsOf_block body.readsAs document startLine, ?_⟩
  have isMask : mask body.text = body.text := body.shows.isMask
  have whole := heading.shows_text.block body.shows.settled
  have masked : (Views.of (block heading.text body.text)).masked = block heading.text body.text :=
    whole.isMask.trans (congrArg _ isMask)
  have clean : (Views.of (block heading.text body.text)).clean = block heading.text body.text :=
    whole.settled.isClean
  have line : (Views.of (block heading.text body.text)).lineOf heading.text.length =
      heading.text.count '\n' := by
    rw [Views.lineOf, masked, lineOf, block, List.take_left]
  rw [heading.methodsOf_block body.shows.settled body.readsAs.keepsBraces, isMask, ← line]
  refine if_congr Iff.rfl ?_ rfl
  exact body.methods_eq (masked ▸ drop_block heading.text body.text)
    (clean ▸ drop_block heading.text body.text) (String.ofList heading.name.text)

/-- A service on the third line of a document. -/
def serviceRegion : Region where
  startLine := 3
  text := "interface AService \x7b\n  m<K, V>(f: (k: K) => V): \x7b k: K; v: V \x7d\n  a?: B\n\x7d"

example :
    (declarationsOf serviceRegion "doc.ts").map (·.fields) = [[⟨"a", "B", true⟩]] ∧
      methodsOf serviceRegion "doc.ts" ["Service"] =
        [⟨"AService", "m", [⟨"f", "(k: K) => V", false⟩], "\x7b k: K; v: V \x7d", ⟨"doc.ts", 4⟩⟩] :=
  ⟨by decide +kernel, by decide +kernel⟩

end Concord.Service
