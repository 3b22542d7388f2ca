/-
Line breaks in the body of a record. Where the next field is named by an identifier a line break ends a
field as well as a semicolon does. Inside the type of a field a line break is as good as a space, unless
it stands outside every bracket and before something shaped like a new member: there it ends the field.
-/

import Concord.Proofs.Declaration.Properties

namespace Concord.Printed

open Source Text

/-! ### In place of semicolons -/

/-- The line with a semicolon behind the field. -/
def Line.ended (line : Line) : Line :=
  { line with isEnded := true }

/-- Semicolons everywhere separate the fields. -/
theorem separated_of_ended {lines : List Line} (ended : ∀ line ∈ lines, line.isEnded = true) :
    Separated lines := by
  induction lines with
  | nil => trivial
  | cons line lines inductionHypothesis =>
    rw [List.forall_mem_cons] at ended
    cases lines with
    | nil => exact fun bare => absurd (ended.1.symm.trans bare) (by simp)
    | cons next lines =>
      exact ⟨fun bare => absurd (ended.1.symm.trans bare) (by simp), inductionHypothesis ended.2⟩

theorem forall_mem_map_ended (lines : List Line) :
    ∀ line ∈ lines.map Line.ended, line.isEnded = true := by
  intro line member
  obtain ⟨_, _, rfl⟩ := List.mem_map.1 member
  rfl

section

variable (heading : Heading) (lead : Gap) (document : String) (startLine : Nat)

/-- The record with its fields, of one name the first. -/
theorem declarationsOf_fieldLines {lines : List Line} (separated : Separated lines) :
    declarationsOf
        ⟨startLine, String.ofList (block heading.text (fieldLines id lead lines))⟩ document =
      [{ name := String.ofList heading.name.text
         kind := .record
         location := ⟨document, startLine⟩
         fields := Concord.Member.firstOfName [] (lines.map (·.property.recorded))
         supertypes := Header.supertypes heading.header }] :=
  heading.declarationsOf_block (readsAs_fieldLines lead separated) document startLine

/-- Semicolons that line breaks make needless may be left out: the record declares its fields with them
and without. -/
theorem declarationsOf_separated {lines : List Line} (separated : Separated lines) :
    declarationsOf
        ⟨startLine, String.ofList (block heading.text (fieldLines id lead lines))⟩ document =
      declarationsOf ⟨startLine, String.ofList
        (block heading.text (fieldLines id lead (lines.map Line.ended)))⟩ document ∧
    declarationsOf
        ⟨startLine, String.ofList (block heading.text (fieldLines id lead lines))⟩ document =
      [{ name := String.ofList heading.name.text
         kind := .record
         location := ⟨document, startLine⟩
         fields := Concord.Member.firstOfName [] (lines.map (·.property.recorded))
         supertypes := Header.supertypes heading.header }] := by
  have bare := declarationsOf_fieldLines heading lead document startLine separated
  have ended := declarationsOf_fieldLines heading lead document startLine
    (separated_of_ended (forall_mem_map_ended lines))
  rw [List.map_map] at ended
  exact ⟨bare.trans ended.symm, bare⟩

end

/-- A record of that name that extends nothing. -/
def plainHeading (name : Name) : Heading where
  isExported := false
  isAmbient := false
  name := name
  header := [' ']
  shows := shows_quiet (by decide)
  keeps := keepsHeader_of_forall (by decide)
  stops := by
    rintro c ⟨⟩
    decide

/-- A type without literals. -/
def TypeExpression.ofQuiet (text : List Char) (quiet : ∀ c ∈ text, isQuiet c = true)
    (isType : IsType false text) (something : isAllBlank text = false) : TypeExpression where
  text := text
  settled := (settled_quiet quiet).1
  isType := by
    rwa [(settled_quiet quiet).2]
  something := something

/-- The name of a type behind a space. -/
def namedType : TypeExpression :=
  .ofQuiet " T".toList (by decide) (@IsType.run _ " T".toList _ (by decide) .nil) (by decide)

def Spacing.space : Spacing :=
  ⟨[' '], Gap.space.isGap, by decide⟩

/-- Two fields with quoted names and without semicolons, and between them one with a semicolon. -/
def noteLines : List Line :=
  [{ property :=
      { modifier := .none
        name := .quoted ⟨'\x27', "a-b".toList, by decide, .of_forall (by decide)⟩ (by decide) (by decide)
          (by decide)
        isOptional := false
        spacing := .none
        type := namedType }
     isEnded := false
     trail := ⟨"\n  ".toList, by decide⟩ },
    { property :=
      { modifier := .readonly .space (by decide)
        name := .identifier ⟨"c".toList, by decide⟩
        isOptional := true
        spacing := .none
        type := namedType }
      isEnded := true
      trail := ⟨"\n  ".toList, by decide⟩ },
    { property :=
      { modifier := .none
        name := .quoted ⟨'\x22', "d e".toList, by decide, .of_forall (by decide)⟩ (by decide) (by decide)
          (by decide)
        isOptional := false
        spacing := .space
        type := namedType }
      isEnded := false
      trail := ⟨['\n'], by decide⟩ }]

theorem declarationsOf_note :
    Separated noteLines ∧
      declarationsOf
          ⟨1, "interface N \x7b\n  'a-b': T\n  readonly c?: T;\n  \x22d e\x22 : T\n\x7d"⟩ "doc.ts" =
        declarationsOf
          ⟨1, "interface N \x7b\n  'a-b': T;\n  readonly c?: T;\n  \x22d e\x22 : T;\n\x7d"⟩ "doc.ts" ∧
      declarationsOf
          ⟨1, "interface N \x7b\n  'a-b': T\n  readonly c?: T;\n  \x22d e\x22 : T\n\x7d"⟩ "doc.ts" =
        [{ name := "N", kind := .record, location := ⟨"doc.ts", 1⟩
           fields := [⟨"a-b", "T", false⟩, ⟨"c", "T", true⟩, ⟨"d e", "T", false⟩] }] := by
  have separated : Separated noteLines :=
    ⟨fun _ => ⟨by decide, by decide, rfl⟩, fun bare => absurd bare (by decide), fun _ => by decide⟩
  have declared := declarationsOf_separated (plainHeading ⟨"N".toList, by decide⟩)
    ⟨"\n  ".toList, by decide⟩ "doc.ts" 1 separated
  exact ⟨separated, declared⟩

/-- Before a name between quotes the line break ends nothing. -/
theorem declarationsOf_unseparated :
    (declarationsOf ⟨1, "interface N \x7b\n  a: string;\n  'b-c': number\n\x7d"⟩ "doc.ts").map
          (·.fields) =
        [[⟨"a", "string", false⟩, ⟨"b-c", "number", false⟩]] ∧
      (declarationsOf ⟨1, "interface N \x7b\n  a: string\n  'b-c': number\n\x7d"⟩ "doc.ts").map
          (·.fields) =
        [[⟨"a", "string 'b-c': number", false⟩]] :=
  ⟨by decide +kernel, by decide +kernel⟩

/-! ### In place of spaces -/

/-- A space in the code of a type where a line break may stand as well: inside a bracket, or before
something that is not shaped like a new member. -/
structure Break (type : TypeExpression) where
  before : List Char
  behind : List Char
  /-- What stands on the next line before the type goes on. -/
  indentation : List Char
  isText : type.text = before ++ ' ' :: behind
  inCode : Settled before
  isIndentation : ∀ c ∈ indentation, isSpaceOrTab c = true
  joins : (openBehind .flat none (mask before)).isFlat = true → startsMember (mask behind) = false

namespace Break

variable {type : TypeExpression} (lineBreak : Break type)

/-- The text of the type with the line break in place of the space. -/
def text : List Char :=
  lineBreak.before ++ '\n' :: (lineBreak.indentation ++ lineBreak.behind)

theorem shows_behind : Shows lineBreak.behind (mask lineBreak.behind) := by
  have space : Settled [' '] := (settled_singleton (by decide)).1
  have whole := type.settled
  rw [lineBreak.isText] at whole
  exact ⟨space.of_append (lineBreak.inCode.of_append whole), rfl⟩

theorem shows_before : Shows lineBreak.before (mask lineBreak.before) :=
  ⟨lineBreak.inCode, rfl⟩

theorem isAllBlank_indentation : isAllBlank lineBreak.indentation = true :=
  List.all_eq_true.2 fun c member => isBlank_of_isSpaceOrTab (lineBreak.isIndentation c member)

theorem shows : Shows lineBreak.text
    (mask lineBreak.before ++ '\n' :: (lineBreak.indentation ++ mask lineBreak.behind)) := by
  have next := (shows_blank lineBreak.isAllBlank_indentation).append lineBreak.shows_behind
  exact lineBreak.shows_before.append (next.cons (by decide))

theorem mask_type : mask type.text = mask lineBreak.before ++ ' ' :: mask lineBreak.behind := by
  rw [lineBreak.isText]
  exact (lineBreak.shows_before.append (lineBreak.shows_behind.cons (by decide))).isMask

theorem words_text : words lineBreak.text = words type.text := by
  have indented := words_surrounded lineBreak.behind lineBreak.isAllBlank_indentation isAllBlank_nil
  rw [List.append_nil] at indented
  rw [text, lineBreak.isText, words_append_blank (by decide), words_append_blank (by decide), indented]

/-- The type with the line break in place of the space. -/
def broken : TypeExpression where
  text := lineBreak.text
  settled := lineBreak.shows.settled
  isType := by
    have isType := type.isType
    rw [lineBreak.mask_type] at isType
    rw [lineBreak.shows.isMask]
    exact isType.broken lineBreak.isIndentation (fun _ => lineBreak.joins) fun _ => rfl
  something := by
    have something := type.something
    rw [lineBreak.isText, isAllBlank_append, isAllBlank_cons] at something
    rw [text, isAllBlank_append, isAllBlank_cons, isAllBlank_append, lineBreak.isAllBlank_indentation]
    exact something

theorem typeText_broken :
    Concord.Member.typeText lineBreak.broken.text = Concord.Member.typeText type.text := by
  have same : words lineBreak.broken.text = words type.text := lineBreak.words_text
  rw [Concord.Member.typeText, Concord.Member.typeText, collapse, collapse, same]

end Break

/-- The line with the line break in the type of its field. -/
def Line.broken (line : Line) (lineBreak : Break line.property.type) : Line :=
  { line with property := { line.property with type := lineBreak.broken } }

theorem Line.recorded_broken (line : Line) (lineBreak : Break line.property.type) :
    (line.broken lineBreak).property.recorded = line.property.recorded := by
  rw [Property.recorded, Property.recorded, ← lineBreak.typeText_broken]
  rfl

/-- In a record whose fields all end with semicolons a line break may stand in place of a space in a
type: the record declares its fields with it and without. -/
theorem declarationsOf_broken (heading : Heading) (lead : Gap) {before behind : List Line} {line : Line}
    (ended : ∀ other ∈ before ++ line :: behind, other.isEnded = true)
    (lineBreak : Break line.property.type) (document : String) (startLine : Nat) :
    declarationsOf ⟨startLine, String.ofList (block heading.text
        (fieldLines id lead (before ++ line.broken lineBreak :: behind)))⟩ document =
      declarationsOf ⟨startLine, String.ofList (block heading.text
        (fieldLines id lead (before ++ line :: behind)))⟩ document ∧
    declarationsOf ⟨startLine, String.ofList (block heading.text
        (fieldLines id lead (before ++ line.broken lineBreak :: behind)))⟩ document =
      [{ name := String.ofList heading.name.text
         kind := .record
         location := ⟨document, startLine⟩
         fields := Concord.Member.firstOfName [] ((before ++ line :: behind).map (·.property.recorded))
         supertypes := Header.supertypes heading.header }] := by
  have alike : ∀ other ∈ before ++ line.broken lineBreak :: behind, other.isEnded = true := by
    rw [List.forall_mem_append, List.forall_mem_cons] at ended ⊢
    exact ended
  have spaced := declarationsOf_fieldLines heading lead document startLine (separated_of_ended ended)
  have broken := declarationsOf_fieldLines heading lead document startLine (separated_of_ended alike)
  have recorded : (before ++ line.broken lineBreak :: behind).map (·.property.recorded) =
      (before ++ line :: behind).map (·.property.recorded) := by
    simp only [List.map_append, List.map_cons, line.recorded_broken]
  rw [recorded] at broken
  exact ⟨broken.trans spaced.symm, broken⟩

/-- A function type behind a space. -/
def functionType : TypeExpression :=
  .ofQuiet " (x: A, y: B) => C".toList (by decide)
    (.passed (by decide) (.group .round (@IsType.run _ "x: A, y: B".toList _ (by decide) .nil)
      (.passed (by decide) (.arrow (@IsType.run _ " C".toList _ (by decide) .nil))))) (by decide)

/-- A line break before the second parameter. -/
def parameterBreak : Break functionType where
  before := " (x: A,".toList
  behind := "y: B) => C".toList
  indentation := "    ".toList
  isText := by decide
  inCode := (settled_quiet (by decide)).1
  isIndentation := by decide
  joins := by decide

/-- A field with a function type. -/
def functionLine : Line where
  property :=
    { modifier := .none
      name := .identifier ⟨"a".toList, by decide⟩
      isOptional := false
      spacing := .none
      type := functionType }
  isEnded := true
  trail := ⟨['\n'], by decide⟩

theorem declarationsOf_functionLine :
    (∀ other ∈ [functionLine], other.isEnded = true) ∧
      declarationsOf ⟨1, "interface N \x7b\n  a: (x: A,\n    y: B) => C;\n\x7d"⟩ "doc.ts" =
        declarationsOf ⟨1, "interface N \x7b\n  a: (x: A, y: B) => C;\n\x7d"⟩ "doc.ts" ∧
      declarationsOf ⟨1, "interface N \x7b\n  a: (x: A,\n    y: B) => C;\n\x7d"⟩ "doc.ts" =
        [{ name := "N", kind := .record, location := ⟨"doc.ts", 1⟩
           fields := [⟨"a", "(x: A, y: B) => C", false⟩] }] := by
  have ended : ∀ other ∈ [functionLine], other.isEnded = true := by decide
  have declared := @declarationsOf_broken (plainHeading ⟨"N".toList, by decide⟩)
    ⟨"\n  ".toList, by decide⟩ [] [] functionLine ended parameterBreak "doc.ts" 1
  exact ⟨ended, declared⟩

/-- Outside every bracket, before something shaped like a new member, the line break ends the field. -/
theorem declarationsOf_brokenBefore_member :
    (declarationsOf ⟨1, "interface N \x7b\n  a: B extends C ? D : E;\n\x7d"⟩ "doc.ts").map (·.fields) =
        [[⟨"a", "B extends C ? D : E", false⟩]] ∧
      (declarationsOf ⟨1, "interface N \x7b\n  a: B extends C ?\n    D : E;\n\x7d"⟩ "doc.ts").map
          (·.fields) =
        [[⟨"a", "B extends C ?", false⟩, ⟨"D", "E", false⟩]] :=
  ⟨by decide +kernel, by decide +kernel⟩

end Concord.Printed
