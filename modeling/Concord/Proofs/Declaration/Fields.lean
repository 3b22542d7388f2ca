/-
Only direct members of a record become fields. The splitting of a body starts every member directly
inside the braces of the record; before the name of a field stand blanks and perhaps one word, none of
which is a brace; and what is no brace in the clean view is none in the masked view. So the name of every
field stands at depth one, whatever brackets, strings and comments the text holds.
-/

import Concord.Proofs.Declaration.Headers
import Concord.Proofs.Source.Depth
import Concord.Proofs.Text.Words
import Mathlib.Data.List.TakeWhile

namespace Concord

open Source Text

/-! ### Braces in the two views -/

theorem Source.Mode.masked_cell (mode : Mode) (c : Char) (rest : List Char) :
    (mode.cell c rest).masked = (mode.cell c rest).clean ∨ (mode.cell c rest).masked = blanked c := by
  cases mode with
  | lineComment | blockOpening | block | blockClosing => exact .inl rfl
  | code =>
    simp only [Mode.cell]
    split <;> exact .inl rfl
  | literal quote | escaped quote =>
    simp only [Mode.cell]
    split
    · exact .inl rfl
    · exact .inr rfl

theorem Source.blanked_ne_brace (c : Char) : blanked c ≠ '\x7b' ∧ blanked c ≠ '\x7d' := by
  unfold blanked
  split <;> decide

theorem Source.masked_ne_brace {mode : Mode} {source : List Char} {cell : Cell}
    (member : cell ∈ cellsFrom mode source) (plain : cell.clean ≠ '\x7b' ∧ cell.clean ≠ '\x7d') :
    cell.masked ≠ '\x7b' ∧ cell.masked ≠ '\x7d' := by
  induction source generalizing mode with
  | nil => exact absurd member List.not_mem_nil
  | cons c rest inductionHypothesis =>
    rcases List.mem_cons.1 member with rfl | later
    · rcases mode.masked_cell c rest with same | isBlanked
      · exact same ▸ plain
      · exact isBlanked ▸ blanked_ne_brace c
    · exact inductionHypothesis later

/-- A stretch without a brace in the clean view has none in the masked view. -/
theorem Source.Views.hasNoBrace_masked {source : List Char} {span : Span}
    (plain : HasNoBrace (span.slice (Views.of source).clean)) :
    HasNoBrace (span.slice (Views.of source).masked) := by
  simp only [Views.of, Span.slice, ← List.map_drop, ← List.map_take] at plain ⊢
  intro c inside
  obtain ⟨cell, member, rfl⟩ := List.mem_map.1 inside
  have isCell := List.mem_of_mem_drop (List.mem_of_mem_take member)
  exact masked_ne_brace isCell (plain cell.clean (List.mem_map_of_mem member))

/-! ### Before the name of a field -/

namespace Member

/-- The text opens with something that holds no brace, and goes on with the rest. -/
def OpensPlainly (text rest : List Char) : Prop :=
  ∃ opening, HasNoBrace opening ∧ text = opening ++ rest

theorem OpensPlainly.refl (text : List Char) : OpensPlainly text text :=
  ⟨[], fun _ absent => absurd absent List.not_mem_nil, rfl⟩

theorem OpensPlainly.trans {text middle rest : List Char} (first : OpensPlainly text middle)
    (second : OpensPlainly middle rest) : OpensPlainly text rest := by
  obtain ⟨opening, plain, rfl⟩ := first
  obtain ⟨further, alsoPlain, rfl⟩ := second
  refine ⟨opening ++ further, fun c inside => ?_, (List.append_assoc ..).symm⟩
  exact (List.mem_append.1 inside).elim (plain c) (alsoPlain c)

theorem OpensPlainly.append {text rest : List Char} (opens : OpensPlainly text rest)
    (ending : List Char) : OpensPlainly (text ++ ending) (rest ++ ending) := by
  obtain ⟨opening, plain, rfl⟩ := opens
  exact ⟨opening, plain, List.append_assoc ..⟩

theorem ne_brace_of_isBlank {c : Char} (blank : isBlank c = true) : c ≠ '\x7b' ∧ c ≠ '\x7d' := by
  constructor <;> rintro rfl <;> exact absurd blank (by decide)

theorem opensPlainly_stripStart (text : List Char) : OpensPlainly text (stripStart text) :=
  ⟨text.takeWhile isBlank, fun _ inside => ne_brace_of_isBlank (List.mem_takeWhile_imp inside),
    List.takeWhile_append_dropWhile.symm⟩

theorem opensPlainly_of_spacedKeyword? {keyword text rest : List Char} (plain : HasNoBrace keyword)
    (found : spacedKeyword? keyword text = some rest) : OpensPlainly text rest := by
  unfold spacedKeyword? at found
  split at found
  · rename_i c behind after
    obtain ⟨blank, same⟩ := Option.ite_none_right_eq_some.1 found
    rw [eq_append_of_after? after]
    have single : HasNoBrace [c] := List.forall_mem_singleton.2 (ne_brace_of_isBlank blank)
    refine .trans ⟨keyword, plain, rfl⟩ (.trans ⟨[c], single, rfl⟩ ?_)
    exact Option.some.inj same ▸ opensPlainly_stripStart behind
  · exact absurd found (by simp)

/-- The stripped text is the text from its first character that is not blank, less an ending. -/
theorem exists_ending_strip (text : List Char) :
    ∃ ending, OpensPlainly text (strip text ++ ending) := by
  refine ⟨((stripStart text).reverse.takeWhile isBlank).reverse, ?_⟩
  have whole : strip text ++ ((stripStart text).reverse.takeWhile isBlank).reverse =
      stripStart text := by
    rw [strip, stripEnd, ← List.reverse_append, List.takeWhile_append_dropWhile, List.reverse_reverse]
  exact whole.symm ▸ opensPlainly_stripStart text

/-! ### Names of fields -/

theorem ne_nil_of_annotation? {text : List Char} {found : Bool × List Char}
    (annotated : annotation? text = some found) : text ≠ [] := by
  rintro rfl
  exact absurd annotated (by simp [annotation?, stripStart])

theorem identifier?_more {text name rest : List Char}
    (found : identifier? text = some (name, rest)) (goesOn : rest ≠ []) (more : List Char) :
    identifier? (text ++ more) = some (name, rest ++ more) := by
  have stops : ∀ c, (rest ++ more).head? = some c → continuesIdentifier c = false := by
    intro c first
    rw [List.head?_append_of_ne_nil _ goesOn] at first
    cases text with
    | nil => exact absurd found (by simp [identifier?])
    | cons d tail =>
      obtain ⟨-, same⟩ := Option.ite_none_right_eq_some.1 found
      obtain ⟨-, rfl⟩ := Prod.mk.inj (Option.some.inj same)
      have ends := List.head?_dropWhile_not continuesIdentifier tail
      rw [first] at ends
      simpa using ends
  rw [identifier?_append found, List.append_assoc,
    identifier?_word (isIdentifier_of_identifier? found) stops]

/-- A quoted name is something between two equal quotes that does not hold that quote. -/
theorem quotedName?_eq_some_iff {text name rest : List Char} :
    quotedName? text = some (name, rest) ↔
      ∃ quote inner, (quote = '\x27' ∨ quote = '\x22') ∧ inner ≠ [] ∧ quote ∉ inner ∧
        text = quote :: (inner ++ quote :: rest) ∧ name = quote :: inner ++ [quote] := by
  constructor
  · intro found
    cases text with
    | nil => exact absurd found (by simp [quotedName?])
    | cons quote tail =>
      obtain ⟨isQuote, isName⟩ := Option.ite_none_right_eq_some.1 found
      split at isName
      · rename_i c inner close left isInner isRest
        obtain ⟨rfl, rfl⟩ := Prod.mk.inj (Option.some.inj isName)
        have ends := List.head?_dropWhile_not (· != quote) tail
        rw [isRest] at ends
        obtain rfl : close = quote := by simpa using ends
        refine ⟨close, c :: inner, isQuote, List.cons_ne_nil _ _, fun inside => ?_, ?_, rfl⟩
        · rw [← isInner] at inside
          simpa using List.mem_takeWhile_imp inside
        · rw [← isInner, ← isRest, before]
          exact congrArg _ List.takeWhile_append_dropWhile.symm
      · exact absurd isName (by simp)
  · rintro ⟨quote, inner, isQuote, something, noQuote, rfl, rfl⟩
    obtain ⟨c, inner, rfl⟩ := List.exists_cons_of_ne_nil something
    have inside : ∀ d ∈ c :: inner, (d != quote) = true := fun d member => by
      simpa using fun same : d = quote => noQuote (same ▸ member)
    have stops : ∀ d, (quote :: rest).head? = some d → (d != quote) = false := fun d first => by
      simp [← Option.some.inj first]
    have isInner : before (· == quote) (c :: inner ++ quote :: rest) = c :: inner :=
      takeWhile_append_of_stops inside stops
    rw [quotedName?, if_pos isQuote, isInner, dropWhile_append_of_stops inside stops]

theorem fieldName?_more {text name rest : List Char}
    (found : fieldName? text = some (name, rest)) (goesOn : rest ≠ []) (more : List Char) :
    fieldName? (text ++ more) = some (name, rest ++ more) := by
  rcases Option.or_eq_some_iff.1 found with isIdentifier | ⟨noIdentifier, isQuoted⟩
  · exact Option.or_eq_some_iff.2 (.inl (identifier?_more isIdentifier goesOn more))
  · obtain ⟨quote, inner, isQuote, something, noQuote, rfl, rfl⟩ := quotedName?_eq_some_iff.1 isQuoted
    refine Option.or_eq_some_iff.2 (.inr ⟨?_, quotedName?_eq_some_iff.2 ?_⟩)
    · rcases isQuote with rfl | rfl <;> rfl
    · exact ⟨quote, inner, isQuote, something, noQuote, by simp, rfl⟩

theorem hasNoBrace_readonly : HasNoBrace "readonly".toList := by
  unfold HasNoBrace
  decide

/-- A field begins with its name, perhaps behind the word `readonly`. -/
theorem exists_name_of_field? {text : List Char} {field : Field} (found : field? text = some field) :
    ∃ behind name rest, OpensPlainly text behind ∧ fieldName? behind = some (name, rest) ∧
      rest ≠ [] ∧ field.name = String.ofList (trim isNameQuote name) := by
  obtain ⟨⟨name, isOptional, typeExpression⟩, annotated, rfl⟩ := Option.map_eq_some_iff.1 found
  have named : ∀ behind, annotated? fieldName? behind = some (name, isOptional, typeExpression) →
      ∃ rest, fieldName? behind = some (name, rest) ∧ rest ≠ [] := by
    intro behind isAnnotated
    simp only [annotated?, bind, Option.bind_eq_some_iff] at isAnnotated
    obtain ⟨⟨other, rest⟩, isName, ⟨_, _⟩, isAnnotation, same⟩ := isAnnotated
    obtain ⟨rfl, -⟩ := Prod.mk.inj (Option.some.inj same)
    exact ⟨rest, isName, ne_nil_of_annotation? isAnnotation⟩
  rcases Option.or_eq_some_iff.1 annotated with behindWord | ⟨-, direct⟩
  · obtain ⟨behind, keyword, isAnnotated⟩ := Option.bind_eq_some_iff.1 behindWord
    obtain ⟨rest, isName, goesOn⟩ := named behind isAnnotated
    exact ⟨behind, name, rest, opensPlainly_of_spacedKeyword? hasNoBrace_readonly keyword, isName,
      goesOn, rfl⟩
  · obtain ⟨rest, isName, goesOn⟩ := named text direct
    exact ⟨text, name, rest, .refl text, isName, goesOn, rfl⟩

theorem mem_of_mem_firstOfName {seen : List String} {fields : List Field} {field : Field}
    (member : field ∈ firstOfName seen fields) : field ∈ fields := by
  induction fields generalizing seen with
  | nil => exact member
  | cons first fields inductionHypothesis =>
    rw [firstOfName] at member
    split at member
    · exact List.mem_cons_of_mem _ (inductionHypothesis member)
    · rcases List.mem_cons.1 member with rfl | later
      · exact List.mem_cons_self
      · exact List.mem_cons_of_mem _ (inductionHypothesis later)

end Member

/-! ### Direct members -/

/-- At the position stands something that is read as a name, quotes left aside the name of the field. -/
def Field.IsNamedAt (field : Field) (text : List Char) (position : Nat) : Prop :=
  ∃ name rest, Member.fieldName? (text.drop position) = some (name, rest) ∧
    field.name = String.ofList (trim Member.isNameQuote name)

/-- The name of the field stands between the two braces, and not inside a pair of braces further in. -/
structure Field.IsDirect (field : Field) (views : Views) (opening closing position : Nat) : Prop where
  named : field.IsNamedAt views.clean position
  behind : opening < position
  before : position < closing
  depth : depthBetween views.masked opening position = 1
  outside : ∀ inner innerClosing, opening < inner → views.masked[inner]? = some '\x7b' →
    closingBrace? views.masked inner = some innerClosing →
    ¬ (inner < position ∧ position ≤ innerClosing)

namespace Member

variable {source : List Char} {opening closing : Nat}
  (opens : (Views.of source).masked[opening]? = some '\x7b')
  (closes : closingBrace? (Views.of source).masked opening = some closing)

include opens closes

theorem exists_isDirect_of_mem_fields {field : Field}
    (member : field ∈ fields (Views.of source) opening closing) :
    ∃ position, field.IsDirect (Views.of source) opening closing position := by
  obtain ⟨span, isMember, isField⟩ := List.mem_filterMap.1 (mem_of_mem_firstOfName member)
  obtain ⟨behind, name, rest, plainly, isName, goesOn, named⟩ := exists_name_of_field? isField
  obtain ⟨ending, fromStart⟩ := exists_ending_strip (span.slice (Views.of source).clean)
  obtain ⟨lead, plain, isSlice⟩ := fromStart.trans (plainly.append ending)
  obtain ⟨inLead, more, isRest⟩ := Span.slice_eq_append isSlice
  have something : 0 < behind.length := by
    refine List.length_pos_iff.2 ?_
    rintro rfl
    exact absurd isName (by simp [fieldName?, identifier?, quotedName?])
  have size := span.length_slice_le (Views.of source).clean
  rw [isSlice, List.length_append, List.length_append] at size
  have within := stop_le_of_mem_members isMember (lt_of_closingBrace? opens closes)
  obtain ⟨isInside, depth⟩ := depthBetween_eq_one_of_mem_members opens closes isMember (by omega)
  have direct : depthBetween (Views.of source).masked opening (span.start + lead.length) = 1 := by
    rw [depthBetween_add _ (Nat.le_of_lt isInside) (Nat.le_add_right _ _), depth, depthBetween,
      (Views.hasNoBrace_masked (inLead.symm ▸ plain)).depth_eq, Int.add_zero]
  refine ⟨span.start + lead.length, ⟨name, rest ++ (ending ++ more), ?_, named⟩, by omega, by omega,
    direct, fun inner innerClosing furtherIn innerOpens innerCloses => ?_⟩
  · rw [isRest, List.append_assoc, fieldName?_more isName goesOn]
  · exact not_inside_of_depthBetween_eq_one opens closes (by omega) direct furtherIn innerOpens
      innerCloses

end Member

/-! ### Records -/

theorem Header.getElem?_of_bodyFrom {angles depth : Nat} {previous : Option Char} {text : List Char}
    {offset : Nat} (found : Header.bodyFrom angles depth previous text = some offset) :
    text[offset]? = some '\x7b' := by
  induction text generalizing angles depth previous offset with
  | nil => exact absurd found (by simp [bodyFrom])
  | cons c rest inductionHypothesis =>
    have further : ∀ {angles depth previous},
        (bodyFrom angles depth previous rest).map (· + 1) = some offset →
          (c :: rest)[offset]? = some '\x7b' := by
      intro angles depth previous inRest
      obtain ⟨inner, innerFound, rfl⟩ := Option.map_eq_some_iff.1 inRest
      exact inductionHypothesis innerFound
    rw [bodyFrom] at found
    split at found
    · exact further found
    split at found
    · exact further found
    split at found
    · exact further found
    split at found
    · exact further found
    split at found
    · rename_i isBrace
      split at found
      · rw [← Option.some.inj found, isBrace]
        rfl
      · exact further found
    split at found
    · split at found
      · exact absurd found (by simp)
      · exact further found
    split at found
    · exact absurd found (by simp)
    · exact further found

namespace Placed

/-- The body of a record stands between two braces. -/
theorem exists_braces {views : Views} {placed : Placed} (emitted : placed ∈ all views)
    (isRecord : placed.head.kind = .record) :
    ∃ opening closing, placed.body = .block opening closing ∧
      views.masked[opening]? = some '\x7b' ∧ closingBrace? views.masked opening = some closing := by
  have hasBody := (of_mem_among emitted).2
  simp only [Head.body?, Head.opening?, isRecord, bind, Option.bind_eq_some_iff, pure] at hasBody
  obtain ⟨opening, opens, closing, closes, isBody⟩ := hasBody
  obtain ⟨offset, found, rfl⟩ := Option.map_eq_some_iff.1 opens
  refine ⟨_, closing, (Option.some.inj isBody).symm, ?_, closes⟩
  rw [← List.getElem?_drop]
  exact Header.getElem?_of_bodyFrom found

/-- Every field of a record that a region declares stands directly between the braces of the record. -/
theorem fields_direct (region : Region) (document : String) :
    ∀ declaration ∈ declarationsOf region document, declaration.kind = .record →
      ∃ placed ∈ all (region.passage document).views,
        declaration = placed.declaration (region.passage document) ∧
        ∃ opening closing, placed.body = .block opening closing ∧
          (region.passage document).views.masked[opening]? = some '\x7b' ∧
          closingBrace? (region.passage document).views.masked opening = some closing ∧
          ∀ field ∈ declaration.fields, ∃ position,
            field.IsDirect (region.passage document).views opening closing position := by
  intro declaration declared isRecord
  obtain ⟨placed, emitted, rfl⟩ := List.mem_map.1 declared
  obtain ⟨opening, closing, isBody, opens, closes⟩ := exists_braces emitted isRecord
  refine ⟨placed, emitted, rfl, opening, closing, isBody, opens, closes, fun field member => ?_⟩
  have isKind : placed.head.kind = .record := isRecord
  have isField : field ∈ Member.fields (region.passage document).views opening closing := by
    simpa only [Placed.declaration, Placed.fields, isKind, isBody] using member
  exact Member.exists_isDirect_of_mem_fields opens closes isField

/-- A record that holds brackets without a partner, braces in a text and a comment, and braces of its own
before its body. -/
def crateRegion : Region :=
  { startLine := 1
    text := "interface Crate extends Base<\x7b of: string \x7d> \x7b\n  readonly lid: \x7b hinge: string; ) \x7d;\n  'base)': \"\x7d\"; // \x7d\n  tag?: Array<\x7b id: string \x7d>\n\x7d\n" }

theorem fields_direct_crate :
    ∃ declaration ∈ declarationsOf crateRegion "crate.ts", declaration.kind = .record ∧
      declaration.fieldNames = ["lid", "base)", "tag"] ∧
      ∃ placed ∈ all (crateRegion.passage "crate.ts").views,
        declaration = placed.declaration (crateRegion.passage "crate.ts") ∧
        ∃ opening closing, placed.body = .block opening closing ∧
          (crateRegion.passage "crate.ts").views.masked[opening]? = some '\x7b' ∧
          closingBrace? (crateRegion.passage "crate.ts").views.masked opening = some closing ∧
          ∀ field ∈ declaration.fields, ∃ position,
            field.IsDirect (crateRegion.passage "crate.ts").views opening closing position := by
  have listed : (declarationsOf crateRegion "crate.ts").map
      (fun declaration => (declaration.kind, declaration.fieldNames)) =
        [(.record, ["lid", "base)", "tag"])] := by decide +kernel
  have someListed := List.mem_singleton_self
    ((.record, ["lid", "base)", "tag"]) : DeclarationKind × List String)
  rw [← listed] at someListed
  obtain ⟨declaration, declared, same⟩ := List.mem_map.1 someListed
  obtain ⟨isRecord, named⟩ := Prod.mk.inj same
  exact ⟨declaration, declared, isRecord, named,
    fields_direct crateRegion "crate.ts" declaration declared isRecord⟩

end Placed

end Concord
