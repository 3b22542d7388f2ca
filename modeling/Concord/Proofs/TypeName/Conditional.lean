/-
Conditional types, and the names in them. The search for referenced names knows no conditions. A name with
a colon behind it is the key of an inline member to it, and in a conditional type such a colon stands
behind the first branch. So of the names of the four types that make up a conditional type it finds all
but the one in which the first branch ends, where that branch ends in a name and not in a bracket or a
literal.
-/

import Concord.Proofs.Occurrence
import Concord.Proofs.TypeName.References

namespace Concord.TypeName

open Source Text

/-! ### Printed types -/

/-- A type and how it is spaced. -/
structure PrintedType where
  tree : TypeTree
  spacing : Spacing

variable (type : PrintedType)

namespace PrintedType

def text : List Char :=
  type.tree.text type.spacing

/-- The names that the type refers to by itself. -/
def references : List String :=
  TypeName.references (String.ofList type.text)

/-- The name in which the type ends, if it ends in one. -/
def lastName? : Option (List Char) :=
  type.tree.parts.getLast?.bind Part.name?

/-- The names of the type but the one in which it ends. -/
def namesBeforeEnd : List (List Char) :=
  match type.lastName? with
  | some _ => type.tree.names.dropLast
  | none => type.tree.names

theorem isSpaced : IsSpaced type.tree.parts := by
  have ended : IsSpaced (type.tree.parts ++ []) := type.tree.isSpaced_parts trivial trivial
  rwa [List.append_nil] at ended

/-- A type that ends in a name has this name as its last part. -/
theorem exists_parts_of_lastName? {last : List Char} (isLast : type.lastName? = some last) :
    ∃ parts name, type.tree.parts = parts ++ [.name name] ∧ name.text = last ∧
      type.tree.names = parts.filterMap Part.name? ++ [last] := by
  obtain ⟨part, found, isName⟩ := Option.bind_eq_some_iff.1 isLast
  obtain ⟨parts, isParts⟩ := List.getLast?_eq_some_iff.1 found
  cases part with
  | name name =>
    obtain rfl := Option.some.inj isName
    refine ⟨parts, name, isParts, rfl, ?_⟩
    rw [← type.tree.filterMap_parts, isParts, List.filterMap_append]
    rfl
  | _ => exact absurd isName (by simp [Part.name?])

theorem mem_namesBeforeEnd {name : List Char} (member : name ∈ type.tree.names) :
    name ∈ type.namesBeforeEnd ∨ type.lastName? = some name := by
  rw [namesBeforeEnd]
  cases isLast : type.lastName? with
  | none => exact .inl member
  | some last =>
    obtain ⟨parts, -, -, -, names⟩ := type.exists_parts_of_lastName? isLast
    rw [names] at member ⊢
    rw [List.dropLast_concat]
    exact (List.mem_append.1 member).imp_right fun same => by rw [List.mem_singleton.1 same]

end PrintedType

/-- No colon stands behind the blanks before parts, where none stands behind the parts. -/
theorem stripStart_ne_colon (spacing : Spacing) (parts : List Part) {rest : List Char}
    (ended : (stripStart rest).head? ≠ some ':') :
    (stripStart (parts.flatMap (Part.withoutLiteral spacing) ++ rest)).head? ≠ some ':' := by
  have word : ∀ {text : List Char}, (∀ c, text.head? = some c → continuesIdentifier c = true) →
      (stripStart text).head? ≠ some ':' := by
    intro text opens head
    rw [stripStart_of_not_isBlank fun c found => isBlank_of_continuesIdentifier (opens c found)] at head
    exact absurd (opens ':' head) (by decide)
  induction parts with
  | nil => exact ended
  | cons part parts inductionHypothesis =>
    rw [List.flatMap_cons, List.append_assoc]
    cases part with
    | name name => exact word (name.head _)
    | key key =>
      refine word ?_
      rw [Part.withoutLiteral, Part.text, List.append_assoc]
      · exact key.head _
      · exact fun _ absent => Part.noConfusion absent
    | literal literal =>
      rw [Part.withoutLiteral, List.singleton_append, stripStart, List.dropWhile_cons_of_pos (by decide)]
      exact inductionHypothesis
    | mark mark =>
      rw [Part.withoutLiteral, Part.text, Spacing.around, List.append_assoc, List.append_assoc]
      · exact fun head => ((isClosing_mark _ mark _).noKey ':' head).2 rfl
      · exact fun _ absent => Part.noConfusion absent

/-! ### Names in a row of texts -/

/-- The names that are left in a text, as they follow one another. -/
def namesIn (text : List Char) : List (List Char) :=
  identifiersFrom false (bare text)

theorem references_ofList (text : List Char) :
    references (String.ofList text) = firstOccurrences ((namesIn text).map String.ofList) := by
  rw [references, String.toList_ofList, namesIn]

/-- A character that opens neither a literal nor a name leaves no name. -/
theorem namesIn_closed {c : Char} (noQuote : Source.isQuote c = false)
    (closed : opensIdentifier c = false) (rest : List Char) : namesIn (c :: rest) = namesIn rest := by
  have noKey : keyLength? (c :: without literalLength? rest) = none :=
    keyLength?_eq_none (by rintro d ⟨⟩; exact closed)
  have alone : ∀ d ∈ [c], opensIdentifier d = false := fun d member => List.mem_singleton.1 member ▸ closed
  rw [namesIn, namesIn, bare, bare, without_code noQuote, without_passed noKey]
  exact identifiersFrom_closed alone _

theorem stripStart_space (text : List Char) : stripStart (' ' :: text) = stripStart text :=
  List.dropWhile_cons_of_pos (by decide)

theorem without_literals_space (text : List Char) :
    without literalLength? (' ' :: text) = ' ' :: without literalLength? text :=
  without_code (by decide) text

theorem without_keys_space (text : List Char) :
    without keyLength? (' ' :: text) = ' ' :: without keyLength? text :=
  without_closed (by decide : ∀ c ∈ [' '], opensIdentifier c = false) text

theorem stops_space (text : List Char) :
    ∀ c, (' ' :: text).head? = some c → continuesIdentifier c = false := by
  rintro c ⟨⟩
  decide

/-- A space ends a name, and so the name is no key where no colon stands behind the space. -/
theorem endsName_space {text : List Char} (noColon : (stripStart text).head? ≠ some ':') :
    EndsName (' ' :: text) where
  stops := stops_space text
  noColon := behindColon?_eq_none (by simp) (by rwa [stripStart_space])

/-- Behind a space, the text neither makes a key of a name before it nor is one for keys that are only
read. -/
structure MakesNoKey (text : List Char) : Prop where
  noColon : (stripStart (without literalLength? text)).head? ≠ some ':'
  noKey : behindKey? (stripStart (without literalLength? text)) = none

theorem makesNoKey_question (rest : List Char) : MakesNoKey ('?' :: rest) := by
  have same : stripStart (without literalLength? ('?' :: rest)) = '?' :: without literalLength? rest := by
    rw [without_code (by decide)]
    exact stripStart_of_not_isBlank (by rintro c ⟨⟩; decide)
  refine ⟨by simp [same], ?_⟩
  rw [same, behindKey?, identifier?_eq_none (by rintro c ⟨⟩; decide)]
  rfl

theorem makesNoKey_name (name : Printed.Name) {rest : List Char}
    (noColon : (stripStart (without literalLength? rest)).head? ≠ some ':') :
    MakesNoKey (name.text ++ ' ' :: rest) := by
  have same : stripStart (without literalLength? (name.text ++ ' ' :: rest)) =
      name.text ++ ' ' :: without literalLength? rest := by
    rw [without_run (Printed.isQuiet_of_isWord name.isWord), without_literals_space, name.stripStart]
  refine ⟨fun head => ?_, ?_⟩
  · rw [same] at head
    exact absurd (name.head _ ':' head) (by decide)
  · rw [same, behindKey?, identifier?_word name.isIdentifier (stops_space _)]
    exact (endsName_space noColon).noColon

namespace PrintedType

theorem namesIn_text : namesIn type.text = type.tree.names := by
  rw [namesIn, bare, text, TypeTree.text, without_literals, without_keys type.spacing type.isSpaced,
    identifiers_parts type.spacing type.isSpaced, type.tree.filterMap_parts]

/-- In front of a space a type leaves its names, where what stands behind makes no key of the name in which
the type ends. -/
theorem namesIn_space {rest : List Char}
    (behind : ∀ name, type.lastName? = some name → MakesNoKey rest) :
    namesIn (type.text ++ ' ' :: rest) = type.tree.names ++ namesIn (' ' :: rest) := by
  have ended : ∀ name, type.tree.parts.getLast? = some (.name name) →
      EndsName (' ' :: without literalLength? rest) ∧
        behindKey? (stripStart (' ' :: without literalLength? rest)) = none := by
    intro name isLast
    obtain ⟨noColon, noKey⟩ := behind name.text (by rw [lastName?, isLast]; rfl)
    exact ⟨endsName_space noColon, by rwa [stripStart_space]⟩
  rw [namesIn, namesIn, bare, bare, text, TypeTree.text, without_literals_append, without_literals_space,
    without_keys_append type.spacing type.isSpaced (by simp) ended, without_keys_space,
    identifiers_append type.spacing type.isSpaced fun _ _ => stops_space _, type.tree.filterMap_parts]

/-- Where no colon stands behind a type, none stands behind what comes before it. -/
theorem noColon {rest : List Char}
    (ended : (stripStart (without literalLength? rest)).head? ≠ some ':') :
    (stripStart (without literalLength? (type.text ++ rest))).head? ≠ some ':' := by
  rw [text, TypeTree.text, without_literals_append]
  exact stripStart_ne_colon type.spacing type.tree.parts ended

end PrintedType

/-- In front of a space a name is left, where it is not the word for keys that are only read and no colon
stands behind the space. -/
theorem namesIn_name (name : Printed.Name) {rest : List Char}
    (noColon : (stripStart (without literalLength? rest)).head? ≠ some ':')
    (noReadonly : ¬ "readonly".toList <:+ name.text) :
    namesIn (name.text ++ ' ' :: rest) = name.text :: namesIn (' ' :: rest) := by
  rw [namesIn, namesIn, bare, bare, without_run (Printed.isQuiet_of_isWord name.isWord),
    without_literals_space, without_word name.isWord (endsName_space noColon) (absurd · noReadonly),
    without_keys_space, identifiersFrom_name name (stops_space _)]

/-! ### The name before a colon -/

/-- Neither is a name in front of the last one, nor do the parts in front of it end in one. -/
theorem isSpaced_of_concat_name {parts : List Part} {final : Printed.Name}
    (spaced : IsSpaced (parts ++ [.name final])) :
    IsSpaced parts ∧ ∀ name, parts.getLast? ≠ some (.name name) := by
  induction parts with
  | nil => exact ⟨trivial, by simp⟩
  | cons part parts inductionHypothesis =>
    cases parts with
    | nil =>
      cases part with
      | name name => exact absurd spaced.1 id
      | _ => exact ⟨trivial, by simp⟩
    | cons next parts =>
      rw [List.getLast?_cons_cons]
      cases part with
      | name name =>
        obtain ⟨before, noName⟩ := inductionHypothesis spaced.2
        refine ⟨⟨?_, before⟩, noName⟩
        cases next with
        | mark mark => trivial
        | _ => exact absurd spaced.1 id
      | _ => exact inductionHypothesis spaced

/-- A name, a space and a colon make a key. -/
theorem keyLength?_colon (name : Printed.Name) (rest : List Char) :
    keyLength? (name.text ++ [' ', ':'] ++ ' ' :: rest) = some (name.text ++ [' ', ':']).length := by
  have isText : name.text ++ [' ', ':'] ++ ' ' :: rest = name.text ++ ' ' :: ':' :: ' ' :: rest := by
    rw [List.append_assoc, List.cons_append, List.singleton_append]
  have isColon : stripStart (' ' :: ':' :: ' ' :: rest) = ':' :: ' ' :: rest := by
    rw [stripStart_space]
    exact stripStart_of_not_isBlank (by rintro c ⟨⟩; decide)
  have named : behindKey? (name.text ++ ' ' :: ':' :: ' ' :: rest) = some (' ' :: rest) := by
    rw [behindKey?, identifier?_word name.isIdentifier (stops_space _), Option.bind_eq_bind,
      Option.bind_some]
    simp [behindColon?, isColon]
  have noReadonly : (spacedKeyword? "readonly".toList (name.text ++ ' ' :: ':' :: ' ' :: rest)).bind
      behindKey? = none := by
    rw [spacedKeyword?_word Printed.isWord_readonly name.isWord (by decide)]
    split
    · -- Behind the word for keys that are only read comes the colon, and no name.
      rw [Option.bind_some, stripStart_of_not_isBlank (by rintro c ⟨⟩; decide), behindKey?,
        identifier?_eq_none (by rintro c ⟨⟩; decide)]
      rfl
    · rfl
  have read : ((spacedKeyword? "readonly".toList (name.text ++ [' ', ':'] ++ ' ' :: rest)).bind
      behindKey?).or (behindKey? (name.text ++ [' ', ':'] ++ ' ' :: rest)) = some (' ' :: rest) := by
    rw [isText, noReadonly, named, Option.none_or]
  rw [keyLength?, read, Option.map_some, List.length_append, Nat.add_sub_cancel]

/-- In front of a colon a type leaves its names, but not the one in which it ends. -/
theorem PrintedType.namesIn_colon (rest : List Char) :
    namesIn (type.text ++ ' ' :: ':' :: ' ' :: rest) = type.namesBeforeEnd ++ namesIn rest := by
  rw [namesBeforeEnd]
  cases isLast : type.lastName? with
  | none =>
    rw [type.namesIn_space fun name found => absurd (isLast.symm.trans found) (by simp),
      namesIn_closed (by decide) (by decide), namesIn_closed (by decide) (by decide),
      namesIn_closed (by decide) (by decide)]
  | some last =>
    -- The last name goes with its colon, and leaves a space; the parts before it stay as they are.
    obtain ⟨parts, final, isParts, rfl, names⟩ := type.exists_parts_of_lastName? isLast
    obtain ⟨spaced, noName⟩ := isSpaced_of_concat_name (isParts ▸ type.isSpaced)
    have isText : type.text ++ ' ' :: ':' :: ' ' :: rest =
        parts.flatMap (Part.text type.spacing) ++ (final.text ++ [' ', ':'] ++ ' ' :: rest) := by
      rw [text, TypeTree.text, isParts, List.flatMap_append]
      simp [Part.text]
    have quiet : ∀ c ∈ final.text ++ [' ', ':'], isQuiet c = true :=
      List.forall_mem_append.2 ⟨Printed.isQuiet_of_isWord final.isWord, by decide⟩
    have head : (final.text ++ [' ', ':'] ++ ' ' :: without literalLength? rest).head? ≠ some ':' := by
      intro head
      rw [List.append_assoc] at head
      exact absurd (final.head _ ':' head) (by decide)
    have passed := identifiersFrom_closed (by decide : ∀ c ∈ [' ', ' '], opensIdentifier c = false)
      (without keyLength? (without literalLength? rest))
    rw [isText, names, List.dropLast_concat, namesIn, namesIn, bare, bare, without_literals_append,
      without_run quiet, without_literals_space,
      without_keys_append type.spacing spaced head fun name found => absurd found (noName name),
      without_measured (by simp) (keyLength?_colon final _), without_keys_space,
      identifiers_append type.spacing spaced fun name found => absurd found (noName name)]
    exact congrArg (parts.filterMap Part.name? ++ ·) passed

/-! ### Conditional types -/

/-- A type that depends on whether one type extends another. -/
structure ConditionalType where
  checked : PrintedType
  bound : PrintedType
  accepted : PrintedType
  refused : PrintedType

namespace ConditionalType

variable (conditional : ConditionalType)

def text : List Char :=
  conditional.checked.text ++ (" extends ".toList ++ (conditional.bound.text ++ (" ? ".toList ++
    (conditional.accepted.text ++ (" : ".toList ++ conditional.refused.text)))))

/-- The names that the conditional type refers to. -/
def references : List String :=
  TypeName.references (String.ofList conditional.text)

/-- The names that the search finds, as they follow one another: those of the four types and the keyword,
without the name in which the first branch ends. -/
def names : List (List Char) :=
  conditional.checked.tree.names ++ "extends".toList :: (conditional.bound.tree.names ++
    (conditional.accepted.namesBeforeEnd ++ conditional.refused.tree.names))

theorem namesIn_text : namesIn conditional.text = conditional.names := by
  obtain ⟨checked, bound, accepted, refused⟩ := conditional
  let keyword : Printed.Name := ⟨"extends".toList, by decide⟩
  let branches := accepted.text ++ ' ' :: ':' :: ' ' :: refused.text
  let condition := bound.text ++ ' ' :: '?' :: ' ' :: branches
  have isText : text ⟨checked, bound, accepted, refused⟩ =
      checked.text ++ ' ' :: (keyword.text ++ ' ' :: condition) := by
    simp [text, keyword, condition, branches]
  have noColon : (stripStart (without literalLength? condition)).head? ≠ some ':' := by
    refine bound.noColon ?_
    rw [without_literals_space, stripStart_space]
    exact (makesNoKey_question _).noColon
  calc namesIn (text ⟨checked, bound, accepted, refused⟩)
      = checked.tree.names ++ namesIn (keyword.text ++ ' ' :: condition) := by
        rw [isText, checked.namesIn_space fun _ _ => makesNoKey_name keyword noColon,
          namesIn_closed (by decide) (by decide)]
    _ = checked.tree.names ++ keyword.text :: namesIn condition := by
        rw [namesIn_name keyword noColon (by decide), namesIn_closed (by decide) (by decide)]
    _ = checked.tree.names ++ keyword.text :: (bound.tree.names ++ namesIn branches) := by
        rw [bound.namesIn_space fun _ _ => makesNoKey_question _, namesIn_closed (by decide) (by decide),
          namesIn_closed (by decide) (by decide), namesIn_closed (by decide) (by decide)]
    _ = names ⟨checked, bound, accepted, refused⟩ := by
        rw [accepted.namesIn_colon, refused.namesIn_text]
        rfl

end ConditionalType

theorem PrintedType.mem_references (name : String) :
    name ∈ type.references ↔ ∃ word ∈ type.tree.names, String.ofList word = name := by
  rw [references, references_ofList, type.namesIn_text, mem_firstOccurrences, List.mem_map]

/-- The search finds the names of the four types in a conditional type, and the keyword, but it takes the
name in which the first branch ends for a key: that one it finds only if the type names it elsewhere. -/
theorem references_conditional (conditional : ConditionalType) :
    conditional.references = firstOccurrences (conditional.names.map String.ofList) ∧
      (∀ type ∈ [conditional.checked, conditional.bound, conditional.refused],
        ∀ name ∈ type.references, name ∈ conditional.references) ∧
      ∀ name ∈ conditional.accepted.references, name ∈ conditional.references ∨
        conditional.accepted.lastName?.map String.ofList = some name := by
  have found : conditional.references = firstOccurrences (conditional.names.map String.ofList) := by
    rw [ConditionalType.references, references_ofList, conditional.namesIn_text]
  have isFound : ∀ word ∈ conditional.names, String.ofList word ∈ conditional.references := by
    intro word member
    rw [found, mem_firstOccurrences]
    exact List.mem_map_of_mem member
  refine ⟨found, ?_, ?_⟩
  · intro type member name isName
    obtain ⟨word, inType, rfl⟩ := (type.mem_references name).1 isName
    refine isFound word ?_
    rw [ConditionalType.names]
    simp only [List.mem_cons, List.not_mem_nil, or_false] at member
    rcases member with rfl | rfl | rfl <;> simp [inType]
  · intro name isName
    obtain ⟨word, inType, rfl⟩ := (conditional.accepted.mem_references name).1 isName
    rcases conditional.accepted.mem_namesBeforeEnd inType with kept | isLast
    · refine .inl (isFound word ?_)
      rw [ConditionalType.names]
      simp [kept]
    · exact .inr (by rw [isLast, Option.map_some])

/-- A name by itself. -/
def PrintedType.single (name : Printed.Name) : PrintedType :=
  ⟨.named name, ⟨fun _ => 0, fun _ => 0, 1⟩⟩

/-- A condition on the type `Id` whose first branch is an object. -/
def boxedCondition : ConditionalType where
  checked := .single ⟨"Id".toList, by decide⟩
  bound := ⟨.array (.applied ⟨"Map".toList, by decide⟩ (.named ⟨"Id".toList, by decide⟩)
    [.named ⟨"State".toList, by decide⟩]), ⟨fun _ => 0, fun _ => 0, 1⟩⟩
  accepted := ⟨.object [(⟨true, ⟨"item".toList, by decide⟩, true⟩, .comma,
    .named ⟨"Box".toList, by decide⟩)] false, ⟨fun _ => 1, fun _ => 1, 1⟩⟩
  refused := ⟨.union (.named ⟨"Door".toList, by decide⟩) [.named ⟨"Id".toList, by decide⟩],
    ⟨fun _ => 1, fun _ => 1, 1⟩⟩

theorem references_conditional_boxed :
    String.ofList boxedCondition.text =
      "Id extends Map<Id,State>[] ?  \x7b readonly item?: Box \x7d  : Door | Id" ∧
    boxedCondition.references = ["Id", "extends", "Map", "State", "Box", "Door"] ∧
    "Box" ∈ boxedCondition.references := by
  have box : "Box" ∈ boxedCondition.accepted.references := by decide +kernel
  have kept := (references_conditional boxedCondition).2.2 "Box" box
  refine ⟨by decide +kernel, ?_, kept.resolve_right (by decide +kernel)⟩
  rw [(references_conditional boxedCondition).1]
  decide +kernel

/-- Four names: the one in the first branch is lost. -/
def namedCondition : ConditionalType where
  checked := .single ⟨['A'], by decide⟩
  bound := .single ⟨['B'], by decide⟩
  accepted := .single ⟨['C'], by decide⟩
  refused := .single ⟨['D'], by decide⟩

theorem references_conditional_lost :
    String.ofList namedCondition.text = "A extends B ? C : D" ∧
      namedCondition.references = ["A", "extends", "B", "D"] ∧
      namedCondition.accepted.references = ["C"] :=
  ⟨by decide +kernel, by decide +kernel, by decide +kernel⟩

end Concord.TypeName
