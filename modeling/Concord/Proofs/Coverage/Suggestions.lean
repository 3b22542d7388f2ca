/-
The suggestions of a coverage are declarations that the extractor reads back. Every suggestion is an
outline with a name that will do for its demand, and of the kind that is demanded: for a domain whenever
the domain is an identifier, whatever characters it is made of.
-/

import Concord.Proofs.Coverage
import Concord.Proofs.Declaration.Outlines

namespace Concord.Coverage

open Printed Source Text

/-! ### Names and types in suggestions -/

/-- A name with a word behind it. -/
def behindName (name : Name) (word : List Char) (isWord : IsWord word) : Name where
  text := name.text ++ word
  isIdentifier := by
    obtain ⟨c, others, isText⟩ := List.exists_cons_of_ne_nil name.ne_nil
    have named := name.isIdentifier
    rw [isText, isIdentifier, Bool.and_eq_true] at named
    rw [isText, List.cons_append, isIdentifier, named.1, List.all_append, named.2]
    exact List.all_eq_true.2 isWord

/-- A name as a type. -/
def typeOf (name : Name) : TypeText where
  text := name.text
  nested := by
    have run := Nested.run name.text (isPlain_of_isWord name.isWord) (@Nested.nil false false)
    rwa [List.append_nil] at run
  collapsed := IsSpaced.collapse_eq
    ⟨[name.text], List.forall_mem_singleton.2 name.isSolid, List.intercalate_singleton.symm⟩
  something := name.ne_nil

theorem isLiteralCharacter_name (name : Name) : ∀ c ∈ name.text, IsLiteralCharacter c := by
  intro c member
  have isWord := name.isWord c member
  have quiet := isQuiet_of_isWord name.isWord c member
  refine ⟨?_, ?_, ?_⟩
  · simpa using (Bool.and_eq_true_iff.1 quiet).2
  · rintro rfl
    exact absurd isWord (by decide)
  · rintro rfl
    exact absurd isWord (by decide)

theorem isSolid_quote : IsSolid ['\x27'] :=
  ⟨by decide, by decide⟩

theorem isSpaced_brand (name : Name) :
    IsSpaced ("string & \x7b readonly __brand: \x27".toList ++ (name.text ++ "\x27 \x7d".toList)) := by
  have opened : IsSpaced "string & \x7b readonly __brand:".toList :=
    isSpaced_of_collapse_eq (by decide)
  have closed : IsSpaced ['\x7d'] := isSpaced_of_collapse_eq (by decide)
  have quoted : IsSpaced (['\x27'] ++ (name.text ++ ['\x27'])) :=
    ((isSpaced_of_collapse_eq (typeOf name).collapsed).suffixed isSolid_quote).prefixed isSolid_quote
  have behind := quoted.spaced_append (by simp) closed (by simp)
  have whole := opened.spaced_append (by decide) behind (by simp)
  simpa using whole

/-- A text type with a brand that holds a name. -/
def brandOf (name : Name) : TypeText where
  text := "string & \x7b readonly __brand: \x27".toList ++ (name.text ++ "\x27 \x7d".toList)
  nested := by
    have inside : Nested true true
        (" readonly __brand: ".toList ++ '\x27' :: (name.text ++ '\x27' :: [' '])) :=
      .innerRun _ (by decide) (.literal rfl (isLiteralCharacter_name name) (.plain rfl .nil))
    have grouped := Nested.run "string & ".toList (by decide)
      (@Nested.group false false _ [] .curly inside .nil)
    simpa [Bracket.opening, Bracket.closing] using grouped
  collapsed := (isSpaced_brand name).collapse_eq
  something := by simp

/-- What a response holds. -/
def responseType : TypeText where
  text := '\x7b' :: (" success: boolean; data?: T; error?: ".toList ++
    '\x7b' :: (" code: string; message: string; ".toList ++ ['\x7d', ' ', '\x7d']))
  nested := by
    have detail := Nested.innerRun " code: string; message: string; ".toList (by decide) .nil
    have inside := Nested.innerRun " success: boolean; data?: T; error?: ".toList (by decide)
      (.group .curly detail (.plain (show isPlain ' ' = true from rfl) .nil))
    exact @Nested.group false false _ [] .curly inside .nil
  collapsed := by decide
  something := by simp

/-- What a page of results holds. -/
def pageType : TypeText where
  text := '\x7b' :: (" items: T".toList ++ '[' :: ']' ::
    ("; total: number; page: number; limit: number; hasMore: boolean; ".toList ++ ['\x7d']))
  nested := by
    have behind := Nested.innerRun
      "; total: number; page: number; limit: number; hasMore: boolean; ".toList (by decide) .nil
    have inside := Nested.innerRun " items: T".toList (by decide) (.group .square .nil behind)
    exact @Nested.group false false _ [] .curly inside .nil
  collapsed := by decide
  something := by simp

/-- The two orders of sorting. -/
def orderType : TypeText where
  text := "'asc' | 'desc'".toList
  nested := by
    have descending := @Nested.literal false false '\x27' "desc".toList [] rfl (by decide) .nil
    have behind := Nested.run " | ".toList (by decide) descending
    exact @Nested.literal false false '\x27' "asc".toList _ rfl (by decide) behind
  collapsed := by decide
  something := by decide

/-! ### Declarations in suggestions -/

theorem isIndentation_twoSpaces : ∀ c ∈ [' ', ' '], isSpaceOrTab c = true := by
  decide

/-- A field on a line of its own. -/
def fieldOf (name : Name) (isOptional : Bool) (type : TypeText) : Printed.Field where
  indentation := [' ', ' ']
  isIndentation := isIndentation_twoSpaces
  isReadonly := false
  name := name
  isOptional := isOptional
  type := type
  ending := .semicolon

/-- A member on a line of its own, with a text for its value. -/
def memberOf (name : Name) (value : List Char) (contents : ∀ c ∈ value, IsLiteralCharacter c) :
    Member where
  gap := ['\n', ' ', ' ']
  isGap := rfl
  name := name
  initialiser := .literal '\x27' value rfl contents

/-- A declaration without modifiers. -/
def outlineOf (name : Name) (shape : Shape) : Outline :=
  .ofDeclaration ⟨false, false, name, shape⟩

/-- An enumeration with its members on lines of their own. -/
def enumerationOf (members : List Member) : Shape :=
  .enumeration false members false ['\n'] rfl

/-- The outline declares what is demanded, and the text of the suggestion is that of the outline. -/
structure Demand.IsDeclaredBy (demand : Demand) (outline : Outline) : Prop where
  text : String.ofList (outline.text id) = demand.suggestion
  name : String.ofList outline.name ∈ demand.names
  kind : outline.shape.kind = demand.kind

theorem text_brand (name : Name) :
    String.ofList ((outlineOf name (.typeAlias (brandOf name))).text id) =
      brandSuggestion (String.ofList name.text) := by
  have isText : (outlineOf name (.typeAlias (brandOf name))).text id =
      "type ".toList ++ (name.text ++ " =".toList) ++
        ' ' :: ("string & \x7b readonly __brand: \x27".toList ++ (name.text ++ "\x27 \x7d".toList) ++ [';']) :=
    rfl
  rw [isText, ← String.toList_inj]
  simp [brandSuggestion]

theorem text_enumeration (name : Name) {members : List Member} {rest : String}
    (isRest : String.ofList (' ' :: '\x7b' :: (enumerationOf members).trunk id) = rest) :
    String.ofList ((outlineOf name (enumerationOf members)).text id) =
      "enum " ++ String.ofList name.text ++ rest := by
  have isText : (outlineOf name (enumerationOf members)).text id =
      "enum ".toList ++ (name.text ++ [' ', '\x7b']) ++ (enumerationOf members).trunk id :=
    rfl
  rw [isText, ← isRest, ← String.toList_inj]
  simp

/-! ### Suggestions for a domain -/

/-- A reference to what the domain identifies. -/
def referenceOf (domain : Name) : Shape :=
  .record [] [fieldOf ⟨"id".toList, by decide⟩ false (typeOf (behindName domain "Id".toList (by decide))),
    fieldOf ⟨"name".toList, by decide⟩ true (typeOf ⟨"string".toList, by decide⟩)]
    (show ["id".toList, "name".toList].Nodup by decide)

theorem text_reference (domain name : Name) :
    String.ofList ((outlineOf name (referenceOf domain)).text id) =
      referenceSuggestion (String.ofList domain.text) (String.ofList name.text) := by
  have isText : (outlineOf name (referenceOf domain)).text id =
      "interface ".toList ++ (name.text ++ []) ++
        (" \x7b\n  id: ".toList ++ (((domain.text ++ "Id".toList ++ ";\n".toList) ++
          "  name?: string;\n".toList) ++ "\x7d".toList)) :=
    rfl
  rw [isText, ← String.toList_inj]
  simp [referenceSuggestion]

def stateMembers : List Member :=
  [memberOf ⟨"DRAFT".toList, by decide⟩ "draft".toList (by decide),
    memberOf ⟨"ACTIVE".toList, by decide⟩ "active".toList (by decide),
    memberOf ⟨"ARCHIVED".toList, by decide⟩ "archived".toList (by decide)]

def typeMembers : List Member :=
  [memberOf ⟨"DEFAULT".toList, by decide⟩ "default".toList (by decide),
    memberOf ⟨"CUSTOM".toList, by decide⟩ "custom".toList (by decide)]

/-- Every suggestion for a domain that is an identifier declares what is demanded. -/
theorem isDeclaredBy_of_mem_demandsOf {domain : String} {demand : Demand}
    (named : isIdentifier domain.toList = true) (member : demand ∈ demandsOf domain) :
    ∃ outline, demand.IsDeclaredBy outline := by
  obtain ⟨name, rfl⟩ : ∃ name : Name, String.ofList name.text = domain :=
    ⟨⟨domain.toList, named⟩, String.ofList_toList⟩
  have longer : ∀ word : String, IsWord word.toList →
      ∃ longer : Name, String.ofList longer.text = String.ofList name.text ++ word :=
    fun word isWord => ⟨behindName name word.toList isWord, by simp [behindName]⟩
  obtain ⟨identifier, isIdentifier⟩ := longer "Id" (by decide)
  obtain ⟨reference, isReference⟩ := longer "Ref" (by decide)
  obtain ⟨state, isState⟩ := longer "State" (by decide)
  obtain ⟨type, isType⟩ := longer "Type" (by decide)
  simp only [demandsOf, List.mem_cons, List.not_mem_nil, or_false] at member
  rcases member with rfl | rfl | rfl | rfl
  · have text := (text_brand identifier).trans (by rw [isIdentifier])
    exact ⟨_, text, List.mem_singleton.2 isIdentifier, rfl⟩
  · have text := (text_reference name reference).trans (by rw [isReference])
    exact ⟨_, text, List.mem_singleton.2 isReference, rfl⟩
  · have text := (@text_enumeration state stateMembers _ rfl).trans (by rw [isState])
    exact ⟨_, text, List.mem_cons.2 (.inl isState), rfl⟩
  · have text := (@text_enumeration type typeMembers _ rfl).trans (by rw [isType])
    exact ⟨_, text, List.mem_singleton.2 isType, rfl⟩

/-! ### Suggestions whatever the domains -/

def timestampsOf : Shape :=
  .record [] [fieldOf ⟨"createdAt".toList, by decide⟩ false (typeOf ⟨"ISOTimestamp".toList, by decide⟩),
    fieldOf ⟨"updatedAt".toList, by decide⟩ false (typeOf ⟨"ISOTimestamp".toList, by decide⟩)] (by decide)

def pageParametersOf : Shape :=
  .record [] [fieldOf ⟨"page".toList, by decide⟩ true (typeOf ⟨"number".toList, by decide⟩),
    fieldOf ⟨"limit".toList, by decide⟩ true (typeOf ⟨"number".toList, by decide⟩),
    fieldOf ⟨"sortBy".toList, by decide⟩ true (typeOf ⟨"string".toList, by decide⟩),
    fieldOf ⟨"sortOrder".toList, by decide⟩ true orderType] (by decide)

/-- The suggestions whatever the domains, in order. -/
def commonOutlines : List Outline :=
  [.ofParameterised ⟨"ApiResponse".toList, by decide⟩ ⟨"T".toList, by decide⟩ responseType,
    .ofParameterised ⟨"PaginatedResponse".toList, by decide⟩ ⟨"T".toList, by decide⟩ pageType,
    outlineOf ⟨"ISOTimestamp".toList, by decide⟩
      (.typeAlias (brandOf ⟨"ISOTimestamp".toList, by decide⟩)),
    outlineOf ⟨"ISODate".toList, by decide⟩ (.typeAlias (brandOf ⟨"ISODate".toList, by decide⟩)),
    outlineOf ⟨"Timestamps".toList, by decide⟩ timestampsOf,
    outlineOf ⟨"PaginationParams".toList, by decide⟩ pageParametersOf]

set_option maxRecDepth 2000 in
/-- Every common suggestion declares what is demanded. -/
theorem isDeclaredBy_commonDemands :
    List.Forall₂ Demand.IsDeclaredBy commonDemands commonOutlines := by
  refine .cons ⟨rfl, by decide, rfl⟩ <| .cons ⟨rfl, by decide, rfl⟩ <| .cons ⟨?_, by decide, rfl⟩ <|
    .cons ⟨?_, by decide, rfl⟩ <| .cons ⟨rfl, by decide, rfl⟩ <| .cons ⟨rfl, by decide, rfl⟩ .nil
  · exact text_brand _
  · exact text_brand _

end Concord.Coverage
