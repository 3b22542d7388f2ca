/-
Heads at the start of a line. A printed head is read as a head of its own kind and of no other: the word
before the name decides, and behind `const` the equals sign or the name of an enumeration. A line whose
first word is no keyword, or is not followed by an identifier, is no head at all.
-/

import Concord.Declaration.Head
import Concord.Proofs.Declaration.Printed

namespace Concord.Head

open Printed Source Text

/-! ### Lines that are no heads -/

/-- The words that a head may begin with. -/
def headWords : List (List Char) :=
  ["export".toList, "declare".toList, "interface".toList, "type".toList, "enum".toList,
    "const".toList]

theorem headWords_spec {word : List Char} (member : word ∈ headWords) :
    IsWord word ∧ ∃ c rest, word = c :: rest ∧ opensIdentifier c = true := by
  have all : ∀ word ∈ headWords, (word.all continuesIdentifier && (word.head?.any opensIdentifier)) =
      true := by decide
  have here := Bool.and_eq_true_iff.1 (all word member)
  refine ⟨List.all_eq_true.1 here.1, ?_⟩
  cases word with
  | nil => exact absurd here.2 (by simp)
  | cons c rest => exact ⟨c, rest, rfl, by simpa using here.2⟩

theorem isWord_of_mem_headWords {word : List Char} (member : word ∈ headWords) : IsWord word :=
  (headWords_spec member).1

/-- No word that a head may begin with stands here before an identifier. -/
def Dull (text : List Char) : Prop :=
  ∀ word ∈ headWords, ∀ behind, inlineKeyword? word text = some behind → identifier? behind = none

theorem inlineKeyword?_of_no_identifier {word text : List Char} (member : word ∈ headWords)
    (noIdentifier : identifier? text = none) : inlineKeyword? word text = none := by
  obtain ⟨-, c, rest, rfl, opens⟩ := headWords_spec member
  cases text with
  | nil => rfl
  | cons d text =>
    have different : c ≠ d := by
      rintro rfl
      rw [identifier?, if_pos opens] at noIdentifier
      exact absurd noIdentifier (by simp)
    rw [inlineKeyword?, after?, if_neg different]

theorem dull_of_no_identifier {text : List Char} (noIdentifier : identifier? text = none) :
    Dull text := by
  intro word member behind found
  rw [inlineKeyword?_of_no_identifier member noIdentifier] at found
  exact absurd found (by simp)

theorem Dull.skipInline {text word : List Char} (dull : Dull text) (member : word ∈ headWords) :
    Dull (skipInline word text) := by
  unfold Text.skipInline
  cases found : inlineKeyword? word text with
  | none => exact dull
  | some behind => exact dull_of_no_identifier (dull word member behind found)

theorem Dull.bind_identifier? {text word : List Char} (dull : Dull text) (member : word ∈ headWords) :
    (inlineKeyword? word text).bind identifier? = none := by
  cases found : inlineKeyword? word text with
  | none => rfl
  | some behind => exact dull word member behind found

theorem read?_of_dull {line : List Char} (dull : Dull (line.dropWhile isSpaceOrTab))
    (kind : DeclarationKind) : read? kind line = none := by
  have behind : Dull (behindModifiers line) := (dull.skipInline (by decide)).skipInline (by decide)
  cases kind with
  | record => exact behind.bind_identifier? (by decide)
  | typeAlias => rw [read?, typeAlias?, behind.bind_identifier? (by decide)]; rfl
  | enumeration =>
    rw [read?, enumeration?, (behind.skipInline (by decide)).bind_identifier? (by decide)]; rfl
  | constantGroup => rw [read?, constantGroup?, behind.bind_identifier? (by decide)]; rfl

theorem dull_of_not_mem {word rest : List Char} {c : Char} (isWord : IsWord word)
    (stops : continuesIdentifier c = false) (noKeyword : word ∉ headWords) :
    Dull (word ++ c :: rest) := by
  intro keyword member behind found
  rw [inlineKeyword?_word (isWord_of_mem_headWords member) isWord stops, if_neg] at found
  · exact absurd found (by simp)
  · rintro ⟨rfl, -⟩
    exact noKeyword member

/-- What ends a word so that no identifier follows on the line. -/
structure Closes (text : List Char) : Prop where
  stops : ∀ c, text.head? = some c → continuesIdentifier c = false
  noIdentifier : identifier? (text.dropWhile isSpaceOrTab) = none

theorem identifier?_of_stops {text : List Char}
    (stops : ∀ c, text.head? = some c → continuesIdentifier c = false) : identifier? text = none := by
  cases text with
  | nil => rfl
  | cons c rest =>
    rw [identifier?, if_neg]
    intro opens
    have inside := continuesIdentifier_of_opensIdentifier opens
    rw [stops c rfl] at inside
    exact absurd inside (by simp)

theorem closes_of_stops {c : Char} {rest : List Char} (stops : continuesIdentifier c = false)
    (noSpace : isSpaceOrTab c = false) : Closes (c :: rest) := by
  have head : ∀ d, (c :: rest).head? = some d → continuesIdentifier d = false := by
    intro d same
    rw [← Option.some.inj same]
    exact stops
  refine ⟨head, ?_⟩
  rw [List.dropWhile_cons_of_neg (by simp [noSpace])]
  exact identifier?_of_stops head

theorem Closes.dull {word text : List Char} (closes : Closes text) (isWord : IsWord word)
    (something : text ≠ []) : Dull (word ++ text) := by
  obtain ⟨c, rest, rfl⟩ := List.exists_cons_of_ne_nil something
  intro keyword member behind found
  rw [inlineKeyword?_word (isWord_of_mem_headWords member) isWord (closes.stops c rfl)] at found
  split at found
  · rename_i both
    have noIdentifier := closes.noIdentifier
    rw [List.dropWhile_cons_of_pos both.2] at noIdentifier
    rw [← Option.some.inj found]
    exact noIdentifier
  · exact absurd found (by simp)

/-! ### Printed heads -/

section

variable {word rest : List Char} (isWord : IsWord word)

include isWord

theorem inlineKeyword?_space {keyword : List Char} (member : keyword ∈ headWords) :
    inlineKeyword? keyword (word ++ ' ' :: rest) =
      if keyword = word then some (rest.dropWhile isSpaceOrTab) else none := by
  rw [inlineKeyword?_word (isWord_of_mem_headWords member) isWord (by decide)]
  simp [isSpaceOrTab]

theorem skipInline_space {keyword : List Char} (member : keyword ∈ headWords) :
    skipInline keyword (word ++ ' ' :: rest) =
      if keyword = word then rest.dropWhile isSpaceOrTab else word ++ ' ' :: rest := by
  rw [skipInline, inlineKeyword?_space isWord member]
  split <;> rfl

end

theorem isSpaceOrTab_of_continuesIdentifier {c : Char} (inside : continuesIdentifier c = true) :
    isSpaceOrTab c = false := by
  cases space : isSpaceOrTab c with
  | false => rfl
  | true =>
    exact absurd ((isBlank_of_continuesIdentifier inside).symm.trans (isBlank_of_isSpaceOrTab space))
      (by simp)

theorem dropWhile_word {word : List Char} (isWord : IsWord word) (something : word ≠ [])
    (rest : List Char) : (word ++ rest).dropWhile isSpaceOrTab = word ++ rest := by
  obtain ⟨c, tail, rfl⟩ := List.exists_cons_of_ne_nil something
  rw [List.cons_append, List.dropWhile_cons_of_neg]
  simp [isSpaceOrTab_of_continuesIdentifier (isWord c List.mem_cons_self)]

section

variable (name : Name)

theorem dropWhile_name (rest : List Char) :
    (name.text ++ rest).dropWhile isSpaceOrTab = name.text ++ rest :=
  dropWhile_word name.isWord name.ne_nil rest

theorem identifier?_name {rest : List Char}
    (stops : ∀ c, rest.head? = some c → continuesIdentifier c = false) :
    identifier? (name.text ++ rest) = some (name.text, rest) :=
  identifier?_word name.isIdentifier stops

end

/-- The words before a head are skipped. -/
theorem behindModifiers_printed (declaration : Printed.Declaration) {word rest : List Char}
    (isWord : IsWord word) (something : word ≠ []) (noExport : "export".toList ≠ word)
    (noDeclare : "declare".toList ≠ word) :
    behindModifiers (declaration.modifiers ++ (word ++ ' ' :: rest)) = word ++ ' ' :: rest := by
  have exported : IsWord "export".toList := isWord_of_mem_headWords (by decide)
  have ambient : IsWord "declare".toList := isWord_of_mem_headWords (by decide)
  rw [behindModifiers, Declaration.modifiers]
  cases declaration.isExported <;> cases declaration.isAmbient
  · simp only [Bool.false_eq_true, ↓reduceIte, List.nil_append]
    rw [dropWhile_word isWord something, skipInline_space isWord (by decide), if_neg noExport,
      skipInline_space isWord (by decide), if_neg noDeclare]
  · simp only [Bool.false_eq_true, ↓reduceIte, List.nil_append, List.append_assoc,
      List.singleton_append]
    rw [dropWhile_word ambient (by decide), skipInline_space ambient (by decide), if_neg (by decide),
      skipInline_space ambient (by decide), if_pos rfl, dropWhile_word isWord something]
  · simp only [Bool.false_eq_true, ↓reduceIte, List.append_nil, List.append_assoc,
      List.singleton_append]
    rw [dropWhile_word exported (by decide), skipInline_space exported (by decide), if_pos rfl,
      dropWhile_word isWord something, skipInline_space isWord (by decide), if_neg noDeclare]
  · simp only [↓reduceIte, List.append_assoc, List.cons_append, List.nil_append]
    rw [dropWhile_word exported (by decide), skipInline_space exported (by decide), if_pos rfl,
      dropWhile_word ambient (by decide), skipInline_space ambient (by decide), if_pos rfl,
      dropWhile_word isWord something]

/-- No head of a kind opens with another word than the kind's own. -/
theorem bind_identifier?_other {keyword word : List Char} (member : keyword ∈ headWords)
    (isWord : IsWord word) (different : keyword ≠ word) (rest : List Char) :
    (inlineKeyword? keyword (word ++ ' ' :: rest)).bind identifier? = none := by
  rw [inlineKeyword?_space isWord member, if_neg different]
  rfl

theorem bind_identifier?_same {keyword : List Char} (member : keyword ∈ headWords) (name : Name)
    {rest : List Char} (stops : ∀ c, rest.head? = some c → continuesIdentifier c = false) :
    (inlineKeyword? keyword (keyword ++ ' ' :: (name.text ++ rest))).bind identifier? =
      some (name.text, rest) := by
  rw [inlineKeyword?_space (isWord_of_mem_headWords member) member, if_pos rfl, dropWhile_name]
  exact identifier?_name name stops

theorem stops_space (rest : List Char) :
    ∀ c, (' ' :: rest).head? = some c → continuesIdentifier c = false := by
  rintro c ⟨⟩
  decide

section

variable (name : Name) (rest : List Char)

theorem typeAlias?_printed :
    typeAlias? ("type".toList ++ ' ' :: (name.text ++ ' ' :: '=' :: rest)) = some (name.text, rest) := by
  rw [typeAlias?, bind_identifier?_same (by decide) name (stops_space _)]
  rfl

theorem enumeration?_printed :
    enumeration? ("enum".toList ++ ' ' :: (name.text ++ ' ' :: '\x7b' :: rest)) =
      some (name.text, rest) := by
  have isWord : IsWord "enum".toList := isWord_of_mem_headWords (by decide)
  rw [enumeration?, skipInline_space isWord (by decide), if_neg (by decide),
    bind_identifier?_same (by decide) name (stops_space _)]
  rfl

theorem enumeration?_constant :
    enumeration?
        ("const".toList ++ ' ' :: ("enum".toList ++ ' ' :: (name.text ++ ' ' :: '\x7b' :: rest))) =
      some (name.text, rest) := by
  have isWord : IsWord "const".toList := isWord_of_mem_headWords (by decide)
  have isWordEnum : IsWord "enum".toList := isWord_of_mem_headWords (by decide)
  rw [enumeration?, skipInline_space isWord (by decide), if_pos rfl,
    dropWhile_word isWordEnum (by decide), bind_identifier?_same (by decide) name (stops_space _)]
  rfl

theorem constantGroup?_printed :
    constantGroup? ("const".toList ++ ' ' :: (name.text ++ ' ' :: '=' :: ' ' :: '\x7b' :: rest)) =
      some (name.text, rest) := by
  rw [constantGroup?, bind_identifier?_same (by decide) name (stops_space _)]
  rfl

/-- A constant group may have the name `enum`. -/
theorem enumeration?_constantGroup :
    enumeration? ("const".toList ++ ' ' :: (name.text ++ ' ' :: '=' :: rest)) = none := by
  have isWord : IsWord "const".toList := isWord_of_mem_headWords (by decide)
  rw [enumeration?, skipInline_space isWord (by decide), if_pos rfl, dropWhile_name,
    inlineKeyword?_space name.isWord (by decide)]
  split <;> rfl

/-- Behind `const enum` no equals sign stands. -/
theorem constantGroup?_enumeration :
    constantGroup? ("const".toList ++ ' ' :: ("enum".toList ++ ' ' :: (name.text ++ rest))) = none := by
  have isWord : IsWord "const".toList := isWord_of_mem_headWords (by decide)
  have isWordEnum : IsWord "enum".toList := isWord_of_mem_headWords (by decide)
  have named : identifier? ("enum".toList ++ ' ' :: (name.text ++ rest)) =
      some ("enum".toList, ' ' :: (name.text ++ rest)) :=
    identifier?_word (by decide) (stops_space _)
  obtain ⟨c, tail, isCons⟩ := List.exists_cons_of_ne_nil name.ne_nil
  have inside := name.isWord c (by rw [isCons]; exact List.mem_cons_self)
  have noBlank := isBlank_of_continuesIdentifier inside
  have stripped : stripStart (' ' :: (name.text ++ rest)) = c :: (tail ++ rest) := by
    rw [isCons, stripStart, List.dropWhile_cons_of_pos (by decide), List.cons_append,
      List.dropWhile_cons_of_neg (by simp [noBlank])]
  have noColon : c ≠ ':' := by
    rintro rfl
    exact absurd inside (by decide)
  have noEquals : c ≠ '=' := by
    rintro rfl
    exact absurd inside (by decide)
  rw [constantGroup?, inlineKeyword?_space isWord (by decide), if_pos rfl,
    dropWhile_word isWordEnum (by decide), Option.bind_some, named]
  simp [stripped, behindAnnotation, noColon, behind?, noEquals]

end

section

variable (declaration : Printed.Declaration) (rest : List Char)

theorem naming_append :
    declaration.naming ++ rest =
      (if declaration.shape.isConstant then "const".toList ++ [' '] else []) ++
        (keyword declaration.shape.kind ++
          ' ' :: (declaration.name.text ++ (sign declaration.shape.kind ++ rest))) := by
  simp only [Declaration.naming, List.append_assoc, List.cons_append]

theorem behindModifiers_head :
    behindModifiers (declaration.head ++ rest) = declaration.naming ++ rest := by
  have opens : ∃ word ∈ ["interface".toList, "type".toList, "enum".toList, "const".toList], ∃ tail,
      declaration.naming ++ rest = word ++ ' ' :: tail := by
    rw [naming_append]
    cases declaration.shape.isConstant with
    | true => exact ⟨"const".toList, by decide, _, List.append_assoc ..⟩
    | false => exact ⟨keyword declaration.shape.kind, by cases declaration.shape.kind <;> decide, _, rfl⟩
  obtain ⟨word, member, tail, isText⟩ := opens
  have others : ∀ word ∈ ["interface".toList, "type".toList, "enum".toList, "const".toList],
      word ∈ headWords ∧ word ≠ [] ∧ "export".toList ≠ word ∧ "declare".toList ≠ word := by decide
  obtain ⟨isHead, something, noExport, noDeclare⟩ := others word member
  rw [Declaration.head, List.append_assoc, isText]
  exact behindModifiers_printed declaration (isWord_of_mem_headWords isHead) something noExport
    noDeclare

theorem record?_naming (stops : declaration.shape.kind = .record →
      ∀ c, rest.head? = some c → continuesIdentifier c = false) :
    record? (declaration.naming ++ rest) =
      if .record = declaration.shape.kind then some (declaration.name.text, rest) else none := by
  have other : ∀ word ∈ ["type".toList, "enum".toList, "const".toList], ∀ rest,
      record? (word ++ ' ' :: rest) = none := by
    intro word member rest
    have isHead : ∀ word ∈ ["type".toList, "enum".toList, "const".toList],
        word ∈ headWords ∧ "interface".toList ≠ word := by decide
    exact bind_identifier?_other (by decide) (isWord_of_mem_headWords (isHead word member).1)
      (isHead word member).2 rest
  rw [naming_append]
  cases shape : declaration.shape with
  | record =>
    rw [shape] at stops
    exact bind_identifier?_same (by decide) declaration.name (stops rfl)
  | typeAlias => exact other "type".toList (by decide) _
  | enumeration isConstant =>
    cases isConstant with
    | true => exact other "const".toList (by decide) _
    | false => exact other "enum".toList (by decide) _
  | constantGroup => exact other "const".toList (by decide) _

theorem typeAlias?_naming :
    typeAlias? (declaration.naming ++ rest) =
      if .typeAlias = declaration.shape.kind then some (declaration.name.text, rest) else none := by
  have other : ∀ word ∈ ["interface".toList, "enum".toList, "const".toList], ∀ rest,
      typeAlias? (word ++ ' ' :: rest) = none := by
    intro word member rest
    have isHead : ∀ word ∈ ["interface".toList, "enum".toList, "const".toList],
        word ∈ headWords ∧ "type".toList ≠ word := by decide
    rw [typeAlias?, bind_identifier?_other (by decide) (isWord_of_mem_headWords (isHead word member).1)
      (isHead word member).2]
    rfl
  rw [naming_append]
  cases declaration.shape with
  | record => exact other "interface".toList (by decide) _
  | typeAlias => exact typeAlias?_printed declaration.name rest
  | enumeration isConstant =>
    cases isConstant with
    | true => exact other "const".toList (by decide) _
    | false => exact other "enum".toList (by decide) _
  | constantGroup => exact other "const".toList (by decide) _

theorem enumeration?_naming :
    enumeration? (declaration.naming ++ rest) =
      if .enumeration = declaration.shape.kind then some (declaration.name.text, rest) else none := by
  have other : ∀ word ∈ ["interface".toList, "type".toList], ∀ rest,
      enumeration? (word ++ ' ' :: rest) = none := by
    intro word member rest
    have isHead : ∀ word ∈ ["interface".toList, "type".toList],
        word ∈ headWords ∧ "const".toList ≠ word ∧ "enum".toList ≠ word := by decide
    have isWord := isWord_of_mem_headWords (isHead word member).1
    rw [enumeration?, skipInline_space isWord (by decide), if_neg (isHead word member).2.1,
      bind_identifier?_other (by decide) isWord (isHead word member).2.2]
    rfl
  rw [naming_append]
  cases declaration.shape with
  | record => exact other "interface".toList (by decide) _
  | typeAlias => exact other "type".toList (by decide) _
  | enumeration isConstant =>
    cases isConstant with
    | true => exact enumeration?_constant declaration.name rest
    | false => exact enumeration?_printed declaration.name rest
  | constantGroup => exact enumeration?_constantGroup declaration.name _

theorem constantGroup?_naming :
    constantGroup? (declaration.naming ++ rest) =
      if .constantGroup = declaration.shape.kind then some (declaration.name.text, rest) else none := by
  have other : ∀ word ∈ ["interface".toList, "type".toList, "enum".toList], ∀ rest,
      constantGroup? (word ++ ' ' :: rest) = none := by
    intro word member rest
    have isHead : ∀ word ∈ ["interface".toList, "type".toList, "enum".toList],
        word ∈ headWords ∧ "const".toList ≠ word := by decide
    rw [constantGroup?, bind_identifier?_other (by decide)
      (isWord_of_mem_headWords (isHead word member).1) (isHead word member).2]
    rfl
  rw [naming_append]
  cases declaration.shape with
  | record => exact other "interface".toList (by decide) _
  | typeAlias => exact other "type".toList (by decide) _
  | enumeration isConstant =>
    cases isConstant with
    | true => exact constantGroup?_enumeration declaration.name _
    | false => exact other "enum".toList (by decide) _
  | constantGroup => exact constantGroup?_printed declaration.name rest

/-- A printed head is read as one of its own kind and of no other. -/
theorem read?_printed (stops : declaration.shape.kind = .record →
      ∀ c, rest.head? = some c → continuesIdentifier c = false) (kind : DeclarationKind) :
    read? kind (declaration.head ++ rest) =
      if kind = declaration.shape.kind then some (declaration.name.text, rest) else none := by
  unfold read?
  rw [behindModifiers_head]
  cases kind with
  | record => exact record?_naming declaration rest stops
  | typeAlias => exact typeAlias?_naming declaration rest
  | enumeration => exact enumeration?_naming declaration rest
  | constantGroup => exact constantGroup?_naming declaration rest

end

end Concord.Head
