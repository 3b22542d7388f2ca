/-
Words and the characters between them. A blank is no word character, so a keyword is read off a text
only where the first word of the text is that keyword. A text that equals its own collapse has no blank
at its ends, and blanks around it leave no trace in its collapse.
-/

import Concord.Proofs.Text.Lines
import Concord.Proofs.Text.Runs
import Concord.Text.Identifier

namespace Concord.Text

/-! ### Classes of characters -/

/-- The codes of the blanks. -/
def blankCodes : List Nat :=
  [9, 10, 11, 12, 13, 0x1c, 0x1d, 0x1e, 0x1f, 0x20, 0x85, 0xa0, 0x1680, 0x2000, 0x2001, 0x2002,
    0x2003, 0x2004, 0x2005, 0x2006, 0x2007, 0x2008, 0x2009, 0x200a, 0x2028, 0x2029, 0x202f, 0x205f,
    0x3000]

theorem mem_blankCodes {c : Char} (blank : isBlank c = true) : c.toNat ∈ blankCodes := by
  simp only [isBlank, Bool.or_eq_true, Bool.and_eq_true, decide_eq_true_eq, beq_iff_eq] at blank
  simp only [blankCodes, List.mem_cons, List.not_mem_nil, or_false]
  omega

theorem continuesIdentifier_of_isBlank {c : Char} (blank : isBlank c = true) :
    continuesIdentifier c = false := by
  have none : ∀ code ∈ blankCodes, continuesIdentifier (Char.ofNat code) = false := by decide +kernel
  have here := none c.toNat (mem_blankCodes blank)
  rwa [Char.ofNat_toNat] at here

theorem isBlank_of_continuesIdentifier {c : Char} (inside : continuesIdentifier c = true) :
    isBlank c = false := by
  cases blank : isBlank c with
  | false => rfl
  | true => exact absurd (inside.symm.trans (continuesIdentifier_of_isBlank blank)) (by simp)

theorem isBlank_of_isSpaceOrTab {c : Char} (space : isSpaceOrTab c = true) : isBlank c = true := by
  rcases Bool.or_eq_true_iff.1 space with same | same <;> rw [beq_iff_eq.1 same] <;> decide

theorem continuesIdentifier_of_opensIdentifier {c : Char} (opens : opensIdentifier c = true) :
    continuesIdentifier c = true := by
  rw [opensIdentifier, Bool.or_eq_true, Bool.or_eq_true] at opens
  rcases opens with (letter | same) | same
  · have ascii : c.toNat < 128 := by
      rcases Bool.or_eq_true_iff.1 letter with upper | lower
      · have bound := UInt32.le_iff_toNat_le.1 (of_decide_eq_true upper).2
        exact Nat.lt_of_le_of_lt bound (by decide)
      · have bound := UInt32.le_iff_toNat_le.1 (of_decide_eq_true (Bool.and_eq_true_iff.1 lower).2)
        exact Nat.lt_of_le_of_lt bound (by decide)
    rw [continuesIdentifier, isWordCharacter_of_isAlphanum ascii (by rw [Char.isAlphanum, letter]; rfl)]
    rfl
  · rw [beq_iff_eq.1 same]
    decide
  · rw [beq_iff_eq.1 same]
    decide

theorem not_opensIdentifier {c : Char} (stops : continuesIdentifier c = false) :
    opensIdentifier c = false := by
  cases opens : opensIdentifier c with
  | false => rfl
  | true =>
    exact absurd (stops.symm.trans (continuesIdentifier_of_opensIdentifier opens)) Bool.false_ne_true

/-! ### The first word of a text -/

/-- Every character may stand inside an identifier. -/
def IsWord (text : List Char) : Prop :=
  ∀ c ∈ text, continuesIdentifier c = true

instance (text : List Char) : Decidable (IsWord text) :=
  decidableForallMem text fun c => continuesIdentifier c = true

theorem isWord_of_isIdentifier {name : List Char} (named : isIdentifier name = true) :
    IsWord name := by
  cases name with
  | nil => exact fun _ absent => absurd absent List.not_mem_nil
  | cons c name =>
    rw [isIdentifier, Bool.and_eq_true, List.all_eq_true] at named
    intro other member
    rcases List.mem_cons.1 member with rfl | later
    · exact continuesIdentifier_of_opensIdentifier named.1
    · exact named.2 other later

variable {keyword word : List Char} {c : Char} {rest : List Char}

/-- Behind the opening of a word, either the word is at its end or it goes on. -/
theorem after?_word (isKeyword : IsWord keyword) (isWord : IsWord word)
    (stops : continuesIdentifier c = false) {tail : List Char}
    (found : after? keyword (word ++ c :: rest) = some tail) :
    keyword = word ∧ tail = c :: rest ∨
      ∃ d more, tail = d :: more ∧ continuesIdentifier d = true := by
  induction keyword generalizing word with
  | nil =>
    rw [after?_nil, Option.some.injEq] at found
    cases word with
    | nil => exact .inl ⟨rfl, found.symm⟩
    | cons w word => exact .inr ⟨w, _, found.symm, isWord w List.mem_cons_self⟩
  | cons k keyword inductionHypothesis =>
    cases word with
    | nil =>
      rw [List.nil_append, after?] at found
      have different : k ≠ c := by
        rintro rfl
        rw [isKeyword k List.mem_cons_self] at stops
        exact absurd stops (by simp)
      rw [if_neg different] at found
      exact absurd found (by simp)
    | cons w word =>
      rw [List.cons_append, after?] at found
      split at found
      · rename_i same
        have rest := inductionHypothesis (fun c member => isKeyword c (List.mem_cons_of_mem k member))
          (fun c member => isWord c (List.mem_cons_of_mem w member)) found
        rcases rest with ⟨rfl, rfl⟩ | more
        · exact .inl ⟨by rw [same], rfl⟩
        · exact .inr more
      · exact absurd found (by simp)

theorem inlineKeyword?_word (isKeyword : IsWord keyword) (isWord : IsWord word)
    (stops : continuesIdentifier c = false) :
    inlineKeyword? keyword (word ++ c :: rest) =
      if keyword = word ∧ isSpaceOrTab c = true then some (rest.dropWhile isSpaceOrTab) else none := by
  by_cases same : keyword = word
  · subst same
    simp only [inlineKeyword?, after?_append, true_and]
  · rw [if_neg fun both => same both.1, inlineKeyword?]
    split
    · rename_i d more found
      rcases after?_word isKeyword isWord stops found with ⟨equal, -⟩ | ⟨e, others, isTail, goesOn⟩
      · exact absurd equal same
      · obtain ⟨rfl, rfl⟩ := List.cons_eq_cons.1 isTail
        refine if_neg fun space => ?_
        rw [continuesIdentifier_of_isBlank (isBlank_of_isSpaceOrTab space)] at goesOn
        exact absurd goesOn (by simp)
    · rfl

theorem spacedKeyword?_word (isKeyword : IsWord keyword) (isWord : IsWord word)
    (stops : continuesIdentifier c = false) :
    spacedKeyword? keyword (word ++ c :: rest) =
      if keyword = word ∧ isBlank c = true then some (stripStart rest) else none := by
  by_cases same : keyword = word
  · subst same
    simp only [spacedKeyword?, after?_append, true_and]
  · rw [if_neg fun both => same both.1, spacedKeyword?]
    split
    · rename_i d more found
      rcases after?_word isKeyword isWord stops found with ⟨equal, -⟩ | ⟨e, others, isTail, goesOn⟩
      · exact absurd equal same
      · obtain ⟨rfl, rfl⟩ := List.cons_eq_cons.1 isTail
        refine if_neg fun blank => ?_
        rw [continuesIdentifier_of_isBlank blank] at goesOn
        exact absurd goesOn (by simp)
    · rfl

/-- Behind a keyword and a space stands what follows. -/
theorem spacedKeyword?_space (isKeyword : IsWord keyword)
    (noBlank : ∀ c, rest.head? = some c → isBlank c = false) :
    spacedKeyword? keyword (keyword ++ ' ' :: rest) = some rest := by
  rw [spacedKeyword?_word isKeyword isKeyword (by decide), if_pos ⟨rfl, by decide⟩,
    stripStart_of_not_isBlank noBlank]

theorem spacedKeyword?_of_isWord (isWord : IsWord word) :
    spacedKeyword? keyword word = none := by
  rw [spacedKeyword?]
  split
  · next c rest found =>
    have inside : c ∈ word := by
      rw [eq_append_of_after? found]
      exact List.mem_append_right keyword List.mem_cons_self
    rw [isBlank_of_continuesIdentifier (isWord c inside)]
    rfl
  · rfl

theorem identifier?_word (named : isIdentifier word = true)
    (stops : ∀ c, rest.head? = some c → continuesIdentifier c = false) :
    identifier? (word ++ rest) = some (word, rest) := by
  cases word with
  | nil => exact absurd named (by simp [isIdentifier])
  | cons w word =>
    rw [isIdentifier, Bool.and_eq_true, List.all_eq_true] at named
    rw [List.cons_append, identifier?, if_pos named.1, takeWhile_append_of_stops named.2 stops,
      dropWhile_append_of_stops named.2 stops]

theorem identifier?_eq_none {text : List Char}
    (stops : ∀ c, text.head? = some c → opensIdentifier c = false) : identifier? text = none := by
  cases text with
  | nil => rfl
  | cons c rest =>
    rw [identifier?, stops c rfl]
    rfl

end Concord.Text
