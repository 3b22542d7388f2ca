/-
What a value is written as. The entries of a mapping are written in the order of their keys, so the text
stands for the value with all its entries in order. Its characters are printable ones of ASCII and line
feeds, whatever the texts in the value hold.
-/

import Concord.Proofs.Text.Collapse
import Concord.Value.Json.Token
import Concord.Value.Json.Writer

namespace Concord

/-! ### Values in order -/

namespace Value

mutual

/-- The value with the entries of all its mappings in the order of their keys. -/
def ordered : Value → Value
  | .scalar value => .scalar value
  | .list items => .list (orderedItems items)
  | .mapping entries =>
    .mapping ((orderedEntries entries).mergeSort fun first second =>
      Json.keyText first.1 ≤ Json.keyText second.1)

/-- The items of a list, each in order. -/
def orderedItems : List Value → List Value
  | [] => []
  | item :: items => ordered item :: orderedItems items

/-- The entries of a mapping, each with its value in order. -/
def orderedEntries : List (Scalar × Value) → List (Scalar × Value)
  | [] => []
  | (key, value) :: entries => (key, ordered value) :: orderedEntries entries

end

mutual

/-- No number of the value has more digits than a reader takes. -/
def isReadable : Value → Bool
  | .number (.integer value) => (Decimal.digitsOf value.natAbs).length ≤ Json.greatestDigits
  | .scalar _ => true
  | .list items => areReadable items
  | .mapping entries => areReadableEntries entries

/-- The items of a list are readable. -/
def areReadable : List Value → Bool
  | [] => true
  | item :: items => isReadable item && areReadable items

/-- The values of entries are readable. -/
def areReadableEntries : List (Scalar × Value) → Bool
  | [] => true
  | (_, value) :: entries => isReadable value && areReadableEntries entries

end

theorem orderedItems_eq (items : List Value) : orderedItems items = items.map ordered := by
  induction items with
  | nil => rfl
  | cons item items inductionHypothesis => rw [orderedItems, inductionHypothesis, List.map_cons]

theorem orderedEntries_eq (entries : List (Scalar × Value)) :
    orderedEntries entries = entries.map fun entry => (entry.1, entry.2.ordered) := by
  induction entries with
  | nil => rfl
  | cons entry entries inductionHypothesis =>
    rw [orderedEntries, inductionHypothesis, List.map_cons]

theorem areReadable_eq (items : List Value) : areReadable items = items.all isReadable := by
  induction items with
  | nil => rfl
  | cons item items inductionHypothesis => rw [areReadable, inductionHypothesis, List.all_cons]

theorem areReadableEntries_eq (entries : List (Scalar × Value)) :
    areReadableEntries entries = entries.all (·.2.isReadable) := by
  induction entries with
  | nil => rfl
  | cons entry entries inductionHypothesis =>
    rw [areReadableEntries, inductionHypothesis, List.all_cons]

/-- A value as it comes from a program of its own: scalars are plain, and a mapping has each text as a
key at most once. -/
inductive IsPlain : Value → Prop
  | null : IsPlain .null
  | boolean (value : Bool) : IsPlain (.boolean value)
  | natural (value : Nat) : IsPlain (.natural value)
  | text (value : String) : IsPlain (.text value)
  | list {items : List Value} (plain : ∀ item ∈ items, IsPlain item) : IsPlain (.list items)
  | mapping {entries : List (Scalar × Value)} (named : ∀ entry ∈ entries, ∃ name, entry.1 = .text name)
    (distinct : (entries.map (·.1)).Nodup) (plain : ∀ entry ∈ entries, IsPlain entry.2) :
    IsPlain (.mapping entries)

end Value

namespace Json

open Text

/-! ### Items and entries -/

theorem writtenItems_eq (isIndented : Bool) (depth : Nat) (items : List Value) :
    writtenItems isIndented depth items = items.map (written isIndented depth) := by
  induction items with
  | nil => rfl
  | cons item items inductionHypothesis =>
    rw [writtenItems, inductionHypothesis, List.map_cons]

/-- An entry as it is written. -/
def writtenEntry (isIndented : Bool) (depth : Nat) (entry : Scalar × Value) : List Char :=
  textLiteral (keyText entry.1) ++ [':', ' '] ++ written isIndented depth entry.2

theorem writtenEntries_eq (isIndented : Bool) (depth : Nat) (entries : List (Scalar × Value)) :
    writtenEntries isIndented depth entries =
      entries.map fun entry => (keyText entry.1, written isIndented depth entry.2) := by
  induction entries with
  | nil => rfl
  | cons entry entries inductionHypothesis =>
    rw [writtenEntries, inductionHypothesis, List.map_cons]

/-- Entries in the order of their keys. -/
def inOrder (entries : List (Scalar × Value)) : List (Scalar × Value) :=
  entries.mergeSort fun first second => keyText first.1 ≤ keyText second.1

theorem inOrder_perm (entries : List (Scalar × Value)) : (inOrder entries).Perm entries :=
  List.mergeSort_perm _ _

theorem sortedEntries_eq (isIndented : Bool) (depth : Nat) (entries : List (Scalar × Value)) :
    sortedEntries (writtenEntries isIndented depth entries) =
      (inOrder entries).map (writtenEntry isIndented depth) := by
  rw [writtenEntries_eq, sortedEntries, inOrder, ← List.map_mergeSort (r := fun first second =>
    decide (keyText first.1 ≤ keyText second.1)) fun _ _ _ _ => rfl, List.map_map]
  rfl

theorem ordered_mapping (entries : List (Scalar × Value)) :
    (Value.mapping entries).ordered =
      .mapping ((inOrder entries).map fun entry => (entry.1, entry.2.ordered)) := by
  rw [Value.ordered, Value.orderedEntries_eq]
  have sorted := List.map_mergeSort (r := fun first second : Scalar × Value =>
    decide (keyText first.1 ≤ keyText second.1)) (s := fun first second : Scalar × Value =>
    decide (keyText first.1 ≤ keyText second.1)) (f := fun entry => (entry.1, entry.2.ordered))
    (l := entries) fun _ _ _ _ => rfl
  exact congrArg Value.mapping sorted.symm

/-! ### Characters of a written value -/

/-- A character of the printable part of ASCII, or a line feed. -/
def IsPrinted (c : Char) : Prop :=
  c = '\n' ∨ 32 ≤ c.toNat ∧ c.toNat < 127

instance (c : Char) : Decidable (IsPrinted c) :=
  inferInstanceAs (Decidable (_ ∨ _))

theorem isPrinted_hexDigits (width value : Nat) : ∀ c ∈ hexDigits width value, IsPrinted c := by
  have digit : ∀ value < 16, IsPrinted (hexDigit value) := by decide
  induction width generalizing value with
  | zero => exact fun _ absent => absurd absent List.not_mem_nil
  | succ width inductionHypothesis =>
    rw [hexDigits]
    exact List.forall_mem_append.2 ⟨inductionHypothesis _,
      List.forall_mem_singleton.2 (digit _ (Nat.mod_lt _ (by decide)))⟩

theorem isPrinted_unitEscape (unit : Nat) : ∀ c ∈ unitEscape unit, IsPrinted c :=
  List.forall_mem_cons.2 ⟨by decide, List.forall_mem_cons.2 ⟨by decide, isPrinted_hexDigits 4 unit⟩⟩

theorem isPrinted_escaped (character : Char) : ∀ c ∈ escaped character, IsPrinted c := by
  unfold escaped
  repeat' split
  · decide
  · decide
  · decide
  · decide
  · decide
  · decide
  · decide
  · next isPrintable => exact List.forall_mem_singleton.2 (.inr isPrintable)
  · exact isPrinted_unitEscape _
  · exact List.forall_mem_append.2 ⟨isPrinted_unitEscape _, isPrinted_unitEscape _⟩

theorem isPrinted_textLiteral (text : String) : ∀ c ∈ textLiteral text, IsPrinted c := by
  refine List.forall_mem_cons.2 ⟨by decide, List.forall_mem_append.2 ⟨fun c member => ?_, by decide⟩⟩
  obtain ⟨character, -, inside⟩ := List.mem_flatMap.1 member
  exact isPrinted_escaped character c inside

theorem isPrinted_lead (isIndented : Bool) (depth : Nat) :
    ∀ c ∈ lead isIndented depth, IsPrinted c := by
  cases isIndented with
  | false => exact fun _ absent => absurd absent List.not_mem_nil
  | true =>
    refine List.forall_mem_cons.2 ⟨by decide, fun c member => ?_⟩
    rw [List.eq_of_mem_replicate member]
    decide

theorem isPrinted_separator (isIndented : Bool) (depth : Nat) :
    ∀ c ∈ separator isIndented depth, IsPrinted c := by
  cases isIndented with
  | false => exact (by decide : ∀ c ∈ [',', ' '], IsPrinted c)
  | true => exact List.forall_mem_cons.2 ⟨by decide, isPrinted_lead true depth⟩

theorem isPrinted_bracketed {isIndented : Bool} {depth : Nat} {opening closing : Char}
    (isOpening : IsPrinted opening) (isClosing : IsPrinted closing) {items : List (List Char)}
    (inside : ∀ item ∈ items, ∀ c ∈ item, IsPrinted c) :
    ∀ c ∈ bracketed isIndented depth opening closing items, IsPrinted c := by
  unfold bracketed
  split
  · exact List.forall_mem_cons.2 ⟨isOpening, List.forall_mem_singleton.2 isClosing⟩
  · simp only [List.cons_append, List.forall_mem_cons, List.forall_mem_append, List.not_mem_nil]
    exact ⟨isOpening, ⟨⟨isPrinted_lead _ _,
      forall_mem_intercalate (isPrinted_separator _ _) inside⟩, isPrinted_lead _ _⟩, isClosing,
      fun _ absent => absent.elim⟩

theorem isPrinted_digits (value : Nat) :
    ∀ c ∈ scalarText (.number (.integer value)), IsPrinted c := by
  intro c member
  simp only [scalarText, integerText, String.toList_ofList] at member
  rw [if_neg (by omega), List.nil_append] at member
  have isDigit := Nat.isDigit_of_mem_toDigits (by decide) (by decide) member
  simp only [Char.isDigit, Bool.and_eq_true, decide_eq_true_eq, UInt32.le_iff_toNat_le] at isDigit
  have bounds : 48 ≤ c.toNat ∧ c.toNat ≤ 57 := isDigit
  exact .inr ⟨by omega, by omega⟩

/-- A plain value is written with printable characters and line feeds. -/
theorem isPrinted_written {value : Value} (plain : value.IsPlain) (isIndented : Bool) (depth : Nat) :
    ∀ c ∈ written isIndented depth value, IsPrinted c := by
  induction plain generalizing depth with
  | null => exact (by decide : ∀ c ∈ "null".toList, IsPrinted c)
  | boolean value =>
    cases value with
    | true => exact (by decide : ∀ c ∈ "true".toList, IsPrinted c)
    | false => exact (by decide : ∀ c ∈ "false".toList, IsPrinted c)
  | natural value => exact isPrinted_digits value
  | text value => exact isPrinted_textLiteral value
  | list _ arePrinted =>
    rw [written, writtenItems_eq]
    exact isPrinted_bracketed (by decide) (by decide)
      (List.forall_mem_map.2 fun item member => arePrinted item member (depth + 1))
  | mapping named _ _ arePrinted =>
    rw [written, sortedEntries_eq]
    refine isPrinted_bracketed (by decide) (by decide) (List.forall_mem_map.2 fun entry member => ?_)
    have inside := (inOrder_perm _).mem_iff.1 member
    exact List.forall_mem_append.2 ⟨List.forall_mem_append.2 ⟨isPrinted_textLiteral _, by decide⟩,
      arePrinted entry inside (depth + 1)⟩

end Json

end Concord
