/-
The text of a value is canonical and says all about it: two values are written alike exactly when the one
is the other with the entries of its mappings in another order. The first character of a text tells what
kind of value it is, and where the value ends is told by the text alone, so a text that two values open
with is cut at the same place and piece by piece.
-/

import Concord.Proofs.Value.Json.Reader
import Mathlib.Data.List.Nodup
import Mathlib.Data.List.Perm.Basic
import Mathlib.Data.List.Sort
import Mathlib.Data.String.Basic

namespace Concord

/-! ### Values up to the order of their entries -/

namespace Value

/-- A value of the format itself: null, a truth value, an integer of any size, a text, a list, or a mapping
that has each text as a key at most once. -/
inductive IsData : Value → Prop
  | null : IsData .null
  | boolean (value : Bool) : IsData (.boolean value)
  | integer (value : Int) : IsData (.integer value)
  | text (value : String) : IsData (.text value)
  | list {items : List Value} (areData : ∀ item ∈ items, IsData item) : IsData (.list items)
  | mapping {entries : List (Scalar × Value)} (named : ∀ entry ∈ entries, ∃ name, entry.1 = .text name)
    (distinct : (entries.map (·.1)).Nodup) (areData : ∀ entry ∈ entries, IsData entry.2) :
    IsData (.mapping entries)

/-- The values are equal up to the order of the entries of mappings, at any depth. -/
inductive IsReordering : Value → Value → Prop
  | scalar (value : Scalar) : IsReordering (.scalar value) (.scalar value)
  | list {items others : List Value} (same : List.Forall₂ IsReordering items others) :
    IsReordering (.list items) (.list others)
  | mapping {entries permuted others : List (Scalar × Value)}
    (keys : entries.map (·.1) = permuted.map (·.1))
    (values : List.Forall₂ IsReordering (entries.map (·.2)) (permuted.map (·.2)))
    (reordered : permuted.Perm others) : IsReordering (.mapping entries) (.mapping others)

/-- The character that the text of a value opens with, one for all integers and one for both truth
values. -/
def mark : Value → Char
  | .null => 'n'
  | .boolean _ => 't'
  | .number _ => '0'
  | .scalar _ => '\x22'
  | .list _ => '['
  | .mapping _ => '\x7b'

end Value

namespace Json

variable {isIndented : Bool} {depth : Nat} {rest others : List Char}

/-! ### Scalars cut off -/

theorem textLiteral_append_inj {first second : String}
    (same : textLiteral first ++ rest = textLiteral second ++ others) :
    first = second ∧ rest = others := by
  obtain ⟨behind, parts, read⟩ := firstKind_textLiteral first rest
  obtain ⟨behindToo, partsToo, readToo⟩ := firstKind_textLiteral second others
  rw [parts, partsToo] at same
  obtain rfl := (List.cons.inj same).2
  obtain ⟨text, left⟩ := Prod.mk.inj (read.symm.trans readToo)
  exact ⟨TokenKind.text.inj text, left⟩

theorem digitsOf_append_inj {first second : Nat} (delimits : Delimits rest)
    (delimitsToo : Delimits others)
    (same : Decimal.digitsOf first ++ rest = Decimal.digitsOf second ++ others) :
    first = second ∧ rest = others := by
  have runs := congrArg digitRun same
  rw [digitRun_append (fun _ => isDigit_of_mem_digitsOf) delimits,
    digitRun_append (fun _ => isDigit_of_mem_digitsOf) delimitsToo] at runs
  obtain ⟨digits, left⟩ := Prod.mk.inj runs
  have numbers := congrArg digitsNumber digits
  rw [digitsNumber_digitsOf, digitsNumber_digitsOf] at numbers
  exact ⟨numbers, left⟩

/-- Digits are not taken for a sign. -/
theorem sign_ne_digits (value : Nat) (text : List Char) :
    '-' :: text ≠ Decimal.digitsOf value ++ others := by
  obtain ⟨c, digits, opening, isDigit⟩ := exists_digit value
  rw [opening, List.cons_append]
  exact fun same => ne_of_isDigit isDigit rfl (List.cons.inj same).1.symm

theorem integerText_append_inj {first second : Int} (delimits : Delimits rest)
    (delimitsToo : Delimits others)
    (same : (integerText first).toList ++ rest = (integerText second).toList ++ others) :
    first = second ∧ rest = others := by
  rw [integerText, integerText, String.toList_ofList, String.toList_ofList] at same
  by_cases isNegative : first < 0 <;> by_cases isNegativeToo : second < 0
  · rw [if_pos isNegative, if_pos isNegativeToo] at same
    obtain ⟨size, left⟩ := digitsOf_append_inj delimits delimitsToo (List.cons.inj same).2
    exact ⟨by omega, left⟩
  · rw [if_pos isNegative, if_neg isNegativeToo] at same
    exact absurd same (sign_ne_digits _ _)
  · rw [if_neg isNegative, if_pos isNegativeToo] at same
    exact absurd same.symm (sign_ne_digits _ _)
  · rw [if_neg isNegative, if_neg isNegativeToo] at same
    obtain ⟨size, left⟩ := digitsOf_append_inj delimits delimitsToo same
    exact ⟨by omega, left⟩

/-! ### First characters -/

/-- What a first character tells: all numbers open alike, and both truth values. -/
def markOf (c : Char) : Char :=
  if c = '-' ∨ c.isDigit = true then '0' else if c = 'f' then 't' else c

theorem exists_opening {value : Value} (isData : value.IsData) (isIndented : Bool) (depth : Nat) :
    ∃ c others, written isIndented depth value = c :: others ∧ markOf c = value.mark := by
  have bracketed_opens (opening closing : Char) (items : List (List Char)) :
      ∃ others, bracketed isIndented depth opening closing items = opening :: others := by
    unfold bracketed
    split
    · exact ⟨_, rfl⟩
    · exact ⟨_, rfl⟩
  cases isData with
  | null => exact ⟨'n', _, rfl, by decide⟩
  | boolean value =>
    cases value with
    | true => exact ⟨'t', _, rfl, by decide⟩
    | false => exact ⟨'f', _, rfl, by decide⟩
  | integer value =>
    rw [written, scalarText, integerText, String.toList_ofList]
    split
    · exact ⟨'-', _, rfl, rfl⟩
    · obtain ⟨c, digits, opening, isDigit⟩ := exists_digit value.natAbs
      exact ⟨c, digits, opening, if_pos (.inr isDigit)⟩
  | text value => exact ⟨'\x22', _, rfl, rfl⟩
  | list =>
    obtain ⟨others, opening⟩ := bracketed_opens '[' ']' _
    exact ⟨'[', others, by rw [written, opening], rfl⟩
  | mapping =>
    obtain ⟨others, opening⟩ := bracketed_opens '\x7b' '\x7d' _
    exact ⟨'\x7b', others, by rw [written, opening], rfl⟩

/-- What opens alike is of one kind. -/
theorem mark_eq {first second : Value} (isData : first.IsData) (isDataToo : second.IsData)
    (same : written isIndented depth first ++ rest = written isIndented depth second ++ others) :
    first.mark = second.mark := by
  obtain ⟨c, behind, opening, mark⟩ := exists_opening isData isIndented depth
  obtain ⟨d, behindToo, openingToo, markToo⟩ := exists_opening isDataToo isIndented depth
  rw [opening, openingToo] at same
  rw [← mark, ← markToo, (List.cons.inj same).1]

/-! ### Collections cut into their items -/

/-- A text that opens with what is printed for the one and with what is printed for the other is cut at
the same place, and they are related. -/
def AreCut {Item : Type} (print : Item → List Char) (relation : Item → Item → Prop)
    (first second : Item) : Prop :=
  ∀ ⦃rest others⦄, Delimits rest → Delimits others →
    print first ++ rest = print second ++ others → relation first second ∧ rest = others

/-- What follows the first item in a collection, up to what stands behind the closing bracket. -/
def behindFirst (isIndented : Bool) (depth : Nat) (closing : Char) (items : List (List Char))
    (rest : List Char) : List Char :=
  items.flatMap (separator isIndented (depth + 1) ++ ·) ++ (lead isIndented depth ++ closing :: rest)

theorem behindFirst_cons (closing : Char) (item : List Char) (items : List (List Char)) (rest : List Char) :
    behindFirst isIndented depth closing (item :: items) rest =
      separator isIndented (depth + 1) ++ (item ++ behindFirst isIndented depth closing items rest) := by
  rw [behindFirst, List.flatMap_cons, List.append_assoc, List.append_assoc, behindFirst]

theorem intercalate_eq_flatMap (between first : List Char) (items : List (List Char)) :
    between.intercalate (first :: items) = first ++ items.flatMap (between ++ ·) := by
  induction items generalizing first with
  | nil => rw [List.intercalate_singleton, List.flatMap_nil, List.append_nil]
  | cons item items inductionHypothesis =>
    rw [List.intercalate_cons_cons, inductionHypothesis, List.flatMap_cons, List.append_assoc,
      List.append_assoc]

theorem bracketed_cons_append (opening closing : Char) (first : List Char) (items : List (List Char)) :
    bracketed isIndented depth opening closing (first :: items) ++ rest =
      opening :: (lead isIndented (depth + 1) ++
        (first ++ behindFirst isIndented depth closing items rest)) := by
  rw [bracketed, if_neg (by simp), intercalate_eq_flatMap, behindFirst]
  simp only [List.cons_append, List.append_assoc, List.nil_append]

section Collection

variable {Item : Type} {print : Item → List Char} {relation : Item → Item → Prop} {closing : Char}
  (isClosing : closing = ']' ∨ closing = '\x7d')

include isClosing

theorem delimits_behindFirst (items : List (List Char)) (rest : List Char) :
    Delimits (behindFirst isIndented depth closing items rest) := by
  cases items with
  | nil =>
    refine delimits_lead isIndented depth (delimits_cons ?_ rest)
    rcases isClosing with rfl | rfl <;> decide
  | cons item items =>
    rw [behindFirst_cons]
    exact delimits_separator isIndented (depth + 1) _

/-- A collection goes on or ends, and the text tells which. -/
theorem behindFirst_nil_ne_cons (item : List Char) (items : List (List Char)) (rest others : List Char) :
    behindFirst isIndented depth closing [] rest ≠
      behindFirst isIndented depth closing (item :: items) others := by
  rw [behindFirst_cons, behindFirst, List.flatMap_nil, List.nil_append]
  cases isIndented with
  | false =>
    rcases isClosing with rfl | rfl <;> exact fun same => absurd (List.cons.inj same).1 (by decide)
  | true => exact fun same => absurd (List.cons.inj same).1 (by decide)

theorem items_inj {item other : Item} {items itemsToo : List Item}
    (areCut : ∀ first ∈ item :: items, ∀ second ∈ other :: itemsToo,
      AreCut print relation first second)
    (same : print item ++ behindFirst isIndented depth closing (items.map print) rest =
      print other ++ behindFirst isIndented depth closing (itemsToo.map print) others) :
    List.Forall₂ relation (item :: items) (other :: itemsToo) ∧ rest = others := by
  induction items generalizing item other itemsToo with
  | nil =>
    obtain ⟨related, left⟩ := areCut item List.mem_cons_self other List.mem_cons_self
      (delimits_behindFirst isClosing _ _) (delimits_behindFirst isClosing _ _) same
    cases itemsToo with
    | nil => exact ⟨.cons related .nil, (List.cons.inj (List.append_cancel_left left)).2⟩
    | cons => exact absurd left (behindFirst_nil_ne_cons isClosing _ _ _ _)
  | cons next items inductionHypothesis =>
    obtain ⟨related, left⟩ := areCut item List.mem_cons_self other List.mem_cons_self
      (delimits_behindFirst isClosing _ _) (delimits_behindFirst isClosing _ _) same
    cases itemsToo with
    | nil => exact absurd left.symm (behindFirst_nil_ne_cons isClosing _ _ _ _)
    | cons nextToo itemsToo =>
      rw [List.map_cons, List.map_cons, behindFirst_cons, behindFirst_cons] at left
      obtain ⟨further, ending⟩ := inductionHypothesis (fun first member second memberToo =>
        areCut first (List.mem_cons_of_mem _ member) second (List.mem_cons_of_mem _ memberToo))
        (List.append_cancel_left left)
      exact ⟨.cons related further, ending⟩

/-- A collection is empty or not, and the text tells which. -/
theorem closing_ne_lead {text : List Char} (opens : ∃ c others, text = c :: others ∧ c ≠ closing)
    (others : List Char) : closing :: rest ≠ lead isIndented depth ++ (text ++ others) := by
  obtain ⟨c, behind, rfl, other⟩ := opens
  cases isIndented with
  | false => exact fun same => other (List.cons.inj same).1.symm
  | true =>
    rcases isClosing with rfl | rfl <;> exact fun same => absurd (List.cons.inj same).1 (by decide)

/-- A collection is cut into its items. -/
theorem bracketed_inj {opening : Char} {items itemsToo : List Item}
    (opens : ∀ item ∈ items ++ itemsToo, ∃ c others, print item = c :: others ∧ c ≠ closing)
    (areCut : ∀ item ∈ items, ∀ other ∈ itemsToo, AreCut print relation item other)
    (same : bracketed isIndented depth opening closing (items.map print) ++ rest =
      bracketed isIndented depth opening closing (itemsToo.map print) ++ others) :
    List.Forall₂ relation items itemsToo ∧ rest = others := by
  cases items with
  | nil =>
    cases itemsToo with
    | nil => exact ⟨.nil, List.append_cancel_left same⟩
    | cons other itemsToo =>
      rw [List.map_cons, bracketed_cons_append] at same
      exact absurd (List.cons.inj same).2 (closing_ne_lead isClosing (opens other (by simp)) _)
  | cons item items =>
    cases itemsToo with
    | nil =>
      rw [List.map_cons, bracketed_cons_append] at same
      exact absurd (List.cons.inj same).2.symm (closing_ne_lead isClosing (opens item (by simp)) _)
    | cons other itemsToo =>
      rw [List.map_cons, List.map_cons, bracketed_cons_append, bracketed_cons_append] at same
      exact items_inj isClosing areCut (List.append_cancel_left (List.cons.inj same).2)

end Collection

/-! ### Texts tell values apart -/

theorem ne_closing_of_mark {value : Value} {c closing : Char} (mark : markOf c = value.mark)
    (isClosing : closing = ']' ∨ closing = '\x7d') : c ≠ closing := by
  rintro rfl
  have isMark : value.mark ∈ ['n', 't', '0', '\x22', '[', '\x7b'] := by
    unfold Value.mark
    split <;> decide
  rw [← mark] at isMark
  rcases isClosing with rfl | rfl <;> exact absurd isMark (by decide)

/-- Entries are cut behind their values. -/
theorem areCut_entry {relation : Value → Value → Prop} {first second : Scalar × Value}
    (named : ∃ name, first.1 = .text name) (namedToo : ∃ name, second.1 = .text name)
    (areCut : AreCut (written isIndented depth) relation first.2 second.2) :
    AreCut (writtenEntry isIndented depth)
      (fun entry other => entry.1 = other.1 ∧ relation entry.2 other.2) first second := by
  obtain ⟨key, value⟩ := first
  obtain ⟨keyToo, valueToo⟩ := second
  obtain ⟨name, rfl⟩ := named
  obtain ⟨nameToo, rfl⟩ := namedToo
  intro rest others delimits delimitsToo same
  simp only [writtenEntry, keyText, List.append_assoc] at same
  obtain ⟨rfl, behind⟩ := textLiteral_append_inj same
  obtain ⟨related, left⟩ := areCut delimits delimitsToo (List.append_cancel_left behind)
  exact ⟨⟨rfl, related⟩, left⟩

/-- Mappings whose entries in order are the same one by one are the same up to the order. -/
theorem isReordering_of_inOrder {entries entriesToo : List (Scalar × Value)}
    (same : List.Forall₂ (fun entry other => entry.1 = other.1 ∧ entry.2.IsReordering other.2)
      (inOrder entries) (inOrder entriesToo)) :
    (Value.mapping entries).IsReordering (.mapping entriesToo) := by
  obtain ⟨permuted, matched, reordered⟩ := List.perm_comp_forall₂ (inOrder_perm entries).symm same
  refine .mapping ?_ ?_ (reordered.trans (inOrder_perm entriesToo))
  · rw [← List.forall₂_eq_eq_eq, List.forall₂_map_left_iff, List.forall₂_map_right_iff]
    exact matched.imp fun _ _ same => same.1
  · rw [List.forall₂_map_left_iff, List.forall₂_map_right_iff]
    exact matched.imp fun _ _ same => same.2

/-- The text of the value tells it from every other, up to the order of entries, and tells where it
ends. -/
def IsTold (value : Value) : Prop :=
  ∀ ⦃other : Value⦄, other.IsData → ∀ isIndented depth,
    AreCut (written isIndented depth) Value.IsReordering value other

/-- Of the other values only those of the same kind matter. -/
theorem isTold_of_mark {value : Value} (isData : value.IsData)
    (told : ∀ ⦃other : Value⦄, other.IsData → value.mark = other.mark → ∀ isIndented depth,
      AreCut (written isIndented depth) Value.IsReordering value other) : IsTold value :=
  fun _ isDataToo isIndented depth _ _ delimits delimitsToo same =>
    told isDataToo (mark_eq isData isDataToo same) isIndented depth delimits delimitsToo same

theorem isTold_null : IsTold .null := by
  refine isTold_of_mark .null fun other isData marks isIndented depth rest others _ _ same => ?_
  cases isData with
  | null => exact ⟨.scalar _, List.append_cancel_left same⟩
  | _ => exact absurd marks (by simp [Value.mark])

theorem isTold_boolean (value : Bool) : IsTold (.boolean value) := by
  refine isTold_of_mark (.boolean value) fun other isData marks isIndented depth rest others _ _ same => ?_
  cases isData with
  | boolean valueToo =>
    cases value <;> cases valueToo
    · exact ⟨.scalar _, List.append_cancel_left same⟩
    · exact absurd (List.cons.inj same).1 (by decide)
    · exact absurd (List.cons.inj same).1 (by decide)
    · exact ⟨.scalar _, List.append_cancel_left same⟩
  | _ => exact absurd marks (by simp [Value.mark])

theorem isTold_integer (value : Int) : IsTold (.integer value) := by
  refine isTold_of_mark (.integer value) ?_
  intro other isData marks isIndented depth rest others delimits delimitsToo same
  cases isData with
  | integer valueToo =>
    obtain ⟨rfl, left⟩ := integerText_append_inj delimits delimitsToo same
    exact ⟨.scalar _, left⟩
  | _ => exact absurd marks (by simp [Value.mark])

theorem isTold_text (value : String) : IsTold (.text value) := by
  refine isTold_of_mark (.text value) fun other isData marks isIndented depth rest others _ _ same => ?_
  cases isData with
  | text valueToo =>
    obtain ⟨rfl, left⟩ := textLiteral_append_inj same
    exact ⟨.scalar _, left⟩
  | _ => exact absurd marks (by simp [Value.mark])

theorem isTold_list {items : List Value} (areData : ∀ item ∈ items, item.IsData)
    (areTold : ∀ item ∈ items, IsTold item) : IsTold (.list items) := by
  refine isTold_of_mark (.list areData) fun other isData marks isIndented depth rest others _ _ same => ?_
  cases isData with
  | @list itemsToo areDataToo =>
    rw [written, written, writtenItems_eq, writtenItems_eq] at same
    have opens : ∀ item ∈ items ++ itemsToo, ∃ c others,
        written isIndented (depth + 1) item = c :: others ∧ c ≠ ']' := by
      intro item member
      have isData := (List.mem_append.1 member).elim (areData item) (areDataToo item)
      obtain ⟨c, behind, opening, mark⟩ := exists_opening isData isIndented (depth + 1)
      exact ⟨c, behind, opening, ne_closing_of_mark mark (.inl rfl)⟩
    obtain ⟨related, left⟩ := bracketed_inj (.inl rfl) opens (fun item member other memberToo =>
      areTold item member (areDataToo other memberToo) isIndented (depth + 1)) same
    exact ⟨.list related, left⟩
  | _ => exact absurd marks (by simp [Value.mark])

theorem isTold_mapping {entries : List (Scalar × Value)}
    (isData : (Value.mapping entries).IsData)
    (named : ∀ entry ∈ entries, ∃ name, entry.1 = .text name)
    (areTold : ∀ entry ∈ entries, IsTold entry.2) : IsTold (.mapping entries) := by
  refine isTold_of_mark isData fun other isDataToo marks isIndented depth rest others _ _ same => ?_
  cases isDataToo with
  | @mapping entriesToo namedToo _ areDataToo =>
    rw [written, written, sortedEntries_eq, sortedEntries_eq] at same
    have areCut : ∀ entry ∈ inOrder entries, ∀ other ∈ inOrder entriesToo,
        AreCut (writtenEntry isIndented (depth + 1))
          (fun entry other => entry.1 = other.1 ∧ entry.2.IsReordering other.2) entry other := by
      intro entry member other memberToo
      have inside := (inOrder_perm _).mem_iff.1 member
      have insideToo := (inOrder_perm _).mem_iff.1 memberToo
      exact areCut_entry (named entry inside) (namedToo other insideToo)
        (areTold entry inside (areDataToo other insideToo) isIndented (depth + 1))
    obtain ⟨related, left⟩ :=
      bracketed_inj (.inr rfl) (fun entry _ => ⟨'\x22', _, rfl, by decide⟩) areCut same
    exact ⟨isReordering_of_inOrder related, left⟩
  | _ => exact absurd marks (by simp [Value.mark])

theorem isTold_of_isData {value : Value} (isData : value.IsData) : IsTold value := by
  induction isData with
  | null => exact isTold_null
  | boolean value => exact isTold_boolean value
  | integer value => exact isTold_integer value
  | text value => exact isTold_text value
  | list areData areTold => exact isTold_list areData areTold
  | mapping named distinct areData areTold =>
    exact isTold_mapping (.mapping named distinct areData) named areTold

/-! ### Values of one text -/

/-- Entries with keys of their own are written in one order, whatever order they come in. -/
theorem sortedEntries_eq_of_perm {entries others : List (String × List Char)}
    (reordered : entries.Perm others) (distinct : (entries.map (·.1)).Nodup) :
    sortedEntries entries = sortedEntries others := by
  have inOrder (entries : List (String × List Char)) :
      (entries.mergeSort fun first second => first.1 ≤ second.1).Pairwise
        fun first second => first.1 ≤ second.1 :=
    List.pairwise_mergeSort' (Order.Preimage Prod.fst (· ≤ ·)) entries
  refine congrArg (List.map _) (List.Perm.eq_of_pairwise ?_ (inOrder entries) (inOrder others) ?_)
  · intro first second member memberToo before behind
    have inside := (List.mergeSort_perm _ _).mem_iff.1 member
    have insideToo := reordered.mem_iff.2 ((List.mergeSort_perm _ _).mem_iff.1 memberToo)
    exact List.inj_on_of_nodup_map distinct inside insideToo (String.le_antisymm before behind)
  · exact (List.mergeSort_perm _ _).trans (reordered.trans (List.mergeSort_perm _ _).symm)

/-- Whatever is the value up to the order of entries has its text. -/
def IsCanonical (value : Value) : Prop :=
  ∀ ⦃other : Value⦄, other.IsData → value.IsReordering other → ∀ isIndented depth,
    written isIndented depth value = written isIndented depth other

theorem written_eq_of_forall₂ {values others : List Value}
    (same : List.Forall₂ Value.IsReordering values others) (areData : ∀ other ∈ others, other.IsData)
    (areCanonical : ∀ value ∈ values, IsCanonical value) (isIndented : Bool) (depth : Nat) :
    values.map (written isIndented depth) = others.map (written isIndented depth) := by
  induction same with
  | nil => rfl
  | cons first _ inductionHypothesis =>
    rw [List.forall_mem_cons] at areData areCanonical
    rw [List.map_cons, List.map_cons, areCanonical.1 areData.1 first isIndented depth,
      inductionHypothesis areData.2 areCanonical.2]

theorem isCanonical_list {items : List Value} (areCanonical : ∀ item ∈ items, IsCanonical item) :
    IsCanonical (.list items) := by
  intro other isData reordering isIndented depth
  cases reordering with
  | list same =>
    cases isData with
    | list areData =>
      rw [written, written, writtenItems_eq, writtenItems_eq,
        written_eq_of_forall₂ same areData areCanonical]

theorem writtenEntries_eq_zip (isIndented : Bool) (depth : Nat) (entries : List (Scalar × Value)) :
    writtenEntries isIndented depth entries =
      ((entries.map (·.1)).map keyText).zip ((entries.map (·.2)).map (written isIndented depth)) := by
  rw [writtenEntries_eq, List.map_map, List.map_map, List.zip_map']
  rfl

theorem nodup_keys_writtenEntries {entries : List (Scalar × Value)}
    (named : ∀ entry ∈ entries, ∃ name, entry.1 = .text name) (distinct : (entries.map (·.1)).Nodup)
    (isIndented : Bool) (depth : Nat) :
    ((writtenEntries isIndented depth entries).map (·.1)).Nodup := by
  have keys : (writtenEntries isIndented depth entries).map (·.1) = (entries.map (·.1)).map keyText := by
    rw [writtenEntries_eq, List.map_map, List.map_map]
    rfl
  rw [keys]
  refine distinct.map_on ?_
  rintro _ member _ memberToo same
  obtain ⟨entry, inside, rfl⟩ := List.mem_map.1 member
  obtain ⟨entryToo, insideToo, rfl⟩ := List.mem_map.1 memberToo
  obtain ⟨name, key⟩ := named entry inside
  obtain ⟨nameToo, keyToo⟩ := named entryToo insideToo
  rw [key, keyToo] at same ⊢
  exact congrArg Scalar.text same

theorem isCanonical_mapping {entries : List (Scalar × Value)}
    (areCanonical : ∀ entry ∈ entries, IsCanonical entry.2) : IsCanonical (.mapping entries) := by
  intro other isData reordering isIndented depth
  cases reordering with
  | @mapping _ permuted others keys values reordered =>
    cases isData with
    | mapping named distinct areData =>
      have areDataToo : ∀ value ∈ permuted.map (·.2), value.IsData :=
        List.forall_mem_map.2 fun entry member => areData entry (reordered.mem_iff.1 member)
      have matched : writtenEntries isIndented (depth + 1) entries =
          writtenEntries isIndented (depth + 1) permuted := by
        rw [writtenEntries_eq_zip, writtenEntries_eq_zip, keys,
          written_eq_of_forall₂ values areDataToo (List.forall_mem_map.2 areCanonical)]
      have sorted : sortedEntries (writtenEntries isIndented (depth + 1) permuted) =
          sortedEntries (writtenEntries isIndented (depth + 1) others) := by
        refine (sortedEntries_eq_of_perm ?_ ?_).symm
        · rw [writtenEntries_eq, writtenEntries_eq]
          exact (reordered.map _).symm
        · exact nodup_keys_writtenEntries named distinct isIndented (depth + 1)
      rw [written, written, matched, sorted]

theorem isCanonical_of_isData {value : Value} (isData : value.IsData) : IsCanonical value := by
  induction isData with
  | list _ areCanonical => exact isCanonical_list areCanonical
  | mapping _ _ _ areCanonical => exact isCanonical_mapping areCanonical
  | _ =>
    intro other _ reordering isIndented depth
    cases reordering
    rfl

/-! ### Canonical texts -/

theorem written_eq_iff {first second : Value} (isData : first.IsData) (isDataToo : second.IsData)
    (isIndented : Bool) (depth : Nat) :
    written isIndented depth first = written isIndented depth second ↔ first.IsReordering second := by
  constructor
  · intro same
    have nothing : Delimits [] := by simp [Delimits]
    exact (isTold_of_isData isData isDataToo isIndented depth nothing nothing
      (congrArg (· ++ []) same)).1
  · intro reordering
    exact isCanonical_of_isData isData isDataToo reordering isIndented depth

/-- In either layout two values have one text exactly when they are equal up to the order of entries. -/
theorem text_eq_iff_isReordering {first second : Value} (isData : first.IsData)
    (isDataToo : second.IsData) :
    (compact first = compact second ↔ first.IsReordering second) ∧
      (indented first = indented second ↔ first.IsReordering second) := by
  rw [compact, compact, indented, indented, String.ofList_inj, String.ofList_inj]
  exact ⟨written_eq_iff isData isDataToo false 0, written_eq_iff isData isDataToo true 0⟩

/-- A truth value, a number and a text that look alike. -/
def alike : List Value := [.boolean true, .integer 1, .text "1"]

/-- Notes and a record beside them. -/
def offer : Value :=
  .mapping [(.text "notes", .list alike),
    (.text "höhe", .mapping [(.text "y", .null), (.text "x", .integer (-12))])]

/-- The same with all entries the other way round. -/
def turnedOffer : Value :=
  .mapping [(.text "höhe", .mapping [(.text "x", .integer (-12)), (.text "y", .null)]),
    (.text "notes", .list alike)]

theorem areData_alike : ∀ note ∈ alike, note.IsData :=
  List.forall_mem_cons.2 ⟨.boolean true, List.forall_mem_cons.2 ⟨.integer 1,
    List.forall_mem_singleton.2 (.text "1")⟩⟩

theorem isData_offer : offer.IsData := by
  refine .mapping (by simp) (by decide) <| List.forall_mem_cons.2 ⟨.list areData_alike, ?_⟩
  refine List.forall_mem_singleton.2 <| .mapping (by simp) (by decide) ?_
  exact List.forall_mem_cons.2 ⟨.null, List.forall_mem_singleton.2 (.integer (-12))⟩

theorem isData_turnedOffer : turnedOffer.IsData := by
  refine .mapping (by simp) (by decide) <| List.forall_mem_cons.2
    ⟨.mapping (by simp) (by decide) ?_, List.forall_mem_singleton.2 (.list areData_alike)⟩
  exact List.forall_mem_cons.2 ⟨.integer (-12), List.forall_mem_singleton.2 .null⟩

/-- The order of entries does not show in a text; that of a list does, and what looks alike differs. -/
theorem text_eq_iff_isReordering_offer :
    offer.IsData ∧ turnedOffer.IsData ∧ (Value.list alike).IsData ∧
      (Value.list alike.reverse).IsData ∧
      compact offer = compact turnedOffer ∧ indented offer = indented turnedOffer ∧
      compact (.list alike) ≠ compact (.list alike.reverse) := by
  have isData : (Value.list alike).IsData := .list areData_alike
  have isDataToo : (Value.list alike.reverse).IsData :=
    .list fun note member => areData_alike note (List.mem_reverse.1 member)
  have turned : offer.IsReordering turnedOffer := by
    have inner : (Value.mapping [(.text "y", .null), (.text "x", .integer (-12))]).IsReordering
        (.mapping [(.text "x", .integer (-12)), (.text "y", .null)]) :=
      .mapping rfl (.cons (.scalar _) (.cons (.scalar _) .nil)) (.swap _ _ _)
    have notes : (Value.list alike).IsReordering (.list alike) :=
      .list (.cons (.scalar _) (.cons (.scalar _) (.cons (.scalar _) .nil)))
    refine .mapping ?_ ?_ (.swap _ _ _)
    · rfl
    · exact .cons notes (.cons inner .nil)
  have differs : ¬ (Value.list alike).IsReordering (.list alike.reverse) := by
    intro reordering
    cases reordering with
    | list same =>
      cases same with
      | cons first _ => cases first
  have same := text_eq_iff_isReordering isData_offer isData_turnedOffer
  exact ⟨isData_offer, isData_turnedOffer, isData, isDataToo, same.1.2 turned, same.2.2 turned,
    fun alike => differs ((text_eq_iff_isReordering isData isDataToo).1.1 alike)⟩

end Json

end Concord
