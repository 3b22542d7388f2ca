/-
A written value is read back. Reading goes from place to place in the text, with collections that are
open on its stack; what a place leads to does not depend on the layout that was chosen. Only the order
of the entries of a mapping is not what it was, and a number that has too many digits is not read in any
layout.
-/

import Concord.Proofs.Value.Entries
import Concord.Proofs.Value.Json.Token
import Concord.Proofs.Value.Json.Writer
import Concord.Value.Json.Reader

namespace Concord

namespace Json

/-! ### Places of a reader -/

/-- Where a reader stands: what is open, what has to come next, and the text that is left. -/
structure Place where
  stack : List Frame
  expectation : Expectation
  text : List Char

/-- The value that is read from a place on, if there is one, in at most so many steps. -/
def Place.value? (place : Place) (steps : Nat) : Option Value :=
  (valueOf place.stack place.expectation (tokensWithin steps place.text)).toOption

/-- From the one place the same is read as from the other, or nothing when the text between them cannot
be read. -/
def Place.Leads (isRead : Bool) (before after : Place) : Prop :=
  ∀ steps, before.text.length ≤ steps → ∃ fewer, after.text.length ≤ fewer ∧
    before.value? steps = if isRead then after.value? fewer else none

variable {stack inner : List Frame} {expectation expected : Expectation} {rest : List Char}

theorem Place.Leads.refl (place : Place) : place.Leads true place :=
  fun steps enough => ⟨steps, enough, rfl⟩

theorem Place.Leads.trans {first second third : Place} {isRead isReadToo : Bool}
    (former : first.Leads isRead second) (latter : second.Leads isReadToo third) :
    first.Leads (isRead && isReadToo) third := by
  intro steps enough
  obtain ⟨fewer, enoughThere, same⟩ := former steps enough
  obtain ⟨fewest, enoughAfter, sameAfter⟩ := latter fewer enoughThere
  refine ⟨fewest, enoughAfter, ?_⟩
  rw [same]
  cases isRead with
  | false => rfl
  | true => simpa using sameAfter

/-- Where characters are left, one more step can be made. -/
theorem exists_fewer {c : Char} {others : List Char} {steps : Nat}
    (enough : (c :: others).length ≤ steps) : ∃ fewer, steps = fewer + 1 ∧ others.length ≤ fewer := by
  cases steps with
  | zero => cases enough
  | succ fewer => exact ⟨fewer, rfl, Nat.le_of_succ_le_succ enough⟩

/-- A blank is passed over. -/
theorem leads_blank {c : Char} (isBlank : isSpace c = true) (rest : List Char) :
    Place.Leads true ⟨stack, expectation, c :: rest⟩ ⟨stack, expectation, rest⟩ := by
  intro steps enough
  obtain ⟨fewer, rfl, still⟩ := exists_fewer enough
  refine ⟨fewer, still, ?_⟩
  rw [Place.value?, tokensWithin, if_pos isBlank]
  rfl

theorem leads_blanks {blanks : List Char} (areBlank : ∀ c ∈ blanks, isSpace c = true)
    (rest : List Char) :
    Place.Leads true ⟨stack, expectation, blanks ++ rest⟩ ⟨stack, expectation, rest⟩ := by
  induction blanks with
  | nil => exact .refl _
  | cons c blanks inductionHypothesis =>
    obtain ⟨here, later⟩ := List.forall_mem_cons.1 areBlank
    exact (leads_blank here _).trans (inductionHypothesis later)

theorem tokensWithin_token {c : Char} {others : List Char} {kind : TokenKind}
    (notBlank : isSpace c = false) (first : firstKind c others = (kind, rest)) (steps : Nat) :
    tokensWithin (steps + 1) (c :: others) =
      ⟨kind, others.length + 1⟩ :: tokensWithin steps rest := by
  rw [tokensWithin, notBlank, first]
  rfl

/-- A token that can stand where it does is read. -/
theorem leads_token {c : Char} {others : List Char} {kind : TokenKind} (notBlank : isSpace c = false)
    (first : firstKind c others = (kind, rest)) (shorter : rest.length ≤ others.length)
    (moves : ∀ remaining, step stack expectation ⟨kind, remaining⟩ = .ok (inner, expected)) :
    Place.Leads true ⟨stack, expectation, c :: others⟩ ⟨inner, expected, rest⟩ := by
  intro steps enough
  obtain ⟨fewer, rfl, still⟩ := exists_fewer enough
  refine ⟨fewer, Nat.le_trans shorter still, ?_⟩
  rw [Place.value?, tokensWithin_token notBlank first, valueOf, moves]
  rfl

/-- A token that cannot stand where it does ends the reading. -/
theorem leads_nowhere {c : Char} {others : List Char} {kind : TokenKind}
    (notBlank : isSpace c = false) (first : firstKind c others = (kind, rest))
    (stops : ∀ remaining, ∃ failure, step stack expectation ⟨kind, remaining⟩ = .error failure)
    (after : Place) : Place.Leads false ⟨stack, expectation, c :: others⟩ after := by
  intro steps enough
  obtain ⟨fewer, rfl, -⟩ := exists_fewer enough
  obtain ⟨failure, stopped⟩ := stops (others.length + 1)
  refine ⟨_, Nat.le_refl _, ?_⟩
  rw [Place.value?, tokensWithin_token notBlank first, valueOf, stopped]
  rfl

/-- A mark of the layout is read. -/
theorem leads_punctuation {c : Char}
    (isMark : c = '[' ∨ c = ']' ∨ c = '\x7b' ∨ c = '\x7d' ∨ c = ',' ∨ c = ':') (rest : List Char)
    (moves : ∀ remaining, step stack expectation ⟨.punctuation c, remaining⟩ = .ok (inner, expected)) :
    Place.Leads true ⟨stack, expectation, c :: rest⟩ ⟨inner, expected, rest⟩ := by
  refine leads_token ?_ (firstKind_punctuation isMark rest) (Nat.le_refl _) moves
  rcases isMark with rfl | rfl | rfl | rfl | rfl | rfl <;> rfl

/-- A text is read wherever it can stand. -/
theorem leads_text (text : String) (rest : List Char)
    (moves : ∀ remaining, step stack expectation ⟨.text text, remaining⟩ = .ok (inner, expected)) :
    Place.Leads true ⟨stack, expectation, textLiteral text ++ rest⟩ ⟨inner, expected, rest⟩ := by
  obtain ⟨others, parts, first⟩ := firstKind_textLiteral text rest
  have shorter : rest.length ≤ others.length := by
    have lengths := congrArg List.length parts
    simp only [textLiteral, List.length_append, List.length_cons, List.length_nil] at lengths
    omega
  rw [parts]
  exact leads_token (by decide) first shorter moves

/-! ### Layout -/

theorem isSpace_of_mem_lead {isIndented : Bool} {depth : Nat} {c : Char}
    (member : c ∈ lead isIndented depth) : isSpace c = true := by
  cases isIndented with
  | false => cases member
  | true =>
    rcases List.mem_cons.1 member with rfl | isIndent
    · rfl
    · rw [List.eq_of_mem_replicate isIndent]
      rfl

theorem delimits_cons {c : Char} (member : c ∈ [',', ']', '\x7d', '\n']) (rest : List Char) :
    Delimits (c :: rest) := fun _ head =>
  Option.some.inj head ▸ member

theorem delimits_lead (isIndented : Bool) (depth : Nat) (delimits : Delimits rest) :
    Delimits (lead isIndented depth ++ rest) := by
  cases isIndented with
  | false => exact delimits
  | true => exact delimits_cons (by decide) _

theorem leads_lead (isIndented : Bool) (depth : Nat) (rest : List Char) :
    Place.Leads true ⟨stack, expectation, lead isIndented depth ++ rest⟩ ⟨stack, expectation, rest⟩ :=
  leads_blanks (fun _ => isSpace_of_mem_lead) rest

/-- What stands between two items is a comma and blanks. -/
theorem exists_separator (isIndented : Bool) (depth : Nat) :
    ∃ blanks, separator isIndented depth = ',' :: blanks ∧ ∀ c ∈ blanks, isSpace c = true := by
  cases isIndented with
  | false => exact ⟨[' '], rfl, by decide⟩
  | true => exact ⟨_, rfl, fun c => isSpace_of_mem_lead⟩

theorem delimits_separator (isIndented : Bool) (depth : Nat) (rest : List Char) :
    Delimits (separator isIndented depth ++ rest) := by
  obtain ⟨blanks, parts, -⟩ := exists_separator isIndented depth
  rw [parts]
  exact delimits_cons (by decide) _

theorem leads_separator (isIndented : Bool) (depth : Nat) (rest : List Char)
    (moves : ∀ remaining,
      step stack expectation ⟨.punctuation ',', remaining⟩ = .ok (inner, expected)) :
    Place.Leads true ⟨stack, expectation, separator isIndented depth ++ rest⟩
      ⟨inner, expected, rest⟩ := by
  obtain ⟨blanks, parts, areBlank⟩ := exists_separator isIndented depth
  rw [parts, List.cons_append]
  exact (leads_punctuation (by simp) _ moves).trans (leads_blanks areBlank rest)

/-! ### Values -/

/-- A value can come next; behind it the given collections are open. -/
def Expectation.TakesValue (expectation : Expectation) (stack inner : List Frame) : Prop :=
  ∀ token : Token, token.kind ≠ .punctuation ']' →
    step stack expectation token = beginValue inner token

/-- A key can come next of a mapping with the given entries. -/
def Expectation.TakesKey (expectation : Expectation) (stack : List Frame)
    (entries : List (Scalar × Value)) : Prop :=
  ∀ token : Token, token.kind ≠ .punctuation '\x7d' →
    step stack expectation token = beginEntry stack entries token

theorem takesValue_value (stack : List Frame) : Expectation.value.TakesValue stack stack :=
  fun _ _ => rfl

theorem takesValue_firstItem (stack : List Frame) :
    Expectation.firstItem.TakesValue stack (.list [] :: stack) :=
  fun _ other => if_neg other

theorem takesKey_key (stack : List Frame) (entries : List (Scalar × Value)) :
    (Expectation.key entries).TakesKey stack entries :=
  fun _ _ => rfl

theorem takesKey_firstKey (stack : List Frame) : Expectation.firstKey.TakesKey stack [] :=
  fun _ other => if_neg other

/-- However it is laid out, the written value is read, up to what stands behind it. -/
def IsRead (value : Value) : Prop :=
  ∀ {stack inner : List Frame} {expectation : Expectation} (isIndented : Bool) (depth : Nat)
    {rest : List Char}, expectation.TakesValue stack inner → Delimits rest →
    Place.Leads value.isReadable ⟨stack, expectation, written isIndented depth value ++ rest⟩
      ⟨inner, .afterValue value.ordered, rest⟩

theorem isRead_text (text : String) : IsRead (.text text) := fun _ _ _ takes _ =>
  leads_text text _ fun remaining => takes ⟨.text text, remaining⟩ (by simp)

theorem isRead_null : IsRead .null := fun _ _ rest takes _ =>
  leads_token (by decide) (firstKind_null rest) (List.suffix_append _ _).length_le fun remaining =>
    takes ⟨.scalar .null, remaining⟩ (by simp)

theorem isRead_boolean (value : Bool) : IsRead (.boolean value) := by
  intro stack inner expectation isIndented depth rest takes _
  cases value with
  | true =>
    exact leads_token (by decide) (firstKind_true rest) (List.suffix_append _ _).length_le
      fun remaining => takes ⟨.scalar (.boolean true), remaining⟩ (by simp)
  | false =>
    exact leads_token (by decide) (firstKind_false rest) (List.suffix_append _ _).length_le
      fun remaining => takes ⟨.scalar (.boolean false), remaining⟩ (by simp)

theorem isSpace_of_isDigit {c : Char} (isDigit : c.isDigit = true) : isSpace c = false := by
  have isOther {other : Char} (notDigit : other.isDigit = false) : (c == other) = false :=
    beq_false_of_ne (ne_of_isDigit isDigit notDigit)
  rw [isSpace, isOther rfl, isOther rfl, isOther rfl, isOther rfl]
  rfl

/-- A number is read unless it has too many digits. -/
theorem isRead_natural (value : Nat) : IsRead (.natural value) := by
  intro stack inner expectation isIndented depth rest takes delimits
  obtain ⟨c, others, opening, isDigit, first⟩ := firstKind_digitsOf value delimits
  have parts : written isIndented depth (.natural value) ++ rest = c :: others := by
    rw [← opening]
    simp [written, Value.natural, scalarText, integerText]
  have shorter : rest.length ≤ others.length := by
    have lengths := congrArg List.length opening
    have some : 0 < (Decimal.digitsOf value).length := Nat.length_toDigits_pos
    rw [List.length_append, List.length_cons] at lengths
    omega
  rw [parts]
  by_cases isLong : greatestDigits < (Decimal.digitsOf value).length
  · have unread : (Value.natural value).isReadable = false := decide_eq_false (Nat.not_le.2 isLong)
    rw [if_pos isLong] at first
    rw [unread]
    exact leads_nowhere (isSpace_of_isDigit isDigit) first
      (fun remaining => ⟨_, takes ⟨_, remaining⟩ (by simp)⟩) _
  · have isRead : (Value.natural value).isReadable = true := decide_eq_true (Nat.not_lt.1 isLong)
    rw [if_neg isLong] at first
    rw [isRead]
    exact leads_token (isSpace_of_isDigit isDigit) first shorter fun remaining =>
      takes ⟨_, remaining⟩ (by simp)

/-! ### Lists -/

theorem leads_openList (takes : expectation.TakesValue stack inner) (rest : List Char) :
    Place.Leads true ⟨stack, expectation, '[' :: rest⟩ ⟨inner, .firstItem, rest⟩ :=
  leads_punctuation (by simp) rest fun remaining =>
    takes ⟨.punctuation '[', remaining⟩ (show TokenKind.punctuation '[' ≠ .punctuation ']' by decide)

theorem leads_nextItem (isIndented : Bool) (depth : Nat) (known : List Value) (value : Value)
    (rest : List Char) :
    Place.Leads true
      ⟨.list known :: stack, .afterValue value, separator isIndented depth ++ rest⟩
      ⟨.list (known ++ [value]) :: stack, .value, rest⟩ :=
  leads_separator isIndented depth rest fun _ => rfl

theorem leads_listEnd (isIndented : Bool) (depth : Nat) (known : List Value) (value : Value)
    (rest : List Char) :
    Place.Leads true
      ⟨.list known :: stack, .afterValue value, lead isIndented depth ++ ']' :: rest⟩
      ⟨stack, .afterValue (.list (known ++ [value])), rest⟩ :=
  (leads_lead isIndented depth _).trans (leads_punctuation (by simp) rest fun _ => rfl)

/-- Items that are written with what stands between them are read one after another, down to the end of
their list. -/
theorem leads_items {items : List Value} (areRead : ∀ item ∈ items, IsRead item) (some : items ≠ [])
    (isIndented : Bool) (depth outer : Nat) {before : List Frame} {known : List Value}
    (takes : expectation.TakesValue before (.list known :: stack)) (rest : List Char) :
    Place.Leads (items.all (·.isReadable))
      ⟨before, expectation, (separator isIndented depth).intercalate
        (items.map (written isIndented depth)) ++ (lead isIndented outer ++ ']' :: rest)⟩
      ⟨stack, .afterValue (.list (known ++ items.map (·.ordered))), rest⟩ := by
  induction items generalizing before known expectation with
  | nil => exact absurd rfl some
  | cons item items inductionHypothesis =>
    obtain ⟨isRead, areReadLater⟩ := List.forall_mem_cons.1 areRead
    cases items with
    | nil =>
      have ending : Delimits (']' :: rest) := delimits_cons (by decide) rest
      have whole := (isRead isIndented depth takes (delimits_lead isIndented outer ending)).trans
        (leads_listEnd isIndented outer known item.ordered rest)
      simpa only [List.map_cons, List.map_nil, List.intercalate_singleton, List.all_cons, List.all_nil,
        Bool.and_true] using whole
    | cons next others =>
      have goesOn := inductionHypothesis areReadLater (List.cons_ne_nil _ _)
        (takesValue_value (.list (known ++ [item.ordered]) :: stack))
      have whole := (isRead isIndented depth takes (delimits_separator isIndented depth _)).trans
        ((leads_nextItem isIndented depth known item.ordered _).trans goesOn)
      rw [Bool.true_and, List.append_assoc] at whole
      rw [List.map_cons, List.map_cons, List.intercalate_cons_cons, ← List.map_cons, List.append_assoc,
        List.append_assoc]
      exact whole

theorem isRead_list {items : List Value} (areRead : ∀ item ∈ items, IsRead item) :
    IsRead (.list items) := by
  intro stack inner expectation isIndented depth rest takes delimits
  rw [written, writtenItems_eq, bracketed, Value.isReadable, Value.areReadable_eq, Value.ordered,
    Value.orderedItems_eq]
  cases items with
  | nil =>
    exact (leads_openList takes (']' :: rest)).trans
      (leads_punctuation (by simp) rest fun remaining => rfl)
  | cons item items =>
    have some : ¬ ((item :: items).map (written isIndented (depth + 1))).isEmpty := by simp
    have read := leads_items areRead (List.cons_ne_nil _ _) isIndented (depth + 1) depth
      (takesValue_firstItem inner) rest
    have whole := (leads_openList takes _).trans ((leads_lead isIndented (depth + 1) _).trans read)
    rw [if_neg some]
    simpa using whole

/-! ### Mappings -/

theorem leads_openMapping (takes : expectation.TakesValue stack inner) (rest : List Char) :
    Place.Leads true ⟨stack, expectation, '\x7b' :: rest⟩ ⟨inner, .firstKey, rest⟩ :=
  leads_punctuation (by simp) rest fun remaining =>
    takes ⟨.punctuation '\x7b', remaining⟩
      (show TokenKind.punctuation '\x7b' ≠ .punctuation ']' by decide)

/-- A key is read with its colon and the blank behind it. -/
theorem leads_key {known : List (Scalar × Value)} (takes : expectation.TakesKey stack known)
    (name : String) (rest : List Char) :
    Place.Leads true ⟨stack, expectation, textLiteral name ++ ':' :: ' ' :: rest⟩
      ⟨.mapping known name :: stack, .value, rest⟩ := by
  have named : Place.Leads true ⟨stack, expectation, textLiteral name ++ ':' :: ' ' :: rest⟩
      ⟨stack, .colon known name, ':' :: ' ' :: rest⟩ :=
    leads_text name _ fun remaining => takes ⟨.text name, remaining⟩ (by simp)
  exact named.trans ((leads_punctuation (by simp) _ fun _ => rfl).trans (leads_blank (by rfl) rest))

/-- A written entry is read up to what stands behind its value. -/
theorem leads_entry {known : List (Scalar × Value)} (takes : expectation.TakesKey stack known)
    (name : String) {value : Value} (isRead : IsRead value) (isIndented : Bool) (depth : Nat)
    {rest : List Char} (delimits : Delimits rest) :
    Place.Leads value.isReadable
      ⟨stack, expectation, writtenEntry isIndented depth (.text name, value) ++ rest⟩
      ⟨.mapping known name :: stack, .afterValue value.ordered, rest⟩ := by
  have parts : writtenEntry isIndented depth (.text name, value) ++ rest =
      textLiteral name ++ ':' :: ' ' :: (written isIndented depth value ++ rest) := by
    simp [writtenEntry, keyText]
  rw [parts]
  exact (leads_key takes name _).trans
    (isRead isIndented depth (takesValue_value (.mapping known name :: stack)) delimits)

theorem leads_nextEntry (isIndented : Bool) (depth : Nat) (known : List (Scalar × Value))
    (name : String) (value : Value) (rest : List Char) :
    Place.Leads true
      ⟨.mapping known name :: stack, .afterValue value, separator isIndented depth ++ rest⟩
      ⟨stack, .key (Value.putEntry (.text name) value known), rest⟩ :=
  leads_separator isIndented depth rest fun _ => rfl

theorem leads_mappingEnd (isIndented : Bool) (depth : Nat) (known : List (Scalar × Value))
    (name : String) (value : Value) (rest : List Char) :
    Place.Leads true
      ⟨.mapping known name :: stack, .afterValue value, lead isIndented depth ++ '\x7d' :: rest⟩
      ⟨stack, .afterValue (.mapping (Value.putEntry (.text name) value known)), rest⟩ :=
  (leads_lead isIndented depth _).trans (leads_punctuation (by simp) rest fun _ => rfl)

/-- Entries that are written with what stands between them are read one after another, down to the end of
their mapping. -/
theorem leads_entries {entries : List (Scalar × Value)}
    (areRead : ∀ entry ∈ entries, IsRead entry.2)
    (named : ∀ entry ∈ entries, ∃ name, entry.1 = .text name) (some : entries ≠ [])
    (isIndented : Bool) (depth outer : Nat) {known : List (Scalar × Value)}
    (distinct : ((known ++ entries).map (·.1)).Pairwise fun first second =>
      first.sameKey second = false)
    (takes : expectation.TakesKey stack known) (rest : List Char) :
    Place.Leads (entries.all (·.2.isReadable))
      ⟨stack, expectation, (separator isIndented depth).intercalate
        (entries.map (writtenEntry isIndented depth)) ++ (lead isIndented outer ++ '\x7d' :: rest)⟩
      ⟨stack, .afterValue (.mapping
        (known ++ entries.map fun entry => (entry.1, entry.2.ordered))), rest⟩ := by
  induction entries generalizing known expectation with
  | nil => exact absurd rfl some
  | cons entry entries inductionHypothesis =>
    obtain ⟨key, value⟩ := entry
    obtain ⟨isRead, areReadLater⟩ := List.forall_mem_cons.1 areRead
    obtain ⟨⟨name, rfl⟩, namedLater⟩ := List.forall_mem_cons.1 named
    -- The key is put behind the known ones, as none of them is the same.
    have fresh : Value.putEntry (.text name) value.ordered known =
        known ++ [(.text name, value.ordered)] := by
      refine Value.putEntry_of_fresh fun other member => ?_
      rw [List.map_append, List.pairwise_append] at distinct
      exact distinct.2.2 _ (List.mem_map_of_mem member) _ List.mem_cons_self
    have member {text : List Char} : Delimits text → _ :=
      leads_entry takes name isRead isIndented depth
    cases entries with
    | nil =>
      have ending : Delimits ('\x7d' :: rest) := delimits_cons (by decide) rest
      have whole := (member (delimits_lead isIndented outer ending)).trans
        (leads_mappingEnd isIndented outer known name value.ordered rest)
      rw [fresh] at whole
      simpa only [List.map_cons, List.map_nil, List.intercalate_singleton, List.all_cons, List.all_nil,
        Bool.and_true] using whole
    | cons next others =>
      have distinctLater : ((known ++ [(Scalar.text name, value.ordered)] ++ next :: others).map
          (·.1)).Pairwise fun first second => first.sameKey second = false := by
        simpa using distinct
      have goesOn := inductionHypothesis areReadLater namedLater (List.cons_ne_nil _ _) distinctLater
        (takesKey_key stack (known ++ [(.text name, value.ordered)]))
      rw [← fresh] at goesOn
      have whole := (member (delimits_separator isIndented depth _)).trans
        ((leads_nextEntry isIndented depth known name value.ordered _).trans goesOn)
      rw [fresh] at whole
      rw [List.map_cons, List.map_cons, List.intercalate_cons_cons, ← List.map_cons, List.append_assoc,
        List.append_assoc]
      simpa only [List.all_cons, Bool.true_and, List.append_assoc, List.map_cons,
        List.singleton_append] using whole

/-- Of texts that differ none is the same key as another. -/
theorem pairwise_sameKey {keys : List Scalar} (named : ∀ key ∈ keys, ∃ name, key = .text name)
    (distinct : keys.Nodup) : keys.Pairwise fun first second => first.sameKey second = false := by
  refine distinct.imp_of_mem fun {first second} member memberToo other => ?_
  obtain ⟨name, rfl⟩ := named first member
  obtain ⟨nameToo, rfl⟩ := named second memberToo
  exact beq_false_of_ne other

theorem isRead_mapping {entries : List (Scalar × Value)}
    (named : ∀ entry ∈ entries, ∃ name, entry.1 = .text name) (distinct : (entries.map (·.1)).Nodup)
    (areRead : ∀ entry ∈ entries, IsRead entry.2) : IsRead (.mapping entries) := by
  intro stack inner expectation isIndented depth rest takes delimits
  have sorted := inOrder_perm entries
  have readable : (Value.mapping entries).isReadable = (inOrder entries).all (·.2.isReadable) := by
    rw [Value.isReadable, Value.areReadableEntries_eq, sorted.all_eq]
  rw [written, sortedEntries_eq, bracketed, readable, ordered_mapping]
  cases isEmpty : inOrder entries with
  | nil =>
    exact (leads_openMapping takes ('\x7d' :: rest)).trans
      (leads_punctuation (by simp) rest fun remaining => rfl)
  | cons entry others =>
    have inside {other : Scalar × Value} (member : other ∈ entry :: others) : other ∈ entries :=
      sorted.mem_iff.1 (isEmpty ▸ member)
    have distinctKeys : ((entry :: others).map (·.1)).Pairwise fun first second =>
        first.sameKey second = false :=
      pairwise_sameKey (List.forall_mem_map.2 fun other member => named other (inside member))
        (isEmpty ▸ (sorted.map _).nodup_iff.2 distinct)
    have some : ¬ ((entry :: others).map (writtenEntry isIndented (depth + 1))).isEmpty := by simp
    have read := leads_entries (fun other member => areRead other (inside member))
      (fun other member => named other (inside member)) (List.cons_ne_nil _ _) isIndented (depth + 1)
      depth distinctKeys (takesKey_firstKey inner) rest
    have whole := (leads_openMapping takes _).trans ((leads_lead isIndented (depth + 1) _).trans read)
    rw [if_neg some]
    simpa using whole

/-! ### Whole texts -/

/-- Every plain value is read as it is written. -/
theorem isRead_of_isPlain {value : Value} (plain : value.IsPlain) : IsRead value := by
  induction plain with
  | null => exact isRead_null
  | boolean value => exact isRead_boolean value
  | natural value => exact isRead_natural value
  | text value => exact isRead_text value
  | list _ areRead => exact isRead_list areRead
  | mapping named distinct _ areRead => exact isRead_mapping named distinct areRead

/-! ### Whole texts -/

/-- In either layout, with or without a line feed at its end, the text of a plain value stands for the
value in order, unless a number of it has too many digits. -/
theorem read_written {value : Value} (plain : value.IsPlain) (isIndented : Bool) {ending : List Char}
    (isEnding : ending = [] ∨ ending = ['\n']) :
    (read (String.ofList (written isIndented 0 value ++ ending))).toOption =
      if value.isReadable then some value.ordered else none := by
  have areBlank : ∀ c ∈ ending, isSpace c = true := by
    rcases isEnding with rfl | rfl <;> decide
  have delimits : Delimits ending := by
    rcases isEnding with rfl | rfl
    · simp [Delimits]
    · exact delimits_cons (by decide) []
  have noMark : (written isIndented 0 value ++ ending).head? ≠ some (Char.ofNat 0xfeff) := by
    intro isMark
    have printed : IsPrinted (Char.ofNat 0xfeff) := by
      rcases List.mem_append.1 (List.mem_of_mem_head? isMark) with inside | behind
      · exact isPrinted_written plain isIndented 0 _ inside
      · rcases isEnding with rfl | rfl
        · cases behind
        · exact .inl (List.mem_singleton.1 behind)
    exact absurd printed (by decide)
  have blanks : Place.Leads true ⟨[], .afterValue value.ordered, ending ++ []⟩
      ⟨[], .afterValue value.ordered, []⟩ := leads_blanks areBlank []
  rw [List.append_nil] at blanks
  have leads := (isRead_of_isPlain plain isIndented 0 (takesValue_value []) delimits).trans blanks
  obtain ⟨fewer, -, same⟩ := leads _ (Nat.le_refl _)
  have ended : Place.value? ⟨[], .afterValue value.ordered, []⟩ fewer = some value.ordered := by
    cases fewer <;> rfl
  rw [ended, Bool.and_true] at same
  have unplaced {result : Except Failure Value} {place : Failure → Refusal} :
      (result.mapError place).toOption = result.toOption := by
    cases result <;> rfl
  rw [read, String.toList_ofList]
  simp only [if_neg noMark, unplaced]
  simpa [Place.value?, tokens] using same

end Json

end Concord
