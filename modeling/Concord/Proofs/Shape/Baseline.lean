/-
Which record the others of its name are measured against. The search by index finds the first record of
the vocabulary, or else the first record that none comes before in the order of document and line. Told
in terms of documents, the baseline of a name is the same whatever order the contracts come in: the
least records all stand in one document.
-/

import Concord.Proofs.Document.Reading
import Concord.Proofs.Occurrence
import Concord.Shape
import Mathlib.Data.Prod.Lex
import Mathlib.Data.String.Basic

namespace Concord.Shape

/-! ### The order of records -/

/-- What orders records: the document, and within it the line. -/
def place (record : Declaration) : String ×ₗ Nat :=
  toLex (record.document, record.line)

theorem precedes_iff {first second : Declaration} :
    precedes first second = true ↔ place first < place second := by
  simp [precedes, place, Prod.Lex.toLex_lt_toLex]

/-- The record at an index comes before every record ahead of it and not behind any other. -/
structure IsLeastAt (records : List Declaration) (index : Nat) (least : Declaration) : Prop where
  found : records[index]? = some least
  bound : ∀ record ∈ records, place least ≤ place record
  first : ∀ earlier < index, ∀ record, records[earlier]? = some record → place least < place record

theorem IsLeastAt.keep {done : List Declaration} {index : Nat} {best record : Declaration}
    (least : IsLeastAt done index best) (later : place best ≤ place record) :
    IsLeastAt (done ++ [record]) index best := by
  have inside : index < done.length := (List.getElem?_eq_some_iff.1 least.found).1
  refine ⟨?_, fun other member => ?_, fun earlier before other found => ?_⟩
  · rw [List.getElem?_append_left inside, least.found]
  · rcases List.mem_append.1 member with old | new
    · exact least.bound other old
    · rw [List.mem_singleton.1 new]
      exact later
  · rw [List.getElem?_append_left (before.trans inside)] at found
    exact least.first earlier before other found

theorem IsLeastAt.replace {done : List Declaration} {index : Nat} {best record : Declaration}
    (least : IsLeastAt done index best) (earlier : place record < place best) :
    IsLeastAt (done ++ [record]) done.length record := by
  refine ⟨by simp, fun other member => ?_, fun position before other found => ?_⟩
  · rcases List.mem_append.1 member with old | new
    · exact earlier.le.trans (least.bound other old)
    · rw [List.mem_singleton.1 new]
  · rw [List.getElem?_append_left before] at found
    exact earlier.trans_le (least.bound other (List.mem_of_getElem? found))

theorem isLeastAt_leastIndexFrom {done : List Declaration} {index : Nat} {best : Declaration}
    (least : IsLeastAt done index best) (remaining : List Declaration) :
    ∃ record, IsLeastAt (done ++ remaining) (leastIndexFrom best index done.length remaining)
      record := by
  induction remaining generalizing done index best with
  | nil => exact ⟨best, by simpa [leastIndexFrom] using least⟩
  | cons record remaining inductionHypothesis =>
    have longer : (done ++ [record]).length = done.length + 1 := List.length_append
    rw [leastIndexFrom, List.append_cons, ← longer]
    by_cases earlier : precedes record best = true
    · rw [if_pos earlier]
      exact inductionHypothesis (least.replace (precedes_iff.1 earlier))
    · rw [if_neg earlier]
      exact inductionHypothesis (least.keep (not_lt.1 fun before => earlier (precedes_iff.2 before)))

/-! ### The baseline -/

/-- The first record that no other one precedes. -/
def leastRecord? (records : List Declaration) : Option Declaration :=
  records.find? fun record => records.all fun other => !precedes other record

theorem all_not_precedes_iff {records : List Declaration} {record : Declaration} :
    (records.all fun other => !precedes other record) = true ↔
      ∀ other ∈ records, place record ≤ place other := by
  rw [List.all_eq_true]
  refine forall₂_congr fun other _ => ?_
  rw [Bool.not_eq_true', Bool.eq_false_iff, ne_eq, precedes_iff, not_lt]

theorem IsLeastAt.leastRecord?_eq {records : List Declaration} {index : Nat} {least : Declaration}
    (isLeast : IsLeastAt records index least) : leastRecord? records = some least := by
  obtain ⟨inside, found⟩ := List.getElem?_eq_some_iff.1 isLeast.found
  refine List.find?_eq_some_iff_getElem.2
    ⟨all_not_precedes_iff.2 isLeast.bound, index, inside, found, fun earlier before => ?_⟩
  rw [Bool.not_eq_true', Bool.eq_false_iff, ne_eq, all_not_precedes_iff]
  intro bound
  have behind := isLeast.first earlier before _ (List.getElem?_eq_getElem (before.trans inside))
  exact absurd (bound least (found ▸ List.getElem_mem inside)) (not_le.2 behind)

/-- The search by index finds the first record of the vocabulary, or else the least record. -/
theorem getElem?_baselineIndex (vocabulary : String) (records : List Declaration) :
    records[baselineIndex vocabulary records]? =
      (records.find? (·.document == vocabulary)).or (leastRecord? records) := by
  unfold baselineIndex
  cases found : records.findIdx? (·.document == vocabulary) with
  | some index =>
    obtain ⟨inside, isShared, first⟩ := List.findIdx?_eq_some_iff_getElem.1 found
    have shared : records.find? (·.document == vocabulary) = some records[index] :=
      List.find?_eq_some_iff_getElem.2 ⟨isShared, index, inside, rfl, fun earlier before => by
        simpa using first earlier before⟩
    rw [shared, Option.some_or]
    exact List.getElem?_eq_getElem inside
  | none =>
    rw [List.find?_eq_none.2 fun record member => by
      simpa using List.findIdx?_eq_none_iff.1 found record member, Option.none_or]
    cases records with
    | nil => rfl
    | cons record others =>
      have start : IsLeastAt [record] 0 record :=
        ⟨rfl, fun other member => (List.mem_singleton.1 member) ▸ le_refl _,
          fun earlier before => absurd before (Nat.not_lt_zero _)⟩
      obtain ⟨least, isLeast⟩ := isLeastAt_leastIndexFrom start others
      rw [List.singleton_append, List.length_singleton] at isLeast
      exact isLeast.found.trans isLeast.leastRecord?_eq.symm

/-! ### The baseline of a name -/

/-- The records of a name that a document declares, in order. -/
def recordsNamed (name : String) (document : Document) : List Declaration :=
  document.declarations.filter fun declaration =>
    declaration.kind == .record && declaration.name == name

/-- The record that the records of a name are measured against: the first of the vocabulary, or else
the least of the contracts. -/
def baseline? (vocabulary : Document) (contracts : List Document) (name : String) :
    Option Declaration :=
  (recordsNamed name vocabulary).head?.or (leastRecord? (contracts.flatMap (recordsNamed name)))

theorem mem_recordsNamed {name : String} {document : Document} {record : Declaration} :
    record ∈ recordsNamed name document ↔
      record ∈ document.declarations ∧ record.kind = .record ∧ record.name = name := by
  simp [recordsNamed]

theorem filter_recordsOf (documents : List Document) (name : String) :
    (recordsOf documents).filter (·.name == name) = documents.flatMap (recordsNamed name) := by
  rw [recordsOf, List.filter_filter, List.filter_flatMap]
  refine List.flatMap_congr fun document _ => List.filter_congr fun declaration _ => ?_
  rw [Bool.and_comm]

variable {vocabulary : Document} {contracts : List Document}
  (isRead : ∀ document ∈ vocabulary :: contracts, document.IsRead)
  (distinct : ((vocabulary :: contracts).map (·.identifier)).Nodup)

include isRead distinct

theorem getElem?_baselineIndex_eq_baseline? (name : String) :
    ((vocabulary :: contracts).flatMap (recordsNamed name))[
      baselineIndex vocabulary.identifier ((vocabulary :: contracts).flatMap (recordsNamed name))]? =
      baseline? vocabulary contracts name := by
  have shared : ∀ record ∈ recordsNamed name vocabulary,
      (record.document == vocabulary.identifier) = true := fun record member =>
    beq_iff_eq.2 ((isRead vocabulary List.mem_cons_self).document_eq (mem_recordsNamed.1 member).1)
  have others : ∀ record ∈ contracts.flatMap (recordsNamed name),
      ¬ (record.document == vocabulary.identifier) = true := by
    intro record member same
    obtain ⟨contract, contractMember, inside⟩ := List.mem_flatMap.1 member
    rw [beq_iff_eq, (isRead contract (List.mem_cons_of_mem _ contractMember)).document_eq
      (mem_recordsNamed.1 inside).1] at same
    rw [List.map_cons, List.nodup_cons] at distinct
    exact distinct.1 (same ▸ List.mem_map_of_mem contractMember)
  rw [getElem?_baselineIndex, List.flatMap_cons, List.find?_append, List.find?_eq_none.2 others,
    Option.or_none, baseline?]
  cases found : recordsNamed name vocabulary with
  | nil => rfl
  | cons record records =>
    rw [found] at shared
    rw [List.find?_cons, shared record List.mem_cons_self]
    rfl

/-- The least records of a name stand in one contract, so the first of them does not depend on the
order of the contracts. -/
theorem leastRecord?_of_perm {reordered : List Document} (permuted : contracts.Perm reordered)
    (name : String) :
    leastRecord? (contracts.flatMap (recordsNamed name)) =
      leastRecord? (reordered.flatMap (recordsNamed name)) := by
  have all : ∀ record, ((contracts.flatMap (recordsNamed name)).all fun other =>
      !precedes other record) =
        ((reordered.flatMap (recordsNamed name)).all fun other => !precedes other record) :=
    fun record => (permuted.flatMap_right _).all_eq
  unfold leastRecord?
  rw [← List.head?_filter, ← List.head?_filter, List.filter_flatMap, List.filter_flatMap]
  simp only [← all]
  congr 1
  have distinctContracts : (contracts.map (·.identifier)).Nodup := by
    rw [List.map_cons, List.nodup_cons] at distinct
    exact distinct.2
  refine flatMap_eq_of_perm permuted (List.Nodup.of_map _ distinctContracts) ?_
  intro contract member other otherMember contributes otherContributes
  obtain ⟨record, inside⟩ := List.exists_mem_of_ne_nil _ contributes
  obtain ⟨otherRecord, otherInside⟩ := List.exists_mem_of_ne_nil _ otherContributes
  obtain ⟨declared, least⟩ := List.mem_filter.1 inside
  obtain ⟨otherDeclared, otherLeast⟩ := List.mem_filter.1 otherInside
  have samePlace : place otherRecord = place record := le_antisymm
    (all_not_precedes_iff.1 otherLeast record (List.mem_flatMap.2 ⟨contract, member, declared⟩))
    (all_not_precedes_iff.1 least otherRecord
      (List.mem_flatMap.2 ⟨other, otherMember, otherDeclared⟩))
  have sameDocument : otherRecord.document = record.document :=
    congrArg (fun place => (ofLex place).1) samePlace
  rw [(isRead contract (List.mem_cons_of_mem _ member)).document_eq (mem_recordsNamed.1 declared).1,
    (isRead other (List.mem_cons_of_mem _ otherMember)).document_eq
      (mem_recordsNamed.1 otherDeclared).1] at sameDocument
  exact List.inj_on_of_nodup_map distinctContracts otherMember member sameDocument

theorem baseline?_of_perm {reordered : List Document} (permuted : contracts.Perm reordered)
    (name : String) : baseline? vocabulary contracts name = baseline? vocabulary reordered name := by
  rw [baseline?, baseline?, leastRecord?_of_perm isRead distinct permuted]

end Concord.Shape
