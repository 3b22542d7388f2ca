/-
What the comparison of records finds, told without the walk that finds it. The walk carries the gaps of
baselines that it knows, and leaves an issue out when its gap is known. So the issues are, up to order,
those that two records give by themselves, and one error for each gap that the walk comes to know; and
it comes to know exactly the gaps that the compared records show.
-/

import Concord.Proofs.Occurrence
import Concord.Shape
import Mathlib.Data.List.Nodup
import Mathlib.Data.List.Perm.Basic

namespace Concord.Shape

/-! ### What two records give by themselves -/

/-- The gaps of a baseline that the fields of another record show. -/
def gapsShown (baseline : Declaration) (fields : List Field) : List Gap :=
  (fields.filter fun field => (baseline.field? field.name).isNone).map fun field =>
    ⟨baseline.document, baseline.name, field.name⟩

/-- The issues of the fields that the baseline has as well. -/
def sharedIssues (equivalences : List (String × String)) (baseline other : Declaration)
    (fields : List Field) : List Issue :=
  fields.flatMap fun field =>
    match baseline.field? field.name with
    | some base => sharedFieldIssues equivalences baseline other base field
    | none => []

/-- The issues of a comparison that have nothing to do with gaps of the baseline. -/
def ownIssues (equivalences : List (String × String)) (baseline other : Declaration) : List Issue :=
  lackedByOther baseline other ++ sharedIssues equivalences baseline other other.fields

/-! ### The account of a walk -/

/-- What a part of the walk finds, from the gaps it knows at its start: the issues `own`, and an error
for each gap that it comes to know; and it comes to know the gaps `shown`. -/
structure Reports (own : List Issue) (shown known : List Gap) (found : List Issue × List Gap) :
    Prop where
  issues : ∃ missing, found.1.Perm (own ++ missing) ∧
    (∀ issue ∈ missing, issue.severity = .error ∧ issue.category = .typeShapeMismatch) ∧
      missing.length + known.length = found.2.length
  gaps : ∀ gap, gap ∈ found.2 ↔ gap ∈ known ∨ gap ∈ shown
  distinct : known.Nodup → found.2.Nodup

theorem Reports.of_own (own : List Issue) (known : List Gap) : Reports own [] known (own, known) :=
  ⟨⟨[], by simp⟩, by simp, id⟩

theorem Reports.append {own further : List Issue} {shown more known : List Gap}
    {first second : List Issue × List Gap} (start : Reports own shown known first)
    (rest : Reports further more first.2 second) :
    Reports (own ++ further) (shown ++ more) known (first.1 ++ second.1, second.2) := by
  obtain ⟨missing, permuted, errors, count⟩ := start.issues
  obtain ⟨later, laterPermuted, laterErrors, laterCount⟩ := rest.issues
  refine ⟨⟨missing ++ later, ?_, ?_, ?_⟩, fun gap => ?_, rest.distinct ∘ start.distinct⟩
  · refine (permuted.append laterPermuted).trans ?_
    simp only [List.append_assoc]
    refine List.Perm.append_left own ?_
    rw [← List.append_assoc, ← List.append_assoc]
    exact List.perm_append_comm.append_right later
  · intro issue member
    exact (List.mem_append.1 member).elim (errors issue) (laterErrors issue)
  · rw [List.length_append]
    simp only at laterCount ⊢
    omega
  · rw [rest.gaps, start.gaps, List.mem_append, or_assoc]

/-- A gap that is known already changes nothing. -/
theorem Reports.of_known {gap : Gap} {known : List Gap} (isKnown : gap ∈ known) :
    Reports [] [gap] known ([], known) := by
  refine ⟨⟨[], by simp⟩, fun other => ?_, id⟩
  rw [List.mem_singleton]
  exact ⟨.inl, fun either => either.elim id (· ▸ isKnown)⟩

/-- A gap that is not known yet is reported and known from then on. -/
theorem Reports.of_new {gap : Gap} {known : List Gap} (isNew : gap ∉ known) (field : Field)
    (lacking having : Declaration) (name : String) :
    Reports [] [gap] known ([missingIssue field lacking having name], gap :: known) := by
  refine ⟨⟨[missingIssue field lacking having name], by simp, ?_, by simp; omega⟩, fun other => ?_,
    fun distinct => List.nodup_cons.2 ⟨isNew, distinct⟩⟩
  · intro issue member
    rw [List.mem_singleton.1 member]
    exact ⟨rfl, rfl⟩
  · rw [List.mem_cons, List.mem_singleton, or_comm]

/-! ### The walk -/

theorem reports_otherFieldIssues (equivalences : List (String × String))
    (baseline other : Declaration) (known : List Gap) (fields : List Field) :
    Reports (sharedIssues equivalences baseline other fields) (gapsShown baseline fields) known
      (otherFieldIssues equivalences baseline other known fields) := by
  induction fields generalizing known with
  | nil => exact .of_own [] known
  | cons field fields inductionHypothesis =>
    rw [otherFieldIssues]
    cases shared : baseline.field? field.name with
    | some base =>
      have step := (Reports.of_own (sharedFieldIssues equivalences baseline other base field)
        known).append (inductionHypothesis known)
      simpa [sharedIssues, gapsShown, shared] using step
    | none =>
      by_cases isKnown : (⟨baseline.document, baseline.name, field.name⟩ : Gap) ∈ known
      · have step := (Reports.of_known isKnown).append (inductionHypothesis known)
        simpa [sharedIssues, gapsShown, shared, isKnown] using step
      · have step := (Reports.of_new isKnown field baseline other baseline.name).append
          (inductionHypothesis _)
        simpa [sharedIssues, gapsShown, shared, isKnown] using step

theorem reports_compare (equivalences : List (String × String)) {baseline other : Declaration}
    (isRecord : baseline.kind = .record) (otherIsRecord : other.kind = .record) (known : List Gap) :
    Reports (ownIssues equivalences baseline other) (gapsShown baseline other.fields) known
      (compare equivalences baseline other known) := by
  rw [compare, if_pos ⟨isRecord, otherIsRecord⟩]
  exact (Reports.of_own (lackedByOther baseline other) known).append
    (reports_otherFieldIssues equivalences baseline other known other.fields)

theorem reports_compareAll (equivalences : List (String × String)) {baseline : Declaration}
    (isRecord : baseline.kind = .record) (known : List Gap) (others : List Declaration)
    (areRecords : ∀ other ∈ others, other.kind = .record) :
    Reports (others.flatMap (ownIssues equivalences baseline))
      (others.flatMap fun other => gapsShown baseline other.fields) known
      (compareAll equivalences baseline known others) := by
  induction others generalizing known with
  | nil => exact .of_own [] known
  | cons other others inductionHypothesis =>
    rw [List.forall_mem_cons] at areRecords
    exact (reports_compare equivalences isRecord areRecords.1 known).append
      (inductionHypothesis _ areRecords.2)

/-! ### Groups of one name -/

/-- The records of a group that are compared with its baseline, each with the baseline. -/
def comparisons (vocabulary : String) (records : List Declaration) :
    List (Declaration × Declaration) :=
  match records[baselineIndex vocabulary records]? with
  | some baseline =>
    (records.eraseIdx (baselineIndex vocabulary records)).map fun other => (baseline, other)
  | none => []

/-- The comparisons of all groups, name by name. -/
def allComparisons (vocabulary : String) (records : List Declaration) (names : List String) :
    List (Declaration × Declaration) :=
  names.flatMap fun name => comparisons vocabulary (records.filter (·.name == name))

/-- The issues that comparisons give by themselves. -/
def ownIssuesOf (equivalences : List (String × String))
    (pairs : List (Declaration × Declaration)) : List Issue :=
  pairs.flatMap fun pair => ownIssues equivalences pair.1 pair.2

/-- The gaps of baselines that comparisons show. -/
def gapsShownBy (pairs : List (Declaration × Declaration)) : List Gap :=
  pairs.flatMap fun pair => gapsShown pair.1 pair.2.fields

theorem reports_groupIssues (equivalences : List (String × String)) (vocabulary : String)
    (known : List Gap) {records : List Declaration}
    (areRecords : ∀ record ∈ records, record.kind = .record) :
    Reports (ownIssuesOf equivalences (comparisons vocabulary records))
      (gapsShownBy (comparisons vocabulary records)) known
      (groupIssues equivalences vocabulary known records) := by
  cases found : records[baselineIndex vocabulary records]? with
  | none =>
    simp only [groupIssues, comparisons, found]
    exact .of_own [] known
  | some baseline =>
    simp only [groupIssues, comparisons, found, ownIssuesOf, gapsShownBy, List.flatMap_map]
    refine reports_compareAll equivalences (areRecords _ (List.mem_of_getElem? found)) known _ ?_
    exact fun other member => areRecords other (List.mem_of_mem_eraseIdx member)

theorem reports_recordIssuesFrom (equivalences : List (String × String)) (vocabulary : String)
    {records : List Declaration} (areRecords : ∀ record ∈ records, record.kind = .record)
    (known : List Gap) (names : List String) :
    ∃ gaps, Reports (ownIssuesOf equivalences (allComparisons vocabulary records names))
      (gapsShownBy (allComparisons vocabulary records names)) known
      (recordIssuesFrom equivalences vocabulary records known names, gaps) := by
  induction names generalizing known with
  | nil => exact ⟨known, .of_own [] known⟩
  | cons name names inductionHypothesis =>
    have groupRecords : ∀ record ∈ records.filter (·.name == name), record.kind = .record :=
      fun record member => areRecords record (List.mem_of_mem_filter member)
    have first := reports_groupIssues equivalences vocabulary known groupRecords
    obtain ⟨gaps, rest⟩ := inductionHypothesis
      (groupIssues equivalences vocabulary known (records.filter (·.name == name))).2
    refine ⟨gaps, ?_⟩
    have step := first.append rest
    simpa only [allComparisons, ownIssuesOf, gapsShownBy, List.flatMap_cons, List.flatMap_append,
      recordIssuesFrom] using step

/-- The comparisons that a verification makes. -/
def comparisonsOf (vocabulary : Document) (contracts : List Document) :
    List (Declaration × Declaration) :=
  let records := recordsOf (vocabulary :: contracts)
  allComparisons vocabulary.identifier records (firstOccurrences (records.map (·.name)))

/-- The issues of records are those that the comparisons give by themselves, and one error for each
gap that they show. -/
theorem reports_recordIssues (settings : Settings) (vocabulary : Document)
    (contracts : List Document) :
    ∃ gaps, Reports (ownIssuesOf settings.typeEquivalences (comparisonsOf vocabulary contracts))
      (gapsShownBy (comparisonsOf vocabulary contracts)) []
      (recordIssues settings vocabulary contracts, gaps) :=
  reports_recordIssuesFrom _ _ (fun _ member => by simpa using (List.mem_filter.1 member).2) [] _

end Concord.Shape
