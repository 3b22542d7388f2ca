/-
What the check of shapes finds in a set of documents. It finds no error exactly when every record
agrees with the baseline of its name and every import that is declared again keeps its kind. Which
comparisons are made does not depend on the order of the contracts, so neither do the numbers of errors
and of warnings.
-/

import Concord.Proofs.Shape.Agreement

namespace Concord.Shape

/-! ### From an account to a verdict -/

section

variable {own issues : List Issue} {gaps : List Gap}

/-- Nothing is an error exactly when no comparison gives one by itself and no gap is shown. -/
theorem Reports.no_error_iff {lacking : List Gap} (reports : Reports own lacking [] (issues, gaps)) :
    (∀ issue ∈ issues, issue.severity ≠ .error) ↔
      (∀ issue ∈ own, issue.severity ≠ .error) ∧ lacking = [] := by
  obtain ⟨missing, permuted, errors, count⟩ := reports.issues
  have known : ∀ gap, gap ∈ gaps ↔ gap ∈ lacking := fun gap => by simpa using reports.gaps gap
  simp only [permuted.mem_iff, List.forall_mem_append]
  refine and_congr_right fun _ => ?_
  constructor
  · intro quiet
    have none : missing = [] := List.eq_nil_iff_forall_not_mem.2 fun issue member =>
      quiet issue member (errors issue member).1
    have noGap : gaps = [] := List.length_eq_zero_iff.1 (by simpa [none] using count.symm)
    exact List.eq_nil_iff_forall_not_mem.2 fun gap member => by simpa [noGap] using (known gap).2 member
  · rintro rfl issue member
    have noGap : gaps = [] := List.eq_nil_iff_forall_not_mem.2 fun gap inside => by
      simpa using (known gap).1 inside
    have none : missing = [] := List.length_eq_zero_iff.1 (by simpa [noGap] using count)
    rw [none] at member
    exact absurd member List.not_mem_nil

/-- How many issues of a severity there are depends only on what the comparisons give by themselves and
on which gaps they show. -/
theorem Reports.countP_eq {otherOwn otherIssues : List Issue} {lacking otherLacking : List Gap}
    {otherGaps : List Gap} (first : Reports own lacking [] (issues, gaps))
    (second : Reports otherOwn otherLacking [] (otherIssues, otherGaps))
    (sameOwn : own.Perm otherOwn) (sameGaps : ∀ gap, gap ∈ lacking ↔ gap ∈ otherLacking)
    (severity : Severity) :
    issues.countP (·.severity == severity) = otherIssues.countP (·.severity == severity) := by
  obtain ⟨missing, permuted, errors, count⟩ := first.issues
  obtain ⟨otherMissing, otherPermuted, otherErrors, otherCount⟩ := second.issues
  have gapsPermuted : gaps.Perm otherGaps := by
    refine (List.perm_ext_iff_of_nodup (first.distinct List.nodup_nil)
      (second.distinct List.nodup_nil)).2 fun gap => ?_
    have forth := first.gaps gap
    have back := second.gaps gap
    simp only [List.not_mem_nil, false_or] at forth back
    rw [forth, back, sameGaps]
  have sameLength : missing.length = otherMissing.length := by
    have lengths := gapsPermuted.length_eq
    simp only [List.length_nil, Nat.add_zero] at count otherCount
    rw [count, otherCount, lengths]
  have counted : ∀ issues : List Issue, (∀ issue ∈ issues, issue.severity = .error ∧
      issue.category = .typeShapeMismatch) →
        issues.countP (·.severity == severity) = if severity = .error then issues.length else 0 := by
    intro issues allErrors
    split
    · rename_i isError
      rw [List.countP_eq_length]
      exact fun issue member => by rw [(allErrors issue member).1, isError]; rfl
    · rename_i isWarning
      rw [List.countP_eq_zero]
      exact fun issue member => by simpa [(allErrors issue member).1] using Ne.symm isWarning
  rw [permuted.countP_eq, otherPermuted.countP_eq, List.countP_append, List.countP_append,
    sameOwn.countP_eq, counted missing errors, counted otherMissing otherErrors, sameLength]

end

/-! ### The comparisons of documents -/

variable {vocabulary : Document} {contracts : List Document}
  (isRead : ∀ document ∈ vocabulary :: contracts, document.IsRead)
  (distinct : ((vocabulary :: contracts).map (·.identifier)).Nodup)

theorem exists_mem_of_baseline? {name : String} {baseline : Declaration}
    (isBaseline : baseline? vocabulary contracts name = some baseline) :
    ∃ document ∈ vocabulary :: contracts, baseline ∈ recordsNamed name document := by
  unfold baseline? at isBaseline
  rcases Option.or_eq_some_iff.1 isBaseline with shared | ⟨-, least⟩
  · exact ⟨vocabulary, List.mem_cons_self, List.mem_of_head? shared⟩
  · obtain ⟨contract, member, inside⟩ := List.mem_flatMap.1 (List.mem_of_find?_eq_some least)
    exact ⟨contract, List.mem_cons_of_mem _ member, inside⟩

theorem mem_recordsOf {documents : List Document} {record : Declaration} :
    record ∈ recordsOf documents ↔
      ∃ document ∈ documents, record ∈ recordsNamed record.name document := by
  simp [recordsOf, recordsNamed, and_assoc, ← exists_and_right]

theorem exists_document_of_mem_recordsOf {documents : List Document} {record : Declaration}
    (member : record ∈ recordsOf documents) :
    ∃ document ∈ documents, record ∈ document.declarations := by
  obtain ⟨document, listed, inside⟩ := mem_recordsOf.1 member
  exact ⟨document, listed, (mem_recordsNamed.1 inside).1⟩

include isRead distinct

/-- The comparisons of one name: its baseline with each of the other records. -/
theorem perm_comparisons {baseline : Declaration} {name : String}
    (isBaseline : baseline? vocabulary contracts name = some baseline) :
    ((baseline, baseline) :: comparisons vocabulary.identifier
        ((vocabulary :: contracts).flatMap (recordsNamed name))).Perm
      (((vocabulary :: contracts).flatMap (recordsNamed name)).map fun record =>
        (baseline, record)) := by
  have found := getElem?_baselineIndex_eq_baseline? isRead distinct name
  rw [isBaseline] at found
  obtain ⟨inside, same⟩ := List.getElem?_eq_some_iff.1 found
  have split := (List.getElem_cons_eraseIdx_perm inside).map fun record => (baseline, record)
  rw [List.map_cons, same] at split
  simpa only [comparisons, found] using split

theorem comparisons_eq_nil {name : String} (noBaseline : baseline? vocabulary contracts name = none) :
    comparisons vocabulary.identifier ((vocabulary :: contracts).flatMap (recordsNamed name)) = [] := by
  have found := getElem?_baselineIndex_eq_baseline? isRead distinct name
  rw [noBaseline] at found
  simp only [comparisons, found]

/-- Every comparison agrees exactly when every record agrees with the baseline of its name. -/
theorem forall_comparisonsOf_iff (agrees : Declaration → Declaration → Prop)
    (reflexive : ∀ document ∈ vocabulary :: contracts, ∀ record ∈ document.declarations,
      record.kind = .record → agrees record record) :
    (∀ pair ∈ comparisonsOf vocabulary contracts, agrees pair.1 pair.2) ↔
      ∀ name baseline, baseline? vocabulary contracts name = some baseline →
        ∀ document ∈ vocabulary :: contracts, ∀ record ∈ recordsNamed name document,
          agrees baseline record := by
  simp only [comparisonsOf, allComparisons, filter_recordsOf]
  constructor
  · intro agree name baseline isBaseline document member record inside
    have group : record ∈ (vocabulary :: contracts).flatMap (recordsNamed name) :=
      List.mem_flatMap.2 ⟨document, member, inside⟩
    have paired := (perm_comparisons isRead distinct isBaseline).mem_iff.2
      (List.mem_map_of_mem (f := fun record => (baseline, record)) group)
    obtain ⟨declared, isRecord, rfl⟩ := mem_recordsNamed.1 inside
    rcases List.mem_cons.1 paired with same | compared
    · obtain rfl : record = baseline := (Prod.mk.inj same).2
      exact reflexive document member record declared isRecord
    · refine agree (baseline, record) (List.mem_flatMap.2 ⟨record.name, ?_, compared⟩)
      refine mem_firstOccurrences.2 (List.mem_map_of_mem (mem_recordsOf.2 ?_))
      exact ⟨document, member, inside⟩
  · rintro agree ⟨baseline, record⟩ member
    obtain ⟨name, -, compared⟩ := List.mem_flatMap.1 member
    cases isBaseline : baseline? vocabulary contracts name with
    | none =>
      rw [comparisons_eq_nil isRead distinct isBaseline] at compared
      exact absurd compared List.not_mem_nil
    | some first =>
      have paired := (perm_comparisons isRead distinct isBaseline).mem_iff.1
        (List.mem_cons_of_mem _ compared)
      obtain ⟨other, group, same⟩ := List.mem_map.1 paired
      obtain ⟨rfl, rfl⟩ := Prod.mk.inj same
      obtain ⟨document, documentMember, inside⟩ := List.mem_flatMap.1 group
      exact agree name first isBaseline document documentMember other inside

/-- The order of the contracts has no part in which comparisons are made. -/
theorem perm_comparisonsOf {reordered : List Document} (permuted : contracts.Perm reordered) :
    (comparisonsOf vocabulary contracts).Perm (comparisonsOf vocabulary reordered) := by
  have all : (vocabulary :: contracts).Perm (vocabulary :: reordered) := permuted.cons vocabulary
  have isReadReordered : ∀ document ∈ vocabulary :: reordered, document.IsRead :=
    fun document member => isRead document (all.mem_iff.2 member)
  have distinctReordered : ((vocabulary :: reordered).map (·.identifier)).Nodup :=
    (all.map _).nodup_iff.1 distinct
  simp only [comparisonsOf, allComparisons, filter_recordsOf]
  refine List.Perm.flatMap (perm_firstOccurrences fun name => ?_) fun name _ => ?_
  · simp only [List.mem_map, mem_recordsOf, all.mem_iff]
  · cases isBaseline : baseline? vocabulary contracts name with
    | none =>
      have sameBaseline := baseline?_of_perm isRead distinct permuted name
      rw [comparisons_eq_nil isRead distinct isBaseline,
        comparisons_eq_nil isReadReordered distinctReordered (sameBaseline ▸ isBaseline)]
    | some baseline =>
      have sameBaseline := baseline?_of_perm isRead distinct permuted name
      refine List.Perm.cons_inv (a := (baseline, baseline)) ?_
      refine (perm_comparisons isRead distinct isBaseline).trans ?_
      refine ((all.flatMap_right _).map _).trans ?_
      exact (perm_comparisons isReadReordered distinctReordered (sameBaseline ▸ isBaseline)).symm

theorem countP_recordIssues_of_perm (settings : Settings) {reordered : List Document}
    (permuted : contracts.Perm reordered) (severity : Severity) :
    (recordIssues settings vocabulary contracts).countP (·.severity == severity) =
      (recordIssues settings vocabulary reordered).countP (·.severity == severity) := by
  obtain ⟨gaps, first⟩ := reports_recordIssues settings vocabulary contracts
  obtain ⟨otherGaps, second⟩ := reports_recordIssues settings vocabulary reordered
  have same := perm_comparisonsOf isRead distinct permuted
  refine first.countP_eq second (same.flatMap_right _) (fun gap => ?_) severity
  exact (same.flatMap_right _).mem_iff

/-- No record issue is an error exactly when every record agrees with the baseline of its name. -/
theorem no_error_in_recordIssues_iff (settings : Settings) :
    (∀ issue ∈ recordIssues settings vocabulary contracts, issue.severity ≠ .error) ↔
      ∀ name baseline, baseline? vocabulary contracts name = some baseline →
        ∀ document ∈ vocabulary :: contracts, ∀ record ∈ recordsNamed name document,
          AgreesWith settings.typeEquivalences baseline record := by
  have distinctFields : ∀ document ∈ vocabulary :: contracts, ∀ record ∈ document.declarations,
      record.kind = .record → record.fieldNames.Nodup :=
    fun document member record declared => (isRead document member).nodup_fieldNames declared
  have settled := forall_comparisonsOf_iff isRead distinct
    (fun baseline other =>
      (∀ issue ∈ ownIssues settings.typeEquivalences baseline other, issue.severity ≠ .error) ∧
        gapsShown baseline other.fields = [])
    fun document member record declared isRecord =>
      (agreesWith_iff (distinctFields document member record declared isRecord)).1
        (AgreesWith.refl settings.typeEquivalences
          (distinctFields document member record declared isRecord))
  obtain ⟨gaps, reports⟩ := reports_recordIssues settings vocabulary contracts
  have separate : (∀ pair ∈ comparisonsOf vocabulary contracts,
      (∀ issue ∈ ownIssues settings.typeEquivalences pair.1 pair.2, issue.severity ≠ .error) ∧
        gapsShown pair.1 pair.2.fields = []) ↔
      (∀ issue ∈ ownIssuesOf settings.typeEquivalences (comparisonsOf vocabulary contracts),
        issue.severity ≠ .error) ∧ gapsShownBy (comparisonsOf vocabulary contracts) = [] := by
    rw [gapsShownBy, List.flatMap_eq_nil_iff, ownIssuesOf, List.forall_mem_flatMap,
      ← forall₂_and]
  rw [reports.no_error_iff, ← separate, settled]
  refine forall₂_congr fun name baseline => forall_congr' fun isBaseline => ?_
  obtain ⟨home, homeMember, inside⟩ := exists_mem_of_baseline? isBaseline
  obtain ⟨declared, isRecord, -⟩ := mem_recordsNamed.1 inside
  refine forall₂_congr fun document _ => forall₂_congr fun record _ => ?_
  rw [agreesWith_iff (distinctFields home homeMember baseline declared isRecord)]

omit isRead distinct

/-! ### Categories -/

theorem ownIssues_shape {equivalences : List (String × String)} {baseline other : Declaration}
    {issue : Issue} (member : issue ∈ ownIssues equivalences baseline other) :
    issue.category = .typeShapeMismatch := by
  rcases List.mem_append.1 member with lacked | shared
  · obtain ⟨field, -, rfl⟩ := List.mem_map.1 lacked
    rfl
  · obtain ⟨field, -, inside⟩ := List.mem_flatMap.1 shared
    split at inside
    · rcases List.mem_append.1 inside with typed | optional
      · split at typed
        · exact absurd typed List.not_mem_nil
        · obtain rfl := List.mem_singleton.1 typed
          rfl
      · split at optional
        · exact absurd optional List.not_mem_nil
        · obtain rfl := List.mem_singleton.1 optional
          rfl
    · exact absurd inside List.not_mem_nil

theorem recordIssues_shape {settings : Settings} {issue : Issue}
    (member : issue ∈ recordIssues settings vocabulary contracts) :
    issue.category = .typeShapeMismatch := by
  obtain ⟨gaps, reports⟩ := reports_recordIssues settings vocabulary contracts
  obtain ⟨missing, permuted, errors, -⟩ := reports.issues
  rcases List.mem_append.1 (permuted.mem_iff.1 member) with own | lacking
  · obtain ⟨pair, -, inside⟩ := List.mem_flatMap.1 own
    exact ownIssues_shape inside
  · exact (errors issue lacking).2

/-! ### Kinds -/

theorem kindIssues_eq_nil_iff {contract : Document} :
    kindIssues vocabulary contract = [] ↔
      ∀ name, contract.importsName name = true → ∀ own shared,
        contract.declaration? name = some own → vocabulary.declaration? name = some shared →
          own.kind = shared.kind := by
  rw [kindIssues, List.filterMap_eq_nil_iff]
  simp only [Document.importedNames, mem_firstOccurrences, Document.importsName, List.mem_map,
    List.any_eq_true, beq_iff_eq]
  refine forall₂_congr fun name _ => ?_
  unfold kindIssue?
  cases contract.declaration? name with
  | none => simp
  | some own =>
    cases vocabulary.declaration? name with
    | none => simp
    | some shared => simp

theorem kindIssues_shape {contract : Document} {issue : Issue}
    (member : issue ∈ kindIssues vocabulary contract) :
    issue.severity = .error ∧ issue.category = .typeShapeMismatch := by
  obtain ⟨name, -, found⟩ := List.mem_filterMap.1 member
  unfold kindIssue? at found
  split at found
  · split at found
    · exact absurd found (by simp)
    · obtain rfl := Option.some.inj found
      exact ⟨rfl, rfl⟩
  · exact absurd found (by simp)

/-! ### All issues -/

theorem issues_shape {settings : Settings} {issue : Issue}
    (member : issue ∈ issues settings vocabulary contracts) :
    issue.category = .typeShapeMismatch := by
  rcases List.mem_append.1 member with records | kinds
  · exact recordIssues_shape records
  · obtain ⟨contract, -, inside⟩ := List.mem_flatMap.1 kinds
    exact (kindIssues_shape inside).2

/-- The order of the contracts has no part in how many issues of a severity there are. -/
theorem countP_issues_of_perm (isRead : ∀ document ∈ vocabulary :: contracts, document.IsRead)
    (distinct : ((vocabulary :: contracts).map (·.identifier)).Nodup) (settings : Settings)
    {reordered : List Document} (permuted : contracts.Perm reordered) (severity : Severity) :
    (issues settings vocabulary contracts).countP (·.severity == severity) =
      (issues settings vocabulary reordered).countP (·.severity == severity) := by
  rw [issues, issues, List.countP_append, List.countP_append,
    countP_recordIssues_of_perm isRead distinct settings permuted,
    (permuted.flatMap_right (kindIssues vocabulary)).countP_eq]

end Concord.Shape
