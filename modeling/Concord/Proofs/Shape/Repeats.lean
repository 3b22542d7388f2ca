/-
What comparisons that share their known gaps leave out. Each comparison is told by what it finds by
itself, from no known gap: some of its findings are about a gap of the baseline, and only these can be
left out later on. A shared run reports of each comparison all that it finds by itself, in order, but the
gaps that were known at the start or that a comparison before has reported. So over the whole run a gap
is reported once, by the first comparison that shows it, and it is known from then on.
-/

import Concord.Proofs.Shape.Accounting

namespace Concord.Shape

/-! ### Findings -/

/-- An issue, with the gap of the baseline that it is about, if it is about one. -/
structure Finding where
  issue : Issue
  gap? : Option Gap

/-- The gaps that findings are about. -/
def gapsOf (findings : List Finding) : List Gap :=
  findings.filterMap (·.gap?)

theorem gapsOf_cons_some (issue : Issue) (gap : Gap) (findings : List Finding) :
    gapsOf (⟨issue, some gap⟩ :: findings) = gap :: gapsOf findings :=
  rfl

theorem gapsOf_append (first second : List Finding) :
    gapsOf (first ++ second) = gapsOf first ++ gapsOf second :=
  List.filterMap_append

/-- The finding is about no gap that is known. -/
def Finding.isUnknown (known : List Gap) (finding : Finding) : Bool :=
  finding.gap?.all fun gap => !known.contains gap

theorem isUnknown_congr {known other : List Gap} (same : ∀ gap, gap ∈ known ↔ gap ∈ other) :
    Finding.isUnknown known = Finding.isUnknown other := by
  funext finding
  have agree : known.contains = other.contains := by
    funext gap
    rw [Bool.eq_iff_iff, List.contains_iff_mem, List.contains_iff_mem, same]
  rw [Finding.isUnknown, Finding.isUnknown, agree]

theorem filter_isUnknown_nil (findings : List Finding) :
    findings.filter (Finding.isUnknown []) = findings := by
  refine List.filter_eq_self.2 fun finding _ => ?_
  cases gap : finding.gap? <;> simp [Finding.isUnknown, gap]

theorem filter_isUnknown_filter (findings : List Finding) (known more : List Gap) :
    (findings.filter (Finding.isUnknown more)).filter (Finding.isUnknown known) =
      findings.filter (Finding.isUnknown (more ++ known)) := by
  rw [List.filter_filter]
  refine List.filter_congr fun finding _ => ?_
  cases gap : finding.gap? <;> simp [Finding.isUnknown, gap, Bool.and_comm]

theorem gapsOf_filter_isUnknown (findings : List Finding) (known : List Gap) :
    gapsOf (findings.filter (Finding.isUnknown known)) =
      (gapsOf findings).filter fun gap => !known.contains gap := by
  induction findings with
  | nil => rfl
  | cons finding findings inductionHypothesis =>
    obtain ⟨issue, gap?⟩ := finding
    simp only [gapsOf] at inductionHypothesis ⊢
    cases gap? with
    | none => simpa [Finding.isUnknown] using inductionHypothesis
    | some gap => by_cases isKnown : gap ∈ known <;>
        simpa [Finding.isUnknown, isKnown] using inductionHypothesis

/-! ### What the fields of the other record give -/

/-- What fields of the other record give, a gap only where it shows first. -/
def fieldFindings (equivalences : List (String × String)) (baseline other : Declaration) :
    List Field → List Finding
  | [] => []
  | field :: fields =>
    match baseline.field? field.name with
    | some base =>
      (sharedFieldIssues equivalences baseline other base field).map (⟨·, none⟩) ++
        fieldFindings equivalences baseline other fields
    | none =>
      let gap : Gap := ⟨baseline.document, baseline.name, field.name⟩
      ⟨missingIssue field baseline other baseline.name, some gap⟩ ::
        (fieldFindings equivalences baseline other fields).filter (Finding.isUnknown [gap])

theorem filter_isUnknown_map_none (known : List Gap) (issues : List Issue) :
    (issues.map fun issue => (⟨issue, none⟩ : Finding)).filter (Finding.isUnknown known) =
      issues.map fun issue => ⟨issue, none⟩ :=
  List.filter_eq_self.2 fun finding member => by
    obtain ⟨issue, -, rfl⟩ := List.mem_map.1 member
    rfl

theorem gapsOf_map_none (issues : List Issue) :
    gapsOf (issues.map fun issue => (⟨issue, none⟩ : Finding)) = [] := by
  rw [gapsOf, List.filterMap_map]
  exact List.filterMap_eq_nil_iff.2 fun _ _ => rfl

theorem map_issue_map_none (issues : List Issue) :
    (issues.map fun issue => (⟨issue, none⟩ : Finding)).map (·.issue) = issues := by
  rw [List.map_map]
  exact List.map_id _

section

variable (equivalences : List (String × String)) (baseline other : Declaration)

/-- The walk over the fields reports what they give, but the gaps that are known. -/
theorem issues_otherFieldIssues (known : List Gap) (fields : List Field) :
    (otherFieldIssues equivalences baseline other known fields).1 =
      ((fieldFindings equivalences baseline other fields).filter (Finding.isUnknown known)).map
        (·.issue) := by
  induction fields generalizing known with
  | nil => rfl
  | cons field fields inductionHypothesis =>
    rw [otherFieldIssues, fieldFindings]
    cases baseline.field? field.name with
    | some base =>
      simp only [List.filter_append, List.map_append, filter_isUnknown_map_none, map_issue_map_none,
        inductionHypothesis]
    | none =>
      simp only [List.filter_cons, filter_isUnknown_filter, List.singleton_append]
      by_cases isKnown : (⟨baseline.document, baseline.name, field.name⟩ : Gap) ∈ known
      · have same : Finding.isUnknown (⟨baseline.document, baseline.name, field.name⟩ :: known) =
            Finding.isUnknown known :=
          isUnknown_congr fun gap => by simpa using fun isGap => isGap ▸ isKnown
        simp [Finding.isUnknown, isKnown, inductionHypothesis, same]
      · simp [Finding.isUnknown, isKnown, inductionHypothesis]

theorem mem_gapsOf_fieldFindings {gap : Gap} (fields : List Field) :
    gap ∈ gapsOf (fieldFindings equivalences baseline other fields) ↔
      gap ∈ gapsShown baseline fields := by
  induction fields with
  | nil => rfl
  | cons field fields inductionHypothesis =>
    rw [fieldFindings]
    cases shared : baseline.field? field.name with
    | some base =>
      simp only [gapsOf_append, gapsOf_map_none, List.nil_append, inductionHypothesis]
      simp [gapsShown, shared]
    | none =>
      have shown : gapsShown baseline (field :: fields) =
          ⟨baseline.document, baseline.name, field.name⟩ :: gapsShown baseline fields := by
        simp [gapsShown, shared]
      simp only [gapsOf_cons_some, gapsOf_filter_isUnknown, shown, List.mem_cons, List.mem_filter,
        inductionHypothesis]
      by_cases here : gap = ⟨baseline.document, baseline.name, field.name⟩ <;> simp [here]

theorem nodup_gapsOf_fieldFindings (fields : List Field) :
    (gapsOf (fieldFindings equivalences baseline other fields)).Nodup := by
  induction fields with
  | nil => exact List.nodup_nil
  | cons field fields inductionHypothesis =>
    rw [fieldFindings]
    cases baseline.field? field.name with
    | some base => simpa only [gapsOf_append, gapsOf_map_none, List.nil_append] using inductionHypothesis
    | none =>
      simp only [gapsOf_cons_some, gapsOf_filter_isUnknown, List.nodup_cons]
      exact ⟨by simp, inductionHypothesis.filter _⟩

/-- A finding of the fields is one of two shared fields, about no gap, or it is that the baseline lacks a
field, about that gap. -/
theorem of_mem_fieldFindings {finding : Finding} {fields : List Field}
    (member : finding ∈ fieldFindings equivalences baseline other fields) :
    (finding.gap? = none ∧ finding.issue ∈ sharedIssues equivalences baseline other fields) ∨
      ∃ field ∈ fields, baseline.field? field.name = none ∧
        finding = ⟨missingIssue field baseline other baseline.name,
          some ⟨baseline.document, baseline.name, field.name⟩⟩ := by
  induction fields with
  | nil => exact absurd member List.not_mem_nil
  | cons field fields inductionHypothesis =>
    have further : sharedIssues equivalences baseline other (field :: fields) =
        sharedIssues equivalences baseline other [field] ++
          sharedIssues equivalences baseline other fields := by
      rw [sharedIssues, sharedIssues, sharedIssues, ← List.flatMap_append, List.singleton_append]
    have later : finding ∈ fieldFindings equivalences baseline other fields →
        (finding.gap? = none ∧
            finding.issue ∈ sharedIssues equivalences baseline other (field :: fields)) ∨
          ∃ field' ∈ field :: fields, baseline.field? field'.name = none ∧
            finding = ⟨missingIssue field' baseline other baseline.name,
              some ⟨baseline.document, baseline.name, field'.name⟩⟩ := by
      intro inside
      rcases inductionHypothesis inside with ⟨noGap, shared⟩ | ⟨lacked, listed, isLacked⟩
      · exact .inl ⟨noGap, further ▸ List.mem_append_right _ shared⟩
      · exact .inr ⟨lacked, List.mem_cons_of_mem _ listed, isLacked⟩
    rw [fieldFindings] at member
    cases shared : baseline.field? field.name with
    | some base =>
      rw [shared] at member
      rcases List.mem_append.1 member with here | inside
      · obtain ⟨issue, found, rfl⟩ := List.mem_map.1 here
        refine .inl ⟨rfl, further ▸ List.mem_append_left _ ?_⟩
        simpa [sharedIssues, shared] using found
      · exact later inside
    | none =>
      rw [shared] at member
      rcases List.mem_cons.1 member with rfl | inside
      · exact .inr ⟨field, List.mem_cons_self, shared, rfl⟩
      · exact later (List.mem_filter.1 inside).1

end

/-! ### One comparison -/

/-- Two records that are compared, and the equivalences of types that count. -/
structure Comparison where
  equivalences : List (String × String)
  baseline : Declaration
  other : Declaration

namespace Comparison

/-- The issues of the comparison when some gaps are known, and the gaps known afterwards. -/
def outcome (comparison : Comparison) (known : List Gap) : List Issue × List Gap :=
  compare comparison.equivalences comparison.baseline comparison.other known

/-- Only records are compared. -/
def IsOfRecords (comparison : Comparison) : Prop :=
  comparison.baseline.kind = .record ∧ comparison.other.kind = .record

instance (comparison : Comparison) : Decidable comparison.IsOfRecords :=
  inferInstanceAs (Decidable (_ ∧ _))

/-- What the comparison finds by itself. -/
def findings (comparison : Comparison) : List Finding :=
  if comparison.IsOfRecords then
    (lackedByOther comparison.baseline comparison.other).map (⟨·, none⟩) ++
      fieldFindings comparison.equivalences comparison.baseline comparison.other
        comparison.other.fields
  else []

variable (comparison : Comparison)

theorem outcome_of_records (records : comparison.IsOfRecords) (known : List Gap) :
    comparison.outcome known =
      let found := otherFieldIssues comparison.equivalences comparison.baseline comparison.other known
        comparison.other.fields
      (lackedByOther comparison.baseline comparison.other ++ found.1, found.2) :=
  if_pos records

theorem outcome_of_not_records (others : ¬ comparison.IsOfRecords) (known : List Gap) :
    comparison.outcome known = ([], known) :=
  if_neg others

/-- A comparison reports what it finds by itself, but the gaps that are known. -/
theorem issues_outcome (known : List Gap) :
    (comparison.outcome known).1 =
      (comparison.findings.filter (Finding.isUnknown known)).map (·.issue) := by
  rw [findings]
  by_cases records : comparison.IsOfRecords
  · rw [if_pos records, comparison.outcome_of_records records, List.filter_append, List.map_append,
      filter_isUnknown_map_none, map_issue_map_none, ← issues_otherFieldIssues]
  · rw [if_neg records, comparison.outcome_of_not_records records]
    rfl

theorem issues_outcome_nil : (comparison.outcome []).1 = comparison.findings.map (·.issue) := by
  rw [issues_outcome, filter_isUnknown_nil]

theorem mem_gapsOf_findings {gap : Gap} :
    gap ∈ gapsOf comparison.findings ↔
      comparison.IsOfRecords ∧ gap ∈ gapsShown comparison.baseline comparison.other.fields := by
  rw [findings]
  by_cases records : comparison.IsOfRecords
  · rw [if_pos records, gapsOf_append, gapsOf_map_none, List.nil_append, mem_gapsOf_fieldFindings]
    exact (and_iff_right records).symm
  · rw [if_neg records]
    exact ⟨fun absent => absurd absent List.not_mem_nil, fun both => absurd both.1 records⟩

theorem of_mem_findings {finding : Finding} (member : finding ∈ comparison.findings) :
    (finding.gap? = none ∧ finding.issue ∈
        ownIssues comparison.equivalences comparison.baseline comparison.other) ∨
      ∃ field ∈ comparison.other.fields, comparison.baseline.field? field.name = none ∧
        finding = ⟨missingIssue field comparison.baseline comparison.other comparison.baseline.name,
          some ⟨comparison.baseline.document, comparison.baseline.name, field.name⟩⟩ := by
  rw [findings] at member
  split at member
  · rcases List.mem_append.1 member with lacked | fields
    · obtain ⟨issue, found, rfl⟩ := List.mem_map.1 lacked
      exact .inl ⟨rfl, List.mem_append_left _ found⟩
    · exact (of_mem_fieldFindings _ _ _ fields).imp_left fun both =>
        ⟨both.1, List.mem_append_right _ both.2⟩
  · exact absurd member List.not_mem_nil

theorem nodup_gapsOf_findings : (gapsOf comparison.findings).Nodup := by
  rw [findings]
  split
  · rw [gapsOf_append, gapsOf_map_none, List.nil_append]
    exact nodup_gapsOf_fieldFindings ..
  · exact List.nodup_nil

theorem mem_outcome {known : List Gap} {gap : Gap} :
    gap ∈ (comparison.outcome known).2 ↔ gap ∈ known ∨ gap ∈ gapsOf comparison.findings := by
  rw [mem_gapsOf_findings]
  by_cases records : comparison.IsOfRecords
  · rw [and_iff_right records]
    exact (reports_compare comparison.equivalences records.1 records.2 known).gaps gap
  · simp [comparison.outcome_of_not_records records, records]

end Comparison

/-! ### Comparisons that share what they know -/

/-- The issues of each of several comparisons that share the known gaps, and the gaps known
afterwards. -/
def outcomes (known : List Gap) : List Comparison → List (List Issue) × List Gap
  | [] => ([], known)
  | comparison :: comparisons =>
    let (issues, known) := comparison.outcome known
    let (further, known) := outcomes known comparisons
    (issues :: further, known)

/-- What each of several comparisons reports. -/
def reported (known : List Gap) : List Comparison → List (List Finding)
  | [] => []
  | comparison :: comparisons =>
    comparison.findings.filter (Finding.isUnknown known) ::
      reported (known ++ gapsOf comparison.findings) comparisons

theorem reported_congr {known other : List Gap} (same : ∀ gap, gap ∈ known ↔ gap ∈ other)
    (comparisons : List Comparison) : reported known comparisons = reported other comparisons := by
  induction comparisons generalizing known other with
  | nil => rfl
  | cons comparison comparisons inductionHypothesis =>
    rw [reported, reported, isUnknown_congr same]
    refine congrArg _ (inductionHypothesis fun gap => ?_)
    rw [List.mem_append, List.mem_append, same]

theorem reported_append (known : List Gap) (earlier later : List Comparison) :
    reported known (earlier ++ later) =
      reported known earlier ++
        reported (known ++ earlier.flatMap fun comparison => gapsOf comparison.findings) later := by
  induction earlier generalizing known with
  | nil => simp [reported]
  | cons comparison earlier inductionHypothesis =>
    rw [List.cons_append, reported, reported, inductionHypothesis, List.flatMap_cons,
      List.append_assoc, List.cons_append]

theorem length_reported (known : List Gap) (comparisons : List Comparison) :
    (reported known comparisons).length = comparisons.length := by
  induction comparisons generalizing known with
  | nil => rfl
  | cons comparison comparisons inductionHypothesis => simp [reported, inductionHypothesis]

theorem mem_gapsOf_reported {known : List Gap} {comparisons : List Comparison} {gap : Gap} :
    gap ∈ gapsOf (reported known comparisons).flatten ↔
      gap ∉ known ∧ ∃ comparison ∈ comparisons, gap ∈ gapsOf comparison.findings := by
  induction comparisons generalizing known with
  | nil => simp [reported, gapsOf]
  | cons comparison comparisons inductionHypothesis =>
    rw [reported, List.flatten_cons, gapsOf_append, gapsOf_filter_isUnknown, List.mem_append,
      inductionHypothesis]
    simp only [List.mem_filter, List.mem_append, List.exists_mem_cons_iff]
    by_cases isKnown : gap ∈ known <;> by_cases here : gap ∈ gapsOf comparison.findings <;>
      simp [isKnown, here]

theorem nodup_gapsOf_reported (known : List Gap) (comparisons : List Comparison) :
    (gapsOf (reported known comparisons).flatten).Nodup := by
  induction comparisons generalizing known with
  | nil => exact List.nodup_nil
  | cons comparison comparisons inductionHypothesis =>
    rw [reported, List.flatten_cons, gapsOf_append, gapsOf_filter_isUnknown]
    refine List.nodup_append.2 ⟨comparison.nodup_gapsOf_findings.filter _, inductionHypothesis _, ?_⟩
    rintro gap here _ later rfl
    exact (mem_gapsOf_reported.1 later).1 (List.mem_append_right _ (List.mem_filter.1 here).1)

theorem issues_outcomes (known : List Gap) (comparisons : List Comparison) :
    (outcomes known comparisons).1 =
      (reported known comparisons).map fun findings => findings.map (·.issue) := by
  induction comparisons generalizing known with
  | nil => rfl
  | cons comparison comparisons inductionHypothesis =>
    have same : reported (comparison.outcome known).2 comparisons =
        reported (known ++ gapsOf comparison.findings) comparisons :=
      reported_congr (fun gap => by rw [comparison.mem_outcome, List.mem_append]) comparisons
    rw [reported, List.map_cons, ← comparison.issues_outcome, ← same, ← inductionHypothesis]
    rfl

theorem mem_outcomes {known : List Gap} {comparisons : List Comparison} {gap : Gap} :
    gap ∈ (outcomes known comparisons).2 ↔
      gap ∈ known ∨ ∃ comparison ∈ comparisons, gap ∈ gapsOf comparison.findings := by
  induction comparisons generalizing known with
  | nil => simp [outcomes]
  | cons comparison comparisons inductionHypothesis =>
    rw [outcomes]
    simp only [inductionHypothesis, comparison.mem_outcome, List.exists_mem_cons_iff, or_assoc]

/-- What a comparison in a shared run reports is what it finds by itself without the gaps that were known
at the start or are reported before it. -/
theorem getElem?_reported (known : List Gap) (earlier : List Comparison) (comparison : Comparison)
    (later : List Comparison) :
    (reported known (earlier ++ comparison :: later))[earlier.length]? =
      some (comparison.findings.filter
        (Finding.isUnknown (known ++ gapsOf (reported known earlier).flatten))) := by
  have same : Finding.isUnknown (known ++ earlier.flatMap fun comparison => gapsOf comparison.findings) =
      Finding.isUnknown (known ++ gapsOf (reported known earlier).flatten) := by
    refine isUnknown_congr fun gap => ?_
    rw [List.mem_append, List.mem_append, mem_gapsOf_reported, List.mem_flatMap]
    by_cases isKnown : gap ∈ known <;> simp [isKnown]
  rw [reported_append, ← length_reported known earlier, List.getElem?_append_right (Nat.le_refl _),
    Nat.sub_self, reported, List.getElem?_cons_zero, same]

/-- Sharing the known gaps leaves out repeats and nothing else. -/
structure OnlyOmitsRepeats (known : List Gap) (comparisons : List Comparison) : Prop where
  /-- From no known gap a comparison gives the issues of all its findings. -/
  alone : ∀ comparison ∈ comparisons,
    (comparison.outcome []).1 = comparison.findings.map (·.issue)
  /-- A finding is about a gap exactly when it is that the baseline lacks a field. -/
  about : ∀ comparison ∈ comparisons, ∀ finding ∈ comparison.findings,
    (finding.gap? = none ∧ finding.issue ∈
        ownIssues comparison.equivalences comparison.baseline comparison.other) ∨
      ∃ field ∈ comparison.other.fields, comparison.baseline.field? field.name = none ∧
        finding = ⟨missingIssue field comparison.baseline comparison.other comparison.baseline.name,
          some ⟨comparison.baseline.document, comparison.baseline.name, field.name⟩⟩
  /-- In the run each comparison gives the issues of what it reports. -/
  issues : (outcomes known comparisons).1 =
    (reported known comparisons).map fun findings => findings.map (·.issue)
  /-- It reports all its findings in order, but those about a gap that was known at the start or that a
  comparison before has reported. -/
  omitted : ∀ earlier comparison later, comparisons = earlier ++ comparison :: later →
    (reported known comparisons)[earlier.length]? = some (comparison.findings.filter
      (Finding.isUnknown
        (known ++ gapsOf ((reported known comparisons).take earlier.length).flatten)))
  /-- No gap is reported twice. -/
  once : (gapsOf (reported known comparisons).flatten).Nodup
  /-- A gap that was not known is reported by the first comparison that shows it. -/
  first : ∀ earlier comparison later, comparisons = earlier ++ comparison :: later →
    ∀ gap, (∃ findings, (reported known comparisons)[earlier.length]? = some findings ∧
        gap ∈ gapsOf findings) ↔
      gap ∉ known ∧ gap ∈ gapsOf comparison.findings ∧
        ∀ before ∈ earlier, gap ∉ gapsOf before.findings
  /-- Known afterwards are the gaps known at the start and those that the compared records show. -/
  known : ∀ gap, gap ∈ (outcomes known comparisons).2 ↔
    gap ∈ known ∨ ∃ comparison ∈ comparisons, comparison.IsOfRecords ∧
      gap ∈ gapsShown comparison.baseline comparison.other.fields

theorem outcomes_omit_repeats (known : List Gap) (comparisons : List Comparison) :
    OnlyOmitsRepeats known comparisons := by
  have taken : ∀ earlier comparison later, comparisons = earlier ++ comparison :: later →
      (reported known comparisons).take earlier.length = reported known earlier := by
    rintro earlier comparison later rfl
    rw [reported_append, ← length_reported known earlier, List.take_left']
    rfl
  refine
    { alone := fun comparison _ => comparison.issues_outcome_nil
      about := fun comparison _ finding member => comparison.of_mem_findings member
      issues := issues_outcomes known comparisons
      omitted := ?_
      once := nodup_gapsOf_reported known comparisons
      first := ?_
      known := fun gap => ?_ }
  · intro earlier comparison later parts
    rw [taken earlier comparison later parts, parts]
    exact getElem?_reported known earlier comparison later
  · intro earlier comparison later parts gap
    rw [parts, getElem?_reported]
    simp only [Option.some.injEq, exists_eq_left', gapsOf_filter_isUnknown, List.mem_filter]
    have before : gap ∈ gapsOf (reported known earlier).flatten ↔
        gap ∉ known ∧ ∃ comparison ∈ earlier, gap ∈ gapsOf comparison.findings :=
      mem_gapsOf_reported
    by_cases isKnown : gap ∈ known <;> simp [isKnown, before]
  · rw [mem_outcomes]
    simp only [Comparison.mem_gapsOf_findings]

/-! ### The comparisons of a verification -/

theorem outcomes_append (known : List Gap) (earlier later : List Comparison) :
    outcomes known (earlier ++ later) =
      ((outcomes known earlier).1 ++ (outcomes (outcomes known earlier).2 later).1,
        (outcomes (outcomes known earlier).2 later).2) := by
  induction earlier generalizing known with
  | nil => rfl
  | cons comparison earlier inductionHypothesis =>
    simp only [List.cons_append, outcomes, inductionHypothesis]

theorem compareAll_eq (equivalences : List (String × String)) (baseline : Declaration)
    (known : List Gap) (others : List Declaration) :
    compareAll equivalences baseline known others =
      let found := outcomes known (others.map fun other => ⟨equivalences, baseline, other⟩)
      (found.1.flatten, found.2) := by
  induction others generalizing known with
  | nil => rfl
  | cons other others inductionHypothesis =>
    simp only [compareAll, inductionHypothesis, List.map_cons, outcomes, List.flatten_cons]
    rfl

theorem groupIssues_eq (equivalences : List (String × String)) (vocabulary : String)
    (known : List Gap) (records : List Declaration) :
    groupIssues equivalences vocabulary known records =
      let found := outcomes known ((comparisons vocabulary records).map fun pair =>
        ⟨equivalences, pair.1, pair.2⟩)
      (found.1.flatten, found.2) := by
  cases found : records[baselineIndex vocabulary records]? with
  | none => simp [groupIssues, comparisons, found, outcomes]
  | some baseline =>
    simp only [groupIssues, comparisons, found, compareAll_eq, List.map_map]
    rfl

theorem recordIssuesFrom_eq (equivalences : List (String × String)) (vocabulary : String)
    (records : List Declaration) (known : List Gap) (names : List String) :
    recordIssuesFrom equivalences vocabulary records known names =
      (outcomes known ((allComparisons vocabulary records names).map fun pair =>
        ⟨equivalences, pair.1, pair.2⟩)).1.flatten := by
  induction names generalizing known with
  | nil => rfl
  | cons name names inductionHypothesis =>
    simp only [recordIssuesFrom, groupIssues_eq, inductionHypothesis, allComparisons,
      List.flatMap_cons, List.map_append, outcomes_append, List.flatten_append]

/-- A verification compares all its records in one run, from no known gap. -/
theorem recordIssues_eq_outcomes (settings : Settings) (vocabulary : Document)
    (contracts : List Document) :
    recordIssues settings vocabulary contracts =
      (outcomes [] ((comparisonsOf vocabulary contracts).map fun pair =>
        ⟨settings.typeEquivalences, pair.1, pair.2⟩)).1.flatten :=
  recordIssuesFrom_eq ..

end Concord.Shape
