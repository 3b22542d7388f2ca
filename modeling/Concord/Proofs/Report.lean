/-
A report of this program's own making is never refused by the schema of reports. Every issue says
something and stands on a line that is counted from one, or on none; every cycle has two places; and the
share of a coverage, rounded as it is, stays between nothing and a hundred.
-/

import Concord.Coverage.Report
import Concord.Proofs.Coverage
import Concord.Proofs.Dependency.Walk
import Concord.Proofs.Number
import Concord.Proofs.Schema
import Concord.Proofs.Settings
import Concord.Proofs.Value.Entries
import Concord.Proofs.Verification.Order
import Concord.Proofs.Verification.Places
import Concord.Report

namespace Concord

open Schema

/-! ### Issues -/

/-- An issue that a report can hold: it says something, and its line is counted from one. -/
structure Issue.IsReportable (issue : Issue) : Prop where
  message : issue.message ≠ ""
  line : ∀ line ∈ issue.line, 0 < line

theorem Issue.StandsAt.isReportable {issue : Issue} {document : String} {line : Nat}
    (stands : issue.StandsAt document line) (counted : 0 < line) : issue.IsReportable :=
  ⟨stands.message, fun other same => by
    rw [stands.line, Option.mem_some] at same
    exact same ▸ counted⟩

theorem DependencyGraph.isReportable_cycleIssue (cycle : List String) :
    (cycleIssue cycle).IsReportable := by
  refine ⟨?_, fun line absent => absurd absent (by simp [cycleIssue, Issue.error])⟩
  simp only [cycleIssue, Issue.error]
  exact Issue.trimmed_ne_empty _ _ (by decide)

theorem DependencyGraph.two_le_length_of_mem_cycles {graph : DependencyGraph} {cycle : List String}
    (member : cycle ∈ graph.cycles) : 2 ≤ cycle.length := by
  obtain ⟨node, inner, rfl, -⟩ := (isCycle_of_mem_cycles member).closed
  rw [List.length_append, List.length_cons, List.length_singleton]
  omega

theorem Issue.IsReportable.meets_line {issue : Issue} (isReportable : issue.IsReportable) :
    Meets [.types [.integer, .null], .minimum 1] issue.reported.line := by
  simp only [Issue.reported]
  cases stands : issue.line with
  | none =>
    refine meets_scalar (List.forall_mem_cons.2 ⟨violationHere_types rfl, ?_⟩)
    exact List.forall_mem_singleton.2 rfl
  | some line =>
    have counted := Nat.not_lt.2 (isReportable.line line stands)
    refine meets_scalar (List.forall_mem_cons.2 ⟨violationHere_types rfl, ?_⟩)
    refine List.forall_mem_singleton.2 (violationHere_minimum ?_)
    exact (less_natural line 1).trans (decide_eq_false counted)

theorem Issue.IsReportable.meets {issue : Issue} (isReportable : issue.IsReportable) :
    reportedIssue.Meets issue.reported.value := by
  refine meets_closedObject (by decide) ?_
  refine .cons ⟨rfl, ?_⟩ <| .cons ⟨rfl, ?_⟩ <| .cons ⟨rfl, ?_⟩ <| .cons ⟨rfl, ?_⟩ <|
    .cons ⟨rfl, ?_⟩ <| .cons ⟨rfl, ?_⟩ .nil
  · refine meets_oneOfTexts ?_
    simp only [Issue.reported]
    cases issue.severity <;> decide
  · refine meets_oneOfTexts ?_
    simp only [Issue.reported]
    cases issue.category <;> decide
  · exact meets_someText isReportable.message
  · exact meets_anyText issue.document
  · exact isReportable.meets_line
  · exact meets_optionalText issue.suggestion

/-! ### Drafts -/

/-- A draft that meets the schema of reports whatever the run: what other than texts may stand in it is
left out, and so are counts that are none. -/
structure Draft.IsSound (draft : Draft) : Prop where
  sharedVocabulary : someText.Meets draft.sharedVocabulary
  contracts : ∀ name ∈ draft.contracts, anyText.Meets (.scalar name)
  titles : ∀ entry ∈ draft.titles, anyText.Meets entry.2
  tally : reportStatistics.Meets draft.tally.value
  cycles : ∀ cycle ∈ draft.cycles, 2 ≤ cycle.length
  issues : ∀ issue ∈ draft.issues, reportedIssue.Meets issue.value

namespace Draft

variable {draft : Draft}

theorem meets_summary (draft : Draft) : reportSummary.Meets draft.summary := by
  refine meets_closedObject (by decide) ?_
  refine .cons ⟨rfl, meets_count _⟩ <| .cons ⟨rfl, meets_count _⟩ <| .cons ⟨rfl, meets_count _⟩ <|
    .cons ⟨rfl, meets_othersOnly ?_⟩ .nil
  refine List.forall_mem_map.2 fun entry member => ?_
  obtain ⟨⟨name, number⟩, -, made⟩ := List.mem_filterMap.1 member
  obtain ⟨-, same⟩ := Option.ite_none_left_eq_some.1 made
  exact Option.some.inj same ▸ meets_count number

theorem IsSound.meets_titles (isSound : draft.IsSound) :
    Meets [.types [.object], .others anyText] (.mapping draft.contractTitles) := by
  refine meets_othersOnly (Value.forall_mem_ofEntries (List.forall_mem_map.2 fun name _ => ?_))
  cases found : draft.titles.find? fun entry => entry.1.sameKey name with
  | none => exact meets_anyText ""
  | some entry => exact isSound.titles entry (List.mem_of_find?_eq_some found)

theorem meets_graph (graph : DependencyGraph) :
    (listOf dependencyNode).Meets (.list (graph.entries.map fun (name, targets) =>
      .record [("name", .text name), ("dependencies", .texts targets)])) := by
  refine meets_listOf (List.forall_mem_map.2 fun entry _ => ?_)
  exact meets_closedObject (by decide) <|
    .cons ⟨rfl, meets_anyText entry.1⟩ <| .cons ⟨rfl, meets_texts entry.2⟩ .nil

theorem meets_status (passed : Bool) : (oneOfTexts ["pass", "fail"]).Meets (.text (statusName passed)) :=
  meets_oneOfTexts (by cases passed <;> decide)

theorem reportText_ne_empty (now : Instant) : now.reportText ≠ "" := by
  intro absent
  have := congrArg String.toList absent
  simp [Instant.reportText] at this

/-- The payload of a sound draft meets the schema of reports. -/
theorem IsSound.meets_payload (isSound : draft.IsSound) (runId : String) (now : Instant) :
    report.Meets (draft.payload runId now) := by
  refine meets_closedObject (by decide) ?_
  refine .cons ⟨rfl, meets_fixedText _⟩ <| .cons ⟨rfl, meets_versionOne⟩ <|
    .cons ⟨rfl, meets_fixedText _⟩ <| .cons ⟨rfl, meets_fixedText _⟩ <|
    .cons ⟨rfl, meets_anyText runId⟩ <| .cons ⟨rfl, meets_someText (reportText_ne_empty now)⟩ <|
    .cons ⟨rfl, meets_status _⟩ <| .cons ⟨rfl, meets_truthValue _⟩ <|
    .cons ⟨rfl, isSound.sharedVocabulary⟩ <|
    .cons ⟨rfl, meets_listOf (List.forall_mem_map.2 isSound.contracts)⟩ <|
    .cons ⟨rfl, isSound.meets_titles⟩ <| .cons ⟨rfl, draft.meets_summary⟩ <|
    .cons ⟨rfl, isSound.tally⟩ <| .cons ⟨rfl, meets_graph draft.graph⟩ <|
    .cons ⟨rfl, ?_⟩ <| .cons ⟨rfl, meets_listOf (List.forall_mem_map.2 isSound.issues)⟩ .nil
  refine meets_listOf (List.forall_mem_map.2 fun cycle member => ?_)
  refine meets_listWithLeast ?_ (List.forall_mem_map.2 fun text _ => meets_anyText text)
  rw [List.length_map]
  exact isSound.cycles cycle member

end Draft

/-! ### Verifications -/

namespace Verification

variable {reading : Pattern.Reading} {settings : Settings} {vocabulary : Document}
  {contracts : List Document} {verification : Verification}

theorem isReportable_of_mem_issues (isRead : ∀ document ∈ vocabulary :: contracts, document.IsRead)
    (isOf : verification.IsOf reading settings vocabulary contracts) {issue : Issue}
    (member : issue ∈ verification.issues) : issue.IsReportable := by
  have contractRead : ∀ contract ∈ contracts, contract.IsRead := fun contract listed =>
    isRead contract (List.mem_cons_of_mem _ listed)
  simp only [issues, Findings.all, List.mem_append] at member
  rcases member with ((resolved | cyclic) | named) | shaped
  · rw [isOf.resolution, Resolution.issues, List.mem_append, List.mem_flatMap,
      List.mem_flatMap] at resolved
    rcases resolved with ⟨contract, listed, found⟩ | ⟨contract, listed, found⟩
    · obtain ⟨imported, isImported, stands⟩ := Resolution.standsAt_of_mem_unresolvedImports found
      exact stands.isReportable ((contractRead contract listed).importLine_pos isImported)
    · obtain ⟨declaration, declared, stands⟩ := Resolution.standsAt_of_mem_usageIssues found
      exact stands.isReportable ((contractRead contract listed).line_pos declared)
  · rw [isOf.cycles] at cyclic
    obtain ⟨cycle, -, rfl⟩ := List.mem_map.1 cyclic
    exact DependencyGraph.isReportable_cycleIssue cycle
  · obtain ⟨document, listed, declaration, declared, stands⟩ :=
      Naming.standsAt_of_mem_issues isOf.naming named
    exact stands.isReportable ((isRead document listed).line_pos declared)
  · rw [isOf.shapes, Shape.issues, List.mem_append, List.mem_flatMap] at shaped
    rcases shaped with found | ⟨contract, listed, found⟩
    · obtain ⟨record, isRecord, -, stands⟩ := Shape.standsAt_of_mem_recordIssuesFrom found
      obtain ⟨document, listed, declared⟩ := Shape.exists_document_of_mem_recordsOf isRecord
      exact stands.isReportable ((isRead document listed).line_pos declared)
    · obtain ⟨declaration, declared, stands⟩ := Shape.standsAt_of_mem_kindIssues found
      exact stands.isReportable ((contractRead contract listed).line_pos declared)

theorem meets_statistics (statistics : Statistics) :
    reportStatistics.Meets statistics.tally.value :=
  meets_closedObject (by decide) <|
    .cons ⟨rfl, meets_count _⟩ <| .cons ⟨rfl, meets_count _⟩ <| .cons ⟨rfl, meets_count _⟩ <|
    .cons ⟨rfl, meets_count _⟩ <| .cons ⟨rfl, meets_count _⟩ <| .cons ⟨rfl, meets_count _⟩ .nil

theorem named_of_eq_ok (success : of reading settings vocabulary contracts = .ok verification) :
    verification.sharedVocabulary = vocabulary.identifier ∧
      verification.cycles = (DependencyGraph.ofContracts contracts).cycles := by
  unfold of at success
  cases found : Naming.issues reading settings vocabulary contracts with
  | error bad => simp [found, bind, Except.bind] at success
  | ok naming =>
    simp only [found, bind, Except.bind, pure, Except.pure, Except.ok.injEq] at success
    exact success ▸ ⟨rfl, rfl⟩

theorem isSound_draft (named : vocabulary.identifier ≠ "")
    (isRead : ∀ document ∈ vocabulary :: contracts, document.IsRead)
    (success : of reading settings vocabulary contracts = .ok verification) :
    verification.draft.IsSound := by
  obtain ⟨isVocabulary, fromGraph⟩ := named_of_eq_ok success
  refine ⟨?_, ?_, ?_, meets_statistics _, fun cycle member => ?_, ?_⟩
  · exact meets_someText (isVocabulary ▸ named)
  · exact List.forall_mem_map.2 fun name _ => meets_anyText name
  · exact List.forall_mem_map.2 fun entry _ => meets_anyText entry.2
  · have found : cycle ∈ verification.cycles := member
    rw [fromGraph] at found
    exact DependencyGraph.two_le_length_of_mem_cycles found
  · exact List.forall_mem_map.2 fun issue member =>
      (isReportable_of_mem_issues isRead (isOf_of_eq_ok success) member).meets

end Verification

/-! ### Coverages -/

namespace Coverage

/-- Every demand has a name that will do. -/
theorem names_ne_nil_of_mem_allDemands {domains : List String} {demand : Demand}
    (member : demand ∈ allDemands domains) : demand.names ≠ [] := by
  rcases List.mem_append.1 member with ofDomain | common
  · obtain ⟨domain, -, inside⟩ := List.mem_flatMap.1 ofDomain
    simp only [demandsOf, List.mem_cons, List.not_mem_nil, or_false] at inside
    rcases inside with rfl | rfl | rfl | rfl <;> exact List.cons_ne_nil _ _
  · obtain ⟨expectation, -, rfl⟩ := List.mem_map.1 common
    exact List.cons_ne_nil _ _

theorem meets_item {item : Item} (named : item.expected ≠ []) : vocabularyItem.Meets item.value := by
  refine meets_closedObject (by decide) <|
    .cons ⟨rfl, meets_anyText item.label⟩ <| .cons ⟨rfl, ?_⟩ <|
    .cons ⟨rfl, meets_truthValue item.isFound⟩ <| .cons ⟨rfl, meets_optionalText item.actual⟩ <|
    .cons ⟨rfl, meets_optionalText item.suggestion⟩ .nil
  refine meets_listWithLeast ?_ (List.forall_mem_map.2 fun text _ => meets_anyText text)
  rw [List.length_map]
  exact List.length_pos_iff.2 named

/-- A coverage whose domains are named and whose items each expect a name. -/
structure IsSound (coverage : Coverage) : Prop where
  domains : ∀ row ∈ coverage.domains, row.domain ≠ ""
  items : ∀ item ∈ coverage.items, item.expected ≠ []

theorem isWithin_percentage (coverage : Coverage) : coverage.percentage.IsWithin 100 := by
  unfold percentage
  split
  · exact Binary64.isWithin_ofInt (by decide)
  · rename_i some
    have found : coverage.foundCount ≤ 1 * coverage.expectedCount := by
      rw [Nat.one_mul, coverage.foundCount_eq_length, coverage.expectedCount_eq_length]
      exact List.length_filter_le _ _
    exact (Binary64.isWithin_ofRatio (Nat.pos_of_ne_zero some) found (by decide)).mul
      (Binary64.isWithin_ofInt (by decide)) (by decide)

theorem meets_share {value : Binary64} (within : value.IsWithin 100) :
    Meets [.types [.number], .minimum 0, .maximum 100] (.number (.double value)) := by
  refine meets_scalar (List.forall_mem_cons.2 ⟨violationHere_types rfl, ?_⟩)
  refine List.forall_mem_cons.2 ⟨violationHere_minimum within.not_less_zero, ?_⟩
  exact List.forall_mem_singleton.2 (violationHere_maximum within.not_greater)

theorem IsSound.meets_payload {coverage : Coverage} (isSound : coverage.IsSound) (runId : String) :
    Schema.vocabulary.Meets (coverage.payload runId) := by
  have items : ∀ listed : List Item, (∀ item ∈ listed, item ∈ coverage.items) →
      (listOf vocabularyItem).Meets (.list (listed.map (·.value))) := fun listed inside =>
    meets_listOf (List.forall_mem_map.2 fun item member =>
      meets_item (isSound.items item (inside item member)))
  have rows : (listOf vocabularyDomain).Meets (.list (coverage.domains.map (·.value))) := by
    refine meets_listOf (List.forall_mem_map.2 fun row member => ?_)
    refine meets_closedObject (by decide) <|
      .cons ⟨rfl, meets_someText (isSound.domains row member)⟩ <| .cons ⟨rfl, items _ ?_⟩ .nil
    exact fun item inside => List.mem_append_left _ (List.mem_flatMap.2 ⟨row, member, inside⟩)
  have summary : vocabularySummary.Meets coverage.summary :=
    meets_closedObject (by decide) <|
      .cons ⟨rfl, meets_count _⟩ <| .cons ⟨rfl, meets_count _⟩ <| .cons ⟨rfl, meets_texts _⟩ <|
      .cons ⟨rfl, meets_share (coverage.isWithin_percentage.rounded (by decide) 1)⟩ .nil
  exact meets_closedObject (by decide) <|
    .cons ⟨rfl, meets_fixedText _⟩ <| .cons ⟨rfl, meets_versionOne⟩ <|
    .cons ⟨rfl, meets_fixedText _⟩ <| .cons ⟨rfl, meets_fixedText _⟩ <|
    .cons ⟨rfl, meets_anyText runId⟩ <| .cons ⟨rfl, Draft.meets_status _⟩ <|
    .cons ⟨rfl, meets_truthValue _⟩ <| .cons ⟨rfl, meets_anyText _⟩ <| .cons ⟨rfl, rows⟩ <|
    .cons ⟨rfl, items _ fun item inside => List.mem_append_right _ inside⟩ <|
    .cons ⟨rfl, summary⟩ .nil

theorem isSound_ofDefault (document : Document) {domains : List String}
    (named : ∀ domain ∈ domains, domain ≠ "") : (ofDefault document domains).IsSound := by
  refine ⟨List.forall_mem_map.2 named, fun item member => ?_⟩
  rw [items_ofDefault] at member
  obtain ⟨demand, isDemand, rfl⟩ := List.mem_map.1 member
  rw [Demand.expected_item]
  exact names_ne_nil_of_mem_allDemands isDemand

end Coverage

/-! ### Reports of the program's own making -/

/-- Under accepted settings every verification of documents that were read comes about and is reported,
and so is every coverage of the default expectations: neither payload is refused by its schema. -/
theorem checkedPayload_eq_ok :
    (∀ (names : Pattern.CharacterNames) (settings : Settings) (vocabulary : Document)
        (contracts : List Document) (runId : String) (now : Instant),
      settings.IsAccepted (Pattern.read names) →
      (∀ document ∈ vocabulary :: contracts, document.IsRead) → vocabulary.identifier ≠ "" →
      ∃ verification,
        Verification.of (Pattern.read names) settings vocabulary contracts = .ok verification ∧
        verification.draft.checkedPayload runId now =
          .ok (verification.draft.payload runId now)) ∧
    ∀ (document : Document) (domains : List String) (runId : String),
      (∀ domain ∈ domains, domain ≠ "") →
      ∃ coverage, Coverage.of Coverage.defaultExpectations document domains = .ok coverage ∧
        coverage.checkedPayload runId = .ok (coverage.payload runId) := by
  constructor
  · intro names settings vocabulary contracts runId now accepted isRead named
    obtain ⟨verification, success⟩ := Verification.exists_of_iff.2
      (Naming.exists_issues_of_readable
        (accepted.areReadable (Settings.areReadable_defaultNamingRules names)))
    have isSound := Verification.isSound_draft named isRead success
    refine ⟨verification, success, ?_⟩
    rw [Draft.checkedPayload, (isSound.meets_payload runId now).check_eq_ok]
    rfl
  · intro document domains runId named
    have isSound := Coverage.isSound_ofDefault document named
    refine ⟨_, Coverage.of_default document domains, ?_⟩
    rw [Coverage.checkedPayload, (isSound.meets_payload runId).check_eq_ok]
    rfl

/-! ### A failing run that is reported -/

/-- A mapping that finds more names similar and expects one pair of them. -/
def looseNames : Value :=
  .record [
    ("naming_threshold", .number (.double (.ofDecimal false 5 (-1)))),
    ("naming_pairs", .list [NamingRule.value ⟨"^Par", "^Kin$"⟩])]

/-- The settings that the mapping leaves. -/
def looseSettings : Settings :=
  Settings.put {} looseNames

theorem isAccepted_looseSettings : looseSettings.IsAccepted (Pattern.read Pattern.noNames) := by
  have laidOver : (Settings.overlay (Pattern.read Pattern.noNames) {} looseNames).toOption =
      some looseSettings := by decide +kernel
  cases success : Settings.overlay (Pattern.read Pattern.noNames) {} looseNames with
  | error refusal => simp [success, Except.toOption] at laidOver
  | ok settings =>
    rw [success] at laidOver
    exact Option.some.inj laidOver ▸ .overlay .default success

theorem checkedPayload_parent_child :
    let contracts := [Verification.parentContract, Verification.childContract,
      Verification.parentContract]
    let reading := Pattern.read Pattern.noNames
    looseSettings.IsAccepted reading ∧
      (∀ document ∈ Verification.emptyVocabulary :: contracts, document.IsRead) ∧
      Verification.emptyVocabulary.identifier ≠ "" ∧
      (∃ verification,
        Verification.of reading looseSettings Verification.emptyVocabulary contracts =
            .ok verification ∧
          verification.cycles = [["parent.ts", "child.ts", "parent.ts"]] ∧
          verification.draft.checkedPayload "run" (Instant.ofSeconds 0 0) =
            .ok (verification.draft.payload "run" (Instant.ofSeconds 0 0))) ∧
      (∀ domain ∈ ["Order"], domain ≠ "") ∧
      ∃ coverage,
        Coverage.of Coverage.defaultExpectations Verification.parentContract ["Order"] =
            .ok coverage ∧
          coverage.checkedPayload "run" = .ok (coverage.payload "run") := by
  intro contracts reading
  have isRead : ∀ document ∈ Verification.emptyVocabulary :: contracts, document.IsRead := by
    simp only [contracts, List.forall_mem_cons]
    exact ⟨Document.isRead_ofText .., Document.isRead_ofText .., Document.isRead_ofText ..,
      Document.isRead_ofText .., fun _ absent => absurd absent List.not_mem_nil⟩
  have named : Verification.emptyVocabulary.identifier ≠ "" := by decide
  have domains : ∀ domain ∈ ["Order"], domain ≠ "" := by decide
  have walked : ((Verification.of reading looseSettings Verification.emptyVocabulary
      contracts).toOption.map (·.cycles)) = some [["parent.ts", "child.ts", "parent.ts"]] := by decide +kernel
  obtain ⟨verification, success, isReported⟩ := checkedPayload_eq_ok.1
    Pattern.noNames looseSettings Verification.emptyVocabulary contracts "run" (Instant.ofSeconds 0 0)
    isAccepted_looseSettings isRead named
  rw [success] at walked
  exact ⟨isAccepted_looseSettings, isRead, named,
    ⟨verification, success, Option.some.inj walked, isReported⟩, domains,
    checkedPayload_eq_ok.2 Verification.parentContract ["Order"] "run" domains⟩

end Concord
