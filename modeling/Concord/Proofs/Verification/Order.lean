/-
What the order of the contracts can change in a verification. First declarations, baselines, known gaps
and the walk over the graph all follow the order, and so do the words of issues and the number of cycles.
The verdict, the statistics and the number of issues of every other category do not, and neither does
whether there is a cycle at all.
-/

import Concord.Pattern.Reader
import Concord.Proofs.Dependency.Contracts
import Concord.Proofs.Verification.Findings

namespace Concord

/-! ### Statistics -/

theorem Statistics.total_of_perm (count : Document → Nat) {documents reordered : List Document}
    (permuted : documents.Perm reordered) : total count documents = total count reordered := by
  induction permuted with
  | nil => rfl
  | cons document _ inductionHypothesis => rw [total, total, inductionHypothesis]
  | swap first second documents =>
    rw [total, total, total, total]
    exact Nat.add_left_comm _ _ _
  | trans _ _ firstHypothesis secondHypothesis => exact firstHypothesis.trans secondHypothesis

theorem Statistics.of_perm (vocabulary : Document) {contracts reordered : List Document}
    (permuted : contracts.Perm reordered) : of vocabulary contracts = of vocabulary reordered := by
  have all : (vocabulary :: contracts).Perm (vocabulary :: reordered) := permuted.cons vocabulary
  simp only [of, total_of_perm _ all, all.length_eq, permuted.length_eq]

/-! ### Dependencies -/

theorem DependencyGraph.dependsOn_of_perm {contracts reordered : List Document}
    (permuted : contracts.Perm reordered) : DependsOn contracts = DependsOn reordered := by
  funext contract other
  simp only [DependsOn, permuted.mem_iff]

theorem DependencyGraph.cycles_eq_nil_iff_of_perm {contracts reordered : List Document}
    (distinct : (contracts.map (·.identifier)).Nodup) (permuted : contracts.Perm reordered) :
    (ofContracts contracts).cycles = [] ↔ (ofContracts reordered).cycles = [] := by
  rw [cycles_ofContracts_eq_nil_iff distinct,
    cycles_ofContracts_eq_nil_iff ((permuted.map _).nodup_iff.1 distinct), dependsOn_of_perm permuted]

namespace Verification

/-! ### Counting issues -/

/-- Two verifications come to the same: the verdict, the statistics, how many warnings and how many
issues of each category but cycles there are, and whether there is a cycle. -/
structure SameOutcome (first second : Verification) : Prop where
  verdict : first.passed = second.passed
  statistics : first.statistics = second.statistics
  warnings : first.warnings.length = second.warnings.length
  counts : ∀ category, category ≠ .circularDependency →
    first.issues.countP (·.category == category) = second.issues.countP (·.category == category)
  cycles : (∃ issue ∈ first.issues, issue.category = .circularDependency) ↔
    ∃ issue ∈ second.issues, issue.category = .circularDependency

variable {reading : Pattern.Reading} {settings : Settings} {vocabulary : Document}
  {contracts reordered : List Document}

theorem IsOf.exists_cycle_iff {verification : Verification}
    (isOf : verification.IsOf reading settings vocabulary contracts) :
    (∃ issue ∈ verification.issues, issue.category = .circularDependency) ↔
      (DependencyGraph.ofContracts contracts).cycles ≠ [] := by
  have counted := isOf.countP_category .circularDependency
  simp only [isOf.cycles, DependencyGraph.cycleIssues, List.length_map] at counted
  rw [← List.length_pos_iff, ← counted, List.countP_pos_iff]
  simp only [beq_iff_eq]

variable (isRead : ∀ document ∈ vocabulary :: contracts, document.IsRead)
  (distinct : ((vocabulary :: contracts).map (·.identifier)).Nodup)
  (permuted : contracts.Perm reordered)

include isRead distinct permuted

theorem IsOf.sameOutcome {first second : Verification}
    (isOf : first.IsOf reading settings vocabulary contracts)
    (isOfReordered : second.IsOf reading settings vocabulary reordered) : SameOutcome first second := by
  have resolution := @Resolution.length_issues_of_perm settings vocabulary _ _ permuted distinct
  have naming := Naming.length_issues_of_perm permuted isOf.naming isOfReordered.naming
  have shapes := Shape.countP_issues_of_perm isRead distinct settings permuted
  have cycles := DependencyGraph.cycles_eq_nil_iff_of_perm (List.nodup_cons.1 distinct).2 permuted
  refine ⟨?_, ?_, ?_, fun category noCycle => ?_, ?_⟩
  · have records : (∀ issue ∈ Shape.recordIssues settings vocabulary contracts,
        issue.severity ≠ .error) ↔ ∀ issue ∈ Shape.recordIssues settings vocabulary reordered,
          issue.severity ≠ .error := by
      have same := Shape.countP_recordIssues_of_perm isRead distinct settings permuted .error
      have none : ∀ issues : List Issue, (∀ issue ∈ issues, issue.severity ≠ .error) ↔
          issues.countP (·.severity == .error) = 0 := fun issues => by simp [List.countP_eq_zero]
      rw [none, none, same]
    rw [Bool.eq_iff_iff, isOf.passed_iff, isOfReordered.passed_iff, cycles, records,
      ← List.length_eq_zero_iff, resolution, List.length_eq_zero_iff]
    simp only [permuted.mem_iff]
  · rw [isOf.statistics, isOfReordered.statistics, Statistics.of_perm vocabulary permuted]
  · rw [isOf.length_warnings, isOfReordered.length_warnings, naming, shapes]
  · rw [isOf.countP_category, isOfReordered.countP_category]
    cases category with
    | unresolvedImport => exact resolution
    | circularDependency => exact absurd rfl noCycle
    | namingSimilarity => exact naming
    | typeShapeMismatch =>
      simp only [length_eq_errors_add_warnings (Shape.issues _ _ _), shapes]
  · rw [isOf.exists_cycle_iff, isOfReordered.exists_cycle_iff, Ne, cycles]

/-- Verifications under two orders of the contracts come to the same; the one comes about exactly when
the other does, and with readable naming rules they do. -/
theorem sameOutcome_of_perm :
    (∀ first second, of reading settings vocabulary contracts = .ok first →
        of reading settings vocabulary reordered = .ok second → SameOutcome first second) ∧
      ((∃ first, of reading settings vocabulary contracts = .ok first) ↔
        ∃ second, of reading settings vocabulary reordered = .ok second) ∧
      (Naming.AreReadable reading settings.namingRules →
        ∃ first, of reading settings vocabulary contracts = .ok first) := by
  refine ⟨fun first second success otherSuccess => ?_, ?_, fun readable => ?_⟩
  · exact (isOf_of_eq_ok success).sameOutcome isRead distinct permuted (isOf_of_eq_ok otherSuccess)
  · rw [exists_of_iff, exists_of_iff, Naming.exists_issues_iff_of_perm permuted]
  · exact exists_of_iff.2 (Naming.exists_issues_of_readable readable)

omit isRead distinct permuted

/-! ### Contracts that depend on each other -/

/-- An empty vocabulary. -/
def emptyVocabulary : Document :=
  .ofText {} "shared.ts" ""

/-- A contract that uses the record of the other one. -/
def parentContract : Document :=
  .ofText {} "parent.ts" "import \x7b Child \x7d from './shared';\ninterface Parent \x7b child: Child \x7d\n"

/-- A contract that imports the record of the other one and a name that nobody declares. -/
def childContract : Document :=
  .ofText {} "child.ts" "import \x7b Parent, Toy \x7d from './shared';\ninterface Child \x7b parent: Parent \x7d\n"

theorem sameOutcome_parent_child :
    let reading := Pattern.read Pattern.noNames
    (∀ document ∈ [emptyVocabulary, parentContract, childContract], document.IsRead) ∧
      ([emptyVocabulary, parentContract, childContract].map (·.identifier)).Nodup ∧
      [parentContract, childContract].Perm [childContract, parentContract] ∧
      ∃ first second, of reading {} emptyVocabulary [parentContract, childContract] = .ok first ∧
        of reading {} emptyVocabulary [childContract, parentContract] = .ok second ∧
        first.passed = false ∧ SameOutcome first second := by
  intro reading
  have isRead : ∀ document ∈ [emptyVocabulary, parentContract, childContract],
      document.IsRead := by
    simp only [List.forall_mem_cons]
    exact ⟨Document.isRead_ofText .., Document.isRead_ofText .., Document.isRead_ofText ..,
      fun _ absent => absurd absent List.not_mem_nil⟩
  have distinct :
      ([emptyVocabulary, parentContract, childContract].map (·.identifier)).Nodup := by decide
  have permuted : [parentContract, childContract].Perm [childContract, parentContract] :=
    .swap _ _ _
  have fails : ((of reading {} emptyVocabulary [parentContract, childContract]).toOption.map
      (·.passed)) = some false := by decide +kernel
  obtain ⟨same, back, -⟩ := @sameOutcome_of_perm reading {} _ _ _ isRead distinct permuted
  cases success : of reading {} emptyVocabulary [parentContract, childContract] with
  | error bad => simp [success, Except.toOption] at fails
  | ok first =>
    rw [success] at fails
    obtain ⟨second, otherSuccess⟩ := back.1 ⟨first, success⟩
    exact ⟨isRead, distinct, permuted, first, second, rfl, otherSuccess, Option.some.inj fails,
      same first second success otherSuccess⟩

end Verification

end Concord
