/-
The issues of a verification, check by check. Each check keeps to a category of its own; the resolution
of names and the walk over the graph find errors only, and the audit of names only warns.
-/

import Concord.Proofs.Naming.Findings
import Concord.Proofs.Resolution
import Concord.Proofs.Shape.Findings
import Concord.Verification

namespace Concord.Verification

/-! ### The findings of a verification -/

variable {reading : Pattern.Reading} {settings : Settings} {vocabulary : Document}
  {contracts : List Document} {verification : Verification}

/-- A verification comes about exactly when the audit of names does. -/
theorem exists_of_iff :
    (∃ verification, of reading settings vocabulary contracts = .ok verification) ↔
      ∃ found, Naming.issues reading settings vocabulary contracts = .ok found := by
  unfold of
  cases Naming.issues reading settings vocabulary contracts with
  | error bad => simp [bind, Except.bind]
  | ok found => simp [bind, Except.bind, pure, Except.pure]

/-- Where each part of a verification comes from. -/
structure IsOf (reading : Pattern.Reading) (verification : Verification) (settings : Settings)
    (vocabulary : Document) (contracts : List Document) : Prop where
  resolution : verification.findings.resolution = Resolution.issues settings vocabulary contracts
  cycles : verification.findings.cycles =
    DependencyGraph.cycleIssues (DependencyGraph.ofContracts contracts).cycles
  naming : Naming.issues reading settings vocabulary contracts = .ok verification.findings.naming
  shapes : verification.findings.shapes = Shape.issues settings vocabulary contracts
  statistics : verification.statistics = .of vocabulary contracts

theorem isOf_of_eq_ok (success : of reading settings vocabulary contracts = .ok verification) :
    verification.IsOf reading settings vocabulary contracts := by
  unfold of at success
  cases found : Naming.issues reading settings vocabulary contracts with
  | error bad => simp [found, bind, Except.bind] at success
  | ok naming =>
    simp only [found, bind, Except.bind, pure, Except.pure, Except.ok.injEq] at success
    subst success
    exact ⟨rfl, rfl, found, rfl, rfl⟩

theorem passed_iff_no_error :
    verification.passed = true ↔ ∀ issue ∈ verification.issues, issue.severity ≠ .error := by
  simp [passed, errors]

theorem no_error_iff_eq_nil {issues : List Issue}
    (errors : ∀ issue ∈ issues, issue.severity = .error) :
    (∀ issue ∈ issues, issue.severity ≠ .error) ↔ issues = [] := by
  constructor
  · intro quiet
    exact List.eq_nil_iff_forall_not_mem.2 fun issue member =>
      quiet issue member (errors issue member)
  · rintro rfl issue absent
    exact absurd absent List.not_mem_nil

theorem cycleIssues_shape {cycles : List (List String)} {issue : Issue}
    (member : issue ∈ DependencyGraph.cycleIssues cycles) :
    issue.severity = .error ∧ issue.category = .circularDependency := by
  obtain ⟨cycle, -, rfl⟩ := List.mem_map.1 member
  exact ⟨rfl, rfl⟩

theorem cycleIssues_eq_nil_iff {cycles : List (List String)} :
    DependencyGraph.cycleIssues cycles = [] ↔ cycles = [] :=
  List.map_eq_nil_iff

/-- A verification passes when each check but the audit of names, which only warns, finds no error. -/
theorem IsOf.passed_iff (isOf : verification.IsOf reading settings vocabulary contracts) :
    verification.passed = true ↔
      Resolution.issues settings vocabulary contracts = [] ∧
        (DependencyGraph.ofContracts contracts).cycles = [] ∧
        (∀ issue ∈ Shape.recordIssues settings vocabulary contracts, issue.severity ≠ .error) ∧
        ∀ contract ∈ contracts, Shape.kindIssues vocabulary contract = [] := by
  have naming : ∀ issue ∈ verification.findings.naming, issue.severity ≠ .error := by
    intro issue member isError
    have isWarning := ((Naming.issues_spec isOf.naming).2 issue member).1
    exact absurd (isWarning.symm.trans isError) (by decide)
  have kinds : (∀ issue ∈ contracts.flatMap (Shape.kindIssues vocabulary),
      issue.severity ≠ .error) ↔ ∀ contract ∈ contracts, Shape.kindIssues vocabulary contract = [] := by
    rw [no_error_iff_eq_nil, List.flatMap_eq_nil_iff]
    intro issue member
    obtain ⟨contract, -, inside⟩ := List.mem_flatMap.1 member
    exact (Shape.kindIssues_shape inside).1
  rw [passed_iff_no_error, issues, Findings.all, isOf.resolution, isOf.cycles, isOf.shapes,
    Shape.issues]
  simp only [List.forall_mem_append]
  rw [no_error_iff_eq_nil fun issue member => (Resolution.issues_shape member).1,
    no_error_iff_eq_nil fun issue member => (cycleIssues_shape member).1, cycleIssues_eq_nil_iff,
    kinds]
  constructor
  · rintro ⟨⟨⟨resolution, cycles⟩, -⟩, records, kinds⟩
    exact ⟨resolution, cycles, records, kinds⟩
  · rintro ⟨resolution, cycles, records, kinds⟩
    exact ⟨⟨⟨resolution, cycles⟩, naming⟩, records, kinds⟩

/-! ### Counting issues -/

theorem length_eq_errors_add_warnings (issues : List Issue) :
    issues.length =
      issues.countP (·.severity == .error) + issues.countP (·.severity == .warning) := by
  rw [List.length_eq_countP_add_countP fun issue : Issue => issue.severity == .error]
  refine congrArg _ (List.countP_congr fun issue _ => ?_)
  cases issue.severity <;> decide

theorem countP_of_uniform {issues : List Issue} {own : IssueCategory}
    (uniform : ∀ issue ∈ issues, issue.category = own) (category : IssueCategory) :
    issues.countP (·.category == category) = if own = category then issues.length else 0 := by
  split
  · rename_i same
    exact List.countP_eq_length.2 fun issue member => by simp [uniform issue member, same]
  · rename_i different
    exact List.countP_eq_zero.2 fun issue member => by simp [uniform issue member, different]

/-- Each category counts the issues of one check. -/
theorem IsOf.countP_category (isOf : verification.IsOf reading settings vocabulary contracts)
    (category : IssueCategory) :
    verification.issues.countP (·.category == category) =
      match category with
      | .unresolvedImport => (Resolution.issues settings vocabulary contracts).length
      | .circularDependency => verification.findings.cycles.length
      | .namingSimilarity => verification.findings.naming.length
      | .typeShapeMismatch => (Shape.issues settings vocabulary contracts).length := by
  have cycles : ∀ issue ∈ verification.findings.cycles, issue.category = .circularDependency := by
    rw [isOf.cycles]
    exact fun issue member => (cycleIssues_shape member).2
  rw [issues, Findings.all, isOf.resolution, isOf.shapes]
  simp only [List.countP_append]
  rw [countP_of_uniform (fun issue member => (Resolution.issues_shape member).2),
    countP_of_uniform cycles,
    countP_of_uniform (fun issue member => ((Naming.issues_spec isOf.naming).2 issue member).2),
    countP_of_uniform (fun issue member => Shape.issues_shape member)]
  cases category <;> simp

/-- The warnings are those of names, and those of shapes. -/
theorem IsOf.length_warnings (isOf : verification.IsOf reading settings vocabulary contracts) :
    verification.warnings.length = verification.findings.naming.length +
      (Shape.issues settings vocabulary contracts).countP (·.severity == .warning) := by
  have naming : verification.findings.naming.countP (·.severity == .warning) =
      verification.findings.naming.length :=
    List.countP_eq_length.2 fun issue member => by
      simp [((Naming.issues_spec isOf.naming).2 issue member).1]
  have resolution : (Resolution.issues settings vocabulary contracts).countP
      (·.severity == .warning) = 0 :=
    List.countP_eq_zero.2 fun issue member => by simp [(Resolution.issues_shape member).1]
  have cycles : (DependencyGraph.cycleIssues (DependencyGraph.ofContracts contracts).cycles).countP
      (·.severity == .warning) = 0 :=
    List.countP_eq_zero.2 fun issue member => by simp [(cycleIssues_shape member).1]
  rw [warnings, ← List.countP_eq_length_filter, issues, Findings.all, isOf.resolution, isOf.cycles,
    isOf.shapes]
  simp only [List.countP_append]
  rw [resolution, cycles, naming, Nat.zero_add]

end Concord.Verification
