/-
When the resolution of names finds nothing: every import that is in scope names something declared, and
every name that a contract uses and another document declares is declared or imported by the contract.
Which document comes first among those that declare a name shows in the words of an issue and nowhere
else, so the order of the contracts has no part in how many issues there are.
-/

import Concord.Resolution
import Mathlib.Data.List.Nodup
import Mathlib.Data.List.Perm.Basic

namespace Concord.Resolution

/-! ### Who declares a name -/

theorem isSome_owner?_iff {documents : List Document} {name : String} :
    (owner? documents name).isSome = true ↔
      ∃ document ∈ documents, document.declares name = true := by
  rw [owner?, Option.isSome_map, List.find?_isSome]

theorem isSome_owner?_of_perm {first second : List Document} (reordered : first.Perm second)
    (name : String) : (owner? first name).isSome = (owner? second name).isSome := by
  rw [Bool.eq_iff_iff, isSome_owner?_iff, isSome_owner?_iff]
  simp only [reordered.mem_iff]

/-! ### Imports -/

theorem unresolvedImports_eq_nil_iff {settings : Settings} {vocabulary : Document}
    {contracts : List Document} {contract : Document} :
    unresolvedImports settings vocabulary contracts contract = [] ↔
      ∀ imported ∈ contract.imports,
        isExempt settings vocabulary.identifier imported.sourceModule = false →
          ∃ document ∈ vocabulary :: contracts, document.declares imported.name = true := by
  rw [unresolvedImports, List.filterMap_eq_nil_iff]
  refine forall₂_congr fun imported _ => ?_
  rw [← isSome_owner?_iff]
  by_cases exempt : isExempt settings vocabulary.identifier imported.sourceModule = true
  · simp [exempt]
  · simp [exempt, Option.isSome_iff_ne_none]

theorem unresolvedImports_of_perm {first second : List Document} (reordered : first.Perm second)
    (settings : Settings) (vocabulary : Document) :
    unresolvedImports settings vocabulary first = unresolvedImports settings vocabulary second := by
  funext contract
  refine List.filterMap_congr fun imported _ => ?_
  rw [isSome_owner?_of_perm (reordered.cons vocabulary)]

/-! ### Uses -/

/-- A field type of a record, or the expression of an alias, refers to the name. -/
def Refers (declaration : Declaration) (name : String) : Prop :=
  (declaration.kind = .record ∧
      ∃ field ∈ declaration.fields, name ∈ TypeName.references field.typeExpression) ∨
    (declaration.kind = .typeAlias ∧ name ∈ TypeName.references declaration.typeExpression)

theorem refers_iff {declaration : Declaration} {name : String} :
    Refers declaration name ↔
      ∃ expression ∈ expressions declaration, name ∈ TypeName.references expression := by
  unfold Refers expressions
  cases declaration.kind <;> simp

theorem exists_mem_uses_iff {contract : Document} {name : String} :
    (∃ declaration, (declaration, name) ∈ uses contract) ↔
      ∃ declaration ∈ contract.declarations, Refers declaration name := by
  simp only [uses, List.mem_flatMap, List.mem_map, Prod.mk.injEq, refers_iff]
  constructor
  · rintro ⟨_, declaration, declared, expression, inside, found, refers, rfl, rfl⟩
    exact ⟨declaration, declared, expression, inside, refers⟩
  · rintro ⟨declaration, declared, expression, inside, refers⟩
    exact ⟨declaration, declaration, declared, expression, inside, name, refers, rfl, rfl⟩

theorem usageIssuesFrom_eq_nil_iff {documents : List Document} {contract : Document}
    {reported : List String} {remaining : List (Declaration × String)} :
    usageIssuesFrom documents contract reported remaining = [] ↔
      ∀ use ∈ remaining, use.2 ∈ reported ∨ neededFrom? documents contract use.2 = none := by
  induction remaining with
  | nil => simp [usageIssuesFrom]
  | cons use remaining inductionHypothesis =>
    obtain ⟨declaration, name⟩ := use
    rw [usageIssuesFrom, List.forall_mem_cons]
    by_cases known : name ∈ reported
    · simp [known, inductionHypothesis]
    · cases needed : neededFrom? documents contract name with
      | none => simp [known, inductionHypothesis]
      | some owner => simp [known]

/-- A use goes without an issue exactly when its name needs no import. -/
theorem usageIssues_eq_nil_iff {documents : List Document} {contract : Document} :
    usageIssues documents contract = [] ↔
      ∀ declaration ∈ contract.declarations, ∀ name, Refers declaration name →
        neededFrom? documents contract name = none := by
  rw [usageIssues, usageIssuesFrom_eq_nil_iff]
  constructor
  · intro settled declaration declared name refers
    obtain ⟨user, used⟩ := exists_mem_uses_iff.2 ⟨declaration, declared, refers⟩
    exact (settled _ used).resolve_left List.not_mem_nil
  · rintro settled ⟨declaration, name⟩ used
    obtain ⟨user, declared, refers⟩ := exists_mem_uses_iff.1 ⟨declaration, used⟩
    exact .inr (settled user declared name refers)

/-- A name needs an import exactly when another document declares it and the contract itself neither
declares nor imports it. -/
theorem isSome_neededFrom?_iff {documents : List Document} {contract : Document} {name : String}
    (distinct : (documents.map (·.identifier)).Nodup) (member : contract ∈ documents) :
    (neededFrom? documents contract name).isSome = true ↔
      (∃ other ∈ documents, other.identifier ≠ contract.identifier ∧ other.declares name = true) ∧
        contract.declares name = false ∧ contract.importsName name = false := by
  constructor
  · intro needed
    obtain ⟨identifier, found⟩ := Option.isSome_iff_exists.1 needed
    obtain ⟨owner, conditions⟩ := Option.filter_eq_some_iff.1 found
    obtain ⟨other, first, rfl⟩ := Option.map_eq_some_iff.1 owner
    have declares : other.declares name = true := by simpa using List.find?_some first
    simp only [Bool.and_eq_true, bne_iff_ne, ne_eq, Bool.not_eq_true'] at conditions
    exact ⟨⟨other, List.mem_of_find?_eq_some first, conditions.1.1, declares⟩,
      conditions.2, conditions.1.2⟩
  · rintro ⟨⟨other, otherMember, -, declares⟩, undeclared, unimported⟩
    obtain ⟨identifier, owner⟩ :=
      Option.isSome_iff_exists.1 (isSome_owner?_iff.2 ⟨other, otherMember, declares⟩)
    refine Option.isSome_iff_exists.2 ⟨identifier, Option.filter_eq_some_iff.2 ⟨owner, ?_⟩⟩
    obtain ⟨found, first, rfl⟩ := Option.map_eq_some_iff.1 owner
    -- The owner is not the contract itself: the contract does not declare the name.
    have different : found.identifier ≠ contract.identifier := by
      intro same
      obtain rfl := List.inj_on_of_nodup_map distinct (List.mem_of_find?_eq_some first) member same
      have declares : found.declares name = true := by simpa using List.find?_some first
      exact absurd declares (by simp [undeclared])
    simp [different, undeclared, unimported]

theorem length_usageIssuesFrom_congr {first second : List Document} {contract : Document}
    (same : ∀ name, (neededFrom? first contract name).isSome =
      (neededFrom? second contract name).isSome) (reported : List String)
    (remaining : List (Declaration × String)) :
    (usageIssuesFrom first contract reported remaining).length =
      (usageIssuesFrom second contract reported remaining).length := by
  induction remaining generalizing reported with
  | nil => rfl
  | cons use remaining inductionHypothesis =>
    obtain ⟨declaration, name⟩ := use
    rw [usageIssuesFrom, usageIssuesFrom]
    by_cases known : reported.contains name = true
    · simp only [known, if_true]
      exact inductionHypothesis reported
    · simp only [known]
      have agree := same name
      cases needed : neededFrom? first contract name with
      | none =>
        rw [needed, Option.isSome_none] at agree
        rw [Option.isSome_eq_false_iff.1 agree.symm |> Option.isNone_iff_eq_none.1]
        exact inductionHypothesis reported
      | some owner =>
        rw [needed, Option.isSome_some] at agree
        obtain ⟨otherOwner, otherNeeded⟩ := Option.isSome_iff_exists.1 agree.symm
        rw [otherNeeded]
        exact congrArg (· + 1) (inductionHypothesis (name :: reported))

/-! ### All issues -/

theorem issues_eq_nil_iff {settings : Settings} {vocabulary : Document} {contracts : List Document} :
    issues settings vocabulary contracts = [] ↔
      (∀ contract ∈ contracts, unresolvedImports settings vocabulary contracts contract = []) ∧
        ∀ contract ∈ contracts, usageIssues (vocabulary :: contracts) contract = [] := by
  rw [issues, List.append_eq_nil_iff, List.flatMap_eq_nil_iff, List.flatMap_eq_nil_iff]

theorem usageIssuesFrom_shape {documents : List Document} {contract : Document}
    {reported : List String} {remaining : List (Declaration × String)} {issue : Issue}
    (member : issue ∈ usageIssuesFrom documents contract reported remaining) :
    issue.severity = .error ∧ issue.category = .unresolvedImport := by
  induction remaining generalizing reported with
  | nil => exact absurd member List.not_mem_nil
  | cons use remaining inductionHypothesis =>
    obtain ⟨declaration, name⟩ := use
    rw [usageIssuesFrom] at member
    split at member
    · rcases List.mem_cons.1 member with rfl | later
      · exact ⟨rfl, rfl⟩
      · exact inductionHypothesis later
    · exact inductionHypothesis member

/-- Every issue of the resolution is an error of its category. -/
theorem issues_shape {settings : Settings} {vocabulary : Document} {contracts : List Document}
    {issue : Issue} (member : issue ∈ issues settings vocabulary contracts) :
    issue.severity = .error ∧ issue.category = .unresolvedImport := by
  rcases List.mem_append.1 member with imports | uses
  · obtain ⟨contract, -, found⟩ := List.mem_flatMap.1 imports
    obtain ⟨imported, -, made⟩ := List.mem_filterMap.1 found
    split at made
    · exact absurd made (by simp)
    · split at made
      · exact absurd made (by simp)
      · obtain rfl := Option.some.inj made
        exact ⟨rfl, rfl⟩
  · obtain ⟨contract, -, found⟩ := List.mem_flatMap.1 uses
    exact usageIssuesFrom_shape found

/-- The order of the contracts has no part in how many issues there are. -/
theorem length_issues_of_perm {settings : Settings} {vocabulary : Document}
    {first second : List Document} (reordered : first.Perm second)
    (distinct : ((vocabulary :: first).map (·.identifier)).Nodup) :
    (issues settings vocabulary first).length = (issues settings vocabulary second).length := by
  have all : (vocabulary :: first).Perm (vocabulary :: second) := reordered.cons vocabulary
  have distinctSecond : ((vocabulary :: second).map (·.identifier)).Nodup :=
    (all.map _).nodup_iff.1 distinct
  have usages : ∀ contract ∈ first,
      (usageIssues (vocabulary :: first) contract).length =
        (usageIssues (vocabulary :: second) contract).length := by
    intro contract member
    refine length_usageIssuesFrom_congr (fun name => ?_) [] _
    rw [Bool.eq_iff_iff, isSome_neededFrom?_iff distinct (List.mem_cons_of_mem _ member),
      isSome_neededFrom?_iff distinctSecond (all.mem_iff.1 (List.mem_cons_of_mem _ member))]
    simp only [all.mem_iff]
  rw [issues, issues, List.length_append, List.length_append,
    unresolvedImports_of_perm reordered settings vocabulary,
    (reordered.flatMap_right _).length_eq, List.length_flatMap, List.length_flatMap,
    List.length_flatMap, List.map_congr_left usages, (reordered.map _).sum_nat]

end Concord.Resolution
