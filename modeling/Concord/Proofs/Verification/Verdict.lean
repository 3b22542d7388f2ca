/-
What it means that a verification passes. The four checks keep notes while they go: names that were
reported before, gaps that are known, nodes that were left. None of this can hide an error, so the
verification passes exactly when the documents are coherent: imports are declared, uses are imported, no
contract depends on itself, records of one name agree, and kinds are kept.
-/

import Concord.Pattern.Reader
import Concord.Proofs.Dependency.Contracts
import Concord.Proofs.Verification.Findings

namespace Concord

/-! ### Coherent documents -/

/-- The contracts fit together with each other and with the vocabulary. -/
structure Coherent (settings : Settings) (vocabulary : Document) (contracts : List Document) :
    Prop where
  /-- Every import that is in scope names something declared. -/
  imports : ∀ contract ∈ contracts, ∀ imported ∈ contract.imports,
    Resolution.isExempt settings vocabulary.identifier imported.sourceModule = false →
      ∃ document ∈ vocabulary :: contracts, document.declares imported.name = true
  /-- What a contract uses and another document declares, it declares or imports. -/
  uses : ∀ contract ∈ contracts, ∀ declaration ∈ contract.declarations, ∀ name,
    Resolution.Refers declaration name →
      (∃ other ∈ vocabulary :: contracts,
        other.identifier ≠ contract.identifier ∧ other.declares name = true) →
      contract.declares name = true ∨ contract.importsName name = true
  /-- No contract depends on itself through others. -/
  acyclic : ∀ contract,
    ¬ Relation.TransGen (DependencyGraph.DependsOn contracts) contract contract
  /-- The records of one name have the fields of the baseline, with compatible types. -/
  shapes : ∀ name baseline, Shape.baseline? vocabulary contracts name = some baseline →
    ∀ document ∈ vocabulary :: contracts, ∀ record ∈ Shape.recordsNamed name document,
      Shape.AgreesWith settings.typeEquivalences baseline record
  /-- What a contract imports and declares again has the kind that the vocabulary gives it. -/
  kinds : ∀ contract ∈ contracts, ∀ name, contract.importsName name = true → ∀ own shared,
    contract.declaration? name = some own → vocabulary.declaration? name = some shared →
      own.kind = shared.kind

namespace Verification

variable {settings : Settings} {vocabulary : Document} {contracts : List Document}

/-! ### The verdict -/

/-- The uses of a contract go without an issue exactly when it declares or imports each name that it
uses and another document declares. -/
theorem forall_usageIssues_eq_nil_iff
    (distinct : ((vocabulary :: contracts).map (·.identifier)).Nodup) :
    (∀ contract ∈ contracts, Resolution.usageIssues (vocabulary :: contracts) contract = []) ↔
      ∀ contract ∈ contracts, ∀ declaration ∈ contract.declarations, ∀ name,
        Resolution.Refers declaration name →
          (∃ other ∈ vocabulary :: contracts,
            other.identifier ≠ contract.identifier ∧ other.declares name = true) →
          contract.declares name = true ∨ contract.importsName name = true := by
  refine forall₂_congr fun contract member => ?_
  rw [Resolution.usageIssues_eq_nil_iff]
  refine forall₂_congr fun declaration _ => forall₂_congr fun name _ => ?_
  rw [← Option.not_isSome_iff_eq_none,
    Resolution.isSome_neededFrom?_iff distinct (List.mem_cons_of_mem _ member)]
  cases contract.declares name <;> cases contract.importsName name <;> simp

/-- A verification passes exactly when the documents are coherent; and with readable naming rules there
is a verification. -/
theorem passed_iff_coherent {reading : Pattern.Reading}
    (isRead : ∀ document ∈ vocabulary :: contracts, document.IsRead)
    (distinct : ((vocabulary :: contracts).map (·.identifier)).Nodup) :
    (∀ verification, of reading settings vocabulary contracts = .ok verification →
        (verification.passed = true ↔ Coherent settings vocabulary contracts)) ∧
      (Naming.AreReadable reading settings.namingRules →
        ∃ verification, of reading settings vocabulary contracts = .ok verification) := by
  refine ⟨fun verification success => ?_, fun readable =>
    exists_of_iff.2 (Naming.exists_issues_of_readable readable)⟩
  have distinctContracts : (contracts.map (·.identifier)).Nodup := (List.nodup_cons.1 distinct).2
  rw [(isOf_of_eq_ok success).passed_iff, Resolution.issues_eq_nil_iff,
    DependencyGraph.cycles_ofContracts_eq_nil_iff distinctContracts,
    Shape.no_error_in_recordIssues_iff isRead distinct, forall_usageIssues_eq_nil_iff distinct]
  simp only [Resolution.unresolvedImports_eq_nil_iff, Shape.kindIssues_eq_nil_iff]
  constructor
  · rintro ⟨⟨imports, uses⟩, acyclic, shapes, kinds⟩
    exact ⟨imports, uses, acyclic, shapes, kinds⟩
  · rintro ⟨imports, uses, acyclic, shapes, kinds⟩
    exact ⟨⟨imports, uses⟩, acyclic, shapes, kinds⟩

/-! ### Contracts that are coherent -/

/-- A vocabulary of one record. -/
def moneyVocabulary : Document :=
  .ofText {} "shared.ts" "export interface Money \x7b\n  amount: number;\n\x7d\n"

/-- A contract that imports from the vocabulary. -/
def orderContract : Document :=
  .ofText {} "orders.ts"
    "import \x7b Money \x7d from './shared';\nexport interface Order \x7b\n  total: Money;\n  due: Date;\n\x7d\n"

/-- A contract that imports an order and declares it once more, its date as text. -/
def billContract : Document :=
  .ofText {} "bills.ts"
    "import \x7b Order, Money \x7d from './shared';\ninterface Order \x7b due: string; total: Money \x7d\n"

theorem coherent_orders_bills :
    (∀ document ∈ [moneyVocabulary, orderContract, billContract], document.IsRead) ∧
      ([moneyVocabulary, orderContract, billContract].map (·.identifier)).Nodup ∧
      Coherent {} moneyVocabulary [orderContract, billContract] := by
  have isRead : ∀ document ∈ [moneyVocabulary, orderContract, billContract], document.IsRead := by
    simp only [List.forall_mem_cons]
    exact ⟨Document.isRead_ofText .., Document.isRead_ofText .., Document.isRead_ofText ..,
      fun _ absent => absurd absent List.not_mem_nil⟩
  have distinct :
      ([moneyVocabulary, orderContract, billContract].map (·.identifier)).Nodup := by decide
  have passes : ((of (Pattern.read Pattern.noNames) {} moneyVocabulary
      [orderContract, billContract]).toOption.map (·.passed)) = some true := by decide +kernel
  cases success : of (Pattern.read Pattern.noNames) {} moneyVocabulary [orderContract, billContract] with
  | error bad => simp [success, Except.toOption] at passes
  | ok verification =>
    rw [success] at passes
    exact ⟨isRead, distinct,
      ((passed_iff_coherent isRead distinct).1 verification success).1 (Option.some.inj passes)⟩

end Verification

end Concord
