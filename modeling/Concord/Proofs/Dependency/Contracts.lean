/-
The graph of contracts says which contract depends on which. Under distinct identifiers a contract is
known by its identifier, so the graph is acyclic exactly when no contract depends on itself through
others.
-/

import Concord.Proofs.Dependency.Walk
import Mathlib.Data.List.Nodup

namespace Concord.DependencyGraph

/-! ### Entries under distinct nodes -/

theorem putEntry_of_fresh {node : String} {targets : List String}
    {known : List (String × List String)} (fresh : node ∉ known.map (·.1)) :
    putEntry node targets known = known ++ [(node, targets)] := by
  induction known with
  | nil => rfl
  | cons entry known inductionHypothesis =>
    simp only [List.map_cons, List.mem_cons, not_or] at fresh
    rw [putEntry, if_neg fun same => fresh.1 same.symm, inductionHypothesis fresh.2,
      List.cons_append]

theorem foldl_putEntry {known entries : List (String × List String)}
    (distinct : ((known ++ entries).map (·.1)).Nodup) :
    entries.foldl (fun known entry => putEntry entry.1 entry.2 known) known = known ++ entries := by
  induction entries generalizing known with
  | nil => simp
  | cons entry entries inductionHypothesis =>
    have fresh : entry.1 ∉ known.map (·.1) := by
      rw [List.map_append, List.nodup_append] at distinct
      exact fun member => distinct.2.2 _ member _ (by simp) rfl
    rw [List.foldl_cons, putEntry_of_fresh fresh, inductionHypothesis (by simpa using distinct),
      List.append_assoc, List.singleton_append]

theorem entries_ofEntries {entries : List (String × List String)}
    (distinct : (entries.map (·.1)).Nodup) : (ofEntries entries).entries = entries := by
  simpa [ofEntries] using @foldl_putEntry [] entries (by simpa using distinct)

theorem lookup_eq_some_of_mem {entries : List (String × List String)} {node : String}
    {targets : List String} (distinct : (entries.map (·.1)).Nodup)
    (member : (node, targets) ∈ entries) : entries.lookup node = some targets := by
  obtain ⟨before, after, rfl⟩ := List.append_of_mem member
  refine List.lookup_eq_some_iff.2 ⟨before, after, rfl, fun entry earlier => ?_⟩
  rw [List.map_append, List.nodup_append] at distinct
  have different := distinct.2.2 _ (List.mem_map_of_mem earlier) node (by simp)
  simpa using fun same : node = entry.1 => different same.symm

/-! ### Contracts that depend on one another -/

/-- The contract imports a name that the other one declares. -/
def DependsOn (contracts : List Document) (contract other : Document) : Prop :=
  contract ∈ contracts ∧ other ∈ contracts ∧ other ≠ contract ∧
    ∃ name, contract.importsName name = true ∧ other.declares name = true

theorem mem_importedNames {document : Document} {name : String} :
    name ∈ document.importedNames ↔ document.importsName name = true := by
  simp [Document.importedNames, Document.importsName, firstOccurrences]

theorem mem_dependencies {contracts : List Document} {contract : Document} {target : String} :
    target ∈ dependencies contracts contract ↔
      ∃ other ∈ contracts, other.identifier ≠ contract.identifier ∧
        (∃ name, contract.importsName name = true ∧ other.declares name = true) ∧
          other.identifier = target := by
  simp [dependencies, firstOccurrences, mem_importedNames, and_assoc]

variable {contracts : List Document} (distinct : (contracts.map (·.identifier)).Nodup)

include distinct

theorem entries_ofContracts :
    (ofContracts contracts).entries =
      contracts.map fun contract => (contract.identifier, dependencies contracts contract) := by
  refine entries_ofEntries ?_
  rw [List.map_map]
  exact distinct

theorem targets_ofContracts {contract : Document} (member : contract ∈ contracts) :
    (ofContracts contracts).targets contract.identifier = dependencies contracts contract := by
  rw [targets, entries_ofContracts distinct]
  rw [lookup_eq_some_of_mem (by rw [List.map_map]; exact distinct)
    (List.mem_map_of_mem (f := fun contract => (contract.identifier, dependencies contracts contract))
      member)]
  rfl

theorem edge_ofContracts_iff {node next : String} :
    (ofContracts contracts).Edge node next ↔
      ∃ contract other, DependsOn contracts contract other ∧ contract.identifier = node ∧
        other.identifier = next := by
  constructor
  · intro leads
    have listed := mem_nodes_of_targets (List.ne_nil_of_mem leads)
    rw [nodes, entries_ofContracts distinct, List.map_map] at listed
    obtain ⟨contract, member, rfl⟩ := List.mem_map.1 listed
    rw [Edge, Function.comp_apply, targets_ofContracts distinct member, mem_dependencies] at leads
    obtain ⟨other, otherMember, different, shared, rfl⟩ := leads
    exact ⟨contract, other, ⟨member, otherMember, fun same => different (by rw [same]), shared⟩,
      rfl, rfl⟩
  · rintro ⟨contract, other, ⟨member, otherMember, different, shared⟩, rfl, rfl⟩
    rw [Edge, targets_ofContracts distinct member, mem_dependencies]
    refine ⟨other, otherMember, fun same => different ?_, shared, rfl⟩
    exact List.inj_on_of_nodup_map distinct otherMember member same

theorem transGen_dependsOn {node last : String}
    (leads : Relation.TransGen (ofContracts contracts).Edge node last) :
    ∃ contract other, Relation.TransGen (DependsOn contracts) contract other ∧
      contract.identifier = node ∧ other ∈ contracts ∧ other.identifier = last := by
  induction leads with
  | single step =>
    obtain ⟨contract, other, depends, same, rfl⟩ := (edge_ofContracts_iff distinct).1 step
    exact ⟨contract, other, .single depends, same, depends.2.1, rfl⟩
  | tail _ step inductionHypothesis =>
    obtain ⟨contract, middle, first, same, middleMember, middleSame⟩ := inductionHypothesis
    obtain ⟨source, other, depends, sourceSame, rfl⟩ := (edge_ofContracts_iff distinct).1 step
    obtain rfl : source = middle :=
      List.inj_on_of_nodup_map distinct depends.1 middleMember (sourceSame.trans middleSame.symm)
    exact ⟨contract, other, first.tail depends, same, depends.2.1, rfl⟩

/-- The graph is acyclic exactly when no contract depends on itself through others. -/
theorem isAcyclic_ofContracts_iff :
    (ofContracts contracts).IsAcyclic ↔
      ∀ contract, ¬ Relation.TransGen (DependsOn contracts) contract contract := by
  constructor
  · intro acyclic contract loop
    refine acyclic contract.identifier (loop.lift (·.identifier) fun first second depends => ?_)
    exact (edge_ofContracts_iff distinct).2 ⟨first, second, depends, rfl, rfl⟩
  · intro acyclic node loop
    obtain ⟨contract, other, depends, rfl, otherMember, same⟩ := transGen_dependsOn distinct loop
    obtain ⟨next, step, -⟩ := Relation.TransGen.head'_iff.1 depends
    obtain rfl : other = contract :=
      List.inj_on_of_nodup_map distinct otherMember step.1 same
    exact acyclic other depends

theorem cycles_ofContracts_eq_nil_iff :
    (ofContracts contracts).cycles = [] ↔
      ∀ contract, ¬ Relation.TransGen (DependsOn contracts) contract contract :=
  (cycles_eq_nil_iff _).trans (isAcyclic_ofContracts_iff distinct)

end Concord.DependencyGraph
