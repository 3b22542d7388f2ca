/-
What a further contract cannot do to the others. The checks share what they know of all documents: who
declares a name, the graph that is walked, the records of one name and the gaps that are known. When
the others neither declare nor import nor use a name of the further contract, its names join none of
theirs, no edge leads to it and its records form groups of their own. So apart from the audit of names,
which looks at all names together, the issues that stand elsewhere are the same as without it, in the
same order.
-/

import Concord.Proofs.Dependency.Contracts
import Concord.Proofs.Settings
import Concord.Proofs.Verification.Order
import Concord.Proofs.Verification.Places
import Mathlib.Data.List.Basic

namespace Concord

/-! ### Contracts apart -/

/-- None of the documents declares, imports or refers to a name that the added one declares. -/
structure Document.IsApartFrom (added : Document) (documents : List Document) : Prop where
  undeclared : ∀ name, added.declares name = true →
    ∀ document ∈ documents, document.declares name = false
  unimported : ∀ name, added.declares name = true →
    ∀ document ∈ documents, document.importsName name = false
  unreferred : ∀ name, added.declares name = true →
    ∀ document ∈ documents, ∀ declaration ∈ document.declarations,
      ¬ Resolution.Refers declaration name

/-- The issues of several contracts and one more, without those that stand in that one. -/
theorem filter_flatMap_concat {contracts : List Document} {added : Document}
    {find found : Document → List Issue} (same : ∀ contract ∈ contracts, find contract = found contract)
    (elsewhere : ∀ contract ∈ contracts, ∀ issue ∈ found contract,
      issue.document ≠ added.identifier)
    (own : ∀ issue ∈ find added, issue.document = added.identifier) :
    ((contracts ++ [added]).flatMap find).filter (·.document != added.identifier) =
      contracts.flatMap found := by
  have kept : (contracts.flatMap found).filter (·.document != added.identifier) =
      contracts.flatMap found := by
    refine List.filter_eq_self.2 fun issue member => ?_
    obtain ⟨contract, isContract, inside⟩ := List.mem_flatMap.1 member
    exact bne_iff_ne.2 (elsewhere contract isContract issue inside)
  have dropped : (find added).filter (·.document != added.identifier) = [] :=
    List.filter_eq_nil_iff.2 fun issue member => by simp [own issue member]
  rw [List.flatMap_append, List.flatMap_singleton, List.filter_append, dropped, List.append_nil,
    List.flatMap_congr same, kept]

variable {settings : Settings} {vocabulary added : Document} {contracts : List Document}

/-! ### Resolution -/

namespace Resolution

theorem owner?_concat {documents : List Document} {name : String}
    (undeclared : added.declares name = false) :
    owner? (documents ++ [added]) name = owner? documents name := by
  have none : [added].find? (·.declares name) = none := by
    rw [List.find?_cons_of_neg (by simp [undeclared]), List.find?_nil]
  rw [owner?, owner?, List.find?_append, none, Option.or_none]

theorem unresolvedImports_concat {contract : Document}
    (undeclared : ∀ imported ∈ contract.imports, added.declares imported.name = false) :
    unresolvedImports settings vocabulary (contracts ++ [added]) contract =
      unresolvedImports settings vocabulary contracts contract := by
  refine List.filterMap_congr fun imported member => ?_
  rw [← List.cons_append, owner?_concat (undeclared imported member)]

theorem usageIssuesFrom_congr {first second : List Document} {contract : Document}
    {remaining : List (Declaration × String)}
    (same : ∀ use ∈ remaining, neededFrom? first contract use.2 = neededFrom? second contract use.2)
    (reported : List String) :
    usageIssuesFrom first contract reported remaining =
      usageIssuesFrom second contract reported remaining := by
  induction remaining generalizing reported with
  | nil => rfl
  | cons use remaining inductionHypothesis =>
    rw [List.forall_mem_cons] at same
    rw [usageIssuesFrom, usageIssuesFrom, same.1]
    simp only [inductionHypothesis same.2]

theorem usageIssues_concat {contract : Document}
    (undeclared : ∀ declaration ∈ contract.declarations, ∀ name, Refers declaration name →
      added.declares name = false) :
    usageIssues (vocabulary :: (contracts ++ [added])) contract =
      usageIssues (vocabulary :: contracts) contract := by
  refine usageIssuesFrom_congr (fun use member => ?_) []
  obtain ⟨declaration, declared, refers⟩ := exists_mem_uses_iff.1 ⟨use.1, member⟩
  rw [← List.cons_append, neededFrom?, neededFrom?,
    owner?_concat (undeclared declaration declared use.2 refers)]

end Resolution

variable (apart : added.IsApartFrom (vocabulary :: contracts))
  (distinct : ((vocabulary :: (contracts ++ [added])).map (·.identifier)).Nodup)

section

include apart

theorem Document.IsApartFrom.not_declares_of_imports {document : Document}
    (member : document ∈ vocabulary :: contracts) {name : String}
    (imports : document.importsName name = true) : added.declares name = false := by
  cases declares : added.declares name with
  | false => rfl
  | true => exact absurd (apart.unimported name declares document member) (by simp [imports])

theorem Document.IsApartFrom.not_declares_of_refers {document : Document}
    (member : document ∈ vocabulary :: contracts) {declaration : Declaration}
    (declared : declaration ∈ document.declarations) {name : String}
    (refers : Resolution.Refers declaration name) : added.declares name = false := by
  cases declares : added.declares name with
  | false => rfl
  | true => exact absurd refers (apart.unreferred name declares document member declaration declared)

end

section

include distinct

theorem identifier_ne_added {document : Document} (member : document ∈ vocabulary :: contracts) :
    document.identifier ≠ added.identifier := by
  rw [← List.cons_append, List.map_append, List.nodup_append] at distinct
  exact distinct.2.2 _ (List.mem_map_of_mem member) _ (by simp)

theorem nodup_contracts_concat : ((contracts ++ [added]).map (·.identifier)).Nodup :=
  (List.nodup_cons.1 distinct).2

theorem nodup_contracts : (contracts.map (·.identifier)).Nodup := by
  have distinctAll := nodup_contracts_concat distinct
  rw [List.map_append, List.nodup_append] at distinctAll
  exact distinctAll.1

end

include apart distinct

theorem Resolution.issues_concat :
    (issues settings vocabulary (contracts ++ [added])).filter (·.document != added.identifier) =
      issues settings vocabulary contracts := by
  have elsewhere := fun {contract} (member : contract ∈ contracts) =>
    identifier_ne_added distinct (List.mem_cons_of_mem vocabulary member)
  rw [issues, issues, List.filter_append]
  congr 1
  · refine filter_flatMap_concat (fun contract member => unresolvedImports_concat ?_)
      (fun contract member issue found => ?_) fun issue found => ?_
    · intro imported listed
      exact apart.not_declares_of_imports (List.mem_cons_of_mem _ member)
        (List.any_eq_true.2 ⟨imported, listed, by simp⟩)
    · obtain ⟨imported, -, stands⟩ := standsAt_of_mem_unresolvedImports found
      exact stands.document ▸ elsewhere member
    · obtain ⟨imported, -, stands⟩ := standsAt_of_mem_unresolvedImports found
      exact stands.document
  · refine filter_flatMap_concat (fun contract member => usageIssues_concat ?_)
      (fun contract member issue found => ?_) fun issue found => ?_
    · intro declaration declared name refers
      exact apart.not_declares_of_refers (List.mem_cons_of_mem _ member) declared refers
    · obtain ⟨declaration, -, stands⟩ := standsAt_of_mem_usageIssues found
      exact stands.document ▸ elsewhere member
    · obtain ⟨declaration, -, stands⟩ := standsAt_of_mem_usageIssues found
      exact stands.document

omit apart distinct

/-! ### Dependencies -/

namespace DependencyGraph

/-- Where no node leads to the last one, the edges of the last node are nothing to the walk. -/
theorem visit_congr {graph extended : DependencyGraph} {last : String}
    (same : ∀ node, node ≠ last → extended.targets node = graph.targets node)
    (unreached : ∀ node, last ∉ graph.targets node) (path : List String) {node : String}
    (other : node ≠ last) (progress : Progress) :
    extended.visit path node progress = graph.visit path node progress := by
  induction path, node, progress using visit.induct graph with
  | case1 path node progress isLeft => rw [visit, visit, if_pos isLeft, if_pos isLeft]
  | case2 path node progress notLeft fresh inductionHypothesis =>
    have inner : (graph.targets node).foldl
          (fun progress next => extended.visit (path ++ [node]) next progress) progress =
        (graph.targets node).foldl
          (fun progress next => graph.visit (path ++ [node]) next progress) progress := by
      refine List.foldl_ext _ _ _ fun progress next member => ?_
      exact inductionHypothesis (List.ne_nil_of_mem member) progress next fun equal =>
        unreached node (equal ▸ member)
    rw [visit, visit, if_neg notLeft, if_neg notLeft, dif_pos fresh, dif_pos fresh]
    simp only [same node other, inner]
  | case3 path node progress notLeft onPath =>
    rw [visit, visit, if_neg notLeft, if_neg notLeft, dif_neg onPath, dif_neg onPath]

/-- From a node that leads only to nodes left before, the walk closes no cycle. -/
theorem cycles_visit_of_left {graph : DependencyGraph} {node : String} {progress : Progress}
    (left : ∀ next ∈ graph.targets node, next ∈ progress.left) :
    (graph.visit [] node progress).cycles = progress.cycles := by
  have returns : ∀ path, ∀ next ∈ graph.targets node, graph.visit path next progress = progress :=
    fun path next leads => by rw [visit, if_pos (List.contains_iff_mem.2 (left next leads))]
  have inner : ∀ nodes : List String, (∀ next ∈ nodes, next ∈ graph.targets node) →
      nodes.foldl (fun progress next => graph.visit ([] ++ [node]) next progress) progress =
        progress := by
    intro nodes
    induction nodes with
    | nil => exact fun _ => rfl
    | cons next nodes inductionHypothesis =>
      intro lead
      rw [List.forall_mem_cons] at lead
      rw [List.foldl_cons, returns _ next lead.1, inductionHypothesis lead.2]
  rw [visit]
  split
  · rfl
  · rw [dif_pos (by rfl), inner _ fun _ leads => leads]
    simp only [dite_eq_ite, ite_self]

theorem dependencies_concat {contract : Document}
    (undeclared : ∀ name, contract.importsName name = true → added.declares name = false) :
    dependencies (contracts ++ [added]) contract = dependencies contracts contract := by
  have unused : contract.importedNames.any added.declares = false := by
    refine List.any_eq_false.2 fun name member => ?_
    simp [undeclared name (mem_importedNames.1 member)]
  have dropped : [added].filter (fun other => other.identifier != contract.identifier &&
      contract.importedNames.any other.declares) = [] := by
    rw [List.filter_cons_of_neg (by simp only [unused, Bool.and_false]; simp), List.filter_nil]
  rw [dependencies, dependencies, List.filter_append, dropped, List.append_nil]

include apart distinct

theorem entries_concat :
    (ofContracts (contracts ++ [added])).entries = (ofContracts contracts).entries ++
      [(added.identifier, dependencies (contracts ++ [added]) added)] := by
  rw [entries_ofContracts (nodup_contracts_concat distinct),
    entries_ofContracts (nodup_contracts distinct), List.map_append, List.map_singleton]
  congr 1
  refine List.map_congr_left fun contract member => ?_
  rw [dependencies_concat fun name imports =>
    apart.not_declares_of_imports (List.mem_cons_of_mem _ member) imports]

theorem targets_concat {node : String} (other : node ≠ added.identifier) :
    (ofContracts (contracts ++ [added])).targets node = (ofContracts contracts).targets node := by
  have none : [(added.identifier, dependencies (contracts ++ [added]) added)].lookup node = none := by
    rw [List.lookup_cons, beq_false_of_ne other]
    rfl
  rw [targets, targets, entries_concat apart distinct, List.lookup_append, none, Option.or_none]

omit apart in
/-- No edge among the others leads to the added contract. -/
theorem ne_added_of_leads {node next : String} (leads : next ∈ (ofContracts contracts).targets node) :
    next ≠ added.identifier := by
  obtain ⟨contract, other, depends, -, rfl⟩ :=
    (edge_ofContracts_iff (nodup_contracts distinct)).1 leads
  exact identifier_ne_added distinct (List.mem_cons_of_mem _ depends.2.1)

omit apart in
theorem mem_nodes_iff {node : String} :
    node ∈ (ofContracts contracts).nodes ↔ ∃ contract ∈ contracts, contract.identifier = node := by
  rw [nodes, entries_ofContracts (nodup_contracts distinct), List.map_map, List.mem_map]
  rfl

theorem visit_concat (progress : Progress) {node : String}
    (listed : node ∈ (ofContracts contracts).nodes) :
    (ofContracts (contracts ++ [added])).visit [] node progress =
      (ofContracts contracts).visit [] node progress := by
  obtain ⟨contract, member, rfl⟩ := (mem_nodes_iff distinct).1 listed
  exact visit_congr (fun node => targets_concat apart distinct)
    (fun node leads => ne_added_of_leads distinct leads rfl) []
    (identifier_ne_added distinct (List.mem_cons_of_mem _ member)) progress

omit apart in
/-- Whatever the added contract depends on is one of the others. -/
theorem mem_nodes_of_leads {next : String}
    (leads : next ∈ (ofContracts (contracts ++ [added])).targets added.identifier) :
    next ∈ (ofContracts contracts).nodes := by
  rw [targets_ofContracts (nodup_contracts_concat distinct) (by simp), mem_dependencies] at leads
  obtain ⟨other, member, different, -, isNext⟩ := leads
  refine (mem_nodes_iff distinct).2 ⟨other, ?_, isNext⟩
  refine (List.mem_append.1 member).resolve_right fun isAdded => different ?_
  rw [List.mem_singleton.1 isAdded]

/-- The walk comes by the cycles of the others alone. -/
theorem cycles_concat :
    (ofContracts (contracts ++ [added])).cycles = (ofContracts contracts).cycles := by
  have nodes : (ofContracts (contracts ++ [added])).nodes =
      (ofContracts contracts).nodes ++ [added.identifier] := by
    rw [DependencyGraph.nodes, DependencyGraph.nodes, entries_concat apart distinct, List.map_append,
      List.map_singleton]
  rw [cycles, cycles, nodes, List.foldl_append, List.foldl_cons, List.foldl_nil,
    List.foldl_ext _ _ _ fun progress node listed => visit_concat apart distinct progress listed]
  -- When the walk comes to the added contract, all of the others have been left.
  refine cycles_visit_of_left fun next leads => ?_
  have walk := visits_foldl (fun progress next => (ofContracts contracts).visits_visit [] next progress)
    (ofContracts contracts).nodes ⟨[], []⟩
  exact (walk.reached next (mem_nodes_of_leads distinct leads)).resolve_right fun found =>
    List.not_mem_nil found.1

theorem cycleIssues_concat :
    (cycleIssues (ofContracts (contracts ++ [added])).cycles).filter
        (·.document != added.identifier) =
      cycleIssues (ofContracts contracts).cycles := by
  rw [cycles_concat apart distinct]
  refine List.filter_eq_self.2 fun issue member => bne_iff_ne.2 ?_
  obtain ⟨cycle, isCycle, rfl⟩ := List.mem_map.1 member
  obtain ⟨⟨node, inner, rfl, -⟩, follows⟩ := isCycle_of_mem_cycles isCycle
  obtain ⟨next, leads, -⟩ := Relation.TransGen.head'_iff.1 (transGen_of_isChain follows)
  obtain ⟨contract, other, depends, rfl, -⟩ :=
    (edge_ofContracts_iff (nodup_contracts distinct)).1 leads
  exact identifier_ne_added distinct (List.mem_cons_of_mem _ depends.1)

end DependencyGraph

/-! ### Shapes -/

namespace Shape

theorem recordsOf_concat (documents : List Document) (added : Document) :
    recordsOf (documents ++ [added]) = recordsOf documents ++ recordsOf [added] := by
  rw [recordsOf, recordsOf, recordsOf, List.flatMap_append, List.filter_append]

/-- Records of other names are nothing to the issues of the given names. -/
theorem recordIssuesFrom_congr (equivalences : List (String × String)) (shared : String)
    {records others : List Declaration} {names : List String}
    (same : ∀ name ∈ names, records.filter (·.name == name) = others.filter (·.name == name))
    (gaps : List Gap) :
    recordIssuesFrom equivalences shared records gaps names =
      recordIssuesFrom equivalences shared others gaps names := by
  induction names generalizing gaps with
  | nil => rfl
  | cons name names inductionHypothesis =>
    rw [List.forall_mem_cons] at same
    rw [recordIssuesFrom, recordIssuesFrom, same.1]
    simp only [inductionHypothesis same.2]

/-- The issues of further names follow those of the first ones. -/
theorem recordIssuesFrom_append (equivalences : List (String × String)) (shared : String)
    (records : List Declaration) (gaps : List Gap) (names further : List String) :
    ∃ known, recordIssuesFrom equivalences shared records gaps (names ++ further) =
      recordIssuesFrom equivalences shared records gaps names ++
        recordIssuesFrom equivalences shared records known further := by
  induction names generalizing gaps with
  | nil => exact ⟨gaps, rfl⟩
  | cons name names inductionHypothesis =>
    obtain ⟨known, rest⟩ := inductionHypothesis
      (groupIssues equivalences shared gaps (records.filter (·.name == name))).2
    refine ⟨known, ?_⟩
    simp only [List.cons_append, recordIssuesFrom, rest, List.append_assoc]

/-- Records whose names are none of the first ones leave the groups of the first ones as they are. -/
theorem recordIssuesFrom_groups (equivalences : List (String × String)) (shared : String)
    {first second : List Declaration}
    (apart : ∀ record ∈ second, ∀ other ∈ first, other.name ≠ record.name) :
    ∃ known, recordIssuesFrom equivalences shared (first ++ second) []
          (firstOccurrences ((first ++ second).map (·.name))) =
        recordIssuesFrom equivalences shared first [] (firstOccurrences (first.map (·.name))) ++
          recordIssuesFrom equivalences shared (first ++ second) known
            (firstOccurrences (second.map (·.name))) := by
  have names : firstOccurrences ((first ++ second).map (·.name)) =
      firstOccurrences (first.map (·.name)) ++ firstOccurrences (second.map (·.name)) := by
    rw [List.map_append]
    refine firstOccurrences_append fun name member known => ?_
    obtain ⟨record, recordMember, rfl⟩ := List.mem_map.1 member
    obtain ⟨other, otherMember, same⟩ := List.mem_map.1 known
    exact apart record recordMember other otherMember same
  have groups : recordIssuesFrom equivalences shared (first ++ second) []
        (firstOccurrences (first.map (·.name))) =
      recordIssuesFrom equivalences shared first [] (firstOccurrences (first.map (·.name))) := by
    refine recordIssuesFrom_congr _ _ (fun name member => ?_) []
    obtain ⟨other, otherMember, rfl⟩ := List.mem_map.1 (mem_firstOccurrences.1 member)
    have none : second.filter (·.name == other.name) = [] :=
      List.filter_eq_nil_iff.2 fun record recordMember => by
        simpa using Ne.symm (apart record recordMember other otherMember)
    rw [List.filter_append, none, List.append_nil]
  obtain ⟨known, split⟩ := recordIssuesFrom_append equivalences shared (first ++ second) []
    (firstOccurrences (first.map (·.name))) (firstOccurrences (second.map (·.name)))
  exact ⟨known, by rw [names, split, groups]⟩

theorem mem_declarations_of_mem_recordsOf {document : Document} {record : Declaration}
    (isRecord : record ∈ recordsOf [document]) : record ∈ document.declarations := by
  obtain ⟨other, listed, declared⟩ := exists_document_of_mem_recordsOf isRecord
  exact List.mem_singleton.1 listed ▸ declared

include apart in
theorem name_ne_of_mem_recordsOf {record : Declaration} (isRecord : record ∈ recordsOf [added])
    {other : Declaration} (isOther : other ∈ recordsOf (vocabulary :: contracts)) :
    other.name ≠ record.name := by
  intro same
  obtain ⟨document, listed, declared⟩ := exists_document_of_mem_recordsOf isOther
  have declares : added.declares record.name = true :=
    List.any_eq_true.2 ⟨record, mem_declarations_of_mem_recordsOf isRecord, by simp⟩
  exact List.any_eq_false.1 (apart.undeclared record.name declares document listed) other declared
    (beq_iff_eq.2 same)

variable (isRead : ∀ document ∈ vocabulary :: (contracts ++ [added]), document.IsRead)

include isRead apart distinct

theorem recordIssues_concat :
    (recordIssues settings vocabulary (contracts ++ [added])).filter
        (·.document != added.identifier) =
      recordIssues settings vocabulary contracts := by
  have apartNames : ∀ record ∈ recordsOf [added], ∀ other ∈ recordsOf (vocabulary :: contracts),
      other.name ≠ record.name :=
    fun _ isRecord _ isOther => name_ne_of_mem_recordsOf apart isRecord isOther
  obtain ⟨known, split⟩ :=
    recordIssuesFrom_groups settings.typeEquivalences vocabulary.identifier apartNames
  have kept : ∀ issue ∈ recordIssues settings vocabulary contracts,
      (issue.document != added.identifier) = true := by
    intro issue member
    obtain ⟨record, isRecord, -, stands⟩ := standsAt_of_mem_recordIssuesFrom member
    obtain ⟨document, listed, declared⟩ := exists_document_of_mem_recordsOf isRecord
    have inAll : document ∈ vocabulary :: (contracts ++ [added]) := by
      rw [← List.cons_append]
      exact List.mem_append_left _ listed
    rw [stands.document, (isRead document inAll).document_eq declared]
    exact bne_iff_ne.2 (identifier_ne_added distinct listed)
  have dropped : ∀ issue ∈ recordIssuesFrom settings.typeEquivalences vocabulary.identifier
      (recordsOf (vocabulary :: contracts) ++ recordsOf [added]) known
      (firstOccurrences ((recordsOf [added]).map (·.name))),
      ¬ (issue.document != added.identifier) = true := by
    intro issue member
    obtain ⟨record, isRecord, named, stands⟩ := standsAt_of_mem_recordIssuesFrom member
    obtain ⟨other, otherMember, same⟩ := List.mem_map.1 (mem_firstOccurrences.1 named)
    have isOwn : record ∈ recordsOf [added] := (List.mem_append.1 isRecord).resolve_left
      fun isOther => apartNames other otherMember record isOther same.symm
    rw [stands.document,
      (isRead added (by simp)).document_eq (mem_declarations_of_mem_recordsOf isOwn)]
    simp
  rw [recordIssues] at kept ⊢
  rw [recordIssues, ← List.cons_append, recordsOf_concat, split, List.filter_append,
    List.filter_eq_self.2 kept, List.filter_eq_nil_iff.2 dropped, List.append_nil]

theorem issues_concat :
    (issues settings vocabulary (contracts ++ [added])).filter (·.document != added.identifier) =
      issues settings vocabulary contracts := by
  rw [issues, issues, List.filter_append, recordIssues_concat apart distinct isRead]
  congr 1
  refine filter_flatMap_concat (fun _ _ => rfl) (fun contract member issue found => ?_)
    fun issue found => ?_
  · obtain ⟨declaration, -, stands⟩ := standsAt_of_mem_kindIssues found
    exact stands.document ▸ identifier_ne_added distinct (List.mem_cons_of_mem _ member)
  · obtain ⟨declaration, -, stands⟩ := standsAt_of_mem_kindIssues found
    exact stands.document

end Shape

namespace Verification

/-! ### All issues -/

/-- Apart from the audit of names, the issues are those of the resolution, the cycles and the shapes. -/
theorem IsOf.filter_category {reading : Pattern.Reading} {verification : Verification}
    (isOf : verification.IsOf reading settings vocabulary contracts) :
    verification.issues.filter (·.category != .namingSimilarity) =
      Resolution.issues settings vocabulary contracts ++
        DependencyGraph.cycleIssues (DependencyGraph.ofContracts contracts).cycles ++
        Shape.issues settings vocabulary contracts := by
  have resolution : ∀ issue ∈ Resolution.issues settings vocabulary contracts,
      (issue.category != .namingSimilarity) = true := fun issue member => by
    rw [(Resolution.issues_shape member).2]
    rfl
  have cycles : ∀ issue ∈ DependencyGraph.cycleIssues (DependencyGraph.ofContracts contracts).cycles,
      (issue.category != .namingSimilarity) = true := fun issue member => by
    rw [(cycleIssues_shape member).2]
    rfl
  have naming : ∀ issue ∈ verification.findings.naming,
      ¬ (issue.category != .namingSimilarity) = true := fun issue member => by
    rw [((Naming.issues_spec isOf.naming).2 issue member).2]
    exact Bool.false_ne_true
  have shapes : ∀ issue ∈ Shape.issues settings vocabulary contracts,
      (issue.category != .namingSimilarity) = true := fun issue member => by
    rw [Shape.issues_shape member]
    rfl
  rw [issues, Findings.all, isOf.resolution, isOf.cycles, isOf.shapes]
  simp only [List.filter_append]
  rw [List.filter_eq_self.2 resolution, List.filter_eq_self.2 cycles, List.filter_eq_nil_iff.2 naming,
    List.filter_eq_self.2 shapes, List.append_nil]

/-- A contract apart from the others adds issues of its own and of names only: the other issues are
those that there are without it, in the same order. With readable naming rules there is a verification
without it and one with it. -/
theorem issues_elsewhere_concat {reading : Pattern.Reading}
    (isRead : ∀ document ∈ vocabulary :: (contracts ++ [added]), document.IsRead)
    (distinct : ((vocabulary :: (contracts ++ [added])).map (·.identifier)).Nodup)
    (apart : added.IsApartFrom (vocabulary :: contracts)) :
    (∀ before after, of reading settings vocabulary contracts = .ok before →
        of reading settings vocabulary (contracts ++ [added]) = .ok after →
          (after.issues.filter (·.category != .namingSimilarity)).filter
              (·.document != added.identifier) =
            before.issues.filter (·.category != .namingSimilarity)) ∧
      (Naming.AreReadable reading settings.namingRules →
        (∃ before, of reading settings vocabulary contracts = .ok before) ∧
          ∃ after, of reading settings vocabulary (contracts ++ [added]) = .ok after) := by
  refine ⟨fun before after success further => ?_, fun readable => ⟨?_, ?_⟩⟩
  · rw [(isOf_of_eq_ok success).filter_category, (isOf_of_eq_ok further).filter_category,
      List.filter_append, List.filter_append, Resolution.issues_concat apart distinct,
      DependencyGraph.cycleIssues_concat apart distinct, Shape.issues_concat apart distinct isRead]
  · exact exists_of_iff.2 (Naming.exists_issues_of_readable readable)
  · exact exists_of_iff.2 (Naming.exists_issues_of_readable readable)

/-! ### A contract that only uses the others -/

/-- A contract that imports a record of the others and a name that nobody declares, and uses another
record without an import. -/
def ledgerContract : Document :=
  .ofText {} "ledger.ts"
    "import \x7b Parent, Coin \x7d from './shared';\ninterface Ledger \x7b parent: Parent; child: Child \x7d\n"

theorem isApartFrom_ledgerContract :
    ledgerContract.IsApartFrom [emptyVocabulary, parentContract, childContract] := by
  have names : ∀ name, ledgerContract.declares name = true → name = "Ledger" := by
    have all : ledgerContract.declarations.map (·.name) = ["Ledger"] := by decide +kernel
    intro name declares
    obtain ⟨declaration, declared, same⟩ := List.any_eq_true.1 declares
    have listed := List.mem_map_of_mem (f := (·.name)) declared
    rw [all, List.mem_singleton] at listed
    rw [← beq_iff_eq.1 same, listed]
  have used : ∀ document ∈ [emptyVocabulary, parentContract, childContract],
      document.declares "Ledger" = false ∧ document.importsName "Ledger" = false ∧
        ∀ use ∈ Resolution.uses document, use.2 ≠ "Ledger" := by decide +kernel
  refine ⟨fun name declares document member => ?_, fun name declares document member => ?_,
    fun name declares document member declaration declared refers => ?_⟩
  · exact names name declares ▸ (used document member).1
  · exact names name declares ▸ (used document member).2.1
  · obtain ⟨user, inside⟩ := Resolution.exists_mem_uses_iff.2 ⟨declaration, declared, refers⟩
    exact (used document member).2.2 _ inside (names name declares)

theorem issues_elsewhere_ledger :
    let reading := Pattern.read Pattern.noNames
    (∀ document ∈ [emptyVocabulary, parentContract, childContract, ledgerContract],
        document.IsRead) ∧
      ([emptyVocabulary, parentContract, childContract, ledgerContract].map (·.identifier)).Nodup ∧
      ledgerContract.IsApartFrom [emptyVocabulary, parentContract, childContract] ∧
      ∃ before after, of reading {} emptyVocabulary [parentContract, childContract] = .ok before ∧
        of reading {} emptyVocabulary [parentContract, childContract, ledgerContract] = .ok after ∧
        before.passed = false ∧ before.issues.length < after.issues.length ∧
        (after.issues.filter (·.category != .namingSimilarity)).filter
            (·.document != ledgerContract.identifier) =
          before.issues.filter (·.category != .namingSimilarity) := by
  intro reading
  have isRead : ∀ document ∈ [emptyVocabulary, parentContract, childContract, ledgerContract],
      document.IsRead := by
    simp only [List.forall_mem_cons]
    exact ⟨Document.isRead_ofText .., Document.isRead_ofText .., Document.isRead_ofText ..,
      Document.isRead_ofText .., fun _ absent => absurd absent List.not_mem_nil⟩
  have distinct : ([emptyVocabulary, parentContract, childContract, ledgerContract].map
      (·.identifier)).Nodup := by decide
  have apart := isApartFrom_ledgerContract
  obtain ⟨same, exist⟩ := @issues_elsewhere_concat {} emptyVocabulary ledgerContract
    [parentContract, childContract] reading isRead distinct apart
  obtain ⟨⟨before, success⟩, after, further⟩ := exist (Settings.areReadable_defaultNamingRules _)
  have fails : ((of reading {} emptyVocabulary [parentContract, childContract]).toOption.map fun before =>
      (before.passed, before.issues.length)) = some (false, 2) := by decide +kernel
  have grows : ((of reading {} emptyVocabulary [parentContract, childContract, ledgerContract]).toOption.map
      (·.issues.length)) = some 4 := by decide +kernel
  rw [success] at fails
  rw [show [parentContract, childContract, ledgerContract] =
    [parentContract, childContract] ++ [ledgerContract] from rfl, further] at grows
  have outcome := Prod.mk.inj (Option.some.inj fails)
  have more : after.issues.length = 4 := Option.some.inj grows
  refine ⟨isRead, distinct, apart, before, after, success, further, outcome.1, ?_,
    same before after success further⟩
  omega

end Verification

end Concord
