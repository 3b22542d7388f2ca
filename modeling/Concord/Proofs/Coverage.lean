/-
What is counted of a coverage are its items: so many, so many of them found, and the names of the others.
And what the default expectations come to. Their templates are filled for any domain, so no coverage of
them is refused, and a coverage is a list of demands: names that will do, a kind, and a text that declares
the preferred name with that kind. What became of a demand depends on the declarations of the document
only.
-/

import Concord.Coverage.Expected
import Concord.Proofs.Naming.Findings
import Mathlib.Data.List.Basic

namespace Concord.Coverage

/-! ### Counts -/

/-- These items and no others are counted. -/
structure Tally.IsOf (tally : Tally) (items : List Item) : Prop where
  expected : tally.expected = items.length
  found : tally.found = (items.filter (·.isFound)).length
  missing : tally.missing = (items.filter (!·.isFound)).map (·.names)

namespace Tally.IsOf

variable {tally : Tally} {items : List Item}

theorem start : Tally.IsOf {} [] :=
  ⟨rfl, rfl, rfl⟩

theorem count (isOf : tally.IsOf items) (item : Item) : (tally.count item).IsOf (items ++ [item]) := by
  unfold Tally.count
  split
  · next isFound =>
    refine ⟨?_, ?_, ?_⟩
    · rw [List.length_append, isOf.expected, List.length_singleton]
    · simp [List.filter_append, isFound, isOf.found]
    · simp [List.filter_append, isFound, isOf.missing]
  · next isMissing =>
    refine ⟨?_, ?_, ?_⟩
    · rw [List.length_append, isOf.expected, List.length_singleton]
    · simp [List.filter_append, isMissing, isOf.found]
    · simp [List.filter_append, isMissing, isOf.missing]

theorem countAll (isOf : tally.IsOf items) (others : List Item) :
    (tally.countAll others).IsOf (items ++ others) := by
  induction others generalizing tally items with
  | nil => rwa [List.append_nil]
  | cons item others inductionHypothesis =>
    rw [List.append_cons]
    exact inductionHypothesis (isOf.count item)

theorem countRows (isOf : tally.IsOf items) (rows : List DomainItems) :
    (rows.foldl (fun tally row => tally.countAll row.items) tally).IsOf
      (items ++ rows.flatMap (·.items)) := by
  induction rows generalizing tally items with
  | nil => rwa [List.flatMap_nil, List.append_nil]
  | cons row rows inductionHypothesis =>
    rw [List.flatMap_cons, ← List.append_assoc]
    exact inductionHypothesis (isOf.countAll row.items)

end Tally.IsOf

/-- Every item of a coverage is counted. -/
theorem isOf_tally (coverage : Coverage) : coverage.tally.IsOf coverage.items :=
  (Tally.IsOf.start.countRows coverage.domains).countAll coverage.common

theorem expectedCount_eq_length (coverage : Coverage) :
    coverage.expectedCount = coverage.items.length :=
  coverage.isOf_tally.expected

theorem foundCount_eq_length (coverage : Coverage) :
    coverage.foundCount = (coverage.items.filter (·.isFound)).length :=
  coverage.isOf_tally.found

theorem missing_eq_map (coverage : Coverage) :
    coverage.missing = (coverage.items.filter (!·.isFound)).map (·.names) :=
  coverage.isOf_tally.missing

/-! ### Demands -/

/-- An expected item whose names and suggestion are worked out. -/
structure Demand where
  label : String
  kind : DeclarationKind
  names : List String
  suggestion : String

/-- What became of a demand. -/
def Demand.item (document : Document) (demand : Demand) : Item :=
  match find? document demand.names demand.kind with
  | some declaration =>
    ⟨demand.label, demand.names, true, some (describe declaration), none⟩
  | none => ⟨demand.label, demand.names, false, none, some demand.suggestion⟩

theorem Demand.label_item (document : Document) (demand : Demand) :
    (demand.item document).label = demand.label := by
  rw [item]
  split <;> rfl

theorem Demand.expected_item (document : Document) (demand : Demand) :
    (demand.item document).expected = demand.names := by
  rw [item]
  split <;> rfl

/-- The text of a reference to what a domain identifies. -/
def referenceSuggestion (domain name : String) : String :=
  "interface " ++ name ++ " \x7b\n  id: " ++ domain ++ "Id;\n  name?: string;\n\x7d"

/-- The text of an enumeration of states. -/
def stateSuggestion (name : String) : String :=
  "enum " ++ name ++
    " \x7b\n  DRAFT = 'draft',\n  ACTIVE = 'active',\n  ARCHIVED = 'archived'\n\x7d"

/-- The text of an enumeration of types. -/
def typeSuggestion (name : String) : String :=
  "enum " ++ name ++ " \x7b\n  DEFAULT = 'default',\n  CUSTOM = 'custom'\n\x7d"

/-- What is demanded for a domain by default. -/
def demandsOf (domain : String) : List Demand :=
  [⟨"ID Type", .typeAlias, [domain ++ "Id"], brandSuggestion (domain ++ "Id")⟩,
    ⟨"Ref Interface", .record, [domain ++ "Ref"], referenceSuggestion domain (domain ++ "Ref")⟩,
    ⟨"State/Status Enum", .enumeration, [domain ++ "State", domain ++ "Status"],
      stateSuggestion (domain ++ "State")⟩,
    ⟨"Type Enum", .enumeration, [domain ++ "Type"], typeSuggestion (domain ++ "Type")⟩]

/-- What is demanded whatever the domains. -/
def commonDemands : List Demand :=
  defaultExpectations.commonItems.map fun expectation =>
    ⟨expectation.name, expectation.kind, [expectation.name], expectation.suggestion⟩

/-! ### Answered demands -/

/-- A declaration of the document has one of the names and the kind that are demanded. -/
def Demand.IsAnswered (document : Document) (demand : Demand) : Prop :=
  ∃ declaration ∈ document.declarations,
    declaration.name ∈ demand.names ∧ declaration.kind = demand.kind

theorem isSome_find? {document : Document} {names : List String} {kind : DeclarationKind} :
    (find? document names kind).isSome = true ↔
      ∃ declaration ∈ document.declarations, declaration.name ∈ names ∧ declaration.kind = kind := by
  simp only [find?, List.isSome_findSome?, List.any_eq_true, List.find?_isSome, Bool.and_eq_true,
    beq_iff_eq]
  constructor
  · rintro ⟨_, member, declaration, isDeclared, rfl, isKind⟩
    exact ⟨declaration, isDeclared, member, isKind⟩
  · rintro ⟨declaration, isDeclared, member, isKind⟩
    exact ⟨_, member, declaration, isDeclared, rfl, isKind⟩

theorem Demand.isFound_item {document : Document} {demand : Demand} :
    (demand.item document).isFound = true ↔ demand.IsAnswered document := by
  rw [IsAnswered, ← isSome_find?, item]
  cases find? document demand.names demand.kind <;> simp

/-- What is answered stays answered among more declarations. -/
theorem Demand.IsAnswered.mono {document larger : Document} {demand : Demand}
    (answered : demand.IsAnswered document)
    (included : document.declarations ⊆ larger.declarations) : demand.IsAnswered larger := by
  obtain ⟨declaration, isDeclared, answers⟩ := answered
  exact ⟨declaration, included isDeclared, answers⟩

/-! ### Templates -/

theorem fill_eq_ok {values : List (String × String)} {template result : String}
    (filled : Template.fillFrom values [] 0 template.toList = .ok result.toList) :
    Template.fill values template = .ok result := by
  rw [Template.fill, filled, Except.map, String.ofList_toList]

theorem fillFrom_plain {values : List (String × String)} {before text : List Char}
    (plain : '$' ∉ text) : Template.fillFrom values before 0 text = .ok text := by
  induction text generalizing before with
  | nil => rfl
  | cons c text inductionHypothesis =>
    rw [List.mem_cons, not_or] at plain
    rw [Template.fillFrom, if_neg (Ne.symm plain.1), inductionHypothesis plain.2]
    rfl

section Filled

variable (domain name : String)

-- a filled template is read off character by character
set_option maxRecDepth 4000

/-- The names of a domain are the domain with something behind. -/
theorem fill_behindDomain (suffix : String) (plain : '$' ∉ suffix.toList) :
    Template.fill [("domain", domain)] ("$\x7bdomain\x7d" ++ suffix) = .ok (domain ++ suffix) := by
  refine fill_eq_ok ?_
  rw [String.toList_append, String.toList_append]
  have opened : Template.fillFrom [("domain", domain)] [] 0
        ("$\x7bdomain\x7d".toList ++ suffix.toList) =
      (Template.fillFrom [("domain", domain)] "$\x7bdomain\x7d".toList.reverse 0 suffix.toList).map
        (domain.toList ++ ·) := rfl
  rw [opened, fillFrom_plain plain]
  rfl

theorem fill_identifierSuggestion :
    Template.fill [("domain", domain), ("name", name)] identifierType.suggestion =
      .ok (brandSuggestion name) := by
  refine fill_eq_ok ?_
  simp only [brandSuggestion, String.toList_append, List.append_assoc]
  rfl

theorem fill_referenceSuggestion :
    Template.fill [("domain", domain), ("name", name)] referenceRecord.suggestion =
      .ok (referenceSuggestion domain name) := by
  refine fill_eq_ok ?_
  simp only [referenceSuggestion, String.toList_append, List.append_assoc]
  rfl

theorem fill_stateSuggestion :
    Template.fill [("domain", domain), ("name", name)] stateEnumeration.suggestion =
      .ok (stateSuggestion name) := by
  refine fill_eq_ok ?_
  simp only [stateSuggestion, String.toList_append, List.append_assoc]
  rfl

theorem fill_typeSuggestion :
    Template.fill [("domain", domain), ("name", name)] typeEnumeration.suggestion =
      .ok (typeSuggestion name) := by
  refine fill_eq_ok ?_
  simp only [typeSuggestion, String.toList_append, List.append_assoc]
  rfl

end Filled

/-! ### Expectations as demands -/

/-- For the domain the expectation comes to the demand. -/
structure DomainExpectation.ComesTo (expectation : DomainExpectation) (domain : String)
    (demand : Demand) : Prop where
  label : expectation.label = demand.label
  kind : expectation.kind = demand.kind
  names : expectation.names domain = .ok demand.names
  suggestion : expectation.suggest domain demand.names = .ok demand.suggestion

variable {domain : String}

theorem names_eq_ok {expectation : DomainExpectation} {names : List String}
    (filled : List.Forall₂
      (fun template name => Template.fill [("domain", domain)] template = .ok name)
      expectation.templates names) :
    expectation.names domain = .ok names := by
  refine Naming.mapM_eq_ok_iff.2 (filled.imp fun template name same => ?_)
  rw [same, Except.mapError]

theorem suggest_eq_ok {expectation : DomainExpectation} {name suggestion : String}
    {others : List String}
    (filled : Template.fill [("domain", domain), ("name", name)] expectation.suggestion =
      .ok suggestion) :
    expectation.suggest domain (name :: others) = .ok suggestion := by
  rw [DomainExpectation.suggest, filled, Except.mapError]

/-- The default expectations come to the default demands, one by one. -/
theorem comesTo_default (domain : String) :
    List.Forall₂ (fun expectation demand => DomainExpectation.ComesTo expectation domain demand)
      defaultExpectations.domainItems (demandsOf domain) := by
  have identifier := fill_behindDomain domain "Id" (by decide)
  have reference := fill_behindDomain domain "Ref" (by decide)
  have state := fill_behindDomain domain "State" (by decide)
  have status := fill_behindDomain domain "Status" (by decide)
  have type := fill_behindDomain domain "Type" (by decide)
  refine .cons ⟨rfl, rfl, names_eq_ok (.cons identifier .nil), ?_⟩ <|
    .cons ⟨rfl, rfl, names_eq_ok (.cons reference .nil), ?_⟩ <|
    .cons ⟨rfl, rfl, names_eq_ok (.cons state (.cons status .nil)), ?_⟩ <|
    .cons ⟨rfl, rfl, names_eq_ok (.cons type .nil), ?_⟩ .nil
  · exact suggest_eq_ok (fill_identifierSuggestion ..)
  · exact suggest_eq_ok (fill_referenceSuggestion ..)
  · exact suggest_eq_ok (fill_stateSuggestion ..)
  · exact suggest_eq_ok (fill_typeSuggestion ..)

theorem DomainExpectation.ComesTo.domainItem_eq {expectation : DomainExpectation} {demand : Demand}
    (comesTo : expectation.ComesTo domain demand) (document : Document) :
    domainItem document domain expectation = .ok (demand.item document) := by
  simp only [domainItem, Demand.item, comesTo.names, comesTo.kind, comesTo.label, bind, Except.bind]
  cases find? document demand.names demand.kind with
  | none => simp only [comesTo.suggestion, pure, Except.pure]
  | some declaration => rfl

/-- What is expected whatever the domains, as a demand. -/
def CommonExpectation.demand (expectation : CommonExpectation) : Demand :=
  ⟨expectation.name, expectation.kind, [expectation.name], expectation.suggestion⟩

theorem CommonExpectation.commonItem_eq (document : Document) (expectation : CommonExpectation) :
    commonItem document expectation = expectation.demand.item document := by
  cases found : find? document [expectation.name] expectation.kind with
  | none => simp only [commonItem, Demand.item, demand, found]
  | some declaration => simp only [commonItem, Demand.item, demand, found]

/-! ### Coverages as demands -/

/-- What is demanded of a vocabulary, for every domain and whatever the domains. -/
structure Demands where
  domains : List (String × List Demand)
  common : List Demand

/-- What became of demands. -/
def Demands.coverage (document : Document) (demands : Demands) : Coverage :=
  ⟨document.identifier,
    demands.domains.map fun row => ⟨row.1, row.2.map (·.item document)⟩,
    demands.common.map (·.item document)⟩

/-- The demands in the order of the items. -/
def Demands.all (demands : Demands) : List Demand :=
  demands.domains.flatMap (·.2) ++ demands.common

theorem Demands.items_coverage (document : Document) (demands : Demands) :
    (demands.coverage document).items = demands.all.map (·.item document) := by
  rw [items, coverage, all, List.map_append, List.flatMap_map, List.map_flatMap]

/-- For the domains the expectations come to the demands. -/
structure Expectations.ComesTo (expectations : Expectations) (domains : List String)
    (demands : Demands) : Prop where
  domains : List.Forall₂ (fun domain row => row.1 = domain ∧
    List.Forall₂ (fun expectation demand => DomainExpectation.ComesTo expectation domain demand)
      expectations.domainItems row.2) domains demands.domains
  common : demands.common = expectations.commonItems.map (·.demand)

/-- Which demands a coverage is made of has nothing to do with the document. -/
theorem Expectations.ComesTo.of_eq {expectations : Expectations} {domains : List String}
    {demands : Demands} (comesTo : expectations.ComesTo domains demands) (document : Document) :
    Coverage.of expectations document domains = .ok (demands.coverage document) := by
  have rows : domains.mapM (itemsOf document expectations) =
      .ok (demands.domains.map fun row => ⟨row.1, row.2.map (·.item document)⟩) := by
    refine Naming.mapM_eq_ok_iff.2 <| List.forall₂_map_right_iff.2 <| comesTo.domains.imp ?_
    rintro _ ⟨domain, row⟩ ⟨rfl, expected⟩
    have items : expectations.domainItems.mapM (domainItem document domain) =
        .ok (row.map (·.item document)) :=
      Naming.mapM_eq_ok_iff.2 <| List.forall₂_map_right_iff.2 <|
        expected.imp fun _ _ comesTo => comesTo.domainItem_eq document
    rw [itemsOf, items]
    rfl
  have common : expectations.commonItems.map (commonItem document) =
      demands.common.map (·.item document) := by
    rw [comesTo.common, List.map_map]
    exact List.map_congr_left fun expectation _ => expectation.commonItem_eq document
  rw [Coverage.of, rows, common]
  rfl

/-! ### The default expectations -/

/-- What became of the demands for one domain. -/
def rowOf (document : Document) (domain : String) : DomainItems :=
  ⟨domain, (demandsOf domain).map (·.item document)⟩

/-- The coverage of the default expectations: no template is refused. -/
def ofDefault (document : Document) (domains : List String) : Coverage :=
  ⟨document.identifier, domains.map (rowOf document), commonDemands.map (·.item document)⟩

theorem of_default (document : Document) (domains : List String) :
    Coverage.of defaultExpectations document domains = .ok (ofDefault document domains) := by
  have comesTo : defaultExpectations.ComesTo domains
      ⟨domains.map fun domain => (domain, demandsOf domain), commonDemands⟩ :=
    ⟨List.forall₂_map_right_iff.2 <| List.forall₂_same.2 fun domain _ =>
      ⟨rfl, comesTo_default domain⟩, rfl⟩
  rw [comesTo.of_eq, Demands.coverage, List.map_map]
  rfl

/-- What is demanded for domains and whatever the domains, in the order of the items. -/
def allDemands (domains : List String) : List Demand :=
  domains.flatMap demandsOf ++ commonDemands

theorem items_ofDefault (document : Document) (domains : List String) :
    (ofDefault document domains).items = (allDemands domains).map (·.item document) := by
  rw [items, ofDefault, allDemands, List.map_append, List.flatMap_map, List.map_flatMap]
  rfl

end Concord.Coverage
