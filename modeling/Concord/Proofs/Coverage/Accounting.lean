/-
A coverage accounts for all that is expected. There is an item for every expectation and every domain,
and one for every common expectation; it is found when a declaration has one of the names and the kind,
whatever else is declared under the name. Nothing that is found is lost when more is declared, in whatever
order: the later list of missing items is the earlier one with some of them gone.
-/

import Concord.Proofs.Coverage

namespace Concord.Coverage

/-! ### Expectations with demands -/

/-- For each of the domains the templates of the expectations are filled, those of the names and that of
the suggestion. -/
def Expectations.FillFor (expectations : Expectations) (domains : List String) : Prop :=
  ∀ domain ∈ domains, ∀ expectation ∈ expectations.domainItems,
    ∃ names suggestion,
      expectation.names domain = .ok names ∧ expectation.suggest domain names = .ok suggestion

section Filled

variable {expectations : Expectations} {domains : List String}

theorem DomainExpectation.exists_comesTo {expectation : DomainExpectation} {domain : String}
    (filled : ∃ names suggestion,
      expectation.names domain = .ok names ∧ expectation.suggest domain names = .ok suggestion) :
    ∃ demand, expectation.ComesTo domain demand := by
  obtain ⟨names, suggestion, named, suggested⟩ := filled
  exact ⟨⟨expectation.label, expectation.kind, names, suggestion⟩, rfl, rfl, named, suggested⟩

theorem Expectations.FillFor.exists_demands (filled : expectations.FillFor domains) :
    ∃ demands, expectations.ComesTo domains demands := by
  have rows : ∀ domain ∈ domains, ∃ row : String × List Demand, row.1 = domain ∧
      List.Forall₂ (fun expectation demand => DomainExpectation.ComesTo expectation domain demand)
        expectations.domainItems row.2 := by
    intro domain listed
    obtain ⟨demands, comesTo⟩ := Naming.exists_forall₂_iff.2 fun expectation expected =>
      DomainExpectation.exists_comesTo (filled domain listed expectation expected)
    exact ⟨(domain, demands), rfl, comesTo⟩
  obtain ⟨rows, comesTo⟩ := Naming.exists_forall₂_iff.2 rows
  exact ⟨⟨rows, _⟩, comesTo, rfl⟩

/-! ### Counts -/

/-- As many items are expected as are found and are missing. -/
theorem expectedCount_eq (coverage : Coverage) :
    coverage.expectedCount = coverage.foundCount + coverage.missing.length := by
  rw [expectedCount_eq_length, foundCount_eq_length, missing_eq_map, List.length_map]
  exact List.length_eq_length_filter_add _

theorem passed_iff_all_found {coverage : Coverage} :
    coverage.passed = true ↔ ∀ item ∈ coverage.items, item.isFound = true := by
  simp [passed, missing_eq_map]

/-- There is a demand for every expectation and every domain. -/
theorem Expectations.ComesTo.length_all {demands : Demands}
    (comesTo : expectations.ComesTo domains demands) :
    demands.all.length =
      domains.length * expectations.domainItems.length + expectations.commonItems.length := by
  have rows : demands.domains.map (·.2.length) = domains.map fun _ => expectations.domainItems.length := by
    rw [← List.forall₂_eq_eq_eq, List.forall₂_map_left_iff, List.forall₂_map_right_iff]
    exact comesTo.domains.flip.imp fun row domain expected => expected.2.length_eq.symm
  rw [Demands.all, List.length_append, List.length_flatMap, rows, List.map_const', List.sum_replicate_nat,
    comesTo.common, List.length_map]

/-! ### What items report -/

/-- Of the names that will do and the kind, the item reports whether the document declares one of the
names with the kind. -/
structure Item.Reports (document : Document) (label : String) (names : List String)
    (kind : DeclarationKind) (item : Item) : Prop where
  label : item.label = label
  expected : item.expected = names
  found : item.isFound = true ↔
    ∃ declaration ∈ document.declarations, declaration.name ∈ names ∧ declaration.kind = kind

theorem Demand.reports_item (document : Document) (demand : Demand) :
    (demand.item document).Reports document demand.label demand.names demand.kind :=
  ⟨demand.label_item document, demand.expected_item document, Demand.isFound_item⟩

/-- The items are those of the expectations for the domains, in their order. -/
structure Reports (expectations : Expectations) (document : Document) (domains : List String)
    (coverage : Coverage) : Prop where
  domains : List.Forall₂ (fun domain row => row.domain = domain ∧
    List.Forall₂ (fun expectation item => ∃ names, expectation.names domain = .ok names ∧
      item.Reports document expectation.label names expectation.kind)
      expectations.domainItems row.items) domains coverage.domains
  common : List.Forall₂ (fun expectation item =>
    item.Reports document expectation.name [expectation.name] expectation.kind)
    expectations.commonItems coverage.common

theorem DomainExpectation.ComesTo.reports_item {expectation : DomainExpectation} {domain : String}
    {demand : Demand} (comesTo : expectation.ComesTo domain demand) (document : Document) :
    ∃ names, expectation.names domain = .ok names ∧
      (demand.item document).Reports document expectation.label names expectation.kind := by
  refine ⟨demand.names, comesTo.names, ?_⟩
  rw [comesTo.label, comesTo.kind]
  exact demand.reports_item document

theorem Expectations.ComesTo.reports_coverage {demands : Demands}
    (comesTo : expectations.ComesTo domains demands) (document : Document) :
    (demands.coverage document).Reports expectations document domains where
  domains := by
    refine List.forall₂_map_right_iff.2 <| comesTo.domains.imp fun domain row ⟨same, expected⟩ => ?_
    exact ⟨same, List.forall₂_map_right_iff.2 <|
      expected.imp fun _ _ comesTo => comesTo.reports_item document⟩
  common := by
    rw [Demands.coverage, comesTo.common, List.map_map]
    exact List.forall₂_map_right_iff.2 <| List.forall₂_same.2 fun expectation _ =>
      expectation.demand.reports_item document

/-! ### More declarations -/

section Larger

variable {document larger : Document} (included : document.declarations ⊆ larger.declarations)

include included

theorem Demand.isFound_item_mono {demand : Demand} (found : (demand.item document).isFound = true) :
    (demand.item larger).isFound = true :=
  Demand.isFound_item.2 ((Demand.isFound_item.1 found).mono included)

/-- An item is the same but for what is found, and what was found is found. -/
theorem Demands.items_mono (demands : Demands) :
    List.Forall₂ (fun before after => after.label = before.label ∧ after.expected = before.expected ∧
      (before.isFound = true → after.isFound = true))
      (demands.coverage document).items (demands.coverage larger).items := by
  rw [demands.items_coverage, demands.items_coverage, List.forall₂_map_left_iff,
    List.forall₂_map_right_iff, List.forall₂_same]
  intro demand _
  refine ⟨?_, ?_, Demand.isFound_item_mono included⟩
  · rw [demand.label_item, demand.label_item]
  · rw [demand.expected_item, demand.expected_item]

omit included in
theorem Demands.missing_coverage (demands : Demands) :
    (demands.coverage document).missing =
      (demands.all.filter fun demand => !(demand.item document).isFound).map
        (" or ".intercalate ·.names) := by
  rw [missing_eq_map, demands.items_coverage, List.filter_map, List.map_map]
  refine List.map_congr_left fun demand _ => ?_
  rw [Function.comp_apply, Item.names, demand.expected_item]

/-- Of the missing items some go and none is put between them. -/
theorem Demands.missing_sublist (demands : Demands) :
    (demands.coverage larger).missing.Sublist (demands.coverage document).missing := by
  rw [demands.missing_coverage, demands.missing_coverage]
  refine (List.monotone_filter_right _ fun demand stillMissing => ?_).map _
  rw [Bool.not_eq_true', Bool.eq_false_iff] at stillMissing ⊢
  exact fun found => stillMissing (Demand.isFound_item_mono included found)

end Larger

/-! ### Accounts -/

/-- A coverage counts every item, finds those that are declared, and loses none of them when more is
declared. -/
theorem items_accounted (filled : expectations.FillFor domains) (document : Document) :
    ∃ coverage, Coverage.of expectations document domains = .ok coverage ∧
      coverage.expectedCount =
        domains.length * expectations.domainItems.length + expectations.commonItems.length ∧
      coverage.expectedCount = coverage.foundCount + coverage.missing.length ∧
      coverage.Reports expectations document domains ∧
      (coverage.passed = true ↔ ∀ item ∈ coverage.items, item.isFound = true) ∧
      ∀ larger : Document, document.declarations ⊆ larger.declarations →
        ∃ later, Coverage.of expectations larger domains = .ok later ∧
          List.Forall₂ (fun before after => after.label = before.label ∧
            after.expected = before.expected ∧ (before.isFound = true → after.isFound = true))
            coverage.items later.items ∧
          later.missing.Sublist coverage.missing := by
  obtain ⟨demands, comesTo⟩ := filled.exists_demands
  refine ⟨demands.coverage document, comesTo.of_eq document, ?_, expectedCount_eq _,
    comesTo.reports_coverage document, passed_iff_all_found, ?_⟩
  · rw [expectedCount_eq_length, demands.items_coverage, List.length_map, comesTo.length_all]
  · intro larger included
    exact ⟨demands.coverage larger, comesTo.of_eq larger, demands.items_mono included,
      demands.missing_sublist included⟩

end Filled

/-- A key for every domain, and what a page is. -/
def keyExpectations : Expectations :=
  { domainItems :=
      [⟨"Key", .typeAlias, ["$\x7bdomain\x7dKey", "$\x7bdomain\x7dId"], "type $name = string;"⟩]
    commonItems := [⟨"Page", .record, "interface Page \x7b\x7d"⟩] }

/-- A vocabulary with a record and an alias of one name. -/
def orderKeys : Document :=
  { identifier := "shared.ts"
    declarations :=
      [{ name := "OrderId", kind := .record, location := ⟨"shared.ts", 1⟩ },
        { name := "OrderId", kind := .typeAlias, location := ⟨"shared.ts", 3⟩,
          typeExpression := "string" }] }

/-- The same in another order, behind one more alias. -/
def moreKeys : Document :=
  { orderKeys with
    declarations :=
      { name := "ItemKey", kind := .typeAlias, location := ⟨"shared.ts", 5⟩,
        typeExpression := "string" } :: orderKeys.declarations.reverse }

/-- Of three items one is found in the one vocabulary and two in the other. -/
theorem items_accounted_keys :
    keyExpectations.FillFor ["Order", "Item"] ∧ orderKeys.declarations ⊆ moreKeys.declarations ∧
    ∃ coverage later,
      Coverage.of keyExpectations orderKeys ["Order", "Item"] = .ok coverage ∧
      coverage.expectedCount = 3 ∧ coverage.missing = ["ItemKey or ItemId", "Page"] ∧
      Coverage.of keyExpectations moreKeys ["Order", "Item"] = .ok later ∧
      later.missing = ["Page"] ∧ later.missing.Sublist coverage.missing := by
  have order : ∃ names suggestion, keyExpectations.domainItems[0].names "Order" = .ok names ∧
      keyExpectations.domainItems[0].suggest "Order" names = .ok suggestion :=
    ⟨["OrderKey", "OrderId"], "type OrderKey = string;", by decide +kernel, by decide +kernel⟩
  have item : ∃ names suggestion, keyExpectations.domainItems[0].names "Item" = .ok names ∧
      keyExpectations.domainItems[0].suggest "Item" names = .ok suggestion :=
    ⟨["ItemKey", "ItemId"], "type ItemKey = string;", by decide +kernel, by decide +kernel⟩
  have filled : keyExpectations.FillFor ["Order", "Item"] :=
    List.forall_mem_cons.2 ⟨List.forall_mem_singleton.2 order,
      List.forall_mem_singleton.2 (List.forall_mem_singleton.2 item)⟩
  have included : orderKeys.declarations ⊆ moreKeys.declarations := by decide
  obtain ⟨coverage, success, -, -, -, -, more⟩ := items_accounted filled orderKeys
  obtain ⟨later, laterSuccess, -, sublist⟩ := more moreKeys included
  have counted : (Coverage.of keyExpectations orderKeys ["Order", "Item"]).map
      (fun coverage => (coverage.expectedCount, coverage.missing)) =
        .ok (3, ["ItemKey or ItemId", "Page"]) := by decide +kernel
  have laterCounted : (Coverage.of keyExpectations moreKeys ["Order", "Item"]).map (·.missing) =
      .ok ["Page"] := by decide +kernel
  rw [success] at counted
  rw [laterSuccess] at laterCounted
  obtain ⟨expected, missing⟩ := Prod.mk.inj (Except.ok.inj counted)
  exact ⟨filled, included, coverage, later, success, expected, missing, laterSuccess,
    Except.ok.inj laterCounted, sublist⟩

end Concord.Coverage
