/-
What a coverage suggests repairs the vocabulary. A declaration that answers a demand goes on to answer it
when others are added, and the text of the suggestions declares what the unanswered demands want. So a
vocabulary to which the declarations of that text are added covers everything that is expected.
-/

import Concord.Proofs.Coverage.Suggestions
import Concord.Proofs.Document.Blocks

namespace Concord.Coverage

open Printed Text

/-! ### Suggested text -/

/-- The suggestions for the items that are not found, in order. -/
def suggestions (coverage : Coverage) : List String :=
  (coverage.items.filter (!·.isFound)).filterMap (·.suggestion)

/-- The suggestions with line breaks between them. -/
def suggestedText (coverage : Coverage) : String :=
  "\n".intercalate coverage.suggestions

/-- The document with the declarations that a text makes under its path. -/
def extended (settings : Settings) (identifier text : String) (document : Document) : Document :=
  { document with
    declarations := document.declarations ++ (Document.ofText settings identifier text).declarations }

/-! ### Answered demands -/

theorem Demand.suggestion_item {document : Document} {demand : Demand}
    (unanswered : ¬ demand.IsAnswered document) :
    (demand.item document).suggestion = some demand.suggestion := by
  rw [IsAnswered, ← isSome_find?, Option.not_isSome_iff_eq_none] at unanswered
  rw [item, unanswered]

/-- What is answered stays answered when a document is extended. -/
theorem Demand.IsAnswered.extended {document : Document} {demand : Demand}
    (answered : demand.IsAnswered document) (settings : Settings) (identifier text : String) :
    demand.IsAnswered (extended settings identifier text document) := by
  exact answered.mono fun _ => List.mem_append_left _

/-! ### What the suggestions declare -/

section Declared

variable {demands : List Demand} {outlines : List Outline}
  (declares : List.Forall₂ Demand.IsDeclaredBy demands outlines)

include declares

theorem intercalate_suggestions :
    "\n".intercalate (demands.map (·.suggestion)) = String.ofList (Outline.joined id outlines) := by
  have texts : (demands.map (·.suggestion)).map String.toList = outlines.map (·.text id) := by
    induction declares with
    | nil => rfl
    | cons declared _ inductionHypothesis =>
      rw [List.map_cons, List.map_cons, List.map_cons, inductionHypothesis, ← declared.text,
        String.toList_ofList]
  rw [← String.toList_inj, String.toList_intercalate, texts]
  exact String.toList_ofList.symm

theorem exists_outline {demand : Demand} (member : demand ∈ demands) :
    ∃ outline ∈ outlines, demand.IsDeclaredBy outline := by
  induction declares with
  | nil => exact absurd member List.not_mem_nil
  | cons declared _ inductionHypothesis =>
    rcases List.mem_cons.1 member with rfl | later
    · exact ⟨_, List.mem_cons_self, declared⟩
    · obtain ⟨outline, inside, declaredLater⟩ := inductionHypothesis later
      exact ⟨outline, List.mem_cons_of_mem _ inside, declaredLater⟩

/-- The text of suggestions that are outlines answers the demands. -/
theorem isAnswered_of_mem {settings : Settings} {identifier : String}
    (isPlain : Document.isProse settings identifier = false) (document : Document) {demand : Demand}
    (member : demand ∈ demands) :
    demand.IsAnswered
      (extended settings identifier ("\n".intercalate (demands.map (·.suggestion))) document) := by
  obtain ⟨outline, inside, declared⟩ := exists_outline declares member
  have declarations : (extended settings identifier
        ("\n".intercalate (demands.map (·.suggestion))) document).declarations =
      document.declarations ++ declarationsOf ⟨1, String.ofList (Outline.joined id outlines)⟩ identifier := by
    rw [extended, Document.ofText, Document.regions_of_plain isPlain, List.flatMap_singleton,
      intercalate_suggestions declares]
  have named := Outline.declared_joined outlines identifier 1
  have pair : (String.ofList outline.name, outline.shape.kind) ∈ outlines.map fun outline =>
      (String.ofList outline.name, outline.shape.kind) := List.mem_map_of_mem inside
  rw [← named, List.mem_map] at pair
  obtain ⟨declaration, isDeclared, same⟩ := pair
  rw [Prod.mk.injEq] at same
  refine ⟨declaration, ?_, ?_, same.2.trans declared.kind⟩
  · rw [declarations]
    exact List.mem_append_right _ isDeclared
  · rw [same.1]
    exact declared.name

end Declared

/-! ### Repaired vocabularies -/

theorem suggestions_ofDefault (document : Document) (domains : List String) :
    (ofDefault document domains).suggestions =
      ((allDemands domains).filter fun demand => !(demand.item document).isFound).map
        (·.suggestion) := by
  rw [suggestions, items_ofDefault, List.filter_map, List.filterMap_map, ← List.filterMap_eq_map]
  refine List.filterMap_congr fun demand member => ?_
  have unanswered : ¬ demand.IsAnswered document := by
    rw [← Demand.isFound_item]
    simpa using (List.mem_filter.1 member).2
  exact Demand.suggestion_item unanswered

/-- Every item that is missing comes with a suggestion. -/
theorem length_suggestions (document : Document) (domains : List String) :
    (ofDefault document domains).suggestions.length = (ofDefault document domains).missing.length := by
  rw [suggestions_ofDefault, missing_eq_map, items_ofDefault, List.filter_map, List.length_map,
    List.length_map, List.length_map]
  rfl

theorem isDeclaredBy_of_mem_allDemands {domains : List String}
    (named : ∀ domain ∈ domains, isIdentifier domain.toList = true) {demand : Demand}
    (member : demand ∈ allDemands domains) : ∃ outline, demand.IsDeclaredBy outline := by
  rcases List.mem_append.1 member with ofDomain | common
  · obtain ⟨domain, listed, inside⟩ := List.mem_flatMap.1 ofDomain
    exact isDeclaredBy_of_mem_demandsOf (named domain listed) inside
  · obtain ⟨outline, -, declared⟩ := exists_outline isDeclaredBy_commonDemands common
    exact ⟨outline, declared⟩

theorem missing_eq_nil {coverage : Coverage} (found : ∀ item ∈ coverage.items, item.isFound = true) :
    coverage.missing = [] := by
  have none : coverage.items.filter (!·.isFound) = [] :=
    List.filter_eq_nil_iff.2 fun item member => by simp [found item member]
  rw [missing_eq_map, none, List.map_nil]

/-- With the declarations of the suggestions every demand is answered. -/
theorem isAnswered_extended {document : Document} {domains : List String}
    (named : ∀ domain ∈ domains, isIdentifier domain.toList = true) {settings : Settings}
    {identifier : String} (isPlain : Document.isProse settings identifier = false) {demand : Demand}
    (member : demand ∈ allDemands domains) :
    demand.IsAnswered
      (extended settings identifier (ofDefault document domains).suggestedText document) := by
  by_cases answered : demand.IsAnswered document
  · exact answered.extended settings identifier _
  · have unanswered : demand ∈
        (allDemands domains).filter fun demand => !(demand.item document).isFound := by
      refine List.mem_filter.2 ⟨member, ?_⟩
      rw [← Demand.isFound_item] at answered
      simpa using answered
    obtain ⟨outlines, declares⟩ := Naming.exists_forall₂_iff.2 fun demand inside =>
      isDeclaredBy_of_mem_allDemands named (List.mem_filter.1 inside).1
    rw [suggestedText, suggestions_ofDefault]
    exact isAnswered_of_mem declares isPlain document unanswered

/-- A vocabulary with the declarations of its own suggestions covers all that is expected of it. -/
theorem passed_extended (document : Document) (domains : List String)
    (named : ∀ domain ∈ domains, isIdentifier domain.toList = true) (settings : Settings)
    (identifier : String) (isPlain : Document.isProse settings identifier = false) :
    ∃ coverage repaired,
      Coverage.of defaultExpectations document domains = .ok coverage ∧
      coverage.suggestions.length = coverage.missing.length ∧
      Coverage.of defaultExpectations
        (extended settings identifier coverage.suggestedText document) domains = .ok repaired ∧
      repaired.passed = true ∧ repaired.missing = [] := by
  have complete : (ofDefault
      (extended settings identifier (ofDefault document domains).suggestedText document)
      domains).missing = [] := by
    refine missing_eq_nil fun item member => ?_
    rw [items_ofDefault, List.mem_map] at member
    obtain ⟨demand, demanded, rfl⟩ := member
    exact Demand.isFound_item.2 (isAnswered_extended named isPlain demanded)
  refine ⟨_, _, of_default document domains, length_suggestions .., of_default _ domains, ?_, complete⟩
  rw [passed, complete, List.isEmpty_nil]

/-- A vocabulary with the states of orders and nothing else. -/
def orders : Document :=
  .ofText {} "shared.ts" "enum OrderStatus \x7b OPEN, PAID \x7d\n"

/-- Of fourteen items it lacks thirteen, and it is repaired, for orders as for a domain with a less usual
name. -/
theorem passed_extended_orders :
    isIdentifier "Order".toList = true ∧ isIdentifier "$sum".toList = true ∧
    Document.isProse {} "suggestions.ts" = false ∧
    ∃ coverage repaired,
      Coverage.of defaultExpectations orders ["Order", "$sum"] = .ok coverage ∧
      coverage.expectedCount = 14 ∧ coverage.missing.length = 13 ∧
      coverage.suggestions.length = coverage.missing.length ∧
      Coverage.of defaultExpectations
        (extended {} "suggestions.ts" coverage.suggestedText orders) ["Order", "$sum"] = .ok repaired ∧
      repaired.passed = true ∧ repaired.missing = [] := by
  have order : isIdentifier "Order".toList = true := by decide
  have sum : isIdentifier "$sum".toList = true := by decide
  have isPlain : Document.isProse {} "suggestions.ts" = false := by decide +kernel
  have named : ∀ domain ∈ ["Order", "$sum"], isIdentifier domain.toList = true :=
    List.forall_mem_cons.2 ⟨order, List.forall_mem_singleton.2 sum⟩
  have counted : (ofDefault orders ["Order", "$sum"]).expectedCount = 14 ∧
      (ofDefault orders ["Order", "$sum"]).missing.length = 13 := by decide +kernel
  obtain ⟨coverage, repaired, success, repairs⟩ :=
    passed_extended orders ["Order", "$sum"] named {} "suggestions.ts" isPlain
  have isCoverage := Except.ok.inj (success.symm.trans (of_default ..))
  exact ⟨order, sum, isPlain, coverage, repaired, success, isCoverage ▸ counted.1,
    isCoverage ▸ counted.2, repairs⟩

end Concord.Coverage
