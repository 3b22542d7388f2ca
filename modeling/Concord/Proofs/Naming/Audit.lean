/-
What the audit of names depends on: the set of the declared names. Each two names that are nearly the same
and that no convention explains are warned of once, whichever of them is declared first and however often,
and so is each reference whose entity is declared nowhere. Documents that declare the same names are
therefore warned of the same pairs and the same references.
-/

import Concord.Document.Reading
import Concord.Proofs.Naming.Findings
import Concord.Proofs.Settings
import Mathlib.Data.List.Sym

namespace Concord

/-! ### Names taken apart -/

namespace Text

theorem upTo?_eq_some_iff {text ending base : List Char} :
    upTo? text ending = some base ↔ text = base ++ ending := by
  rw [upTo?, Option.map_eq_some_iff]
  constructor
  · rintro ⟨rest, found, rfl⟩
    rw [← List.reverse_reverse text, eq_append_of_after? found, List.reverse_append,
      List.reverse_reverse]
  · rintro rfl
    refine ⟨base.reverse, ?_, List.reverse_reverse base⟩
    rw [List.reverse_append, after?_append]

end Text

namespace Naming

open Text

theorem withoutSuffix?_eq_some_iff {name suffix base : List Char} :
    withoutSuffix? name suffix = some base ↔ suffix ≠ [] ∧ base ≠ [] ∧ name = base ++ suffix := by
  cases suffix with
  | nil => simp [withoutSuffix?]
  | cons c suffix =>
    rw [withoutSuffix?, if_neg (by simp), Option.filter_eq_some_iff, upTo?_eq_some_iff]
    simp [and_comm]

theorem entityOf?_eq_some_iff {suffix name entity : String} :
    entityOf? suffix name = some entity ↔ suffix ≠ "" ∧ entity ≠ "" ∧ name = entity ++ suffix := by
  rw [entityOf?, Option.map_eq_some_iff]
  constructor
  · rintro ⟨base, found, rfl⟩
    obtain ⟨something, rest, isName⟩ := withoutSuffix?_eq_some_iff.1 found
    refine ⟨?_, ?_, ?_⟩
    · rintro rfl
      exact something rfl
    · exact fun empty => rest (by rw [← String.toList_ofList (l := base), empty]; rfl)
    · rw [← String.toList_inj, String.toList_append, String.toList_ofList, isName]
  · rintro ⟨something, rest, rfl⟩
    refine ⟨entity.toList, withoutSuffix?_eq_some_iff.2 ⟨?_, ?_, String.toList_append⟩,
      String.ofList_toList⟩
    · exact fun empty => something (String.toList_inj.1 empty)
    · exact fun empty => rest (String.toList_inj.1 empty)

/-! ### What is to be warned of -/

/-- One of the documents declares the name. -/
def IsDeclared (documents : List Document) (name : String) : Prop :=
  ∃ document ∈ documents, ∃ declaration ∈ document.declarations, declaration.name = name

/-- Two of the declared names are nearly the same, and no convention explains it. -/
structure AreTooSimilar (reading : Pattern.Reading) (settings : Settings) (declared : String → Prop)
    (first second : String) : Prop where
  firstDeclared : declared first
  secondDeclared : declared second
  different : first ≠ second
  reachesThreshold : settings.namingThreshold.atMost (.double (nameSimilarity first second)) = true
  belowOne : Number.less (.double (nameSimilarity first second)) (.integer 1) = true
  unexpected :
    isExpectedPair reading settings.strippableSuffixes first second settings.namingRules = .ok false

/-- A declared name ends as a reference does, and the entity that it refers to is declared nowhere. -/
structure LacksEntity (settings : Settings) (declared : String → Prop) (name : String) : Prop where
  nameDeclared : declared name
  entity : ∃ entity, settings.referenceSuffix ≠ "" ∧ entity ≠ "" ∧
    name = entity ++ settings.referenceSuffix ∧ ¬ declared entity

/-- The first declaration of a name in a row of documents. -/
def declarationIn? (documents : List Document) (name : String) : Option Declaration :=
  declarationOf? (documents.flatMap (·.declarations)) name

/-- The issue warns of the two names, and says where each of them is declared first. -/
def WarnsOfPair (documents : List Document) (names : Sym2 String) (issue : Issue) : Prop :=
  ∃ first second left right, names = s(first, second) ∧
    declarationIn? documents first = some left ∧ declarationIn? documents second = some right ∧
    issue = similarityIssue ⟨first, second, nameSimilarity first second⟩ left right

/-- The issue warns of the reference, and says where it is declared first and what it should refer to. -/
def WarnsOfReference (settings : Settings) (documents : List Document) (name : String)
    (issue : Issue) : Prop :=
  ∃ entity declaration, name = entity ++ settings.referenceSuffix ∧
    declarationIn? documents name = some declaration ∧ issue = orphanIssue declaration entity

/-- The names of a pair, in no order. -/
def SimilarPair.names (pair : SimilarPair) : Sym2 String :=
  s(pair.first, pair.second)

/-- The pairs of names that the audit warns of. -/
def unexplainedPairs (reading : Pattern.Reading) (settings : Settings) (documents : List Document) :
    List (Sym2 String) :=
  ((nearPairs settings documents).filter fun pair =>
    isUnexplained reading settings pair.first pair.second).map (·.names)

/-- The references that the audit warns of. -/
def orphans (settings : Settings) (documents : List Document) : List String :=
  let names := (firstDeclarations documents).map (·.name)
  names.filter (isOrphan settings names)

/-! ### Declared names and their declarations -/

theorem mem_names_iff {documents : List Document} {name : String} :
    name ∈ (firstDeclarations documents).map (·.name) ↔ IsDeclared documents name := by
  rw [mem_firstDeclarations]
  simp only [IsDeclared, Document.declares, List.any_eq_true, beq_iff_eq]

theorem declarationOf?_firstOfEachName {seen : List String} {name : String} (fresh : name ∉ seen)
    (declarations : List Declaration) :
    declarationOf? (firstDeclarations.firstOfEachName seen declarations) name =
      declarationOf? declarations name := by
  induction declarations generalizing seen with
  | nil => rfl
  | cons declaration declarations inductionHypothesis =>
    rw [firstDeclarations.firstOfEachName, declarationOf?, declarationOf?, List.find?_cons]
    by_cases same : declaration.name = name
    · rw [if_neg (by simpa [same] using fresh), List.find?_cons]
      simp [same]
    · have other : (declaration.name == name) = false := by simpa using same
      rw [other]
      split
      · exact inductionHypothesis fresh
      · rw [List.find?_cons, other]
        exact inductionHypothesis (by simpa [fresh] using Ne.symm same)

/-- The declaration kept of a name is its first. -/
theorem declarationOf?_firstDeclarations (documents : List Document) (name : String) :
    declarationOf? (firstDeclarations documents) name = declarationIn? documents name :=
  declarationOf?_firstOfEachName List.not_mem_nil _

theorem perm_declaredNames {documents others : List Document}
    (same : ∀ name, IsDeclared documents name ↔ IsDeclared others name) :
    ((firstDeclarations documents).map (·.name)).Perm ((firstDeclarations others).map (·.name)) := by
  refine (List.perm_ext_iff_of_nodup (nodup_firstDeclarations _) (nodup_firstDeclarations _)).2 ?_
  intro name
  rw [mem_names_iff, mem_names_iff, same]

theorem exists_declarationOf? {documents : List Document} {name : String}
    (declared : name ∈ (firstDeclarations documents).map (·.name)) :
    ∃ declaration, declarationOf? (firstDeclarations documents) name = some declaration ∧
      declarationIn? documents name = some declaration := by
  obtain ⟨declaration, found⟩ := Option.isSome_iff_exists.1 (isSome_declarationOf?_iff.2 declared)
  exact ⟨declaration, found, declarationOf?_firstDeclarations documents name ▸ found⟩

theorem declarationOf?_of_mem {declarations : List Declaration} {declaration : Declaration}
    (distinct : (declarations.map (·.name)).Nodup) (member : declaration ∈ declarations) :
    declarationOf? declarations declaration.name = some declaration :=
  (find?_eq_some_iff_of_nodup distinct).2 ⟨member, rfl⟩

/-! ### Pairs of names -/

section

variable {threshold : Number} {property : String → String → Bool}

theorem names_pairsOfDistinct_sublist (names : List String) :
    ((pairsOfDistinct threshold names).map (·.names)).Sublist names.sym2 := by
  induction names with
  | nil => exact .slnil
  | cons name later inductionHypothesis =>
    rw [pairsOfDistinct, List.map_append, List.sym2, List.map_cons, List.cons_append]
    refine .cons _ (.append ?_ inductionHypothesis)
    have isMade : (later.map fun other => (⟨name, other, nameSimilarity name other⟩ : SimilarPair)).map
        (·.names) = later.map fun other => s(name, other) := List.map_map
    exact isMade ▸ List.filter_sublist.map _

theorem similarity_of_mem_pairsOfDistinct {names : List String} {pair : SimilarPair}
    (member : pair ∈ pairsOfDistinct threshold names) :
    pair.ratio = nameSimilarity pair.first pair.second := by
  induction names with
  | nil => exact absurd member List.not_mem_nil
  | cons name later inductionHypothesis =>
    rcases List.mem_append.1 member with here | inside
    · obtain ⟨other, -, rfl⟩ := List.mem_map.1 (List.mem_filter.1 here).1
      rfl
    · exact inductionHypothesis inside

theorem mem_names_pairsWith_iff {name : String} {later : List String} {names : Sym2 String} :
    names ∈ ((pairsWith threshold name later).filter fun pair =>
        property pair.first pair.second).map (·.names) ↔
      ∃ other ∈ later, names = s(name, other) ∧
        isNear threshold (nameSimilarity name other) = true ∧ property name other = true := by
  simp only [pairsWith, List.mem_map, List.mem_filter]
  constructor
  · rintro ⟨_, ⟨⟨⟨other, member, rfl⟩, near⟩, holds⟩, rfl⟩
    exact ⟨other, member, rfl, near, holds⟩
  · rintro ⟨other, member, rfl, near, holds⟩
    exact ⟨_, ⟨⟨⟨other, member, rfl⟩, near⟩, holds⟩, rfl⟩

/-- Each two different names that are near and have a property that does not look at their order are
among the pairs. -/
theorem mem_names_pairsOfDistinct_iff
    (symmetric : ∀ first second, property first second = property second first)
    {names : List String} (distinct : names.Nodup) {first second : String} :
    s(first, second) ∈ ((pairsOfDistinct threshold names).filter fun pair =>
        property pair.first pair.second).map (·.names) ↔
      first ∈ names ∧ second ∈ names ∧ first ≠ second ∧
        isNear threshold (nameSimilarity first second) = true ∧ property first second = true := by
  induction names with
  | nil => simp [pairsOfDistinct]
  | cons name later inductionHypothesis =>
    obtain ⟨fresh, distinct⟩ := List.nodup_cons.1 distinct
    rw [pairsOfDistinct, List.filter_append, List.map_append, List.mem_append,
      mem_names_pairsWith_iff, inductionHypothesis distinct]
    constructor
    · rintro (⟨other, member, same, near, holds⟩ | ⟨member, otherMember, rest⟩)
      · have different : name ≠ other := fun equal => fresh (equal ▸ member)
        rcases Sym2.eq_iff.1 same with ⟨rfl, rfl⟩ | ⟨rfl, rfl⟩
        · exact ⟨List.mem_cons_self, List.mem_cons_of_mem _ member, different, near, holds⟩
        · rw [nameSimilarity_comm, symmetric]
          exact ⟨List.mem_cons_of_mem _ member, List.mem_cons_self, different.symm, near, holds⟩
      · exact ⟨List.mem_cons_of_mem _ member, List.mem_cons_of_mem _ otherMember, rest⟩
    · rintro ⟨member, otherMember, different, near, holds⟩
      rcases List.mem_cons.1 member with rfl | inside
      · have behind := (List.mem_cons.1 otherMember).resolve_left different.symm
        exact .inl ⟨second, behind, rfl, near, holds⟩
      · rcases List.mem_cons.1 otherMember with rfl | otherInside
        · rw [nameSimilarity_comm] at near
          rw [symmetric] at holds
          exact .inl ⟨first, inside, Sym2.eq_swap, near, holds⟩
        · exact .inr ⟨inside, otherInside, different, near, holds⟩

end

variable {reading : Pattern.Reading} {settings : Settings} {documents : List Document}

theorem nodup_unexplainedPairs : (unexplainedPairs reading settings documents).Nodup :=
  ((nodup_firstDeclarations documents).sym2.sublist (names_pairsOfDistinct_sublist _)).sublist
    (List.filter_sublist.map _)

theorem mem_unexplainedPairs_iff {first second : String} :
    s(first, second) ∈ unexplainedPairs reading settings documents ↔
      AreTooSimilar reading settings (IsDeclared documents) first second := by
  rw [unexplainedPairs, nearPairs, mem_names_pairsOfDistinct_iff (isUnexplained_comm settings)
    (nodup_firstDeclarations documents), mem_names_iff, mem_names_iff, isUnexplained_iff, isNear,
    Bool.and_eq_true]
  constructor
  · rintro ⟨declared, otherDeclared, different, ⟨reached, below⟩, unexpected⟩
    exact ⟨declared, otherDeclared, different, reached, below, unexpected⟩
  · rintro ⟨declared, otherDeclared, different, reached, below, unexpected⟩
    exact ⟨declared, otherDeclared, different, ⟨reached, below⟩, unexpected⟩

/-- Documents that declare the same names have the same pairs. -/
theorem perm_unexplainedPairs {others : List Document}
    (same : ∀ name, IsDeclared documents name ↔ IsDeclared others name) :
    (unexplainedPairs reading settings documents).Perm (unexplainedPairs reading settings others) := by
  have sameNames : IsDeclared documents = IsDeclared others := funext fun name => propext (same name)
  refine (List.perm_ext_iff_of_nodup nodup_unexplainedPairs nodup_unexplainedPairs).2 fun names => ?_
  induction names with
  | h first second => rw [mem_unexplainedPairs_iff, mem_unexplainedPairs_iff, sameNames]

/-! ### References -/

theorem nodup_orphans : (orphans settings documents).Nodup :=
  (nodup_firstDeclarations documents).filter _

theorem isOrphan_iff {names : List String} {name : String} :
    isOrphan settings names name = true ↔ ∃ entity, settings.referenceSuffix ≠ "" ∧ entity ≠ "" ∧
      name = entity ++ settings.referenceSuffix ∧ entity ∉ names := by
  have unfolded : isOrphan settings names name = true ↔
      ∃ entity, entityOf? settings.referenceSuffix name = some entity ∧ entity ∉ names := by
    unfold isOrphan
    cases entityOf? settings.referenceSuffix name with
    | none => simp
    | some entity => simp
  simp only [unfolded, entityOf?_eq_some_iff, and_assoc]

theorem mem_orphans_iff {name : String} :
    name ∈ orphans settings documents ↔ LacksEntity settings (IsDeclared documents) name := by
  rw [orphans, List.mem_filter, isOrphan_iff, mem_names_iff]
  simp only [mem_names_iff]
  exact ⟨fun found => ⟨found.1, found.2⟩, fun found => ⟨found.nameDeclared, found.entity⟩⟩

/-- Documents that declare the same names have the same references without an entity. -/
theorem perm_orphans {others : List Document}
    (same : ∀ name, IsDeclared documents name ↔ IsDeclared others name) :
    (orphans settings documents).Perm (orphans settings others) := by
  have sameNames : IsDeclared documents = IsDeclared others := funext fun name => propext (same name)
  refine (List.perm_ext_iff_of_nodup nodup_orphans nodup_orphans).2 fun name => ?_
  rw [mem_orphans_iff, mem_orphans_iff, sameNames]

/-! ### One warning each -/

theorem warnsOfPair_flatten {pairs : List SimilarPair} {results : List (List Issue)}
    (declared : ∀ pair ∈ pairs, (pair.first ∈ (firstDeclarations documents).map (·.name) ∧
      pair.second ∈ (firstDeclarations documents).map (·.name)) ∧
      pair.ratio = nameSimilarity pair.first pair.second)
    (success : List.Forall₂ (fun pair found =>
      pairIssues reading settings (firstDeclarations documents) pair = .ok found) pairs results) :
    List.Forall₂ (WarnsOfPair documents)
      ((pairs.filter fun pair => isUnexplained reading settings pair.first pair.second).map (·.names))
      results.flatten := by
  induction success with
  | nil => exact .nil
  | @cons pair found pairs results first rest inductionHypothesis =>
    obtain ⟨⟨⟨firstDeclared, secondDeclared⟩, ratio⟩, declared⟩ := List.forall_mem_cons.1 declared
    obtain ⟨left, leftFound, isLeft⟩ := exists_declarationOf? firstDeclared
    obtain ⟨right, rightFound, isRight⟩ := exists_declarationOf? secondDeclared
    rw [List.flatten_cons, eq_of_pairIssues leftFound rightFound first]
    split
    · rename_i unexplained
      rw [List.filter_cons_of_pos (by exact unexplained), List.map_cons, List.singleton_append]
      refine .cons ⟨pair.first, pair.second, left, right, rfl, isLeft, isRight, ?_⟩
        (inductionHypothesis declared)
      rw [← ratio]
    · rename_i explained
      rw [List.filter_cons_of_neg (by exact explained), List.nil_append]
      exact inductionHypothesis declared

theorem warnsOfReference_of_orphanIssue? {declaration : Declaration} {issue : Issue}
    (member : declaration ∈ firstDeclarations documents)
    (found : orphanIssue? settings (firstDeclarations documents) declaration = some issue) :
    WarnsOfReference settings documents declaration.name issue := by
  unfold orphanIssue? at found
  split at found
  · rename_i entity refers
    split at found
    · exact absurd found (by simp)
    · refine ⟨entity, declaration, (entityOf?_eq_some_iff.1 refers).2.2, ?_,
        (Option.some.inj found).symm⟩
      rw [← declarationOf?_firstDeclarations]
      exact declarationOf?_of_mem (nodup_firstDeclarations documents) member
  · exact absurd found (by simp)

theorem warnsOfReference_filterMap :
    List.Forall₂ (WarnsOfReference settings documents) (orphans settings documents)
      ((firstDeclarations documents).filterMap
        (orphanIssue? settings (firstDeclarations documents))) := by
  have isFilter : orphans settings documents = ((firstDeclarations documents).filter fun declaration =>
      (orphanIssue? settings (firstDeclarations documents) declaration).isSome).map (·.name) := by
    simp only [isSome_orphanIssue?]
    exact List.filter_map
  rw [isFilter]
  exact forall₂_filterMap fun _ member _ => warnsOfReference_of_orphanIssue? member

/-! ### The audit as a whole -/

/-- What the audit finds is one warning for each pair and, behind them, one for each reference. -/
theorem warnings_of_issues {vocabulary : Document} {contracts : List Document} {found : List Issue}
    (success : issues reading settings vocabulary contracts = .ok found) :
    ∃ ofPairs ofReferences, found = ofPairs ++ ofReferences ∧
      List.Forall₂ (WarnsOfPair (vocabulary :: contracts))
        (unexplainedPairs reading settings (vocabulary :: contracts)) ofPairs ∧
      List.Forall₂ (WarnsOfReference settings (vocabulary :: contracts))
        (orphans settings (vocabulary :: contracts)) ofReferences := by
  obtain ⟨similar, answered, rfl⟩ := issues_eq_ok_iff.1 success
  refine ⟨similar.flatten, _, rfl, warnsOfPair_flatten (fun pair member => ?_) answered,
    warnsOfReference_filterMap⟩
  exact ⟨names_of_mem_nearPairs member, similarity_of_mem_pairsOfDistinct member⟩

/-- The audit depends only on which names are declared. Whenever the rules can be read it answers. Its
answer is one warning for each two declared names that are too similar, and one for each declared
reference whose entity is declared nowhere. Documents that declare the same names, however they declare
them, are warned of the same pairs and of the same references. -/
theorem issues_of_declared (reading : Pattern.Reading) (settings : Settings) (vocabulary : Document)
    (contracts : List Document) :
    let documents := vocabulary :: contracts
    (AreReadable reading settings.namingRules →
      ∃ found, issues reading settings vocabulary contracts = .ok found) ∧
    (∀ found, issues reading settings vocabulary contracts = .ok found →
      ∃ ofPairs ofReferences, found = ofPairs ++ ofReferences ∧
        List.Forall₂ (WarnsOfPair documents) (unexplainedPairs reading settings documents) ofPairs ∧
        List.Forall₂ (WarnsOfReference settings documents) (orphans settings documents)
          ofReferences) ∧
    (unexplainedPairs reading settings documents).Nodup ∧
    (∀ first second, s(first, second) ∈ unexplainedPairs reading settings documents ↔
      AreTooSimilar reading settings (IsDeclared documents) first second) ∧
    (orphans settings documents).Nodup ∧
    (∀ name, name ∈ orphans settings documents ↔
      LacksEntity settings (IsDeclared documents) name) ∧
    ∀ (otherVocabulary : Document) (otherContracts : List Document),
      (∀ name, IsDeclared documents name ↔ IsDeclared (otherVocabulary :: otherContracts) name) →
        ((∃ found, issues reading settings vocabulary contracts = .ok found) ↔
          ∃ found, issues reading settings otherVocabulary otherContracts = .ok found) ∧
        (unexplainedPairs reading settings documents).Perm
          (unexplainedPairs reading settings (otherVocabulary :: otherContracts)) ∧
        (orphans settings documents).Perm
          (orphans settings (otherVocabulary :: otherContracts)) := by
  refine ⟨exists_issues_of_readable, fun _ => warnings_of_issues, nodup_unexplainedPairs,
    fun _ _ => mem_unexplainedPairs_iff, nodup_orphans, fun _ => mem_orphans_iff, ?_⟩
  intro otherVocabulary otherContracts same
  exact ⟨exists_issues_iff_of_perm_names (perm_declaredNames same), perm_unexplainedPairs same,
    perm_orphans same⟩

/-- Settings with a single suffix that names are compared without. -/
def oneSuffix : Settings :=
  { strippableSuffixes := ["Id"] }

/-- A vocabulary with one record. -/
def customerVocabulary : Document :=
  .ofText {} "shared.ts" "interface Customer \x7b id: string \x7d\n"

/-- Contracts that declare a name that is nearly its own, a reference, and the record once more. -/
def customerContracts : List Document :=
  [.ofText {} "shop.ts" "interface Customers \x7b ids: string[] \x7d\n",
    .ofText {} "bills.ts" "interface BillRef \x7b id: string \x7d\n",
    .ofText {} "people.ts" "interface Customer \x7b id: string \x7d\n"]

/-- The two spellings are warned of once, whichever contract comes first, and so is the reference that
refers to nothing. -/
theorem issues_of_declared_customers :
    let documents := customerVocabulary :: customerContracts
    let reordered := customerVocabulary :: customerContracts.reverse
    let reading := Pattern.read Pattern.noNames
    AreReadable reading oneSuffix.namingRules ∧
      (∀ name, IsDeclared documents name ↔ IsDeclared reordered name) ∧
      (∃ ofPair ofReference,
        issues reading oneSuffix customerVocabulary customerContracts = .ok [ofPair, ofReference] ∧
        WarnsOfPair documents s("Customer", "Customers") ofPair ∧
        WarnsOfReference oneSuffix documents "BillRef" ofReference) ∧
      (unexplainedPairs reading oneSuffix documents).Perm
        (unexplainedPairs reading oneSuffix reordered) ∧
      (orphans oneSuffix documents).Perm (orphans oneSuffix reordered) := by
  intro documents reordered reading
  have readable : AreReadable reading oneSuffix.namingRules :=
    Settings.areReadable_defaultNamingRules _
  have same : ∀ name, IsDeclared documents name ↔ IsDeclared reordered name := fun name => by
    simp [documents, reordered, IsDeclared]
  have pairs : unexplainedPairs reading oneSuffix (customerVocabulary :: customerContracts) =
      [s("Customer", "Customers")] := by decide +kernel
  have references : orphans oneSuffix (customerVocabulary :: customerContracts) = ["BillRef"] := by
    decide +kernel
  obtain ⟨answers, warns, -, -, -, -, depends⟩ :=
    issues_of_declared reading oneSuffix customerVocabulary customerContracts
  obtain ⟨found, success⟩ := answers readable
  obtain ⟨ofPairs, ofReferences, rfl, warnsOfPairs, warnsOfReferences⟩ := warns found success
  rw [pairs] at warnsOfPairs
  rw [references] at warnsOfReferences
  obtain ⟨ofPair, _, isPair, nothing, rfl⟩ := List.forall₂_cons_left_iff.1 warnsOfPairs
  obtain ⟨ofReference, _, isReference, nothingMore, rfl⟩ :=
    List.forall₂_cons_left_iff.1 warnsOfReferences
  obtain rfl := List.forall₂_nil_left_iff.1 nothing
  obtain rfl := List.forall₂_nil_left_iff.1 nothingMore
  obtain ⟨-, pairsReordered, referencesReordered⟩ :=
    depends customerVocabulary customerContracts.reverse same
  exact ⟨readable, same, ⟨ofPair, ofReference, success, isPair, isReference⟩, pairsReordered,
    referencesReordered⟩

end Naming

end Concord
