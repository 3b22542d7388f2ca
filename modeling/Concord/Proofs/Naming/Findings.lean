/-
What the audit of names finds: warnings, one for every pair of near names that no convention explains
and one for every reference without an entity. Both are matters of the set of declared names, so the
order of the contracts has no part in how many there are, nor in whether the audit reads a rule that
cannot be read.
-/

import Concord.Naming
import Concord.Proofs.Naming.Similarity
import Concord.Proofs.Occurrence

namespace Concord.Naming

/-! ### Conventions -/

theorem PatternPair.matches_comm (pair : PatternPair) (first second : String) :
    pair.matches first second = pair.matches second first := by
  unfold PatternPair.matches
  rw [Bool.or_comm, Bool.and_comm, Bool.and_comm (pair.left.isFoundIn first.toList)]

theorem haveOneBase_comm (suffixes : List String) (first second : String) :
    haveOneBase suffixes first second = haveOneBase suffixes second first :=
  BEq.comm

variable {reading : Pattern.Reading}

/-- Which of two names comes first is nothing to a convention. -/
theorem isExpectedPair_comm (suffixes : List String) (first second : String)
    (rules : List NamingRule) :
    isExpectedPair reading suffixes first second rules =
      isExpectedPair reading suffixes second first rules := by
  induction rules with
  | nil => rw [isExpectedPair, isExpectedPair, haveOneBase_comm]
  | cons rule rules inductionHypothesis =>
    rw [isExpectedPair, isExpectedPair, inductionHypothesis]
    simp only [PatternPair.matches_comm _ first second]

/-- Every rule can be read. -/
def AreReadable (reading : Pattern.Reading) (rules : List NamingRule) : Prop :=
  ∀ rule ∈ rules, ∃ pair, readRule reading rule = .ok pair

theorem AreReadable.isExpectedPair_isOk {rules : List NamingRule}
    (readable : AreReadable reading rules) (suffixes : List String) (first second : String) :
    (isExpectedPair reading suffixes first second rules).isOk = true := by
  induction rules with
  | nil => rfl
  | cons rule rules inductionHypothesis =>
    obtain ⟨pair, read⟩ := readable rule List.mem_cons_self
    have rest := inductionHypothesis fun other member => readable other (List.mem_cons_of_mem _ member)
    simp only [isExpectedPair, read, bind, Except.bind]
    split
    · rfl
    · exact rest

/-- The rules say that no convention explains the two names. -/
def isUnexplained (reading : Pattern.Reading) (settings : Settings) (first second : String) : Bool :=
  match isExpectedPair reading settings.strippableSuffixes first second settings.namingRules with
  | .ok isExpected => !isExpected
  | .error _ => false

/-- A rule that cannot be read is needed for the two names. -/
def isUnanswered (reading : Pattern.Reading) (settings : Settings) (first second : String) : Bool :=
  !(isExpectedPair reading settings.strippableSuffixes first second settings.namingRules).isOk

/-! ### Near pairs in any order -/

section

variable {threshold : Number} {property : String → String → Bool}
  (symmetric : ∀ first second, property first second = property second first)

theorem countP_pairsWith (name : String) (later : List String) :
    (pairsWith threshold name later).countP (fun pair => property pair.first pair.second) =
      later.countP fun other =>
        isNear threshold (nameSimilarity name other) && property name other := by
  rw [pairsWith, List.countP_filter, List.countP_map]
  exact List.countP_congr fun other _ => by simp [and_comm]

include symmetric

theorem countP_pairsWith_pair (first second : String) (later : List String) :
    (pairsWith threshold first (second :: later)).countP
        (fun pair => property pair.first pair.second) =
      (pairsWith threshold second [first]).countP (fun pair => property pair.first pair.second) +
        (pairsWith threshold first later).countP (fun pair => property pair.first pair.second) := by
  simp only [countP_pairsWith, List.countP_cons, List.countP_nil]
  rw [nameSimilarity_comm first second, symmetric first second]
  omega

/-- How many near pairs have a property that does not look at their order is the same for every order of
the names. -/
theorem countP_pairsOfDistinct_of_perm {names reordered : List String}
    (permuted : names.Perm reordered) :
    (pairsOfDistinct threshold names).countP (fun pair => property pair.first pair.second) =
      (pairsOfDistinct threshold reordered).countP
        (fun pair => property pair.first pair.second) := by
  induction permuted with
  | nil => rfl
  | cons name others inductionHypothesis =>
    rw [pairsOfDistinct, pairsOfDistinct, List.countP_append, List.countP_append,
      inductionHypothesis, countP_pairsWith, countP_pairsWith, others.countP_eq]
  | swap first second names =>
    simp only [pairsOfDistinct, List.countP_append]
    rw [countP_pairsWith_pair symmetric second first, countP_pairsWith first (second :: names),
      countP_pairsWith first names, countP_pairsWith first [second]]
    simp only [List.countP_cons, List.countP_nil]
    omega
  | trans _ _ firstHypothesis secondHypothesis => exact firstHypothesis.trans secondHypothesis

end

/-! ### Declared names -/

theorem firstOfEachName_spec (seen : List String) (declarations : List Declaration) :
    ((firstDeclarations.firstOfEachName seen declarations).map (·.name)).Nodup ∧
      ∀ name, name ∈ (firstDeclarations.firstOfEachName seen declarations).map (·.name) ↔
        name ∈ declarations.map (·.name) ∧ name ∉ seen := by
  induction declarations generalizing seen with
  | nil => simp [firstDeclarations.firstOfEachName]
  | cons declaration declarations inductionHypothesis =>
    rw [firstDeclarations.firstOfEachName]
    split
    · rename_i known
      obtain ⟨distinct, members⟩ := inductionHypothesis seen
      refine ⟨distinct, fun name => ?_⟩
      rw [members, List.map_cons, List.mem_cons]
      refine ⟨fun found => ⟨.inr found.1, found.2⟩, fun found => ⟨?_, found.2⟩⟩
      refine found.1.resolve_left fun same => found.2 ?_
      rw [same]
      exact List.contains_iff_mem.1 known
    · rename_i fresh
      obtain ⟨distinct, members⟩ := inductionHypothesis (declaration.name :: seen)
      rw [List.map_cons, List.nodup_cons]
      refine ⟨⟨fun repeated => ?_, distinct⟩, fun name => ?_⟩
      · exact ((members _).1 repeated).2 List.mem_cons_self
      · rw [List.mem_cons, members, List.map_cons, List.mem_cons, List.mem_cons, not_or]
        by_cases same : name = declaration.name
        · rw [same]
          simpa using fresh
        · simp [same]

theorem nodup_firstDeclarations (documents : List Document) :
    ((firstDeclarations documents).map (·.name)).Nodup :=
  (firstOfEachName_spec [] _).1

theorem mem_firstDeclarations {documents : List Document} {name : String} :
    name ∈ (firstDeclarations documents).map (·.name) ↔
      ∃ document ∈ documents, document.declares name = true := by
  rw [firstDeclarations, (firstOfEachName_spec [] _).2]
  simp only [List.mem_map, List.mem_flatMap, Document.declares, List.any_eq_true, beq_iff_eq,
    List.not_mem_nil, not_false_eq_true, and_true]
  constructor
  · rintro ⟨declaration, ⟨document, member, declared⟩, same⟩
    exact ⟨document, member, declaration, declared, same⟩
  · rintro ⟨document, member, declaration, declared, same⟩
    exact ⟨declaration, ⟨document, member, declared⟩, same⟩

theorem perm_firstDeclarations {documents reordered : List Document}
    (permuted : documents.Perm reordered) :
    ((firstDeclarations documents).map (·.name)).Perm
      ((firstDeclarations reordered).map (·.name)) := by
  refine (List.perm_ext_iff_of_nodup (nodup_firstDeclarations _) (nodup_firstDeclarations _)).2 ?_
  intro name
  simp only [mem_firstDeclarations, permuted.mem_iff]

theorem similarPairs_firstDeclarations (threshold : Number) (documents : List Document) :
    similarPairs threshold ((firstDeclarations documents).map (·.name)) =
      pairsOfDistinct threshold ((firstDeclarations documents).map (·.name)) :=
  congrArg (pairsOfDistinct threshold) (firstOccurrences_of_nodup (nodup_firstDeclarations documents))

theorem isSome_declarationOf?_iff {declarations : List Declaration} {name : String} :
    (declarationOf? declarations name).isSome = true ↔ name ∈ declarations.map (·.name) := by
  simp [declarationOf?]

theorem names_of_mem_pairsOfDistinct {threshold : Number} {names : List String} {pair : SimilarPair}
    (member : pair ∈ pairsOfDistinct threshold names) : pair.first ∈ names ∧ pair.second ∈ names := by
  induction names with
  | nil => exact absurd member List.not_mem_nil
  | cons name later inductionHypothesis =>
    rw [pairsOfDistinct, List.mem_append] at member
    rcases member with here | inside
    · obtain ⟨made, -⟩ := List.mem_filter.1 here
      obtain ⟨other, found, rfl⟩ := List.mem_map.1 made
      exact ⟨List.mem_cons_self, List.mem_cons_of_mem _ found⟩
    · obtain ⟨first, second⟩ := inductionHypothesis inside
      exact ⟨List.mem_cons_of_mem _ first, List.mem_cons_of_mem _ second⟩

/-! ### Issues of pairs -/

theorem mapM_eq_ok_iff {Error Value Result : Type} {act : Value → Except Error Result}
    {values : List Value} {results : List Result} :
    values.mapM act = .ok results ↔
      List.Forall₂ (fun value result => act value = .ok result) values results := by
  induction values generalizing results with
  | nil => cases results <;> simp [pure, Except.pure]
  | cons value values inductionHypothesis =>
    rw [List.mapM_cons, List.forall₂_cons_left_iff]
    simp only [← inductionHypothesis]
    cases found : act value with
    | error error => simp [bind, Except.bind]
    | ok result =>
      cases rest : values.mapM act with
      | error error => simp [bind, Except.bind]
      | ok others => simp [bind, Except.bind, pure, Except.pure, eq_comm]

theorem exists_forall₂_iff {Value Result : Type} {relation : Value → Result → Prop}
    {values : List Value} :
    (∃ results, List.Forall₂ relation values results) ↔
      ∀ value ∈ values, ∃ result, relation value result := by
  induction values with
  | nil => simp
  | cons value values inductionHypothesis =>
    rw [List.forall_mem_cons, ← inductionHypothesis]
    constructor
    · rintro ⟨_, first | ⟨first, rest⟩⟩
      exact ⟨⟨_, first⟩, ⟨_, rest⟩⟩
    · rintro ⟨⟨result, first⟩, ⟨results, rest⟩⟩
      exact ⟨result :: results, .cons first rest⟩

variable {settings : Settings} {declarations : List Declaration} {pair : SimilarPair}

theorem exists_pairIssues_iff (declarations : List Declaration) :
    (∃ found, pairIssues reading settings declarations pair = .ok found) ↔
      isUnanswered reading settings pair.first pair.second = false := by
  unfold pairIssues isUnanswered
  cases isExpectedPair reading settings.strippableSuffixes pair.first pair.second settings.namingRules with
  | error bad => simp [bind, Except.bind, Except.isOk, Except.toBool]
  | ok isExpected =>
    refine iff_of_true ?_ rfl
    simp only [bind, Except.bind]
    split
    · exact ⟨_, rfl⟩
    · exact ⟨_, rfl⟩

theorem isUnexplained_iff {first second : String} :
    isUnexplained reading settings first second = true ↔
      isExpectedPair reading settings.strippableSuffixes first second settings.namingRules = .ok false := by
  unfold isUnexplained
  cases isExpectedPair reading settings.strippableSuffixes first second settings.namingRules with
  | error bad => simp
  | ok isExpected => simp

/-- A pair of declared names gives a single warning if no convention explains it, and nothing else. -/
theorem eq_of_pairIssues {found : List Issue} {left right : Declaration}
    (leftFound : declarationOf? declarations pair.first = some left)
    (rightFound : declarationOf? declarations pair.second = some right)
    (success : pairIssues reading settings declarations pair = .ok found) :
    found = if isUnexplained reading settings pair.first pair.second then [similarityIssue pair left right]
      else [] := by
  unfold pairIssues at success
  unfold isUnexplained
  simp only [leftFound, rightFound] at success
  cases answer : isExpectedPair reading settings.strippableSuffixes pair.first pair.second
      settings.namingRules with
  | error bad => simp [answer, bind, Except.bind] at success
  | ok isExpected =>
    simp only [answer, bind, Except.bind, pure, Except.pure, Except.ok.injEq] at success
    subst success
    cases isExpected <;> rfl

theorem pairIssues_spec {found : List Issue}
    (firstDeclared : pair.first ∈ declarations.map (·.name))
    (secondDeclared : pair.second ∈ declarations.map (·.name))
    (success : pairIssues reading settings declarations pair = .ok found) :
    found.length = (if isUnexplained reading settings pair.first pair.second then 1 else 0) ∧
      ∀ issue ∈ found, issue.severity = .warning ∧ issue.category = .namingSimilarity := by
  obtain ⟨left, leftFound⟩ := Option.isSome_iff_exists.1 (isSome_declarationOf?_iff.2 firstDeclared)
  obtain ⟨right, rightFound⟩ :=
    Option.isSome_iff_exists.1 (isSome_declarationOf?_iff.2 secondDeclared)
  rw [eq_of_pairIssues leftFound rightFound success]
  split
  · refine ⟨rfl, fun issue member => ?_⟩
    obtain rfl := List.mem_singleton.1 member
    exact ⟨rfl, rfl⟩
  · exact ⟨rfl, fun _ absent => absurd absent List.not_mem_nil⟩

theorem flatten_pairIssues_spec {pairs : List SimilarPair} {results : List (List Issue)}
    (declared : ∀ pair ∈ pairs, pair.first ∈ declarations.map (·.name) ∧
      pair.second ∈ declarations.map (·.name))
    (success : List.Forall₂ (fun pair found => pairIssues reading settings declarations pair = .ok found)
      pairs results) :
    results.flatten.length =
        pairs.countP (fun pair => isUnexplained reading settings pair.first pair.second) ∧
      ∀ issue ∈ results.flatten,
        issue.severity = .warning ∧ issue.category = .namingSimilarity := by
  induction success with
  | nil => exact ⟨rfl, fun _ absent => absurd absent List.not_mem_nil⟩
  | cons first rest inductionHypothesis =>
    rw [List.forall_mem_cons] at declared
    obtain ⟨count, shape⟩ := pairIssues_spec declared.1.1 declared.1.2 first
    obtain ⟨restCount, restShape⟩ := inductionHypothesis declared.2
    rw [List.flatten_cons, List.length_append, List.countP_cons, count, restCount, Nat.add_comm]
    exact ⟨rfl, List.forall_mem_append.2 ⟨shape, restShape⟩⟩

/-! ### Issues of references -/

/-- The name is a reference whose entity is not among the names. -/
def isOrphan (settings : Settings) (names : List String) (name : String) : Bool :=
  match entityOf? settings.referenceSuffix name with
  | some entity => !names.contains entity
  | none => false

theorem isSome_orphanIssue? (declaration : Declaration) :
    (orphanIssue? settings declarations declaration).isSome =
      isOrphan settings (declarations.map (·.name)) declaration.name := by
  unfold orphanIssue? isOrphan
  cases entityOf? settings.referenceSuffix declaration.name with
  | none => rfl
  | some entity =>
    have declared : (declarationOf? declarations entity).isSome =
        (declarations.map (·.name)).contains entity := by
      rw [Bool.eq_iff_iff, isSome_declarationOf?_iff, List.contains_iff_mem]
    simp only [declared]
    cases (declarations.map (·.name)).contains entity <;> rfl

theorem orphanIssue?_shape {declaration : Declaration} {issue : Issue}
    (found : orphanIssue? settings declarations declaration = some issue) :
    issue.severity = .warning ∧ issue.category = .namingSimilarity := by
  unfold orphanIssue? at found
  split at found
  · split at found
    · exact absurd found (by simp)
    · obtain rfl := Option.some.inj found
      exact ⟨rfl, rfl⟩
  · exact absurd found (by simp)

theorem length_orphanIssues :
    (declarations.filterMap (orphanIssue? settings declarations)).length =
      (declarations.map (·.name)).countP (isOrphan settings (declarations.map (·.name))) := by
  rw [List.length_filterMap_eq_countP, List.countP_map]
  exact List.countP_congr fun declaration _ => by rw [isSome_orphanIssue?]; rfl

/-! ### All issues -/

/-- The near pairs among the declared names. -/
def nearPairs (settings : Settings) (documents : List Document) : List SimilarPair :=
  pairsOfDistinct settings.namingThreshold ((firstDeclarations documents).map (·.name))

variable {vocabulary : Document} {contracts : List Document}

theorem issues_eq_ok_iff {found : List Issue} :
    issues reading settings vocabulary contracts = .ok found ↔
      ∃ similar, List.Forall₂
          (fun pair issues => pairIssues reading settings (firstDeclarations (vocabulary :: contracts)) pair =
            .ok issues) (nearPairs settings (vocabulary :: contracts)) similar ∧
        found = similar.flatten ++ (firstDeclarations (vocabulary :: contracts)).filterMap
          (orphanIssue? settings (firstDeclarations (vocabulary :: contracts))) := by
  simp only [issues, similarPairs_firstDeclarations, ← mapM_eq_ok_iff, nearPairs]
  cases (pairsOfDistinct settings.namingThreshold
      ((firstDeclarations (vocabulary :: contracts)).map (·.name))).mapM
    (pairIssues reading settings (firstDeclarations (vocabulary :: contracts))) with
  | error bad => simp [bind, Except.bind]
  | ok similar => simp [bind, Except.bind, pure, Except.pure, eq_comm]

theorem names_of_mem_nearPairs {documents : List Document} {pair : SimilarPair}
    (member : pair ∈ nearPairs settings documents) :
    pair.first ∈ (firstDeclarations documents).map (·.name) ∧
      pair.second ∈ (firstDeclarations documents).map (·.name) :=
  names_of_mem_pairsOfDistinct member

/-- The audit answers exactly when no near pair needs a rule that cannot be read. -/
theorem exists_issues_iff :
    (∃ found, issues reading settings vocabulary contracts = .ok found) ↔
      (nearPairs settings (vocabulary :: contracts)).countP
        (fun pair => isUnanswered reading settings pair.first pair.second) = 0 := by
  rw [List.countP_eq_zero]
  simp only [Bool.not_eq_true, issues_eq_ok_iff, ← exists_forall₂_iff,
    ← exists_pairIssues_iff (firstDeclarations (vocabulary :: contracts))]
  constructor
  · rintro ⟨_, similar, success, -⟩
    exact ⟨similar, success⟩
  · rintro ⟨similar, success⟩
    exact ⟨_, similar, success, rfl⟩

/-- With readable rules the audit answers. -/
theorem exists_issues_of_readable (readable : AreReadable reading settings.namingRules) :
    ∃ found, issues reading settings vocabulary contracts = .ok found := by
  refine exists_issues_iff.2 (List.countP_eq_zero.2 fun pair _ => ?_)
  unfold isUnanswered
  rw [readable.isExpectedPair_isOk]
  exact Bool.false_ne_true

/-- The audit finds only warnings of its category: one for each near pair that no convention explains,
and one for each reference without an entity. -/
theorem issues_spec {found : List Issue}
    (success : issues reading settings vocabulary contracts = .ok found) :
    found.length =
        (nearPairs settings (vocabulary :: contracts)).countP
            (fun pair => isUnexplained reading settings pair.first pair.second) +
          ((firstDeclarations (vocabulary :: contracts)).map (·.name)).countP
            (isOrphan settings ((firstDeclarations (vocabulary :: contracts)).map (·.name))) ∧
      ∀ issue ∈ found, issue.severity = .warning ∧ issue.category = .namingSimilarity := by
  obtain ⟨similar, answered, rfl⟩ := issues_eq_ok_iff.1 success
  have pairsSpec := flatten_pairIssues_spec (fun pair => names_of_mem_nearPairs) answered
  rw [List.length_append, pairsSpec.1, length_orphanIssues]
  refine ⟨rfl, List.forall_mem_append.2 ⟨pairsSpec.2, fun issue member => ?_⟩⟩
  obtain ⟨declaration, -, made⟩ := List.mem_filterMap.1 member
  exact orphanIssue?_shape made

/-! ### The order of the contracts -/

theorem isUnexplained_comm (settings : Settings) (first second : String) :
    isUnexplained reading settings first second = isUnexplained reading settings second first := by
  rw [isUnexplained, isUnexplained, isExpectedPair_comm]

theorem isUnanswered_comm (settings : Settings) (first second : String) :
    isUnanswered reading settings first second = isUnanswered reading settings second first := by
  rw [isUnanswered, isUnanswered, isExpectedPair_comm]

section

variable {otherVocabulary : Document} {otherContracts : List Document}
  (names : ((firstDeclarations (vocabulary :: contracts)).map (·.name)).Perm
    ((firstDeclarations (otherVocabulary :: otherContracts)).map (·.name)))

include names

/-- Whether the audit answers is a matter of the declared names. -/
theorem exists_issues_iff_of_perm_names :
    (∃ found, issues reading settings vocabulary contracts = .ok found) ↔
      ∃ found, issues reading settings otherVocabulary otherContracts = .ok found := by
  rw [exists_issues_iff, exists_issues_iff, nearPairs, nearPairs,
    countP_pairsOfDistinct_of_perm (isUnanswered_comm settings) names]

theorem isOrphan_of_perm_names :
    isOrphan settings ((firstDeclarations (vocabulary :: contracts)).map (·.name)) =
      isOrphan settings ((firstDeclarations (otherVocabulary :: otherContracts)).map (·.name)) := by
  funext name
  unfold isOrphan
  cases entityOf? settings.referenceSuffix name with
  | none => rfl
  | some entity =>
    refine congrArg Bool.not ?_
    rw [Bool.eq_iff_iff, List.contains_iff_mem, List.contains_iff_mem, names.mem_iff]

end

variable {reordered : List Document} (permuted : contracts.Perm reordered)

include permuted

theorem exists_issues_iff_of_perm :
    (∃ found, issues reading settings vocabulary contracts = .ok found) ↔
      ∃ found, issues reading settings vocabulary reordered = .ok found :=
  exists_issues_iff_of_perm_names (perm_firstDeclarations (permuted.cons vocabulary))

/-- The audit finds as much under every order of the contracts. -/
theorem length_issues_of_perm {found other : List Issue}
    (success : issues reading settings vocabulary contracts = .ok found)
    (otherSuccess : issues reading settings vocabulary reordered = .ok other) :
    found.length = other.length := by
  have names := perm_firstDeclarations (permuted.cons vocabulary)
  rw [(issues_spec success).1, (issues_spec otherSuccess).1, nearPairs, nearPairs,
    countP_pairsOfDistinct_of_perm (isUnexplained_comm settings) names,
    isOrphan_of_perm_names names, names.countP_eq]

end Concord.Naming
