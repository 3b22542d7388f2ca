/-
The uses of names that lack an import. The walk over the uses of a contract keeps the names that it has
reported, and asks of each name which document declares it first. What it finds is one issue for each name
that another document declares and the contract neither declares nor imports, on the line of the first
declaration that refers to the name. The issues tell how to get rid of them: once the names are imported,
from whatever module, no use is left to report, and the issues of imports are what they were.
-/

import Concord.Document.Reading
import Concord.Proofs.Occurrence
import Concord.Proofs.Resolution

namespace Concord.Resolution

/-! ### First uses -/

instance (declaration : Declaration) (name : String) : Decidable (Refers declaration name) :=
  decidable_of_iff _ refers_iff.symm

/-- Of several uses of a name the first. -/
def firstUses : List (Declaration × String) → List (Declaration × String)
  | [] => []
  | use :: uses => use :: (firstUses uses).filter (·.2 != use.2)

theorem nodup_names_firstUses (uses : List (Declaration × String)) :
    ((firstUses uses).map (·.2)).Nodup := by
  induction uses with
  | nil => exact List.nodup_nil
  | cons use uses inductionHypothesis =>
    rw [firstUses, List.map_cons, List.nodup_cons]
    refine ⟨fun member => ?_, inductionHypothesis.sublist (List.filter_sublist.map _)⟩
    obtain ⟨other, inside, same⟩ := List.mem_map.1 member
    simpa [same] using (List.mem_filter.1 inside).2

theorem mem_firstUses_iff {uses : List (Declaration × String)} {use : Declaration × String} :
    use ∈ firstUses uses ↔ uses.find? (·.2 == use.2) = some use := by
  induction uses with
  | nil => simp [firstUses]
  | cons first uses inductionHypothesis =>
    rw [firstUses, List.mem_cons, List.mem_filter, inductionHypothesis, List.find?_cons]
    by_cases same : first.2 = use.2
    · simp [same, eq_comm]
    · have other : use ≠ first := fun isFirst => same (congrArg (·.2) isFirst).symm
      have differs : (first.2 == use.2) = false := beq_eq_false_iff_ne.2 same
      simp [differs, other, Ne.symm same]

theorem find?_usesOf (declaration : Declaration) (name : String) :
    ((expressions declaration).flatMap fun expression =>
        (TypeName.references expression).map fun used => (declaration, used)).find? (·.2 == name) =
      if Refers declaration name then some (declaration, name) else none := by
  split
  · rename_i refers
    obtain ⟨expression, inside, found⟩ := refers_iff.1 refers
    have used : ((expressions declaration).flatMap fun expression =>
        (TypeName.references expression).map fun used => (declaration, used)).find? (·.2 == name) ≠
          none := fun absent => by
      refine List.find?_eq_none.1 absent (declaration, name) ?_ (beq_self_eq_true name)
      exact List.mem_flatMap.2 ⟨expression, inside, List.mem_map_of_mem found⟩
    obtain ⟨⟨user, other⟩, first⟩ := Option.ne_none_iff_exists'.1 used
    obtain ⟨_, -, listed⟩ := List.mem_flatMap.1 (List.mem_of_find?_eq_some first)
    obtain ⟨_, -, same⟩ := List.mem_map.1 listed
    have isName : other = name := by simpa using List.find?_some first
    rw [first, ← (Prod.mk.inj same).1, isName]
  · rename_i noReference
    refine List.find?_eq_none.2 fun use member isName => noReference (refers_iff.2 ?_)
    obtain ⟨expression, inside, listed⟩ := List.mem_flatMap.1 member
    obtain ⟨used, found, rfl⟩ := List.mem_map.1 listed
    exact ⟨expression, inside, beq_iff_eq.1 isName ▸ found⟩

/-- The first use of a name is by the first declaration that refers to it. -/
theorem find?_uses (contract : Document) (name : String) :
    (uses contract).find? (·.2 == name) =
      (contract.declarations.find? fun declaration => Refers declaration name).map
        fun declaration => (declaration, name) := by
  rw [uses, List.find?_flatMap]
  induction contract.declarations with
  | nil => rfl
  | cons declaration declarations inductionHypothesis =>
    rw [List.findSome?_cons, find?_usesOf, List.find?_cons]
    by_cases refers : Refers declaration name
    · simp [refers]
    · simpa [refers] using inductionHypothesis

/-! ### What the walk finds -/

/-- The issue of a use, if its name needs an import. -/
def usageIssue? (documents : List Document) (contract : Document) (use : Declaration × String) :
    Option Issue :=
  (neededFrom? documents contract use.2).map (usageIssue contract use.1 use.2)

/-- Leaving out what makes nothing changes nothing. -/
theorem filterMap_filter_of_none {Value Made : Type} {make : Value → Option Made}
    {keeps : Value → Bool} {values : List Value}
    (nothing : ∀ value ∈ values, keeps value = false → make value = none) :
    (values.filter keeps).filterMap make = values.filterMap make := by
  induction values with
  | nil => rfl
  | cons value values inductionHypothesis =>
    rw [List.forall_mem_cons] at nothing
    have rest := inductionHypothesis nothing.2
    rw [List.filter_cons]
    cases kept : keeps value with
    | true => rw [if_pos rfl, List.filterMap_cons, List.filterMap_cons, rest]
    | false => rw [if_neg Bool.false_ne_true, rest, List.filterMap_cons_none (nothing.1 kept)]

/-- The name of a use has not been reported. -/
def isUnreported (reported : List String) (use : Declaration × String) : Bool :=
  !reported.contains use.2

theorem isUnreported_cons (name : String) (reported : List String) :
    isUnreported (name :: reported) = fun use => isUnreported reported use && use.2 != name := by
  funext use
  by_cases isName : use.2 = name <;> simp [isUnreported, isName]

theorem isUnreported_of_known {name : String} {reported : List String} (known : name ∈ reported) :
    isUnreported reported = fun use => isUnreported reported use && use.2 != name := by
  funext use
  by_cases isName : use.2 = name <;> simp [isUnreported, isName, known]

/-- The walk finds the issues of first uses of names that have not been reported. -/
theorem usageIssuesFrom_eq (documents : List Document) (contract : Document) (reported : List String)
    (remaining : List (Declaration × String)) :
    usageIssuesFrom documents contract reported remaining =
      ((firstUses remaining).filter (isUnreported reported)).filterMap
        (usageIssue? documents contract) := by
  induction remaining generalizing reported with
  | nil => rfl
  | cons use remaining inductionHypothesis =>
    obtain ⟨declaration, name⟩ := use
    rw [usageIssuesFrom, firstUses, List.filter_cons, List.filter_filter]
    by_cases known : name ∈ reported
    · rw [if_pos (List.contains_iff_mem.2 known), if_neg (by simp [isUnreported, known]),
        ← isUnreported_of_known known]
      exact inductionHypothesis reported
    · rw [if_neg (by simpa using known), if_pos (by simp [isUnreported, known]),
        ← isUnreported_cons, List.filterMap_cons]
      cases needed : neededFrom? documents contract name with
      | some owner => simp only [usageIssue?, needed, Option.map_some, inductionHypothesis]
      | none =>
        -- The name needs no import, so its later uses give nothing, be they left out or not.
        have nothing : ∀ use ∈ (firstUses remaining).filter (isUnreported reported),
            (use.2 != name) = false → usageIssue? documents contract use = none := by
          intro use _ isName
          rw [usageIssue?, show use.2 = name by simpa using isName, needed, Option.map_none]
        have same := filterMap_filter_of_none nothing
        simp only [List.filter_filter, Bool.and_comm (_ != name), ← isUnreported_cons] at same
        simp only [usageIssue?, needed, Option.map_none, inductionHypothesis] at same ⊢
        exact same.symm

theorem usageIssues_eq (documents : List Document) (contract : Document) :
    usageIssues documents contract =
      (firstUses (uses contract)).filterMap (usageIssue? documents contract) := by
  have all : (firstUses (uses contract)).filter (isUnreported []) = firstUses (uses contract) :=
    List.filter_eq_self.2 fun _ _ => rfl
  rw [usageIssues, usageIssuesFrom_eq, all]

/-! ### Names that need an import -/

/-- A contract uses a name that another document declares, and neither declares nor imports it. -/
structure NeedsImport (documents : List Document) (contract : Document) (name : String) : Prop where
  used : ∃ declaration ∈ contract.declarations, Refers declaration name
  declaredElsewhere : ∃ other ∈ documents,
    other.identifier ≠ contract.identifier ∧ other.declares name = true
  undeclared : contract.declares name = false
  unimported : contract.importsName name = false

instance (documents : List Document) (contract : Document) (name : String) :
    Decidable (NeedsImport documents contract name) :=
  decidable_of_iff
    ((∃ declaration ∈ contract.declarations, Refers declaration name) ∧
      (∃ other ∈ documents, other.identifier ≠ contract.identifier ∧ other.declares name = true) ∧
        contract.declares name = false ∧ contract.importsName name = false)
    ⟨fun ⟨used, elsewhere, undeclared, unimported⟩ => ⟨used, elsewhere, undeclared, unimported⟩,
      fun needs => ⟨needs.used, needs.declaredElsewhere, needs.undeclared, needs.unimported⟩⟩

/-- The issue of a name says which declaration of the contract is the first to refer to it, on the line of
that declaration, and which document is the first to declare it. -/
def IsUsageIssue (documents : List Document) (contract : Document) (name : String) (issue : Issue) :
    Prop :=
  ∃ user owner, contract.declarations.find? (fun declaration => Refers declaration name) = some user ∧
    documents.find? (·.declares name) = some owner ∧
      issue = usageIssue contract user name owner.identifier

variable {documents : List Document} {contract : Document} {name : String}

theorem needsImport_iff (distinct : (documents.map (·.identifier)).Nodup)
    (member : contract ∈ documents) :
    NeedsImport documents contract name ↔
      (∃ declaration ∈ contract.declarations, Refers declaration name) ∧
        (neededFrom? documents contract name).isSome = true := by
  rw [isSome_neededFrom?_iff distinct member]
  constructor
  · exact fun needs => ⟨needs.used, needs.declaredElsewhere, needs.undeclared, needs.unimported⟩
  · rintro ⟨used, elsewhere, undeclared, unimported⟩
    exact ⟨used, elsewhere, undeclared, unimported⟩

theorem isUsageIssue_of_mem {use : Declaration × String} (first : use ∈ firstUses (uses contract))
    {issue : Issue} (found : usageIssue? documents contract use = some issue) :
    IsUsageIssue documents contract use.2 issue := by
  obtain ⟨identifier, needed, rfl⟩ := Option.map_eq_some_iff.1 found
  obtain ⟨owner, declares, rfl⟩ := Option.map_eq_some_iff.1 (Option.filter_eq_some_iff.1 needed).1
  have firstUse := mem_firstUses_iff.1 first
  rw [find?_uses] at firstUse
  obtain ⟨user, isUser, same⟩ := Option.map_eq_some_iff.1 firstUse
  exact ⟨user, owner, isUser, declares, by rw [← same]⟩

/-- There is one issue of use for each name that needs an import. -/
theorem exists_names_of_usageIssues (distinct : (documents.map (·.identifier)).Nodup)
    (member : contract ∈ documents) :
    ∃ names : List String, names.Nodup ∧
      (∀ name, name ∈ names ↔ NeedsImport documents contract name) ∧
        List.Forall₂ (IsUsageIssue documents contract) names (usageIssues documents contract) := by
  have needed : ∀ use, (usageIssue? documents contract use).isSome =
      (neededFrom? documents contract use.2).isSome := fun use => Option.isSome_map
  refine ⟨((firstUses (uses contract)).filter fun use =>
    (usageIssue? documents contract use).isSome).map (·.2), ?_, fun name => ?_, ?_⟩
  · exact (nodup_names_firstUses _).sublist (List.filter_sublist.map _)
  · rw [needsImport_iff distinct member]
    simp only [List.mem_map, List.mem_filter, needed, mem_firstUses_iff, find?_uses]
    constructor
    · rintro ⟨use, ⟨first, needs⟩, rfl⟩
      obtain ⟨user, isUser, -⟩ := Option.map_eq_some_iff.1 first
      exact ⟨⟨user, List.mem_of_find?_eq_some isUser, by simpa using List.find?_some isUser⟩, needs⟩
    · rintro ⟨⟨declaration, declared, refers⟩, needs⟩
      have used : (contract.declarations.find? fun declaration => Refers declaration name).isSome :=
        List.find?_isSome.2 ⟨declaration, declared, decide_eq_true refers⟩
      obtain ⟨user, isUser⟩ := Option.isSome_iff_exists.1 used
      exact ⟨(user, name), ⟨by rw [isUser, Option.map_some], needs⟩, rfl⟩
  · rw [usageIssues_eq]
    exact forall₂_filterMap fun use first issue found => isUsageIssue_of_mem first found

/-! ### Imports added -/

/-- The document with no imports. -/
def withoutImports (document : Document) : Document :=
  { document with imports := [] }

/-- To a contract all names have been added that it needed to import, from whatever modules, and no
others. -/
structure IsRepaired (documents : List Document) (contract repaired : Document) : Prop where
  same : withoutImports repaired = withoutImports contract
  kept : repaired.imports.filter (fun imported => !decide (NeedsImport documents contract imported.name)) =
    contract.imports
  added : ∀ name, NeedsImport documents contract name → repaired.importsName name = true

theorem owner?_withoutImports (documents : List Document) (name : String) :
    owner? (documents.map withoutImports) name = owner? documents name := by
  rw [owner?, owner?, List.find?_map, Option.map_map]
  rfl

variable {repaired : Document}

theorem IsRepaired.identifier_eq (isRepaired : IsRepaired documents contract repaired) :
    repaired.identifier = contract.identifier :=
  congrArg (·.identifier) isRepaired.same

theorem IsRepaired.declarations_eq (isRepaired : IsRepaired documents contract repaired) :
    repaired.declarations = contract.declarations :=
  congrArg (·.declarations) isRepaired.same

theorem IsRepaired.declares_eq (isRepaired : IsRepaired documents contract repaired) (name : String) :
    repaired.declares name = contract.declares name :=
  congrArg (·.declares name) isRepaired.same

theorem IsRepaired.importsName_of_contract (isRepaired : IsRepaired documents contract repaired)
    (imports : contract.importsName name = true) : repaired.importsName name = true := by
  obtain ⟨imported, listed, same⟩ := List.any_eq_true.1 imports
  rw [← isRepaired.kept] at listed
  exact List.any_eq_true.2 ⟨imported, (List.mem_filter.1 listed).1, same⟩

variable {vocabulary : Document} {contracts others : List Document}

theorem owner?_of_repaired (areRepaired : List.Forall₂ (IsRepaired documents) contracts others) :
    owner? (vocabulary :: others) name = owner? (vocabulary :: contracts) name := by
  have same : others.map withoutImports = contracts.map withoutImports := by
    induction areRepaired with
    | nil => rfl
    | cons isRepaired _ inductionHypothesis =>
      rw [List.map_cons, List.map_cons, isRepaired.same, inductionHypothesis]
  rw [← owner?_withoutImports, ← owner?_withoutImports (vocabulary :: contracts), List.map_cons,
    List.map_cons, same]

/-- A name that needs an import is declared, so importing it gives no issue. -/
theorem unresolvedImports_of_repaired (settings : Settings)
    (areRepaired : List.Forall₂ (IsRepaired (vocabulary :: contracts)) contracts others)
    (isRepaired : IsRepaired (vocabulary :: contracts) contract repaired) :
    unresolvedImports settings vocabulary others repaired =
      unresolvedImports settings vocabulary contracts contract := by
  simp only [unresolvedImports, owner?_of_repaired areRepaired, isRepaired.identifier_eq]
  rw [← isRepaired.kept]
  refine (filterMap_filter_of_none fun imported _ isAdded => ?_).symm
  have needs : NeedsImport (vocabulary :: contracts) contract imported.name := by
    simpa using isAdded
  obtain ⟨other, member, -, declares⟩ := needs.declaredElsewhere
  rw [isSome_owner?_iff.2 ⟨other, member, declares⟩]
  simp

/-- Once all names are imported that need it, no use is left to report. -/
theorem usageIssues_of_repaired (distinct : ((vocabulary :: contracts).map (·.identifier)).Nodup)
    (areRepaired : List.Forall₂ (IsRepaired (vocabulary :: contracts)) contracts others)
    (member : contract ∈ contracts)
    (isRepaired : IsRepaired (vocabulary :: contracts) contract repaired) :
    usageIssues (vocabulary :: others) repaired = [] := by
  refine usageIssues_eq_nil_iff.2 fun declaration declared name refers => ?_
  rw [isRepaired.declarations_eq] at declared
  rw [neededFrom?, owner?_of_repaired areRepaired, isRepaired.identifier_eq, isRepaired.declares_eq,
    Option.filter_eq_none_iff]
  intro owner isOwner conditions
  simp only [Bool.and_eq_true, Bool.not_eq_true'] at conditions
  have unimported : contract.importsName name = false :=
    Bool.eq_false_iff.2 fun imports =>
      absurd (isRepaired.importsName_of_contract imports) (by simp [conditions.1.2])
  have needed : neededFrom? (vocabulary :: contracts) contract name = some owner := by
    refine Option.filter_eq_some_iff.2 ⟨isOwner, ?_⟩
    rw [conditions.1.1, conditions.2, unimported]
    rfl
  have needs : NeedsImport (vocabulary :: contracts) contract name :=
    (needsImport_iff distinct (List.mem_cons_of_mem _ member)).2
      ⟨⟨declaration, declared, refers⟩, by rw [needed, Option.isSome_some]⟩
  exact absurd (isRepaired.added name needs) (by simp [conditions.1.2])

theorem flatMap_eq_of_forall₂ {First Second Made : Type} {related : First → Second → Prop}
    {make : First → List Made} {makeOther : Second → List Made} {values : List First}
    {others : List Second} (same : ∀ value other, related value other → make value = makeOther other)
    (all : List.Forall₂ related values others) : values.flatMap make = others.flatMap makeOther := by
  induction all with
  | nil => rfl
  | cons here _ inductionHypothesis =>
    rw [List.flatMap_cons, List.flatMap_cons, same _ _ here, inductionHypothesis]

/-- The resolution reports, contract by contract, one issue for each name that needs an import; and when
every contract imports the names that it needs, from whatever modules, none of them is left and the issues
of imports are the same as before. -/
theorem usages_reported_and_repaired (settings : Settings)
    (distinct : ((vocabulary :: contracts).map (·.identifier)).Nodup) :
    (∃ usages : List (List Issue),
      issues settings vocabulary contracts =
          contracts.flatMap (unresolvedImports settings vocabulary contracts) ++ usages.flatten ∧
        List.Forall₂ (fun contract found => ∃ names : List String, names.Nodup ∧
          (∀ name, name ∈ names ↔ NeedsImport (vocabulary :: contracts) contract name) ∧
            List.Forall₂ (IsUsageIssue (vocabulary :: contracts) contract) names found)
          contracts usages) ∧
      ∀ repaired, List.Forall₂ (IsRepaired (vocabulary :: contracts)) contracts repaired →
        issues settings vocabulary repaired =
            repaired.flatMap (unresolvedImports settings vocabulary repaired) ∧
          repaired.flatMap (unresolvedImports settings vocabulary repaired) =
            contracts.flatMap (unresolvedImports settings vocabulary contracts) := by
  constructor
  · refine ⟨contracts.map (usageIssues (vocabulary :: contracts)), ?_, ?_⟩
    · rw [issues, ← List.flatMap_def]
    · rw [List.forall₂_map_right_iff, List.forall₂_same]
      exact fun contract member =>
        exists_names_of_usageIssues distinct (List.mem_cons_of_mem _ member)
  · intro repaired areRepaired
    have members := (List.forall₂_and_left _ _).2 ⟨fun _ member => member, areRepaired⟩
    have uses : contracts.flatMap (fun _ => []) = repaired.flatMap (usageIssues (vocabulary :: repaired)) :=
      flatMap_eq_of_forall₂ (fun contract fixed both =>
        (usageIssues_of_repaired distinct areRepaired both.1 both.2).symm) members
    have imports : contracts.flatMap (unresolvedImports settings vocabulary contracts) =
        repaired.flatMap (unresolvedImports settings vocabulary repaired) :=
      flatMap_eq_of_forall₂ (fun contract fixed isRepaired =>
        (unresolvedImports_of_repaired settings areRepaired isRepaired).symm) areRepaired
    refine ⟨?_, imports.symm⟩
    rw [issues, ← uses, List.flatMap_eq_nil_iff.2 fun _ _ => rfl, List.append_nil]

/-! ### Two contracts with names to import -/

/-- A vocabulary of one record. -/
def tradeVocabulary : Document :=
  .ofText {} "shared.ts" "interface Money \x7b amount: number \x7d\n"

/-- A contract that uses the record of the vocabulary twice, and imports a name that nobody declares. -/
def saleContract : Document :=
  .ofText {} "sales.ts"
    "import \x7b Ghost \x7d from './shared';\ninterface Sale \x7b total: Money; tax: Money \x7d\n"

/-- A contract that imports the record of the vocabulary and uses that of the other contract. -/
def stockContract : Document :=
  .ofText {} "stock.ts"
    "import \x7b Money \x7d from './shared';\ninterface Item \x7b cost: Money; sale: Sale \x7d\n"

/-- A document with one more import. -/
def withImport (document : Document) (name sourceModule : String) : Document :=
  { document with imports := document.imports ++ [⟨name, sourceModule, ⟨document.identifier, 9⟩⟩] }

theorem usages_reported_and_repaired_trade :
    ([tradeVocabulary, saleContract, stockContract].map (·.identifier)).Nodup ∧
      (issues {} tradeVocabulary [saleContract, stockContract]).map (fun issue =>
          (issue.message, issue.document, issue.line)) =
        [("Unresolved import: 'Ghost' from './shared'", "sales.ts", some 1),
          ("Unresolved import: 'Money' is used by 'Sale' but never imported (declared in shared.ts)",
            "sales.ts", some 2),
          ("Unresolved import: 'Sale' is used by 'Item' but never imported (declared in sales.ts)",
            "stock.ts", some 2)] ∧
      List.Forall₂ (IsRepaired [tradeVocabulary, saleContract, stockContract])
        [saleContract, stockContract]
        [withImport saleContract "Money" "anywhere", withImport stockContract "Sale" "./sales"] ∧
      ([withImport saleContract "Money" "anywhere", withImport stockContract "Sale" "./sales"].flatMap
        (unresolvedImports {} tradeVocabulary
          [withImport saleContract "Money" "anywhere", withImport stockContract "Sale" "./sales"]) =
        [saleContract, stockContract].flatMap
          (unresolvedImports {} tradeVocabulary [saleContract, stockContract])) := by
  have distinct : ([tradeVocabulary, saleContract, stockContract].map (·.identifier)).Nodup := by
    decide
  have isRepaired : ∀ (contract : Document) (name sourceModule : String),
      ((withImport contract name sourceModule).imports.filter (fun imported => !decide (NeedsImport
        [tradeVocabulary, saleContract, stockContract] contract imported.name)) = contract.imports) ∧
      (∀ use ∈ uses contract, NeedsImport [tradeVocabulary, saleContract, stockContract] contract use.2 →
        (withImport contract name sourceModule).importsName use.2 = true) →
      IsRepaired [tradeVocabulary, saleContract, stockContract] contract
        (withImport contract name sourceModule) := by
    rintro contract name sourceModule ⟨kept, added⟩
    refine ⟨rfl, kept, fun used needs => ?_⟩
    obtain ⟨user, member⟩ := exists_mem_uses_iff.2 needs.used
    exact added (user, used) member needs
  have areRepaired : List.Forall₂ (IsRepaired [tradeVocabulary, saleContract, stockContract])
      [saleContract, stockContract]
      [withImport saleContract "Money" "anywhere", withImport stockContract "Sale" "./sales"] :=
    .cons (isRepaired _ _ _ (by decide +kernel)) (.cons (isRepaired _ _ _ (by decide +kernel)) .nil)
  exact ⟨distinct, by decide +kernel, areRepaired,
    ((usages_reported_and_repaired {} distinct).2 _ areRepaired).2⟩

end Concord.Resolution
