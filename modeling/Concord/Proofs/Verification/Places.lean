/-
Where the issues of a verification stand. The resolution of names, the audit of names and the check of
shapes speak of a declaration or an import each time, and an issue of theirs says something about the
document and the line of it. The issue of a cycle stands in the document in which the cycle begins, and
on no line.
-/

import Concord.Proofs.Verification.Findings
import Mathlib.Data.List.TakeWhile

namespace Concord

open Text

/-! ### Issues at a place -/

/-- The issue says something about a line of a document. -/
structure Issue.StandsAt (issue : Issue) (document : String) (line : Nat) : Prop where
  document : issue.document = document
  line : issue.line = some line
  message : issue.message ≠ ""

/-- A message that opens with something else than a blank is not trimmed away. -/
theorem Issue.trimmed_ne_empty (opening rest : String)
    (opens : (opening.toList.head?.any fun c => !isBlank c) = true) :
    trimmed (opening ++ rest) ≠ "" := by
  cases isCons : opening.toList with
  | nil => simp [isCons] at opens
  | cons c tail =>
    have solid : isBlank c = false := by simpa [isCons] using opens
    intro absent
    have stripped : strip (c :: (tail ++ rest.toList)) = [] := by
      simpa [trimmed, isCons] using congrArg String.toList absent
    rw [strip, stripStart, List.dropWhile_cons_of_neg (by simp [solid]), stripEnd,
      List.reverse_eq_nil_iff] at stripped
    have blank := List.dropWhile_eq_nil_iff.1 stripped c (by simp)
    exact absurd (solid.symm.trans blank) Bool.false_ne_true

/-! ### Resolution -/

namespace Resolution

variable {settings : Settings} {vocabulary contract : Document} {contracts documents : List Document}
  {issue : Issue}

theorem standsAt_of_mem_unresolvedImports
    (member : issue ∈ unresolvedImports settings vocabulary contracts contract) :
    ∃ imported ∈ contract.imports, issue.StandsAt contract.identifier imported.location.line := by
  obtain ⟨imported, listed, made⟩ := List.mem_filterMap.1 member
  refine ⟨imported, listed, ?_⟩
  split at made
  · exact absurd made (by simp)
  · split at made
    · exact absurd made (by simp)
    · obtain rfl := Option.some.inj made
      refine ⟨rfl, rfl, ?_⟩
      simp only [Issue.error, String.append_assoc]
      exact Issue.trimmed_ne_empty _ _ (by decide)

theorem standsAt_usageIssue (contract : Document) (declaration : Declaration) (name owner : String) :
    (usageIssue contract declaration name owner).StandsAt contract.identifier declaration.line := by
  refine ⟨rfl, rfl, ?_⟩
  simp only [usageIssue, Issue.error, String.append_assoc]
  exact Issue.trimmed_ne_empty _ _ (by decide)

theorem exists_use_of_mem_usageIssuesFrom {reported : List String}
    {remaining : List (Declaration × String)}
    (member : issue ∈ usageIssuesFrom documents contract reported remaining) :
    ∃ use ∈ remaining, issue.StandsAt contract.identifier use.1.line := by
  induction remaining generalizing reported with
  | nil => exact absurd member List.not_mem_nil
  | cons use remaining inductionHypothesis =>
    obtain ⟨declaration, name⟩ := use
    rw [usageIssuesFrom] at member
    split at member
    · rcases List.mem_cons.1 member with rfl | later
      · exact ⟨_, List.mem_cons_self, standsAt_usageIssue ..⟩
      · obtain ⟨use, listed, stands⟩ := inductionHypothesis later
        exact ⟨use, List.mem_cons_of_mem _ listed, stands⟩
    · obtain ⟨use, listed, stands⟩ := inductionHypothesis member
      exact ⟨use, List.mem_cons_of_mem _ listed, stands⟩

theorem standsAt_of_mem_usageIssues (member : issue ∈ usageIssues documents contract) :
    ∃ declaration ∈ contract.declarations,
      issue.StandsAt contract.identifier declaration.line := by
  obtain ⟨⟨declaration, name⟩, used, stands⟩ := exists_use_of_mem_usageIssuesFrom member
  obtain ⟨user, declared, inside⟩ := List.mem_flatMap.1 used
  obtain ⟨expression, -, found⟩ := List.mem_flatMap.1 inside
  obtain ⟨_, -, same⟩ := List.mem_map.1 found
  obtain ⟨rfl, -⟩ := Prod.mk.inj same
  exact ⟨user, declared, stands⟩

end Resolution

/-! ### Shapes -/

namespace Shape

variable {settings : Settings} {equivalences : List (String × String)} {vocabulary : Document}
  {contracts : List Document} {baseline other : Declaration} {gaps : List Gap} {issue : Issue}

theorem standsAt_missingIssue (field : Field) (lacking having : Declaration) (name : String) :
    (missingIssue field lacking having name).StandsAt lacking.document lacking.line := by
  refine ⟨rfl, rfl, ?_⟩
  simp only [missingIssue, Issue.error, String.append_assoc]
  exact Issue.trimmed_ne_empty _ _ (by decide)

theorem standsAt_of_mem_sharedFieldIssues {base field : Field}
    (member : issue ∈ sharedFieldIssues equivalences baseline other base field) :
    issue.StandsAt other.document other.line := by
  rcases List.mem_append.1 member with typed | optional
  · split at typed
    · exact absurd typed List.not_mem_nil
    · obtain rfl := List.mem_singleton.1 typed
      refine ⟨rfl, rfl, ?_⟩
      simp only [typeIssue, Issue.error, String.append_assoc]
      exact Issue.trimmed_ne_empty _ _ (by decide)
  · split at optional
    · exact absurd optional List.not_mem_nil
    · obtain rfl := List.mem_singleton.1 optional
      refine ⟨rfl, rfl, ?_⟩
      simp only [optionalityIssue, Issue.warning, String.append_assoc]
      exact Issue.trimmed_ne_empty _ _ (by decide)

theorem standsAt_of_mem_otherFieldIssues {fields : List Field}
    (member : issue ∈ (otherFieldIssues equivalences baseline other gaps fields).1) :
    ∃ record ∈ [baseline, other], issue.StandsAt record.document record.line := by
  induction fields generalizing gaps with
  | nil => exact absurd member List.not_mem_nil
  | cons field fields inductionHypothesis =>
    rw [otherFieldIssues] at member
    split at member
    · rcases List.mem_append.1 member with here | later
      · exact ⟨other, by simp, standsAt_of_mem_sharedFieldIssues here⟩
      · exact inductionHypothesis later
    · simp only at member
      split at member
      · exact inductionHypothesis member
      · rcases List.mem_cons.1 member with rfl | later
        · exact ⟨baseline, by simp, standsAt_missingIssue ..⟩
        · exact inductionHypothesis later

theorem standsAt_of_mem_compare (member : issue ∈ (compare equivalences baseline other gaps).1) :
    ∃ record ∈ [baseline, other], issue.StandsAt record.document record.line := by
  rw [compare] at member
  split at member
  · rcases List.mem_append.1 member with lacked | found
    · obtain ⟨field, -, rfl⟩ := List.mem_map.1 lacked
      exact ⟨other, by simp, standsAt_missingIssue ..⟩
    · exact standsAt_of_mem_otherFieldIssues found
  · exact absurd member List.not_mem_nil

theorem standsAt_of_mem_compareAll {others : List Declaration}
    (member : issue ∈ (compareAll equivalences baseline gaps others).1) :
    ∃ record ∈ baseline :: others, issue.StandsAt record.document record.line := by
  induction others generalizing gaps with
  | nil => exact absurd member List.not_mem_nil
  | cons other others inductionHypothesis =>
    rw [compareAll] at member
    rcases List.mem_append.1 member with here | later
    · obtain ⟨record, listed, stands⟩ := standsAt_of_mem_compare here
      refine ⟨record, ?_, stands⟩
      rw [List.mem_cons, List.mem_singleton] at listed
      exact listed.elim (fun same => same ▸ List.mem_cons_self) fun same =>
        same ▸ List.mem_cons_of_mem _ List.mem_cons_self
    · obtain ⟨record, listed, stands⟩ := inductionHypothesis later
      refine ⟨record, ?_, stands⟩
      exact (List.mem_cons.1 listed).elim (fun same => same ▸ List.mem_cons_self) fun inside =>
        List.mem_cons_of_mem _ (List.mem_cons_of_mem _ inside)

/-- An issue of records that share a name stands at one of them. -/
theorem standsAt_of_mem_groupIssues {shared : String} {records : List Declaration}
    (member : issue ∈ (groupIssues equivalences shared gaps records).1) :
    ∃ record ∈ records, issue.StandsAt record.document record.line := by
  simp only [groupIssues] at member
  split at member
  · rename_i baseline found
    obtain ⟨record, listed, stands⟩ := standsAt_of_mem_compareAll member
    refine ⟨record, ?_, stands⟩
    exact (List.mem_cons.1 listed).elim (fun same => same ▸ List.mem_of_getElem? found)
      List.mem_of_mem_eraseIdx
  · exact absurd member List.not_mem_nil

theorem standsAt_of_mem_recordIssuesFrom {shared : String} {records : List Declaration}
    {names : List String}
    (member : issue ∈ recordIssuesFrom equivalences shared records gaps names) :
    ∃ record ∈ records, record.name ∈ names ∧ issue.StandsAt record.document record.line := by
  induction names generalizing gaps with
  | nil => exact absurd member List.not_mem_nil
  | cons name names inductionHypothesis =>
    rw [recordIssuesFrom] at member
    rcases List.mem_append.1 member with here | later
    · obtain ⟨record, listed, stands⟩ := standsAt_of_mem_groupIssues here
      obtain ⟨isRecord, named⟩ := List.mem_filter.1 listed
      exact ⟨record, isRecord, beq_iff_eq.1 named ▸ List.mem_cons_self, stands⟩
    · obtain ⟨record, listed, named, stands⟩ := inductionHypothesis later
      exact ⟨record, listed, List.mem_cons_of_mem _ named, stands⟩

theorem standsAt_of_mem_kindIssues {contract : Document}
    (member : issue ∈ kindIssues vocabulary contract) :
    ∃ declaration ∈ contract.declarations,
      issue.StandsAt contract.identifier declaration.line := by
  obtain ⟨name, -, found⟩ := List.mem_filterMap.1 member
  unfold kindIssue? at found
  split at found
  · rename_i own shared isOwn isShared
    split at found
    · exact absurd found (by simp)
    · obtain rfl := Option.some.inj found
      refine ⟨own, List.mem_of_find?_eq_some isOwn, rfl, rfl, ?_⟩
      simp only [kindIssue, Issue.error, String.append_assoc]
      exact Issue.trimmed_ne_empty _ _ (by decide)
  · exact absurd found (by simp)

end Shape

/-! ### Names -/

namespace Naming

variable {reading : Pattern.Reading} {settings : Settings} {vocabulary : Document}
  {contracts : List Document} {declarations : List Declaration} {issue : Issue}

theorem standsAt_of_mem_pairIssues {pair : SimilarPair} {found : List Issue}
    (success : pairIssues reading settings declarations pair = .ok found) (member : issue ∈ found) :
    ∃ declaration ∈ declarations, issue.StandsAt declaration.document declaration.line := by
  unfold pairIssues at success
  cases answer : isExpectedPair reading settings.strippableSuffixes pair.first pair.second
      settings.namingRules with
  | error bad => simp [answer, bind, Except.bind] at success
  | ok isExpected =>
    simp only [answer, bind, Except.bind] at success
    split at success
    · rename_i left right isLeft isRight
      simp only [pure, Except.pure, Except.ok.injEq] at success
      subst success
      split at member
      · exact absurd member List.not_mem_nil
      · obtain rfl := List.mem_singleton.1 member
        refine ⟨left, List.mem_of_find?_eq_some isLeft, rfl, rfl, ?_⟩
        simp only [similarityIssue, Issue.warning, String.append_assoc]
        exact Issue.trimmed_ne_empty _ _ (by decide)
    · simp only [pure, Except.pure, Except.ok.injEq] at success
      rw [← success] at member
      exact absurd member List.not_mem_nil

theorem standsAt_of_orphanIssue? {declaration : Declaration}
    (found : orphanIssue? settings declarations declaration = some issue) :
    issue.StandsAt declaration.document declaration.line := by
  unfold orphanIssue? at found
  split at found
  · split at found
    · exact absurd found (by simp)
    · obtain rfl := Option.some.inj found
      refine ⟨rfl, rfl, ?_⟩
      simp only [orphanIssue, Issue.warning, String.append_assoc]
      exact Issue.trimmed_ne_empty _ _ (by decide)
  · exact absurd found (by simp)

theorem mem_of_mem_firstOfEachName {seen : List String} {declaration : Declaration}
    (member : declaration ∈ firstDeclarations.firstOfEachName seen declarations) :
    declaration ∈ declarations := by
  induction declarations generalizing seen with
  | nil => exact absurd member List.not_mem_nil
  | cons first others inductionHypothesis =>
    rw [firstDeclarations.firstOfEachName] at member
    split at member
    · exact List.mem_cons_of_mem _ (inductionHypothesis member)
    · exact (List.mem_cons.1 member).elim (fun same => same ▸ List.mem_cons_self) fun later =>
        List.mem_cons_of_mem _ (inductionHypothesis later)

theorem standsAt_of_mem_issues {found : List Issue}
    (success : issues reading settings vocabulary contracts = .ok found) (member : issue ∈ found) :
    ∃ document ∈ vocabulary :: contracts, ∃ declaration ∈ document.declarations,
      issue.StandsAt declaration.document declaration.line := by
  have declared : ∀ declaration ∈ firstDeclarations (vocabulary :: contracts),
      ∃ document ∈ vocabulary :: contracts, declaration ∈ document.declarations := fun _ first =>
    List.mem_flatMap.1 (mem_of_mem_firstOfEachName first)
  obtain ⟨similar, answered, rfl⟩ := issues_eq_ok_iff.1 success
  rcases List.mem_append.1 member with near | orphan
  · obtain ⟨listed, inside, here⟩ := List.mem_flatten.1 near
    obtain ⟨index, bound, rfl⟩ := List.getElem_of_mem inside
    have bounded := answered.length_eq ▸ bound
    obtain ⟨declaration, first, stands⟩ :=
      standsAt_of_mem_pairIssues (answered.get bounded bound) here
    obtain ⟨document, isDocument, inDocument⟩ := declared declaration first
    exact ⟨document, isDocument, declaration, inDocument, stands⟩
  · obtain ⟨declaration, first, made⟩ := List.mem_filterMap.1 orphan
    obtain ⟨document, isDocument, inDocument⟩ := declared declaration first
    exact ⟨document, isDocument, declaration, inDocument, standsAt_of_orphanIssue? made⟩

end Naming

end Concord
