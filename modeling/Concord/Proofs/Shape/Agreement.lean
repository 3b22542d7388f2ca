/-
When the check of shapes finds no error: the records of each name have the fields of their baseline with
compatible types, and no import names something that the contract itself declares as another kind of
thing than the vocabulary. Which comparisons are made does not depend on the order of the contracts, so
neither do the numbers of errors and of warnings.
-/

import Concord.Proofs.Shape.Accounting
import Concord.Proofs.Shape.Baseline

namespace Concord.Shape

/-! ### Agreement of two records -/

/-- Two records have the same fields, and the types of a field are compatible. -/
structure AgreesWith (equivalences : List (String × String)) (baseline other : Declaration) :
    Prop where
  names : ∀ name, name ∈ baseline.fieldNames ↔ name ∈ other.fieldNames
  types : ∀ base ∈ baseline.fields, ∀ field ∈ other.fields, base.name = field.name →
    TypeName.compatible equivalences base.typeExpression field.typeExpression = true

theorem field?_eq_none_iff {declaration : Declaration} {name : String} :
    declaration.field? name = none ↔ name ∉ declaration.fieldNames := by
  simp [Declaration.field?, Declaration.fieldNames]

theorem field?_eq_some_iff {declaration : Declaration} {name : String} {field : Field}
    (distinct : declaration.fieldNames.Nodup) :
    declaration.field? name = some field ↔ field ∈ declaration.fields ∧ field.name = name :=
  find?_eq_some_iff_of_nodup distinct

theorem AgreesWith.refl (equivalences : List (String × String)) {declaration : Declaration}
    (distinct : declaration.fieldNames.Nodup) : AgreesWith equivalences declaration declaration := by
  refine ⟨fun name => Iff.rfl, fun base baseMember field member same => ?_⟩
  rw [List.inj_on_of_nodup_map distinct baseMember member same]
  simp [TypeName.compatible]

theorem gapsShown_eq_nil_iff {baseline other : Declaration} :
    gapsShown baseline other.fields = [] ↔
      ∀ name ∈ other.fieldNames, name ∈ baseline.fieldNames := by
  rw [gapsShown, List.map_eq_nil_iff, List.filter_eq_nil_iff]
  simp only [Option.isNone_iff_eq_none, field?_eq_none_iff, not_not]
  exact List.forall_mem_map.symm

theorem lackedByOther_eq_nil_iff {baseline other : Declaration} :
    lackedByOther baseline other = [] ↔
      ∀ name ∈ baseline.fieldNames, name ∈ other.fieldNames := by
  rw [lackedByOther, List.map_eq_nil_iff, List.filter_eq_nil_iff]
  simp only [Option.isNone_iff_eq_none, field?_eq_none_iff, not_not]
  exact List.forall_mem_map.symm

theorem no_error_in_sharedFieldIssues_iff (equivalences : List (String × String))
    (baseline other : Declaration) (base field : Field) :
    (∀ issue ∈ sharedFieldIssues equivalences baseline other base field,
      issue.severity ≠ .error) ↔
        TypeName.compatible equivalences base.typeExpression field.typeExpression = true := by
  by_cases compatible :
      TypeName.compatible equivalences base.typeExpression field.typeExpression = true
  · by_cases same : base.isOptional = field.isOptional
    · simp [sharedFieldIssues, compatible, same]
    · simp [sharedFieldIssues, compatible, same, optionalityIssue, Issue.warning]
  · simp [sharedFieldIssues, compatible, typeIssue, Issue.error]

theorem no_error_in_sharedIssues_iff {equivalences : List (String × String)}
    {baseline other : Declaration} (distinct : baseline.fieldNames.Nodup) :
    (∀ issue ∈ sharedIssues equivalences baseline other other.fields, issue.severity ≠ .error) ↔
      ∀ base ∈ baseline.fields, ∀ field ∈ other.fields, base.name = field.name →
        TypeName.compatible equivalences base.typeExpression field.typeExpression = true := by
  constructor
  · intro quiet base baseMember field member same
    refine (no_error_in_sharedFieldIssues_iff equivalences baseline other base field).1 ?_
    intro issue inside
    refine quiet issue (List.mem_flatMap.2 ⟨field, member, ?_⟩)
    rw [(field?_eq_some_iff distinct).2 ⟨baseMember, same⟩]
    exact inside
  · intro agree issue inside
    obtain ⟨field, member, made⟩ := List.mem_flatMap.1 inside
    cases found : baseline.field? field.name with
    | none =>
      rw [found] at made
      exact absurd made List.not_mem_nil
    | some base =>
      rw [found] at made
      obtain ⟨baseMember, same⟩ := (field?_eq_some_iff distinct).1 found
      exact (no_error_in_sharedFieldIssues_iff equivalences baseline other base field).2
        (agree base baseMember field member same) issue made

theorem severity_of_mem_lackedByOther {baseline other : Declaration} {issue : Issue}
    (member : issue ∈ lackedByOther baseline other) : issue.severity = .error := by
  obtain ⟨field, -, rfl⟩ := List.mem_map.1 member
  rfl

/-- A comparison gives no error of its own and shows no gap exactly when the records agree. -/
theorem agreesWith_iff {equivalences : List (String × String)} {baseline other : Declaration}
    (distinct : baseline.fieldNames.Nodup) :
    AgreesWith equivalences baseline other ↔
      (∀ issue ∈ ownIssues equivalences baseline other, issue.severity ≠ .error) ∧
        gapsShown baseline other.fields = [] := by
  rw [ownIssues, gapsShown_eq_nil_iff, List.forall_mem_append, no_error_in_sharedIssues_iff distinct]
  have lacked : (∀ issue ∈ lackedByOther baseline other, issue.severity ≠ .error) ↔
      ∀ name ∈ baseline.fieldNames, name ∈ other.fieldNames := by
    rw [← lackedByOther_eq_nil_iff, List.eq_nil_iff_forall_not_mem]
    exact forall₂_congr fun issue member => by simp [severity_of_mem_lackedByOther member]
  rw [lacked]
  constructor
  · intro agree
    exact ⟨⟨fun name => (agree.names name).1, agree.types⟩, fun name => (agree.names name).2⟩
  · rintro ⟨⟨forth, types⟩, back⟩
    exact ⟨fun name => ⟨forth name, back name⟩, types⟩

end Concord.Shape
