/-
What a comparison of two records finds, whichever of them is the baseline. Fields that one of them lacks
are found by two loops, by one in the fields of the baseline and by the other in those of the other
record, where a gap is noted down as well. When neither record has two fields of one name, the notes leave
nothing out, and what is found from one direction is found from the other: each missing field with the same
issue, which blames the record that lacks it, and a difference of type or of optionality for the same
fields.
-/

import Concord.Proofs.Shape.Agreement
import Concord.Proofs.TypeName.Agreement
import Mathlib.Data.List.Perm.Lattice

namespace Concord.Shape

/-! ### Two records of one name -/

/-- Two records of one name, neither of which has two fields of one name. -/
structure AreNamesakes (first second : Declaration) : Prop where
  isRecord : first.kind = .record
  otherIsRecord : second.kind = .record
  sameName : first.name = second.name
  distinct : first.fieldNames.Nodup
  otherDistinct : second.fieldNames.Nodup

theorem AreNamesakes.symm {first second : Declaration} (namesakes : AreNamesakes first second) :
    AreNamesakes second first :=
  ⟨namesakes.otherIsRecord, namesakes.isRecord, namesakes.sameName.symm, namesakes.otherDistinct,
    namesakes.distinct⟩

/-- The fields that two records share, each with its counterpart, in the order of the second record. -/
def sharedFields (first second : Declaration) : List (Field × Field) :=
  second.fields.filterMap fun field => (first.field? field.name).map fun base => (base, field)

/-- The shared fields whose types do not agree. -/
def mistyped (equivalences : List (String × String)) (first second : Declaration) :
    List (Field × Field) :=
  (sharedFields first second).filter fun pair =>
    !TypeName.compatible equivalences pair.1.typeExpression pair.2.typeExpression

/-- The shared fields of which only one may be left out. -/
def unlike (first second : Declaration) : List (Field × Field) :=
  (sharedFields first second).filter fun pair => pair.1.isOptional != pair.2.isOptional

/-- The issues of the fields that one of two records lacks. -/
def missingBetween (first second : Declaration) : List Issue :=
  lackedByOther first second ++ lackedByOther second first

section

variable {first second : Declaration}

theorem mem_sharedFields (namesakes : AreNamesakes first second) {pair : Field × Field} :
    pair ∈ sharedFields first second ↔
      pair.1 ∈ first.fields ∧ pair.2 ∈ second.fields ∧ pair.1.name = pair.2.name := by
  simp only [sharedFields, List.mem_filterMap, Option.map_eq_some_iff,
    field?_eq_some_iff namesakes.distinct]
  constructor
  · rintro ⟨field, member, base, ⟨baseMember, same⟩, rfl⟩
    exact ⟨baseMember, member, same⟩
  · rintro ⟨baseMember, member, same⟩
    exact ⟨pair.2, member, pair.1, ⟨baseMember, same⟩, rfl⟩

theorem nodup_sharedFields (namesakes : AreNamesakes first second) :
    (sharedFields first second).Nodup := by
  refine List.Nodup.filterMap ?_ (List.Nodup.of_map _ namesakes.otherDistinct)
  intro field other pair found otherFound
  obtain ⟨base, -, rfl⟩ := Option.map_eq_some_iff.1 found
  obtain ⟨otherBase, -, same⟩ := Option.map_eq_some_iff.1 otherFound
  exact (Prod.mk.inj same).2.symm

/-- From the other side the records share the same fields. -/
theorem perm_sharedFields (namesakes : AreNamesakes first second) :
    (sharedFields second first).Perm ((sharedFields first second).map Prod.swap) := by
  refine (List.perm_ext_iff_of_nodup (nodup_sharedFields namesakes.symm)
    ((nodup_sharedFields namesakes).map Prod.swap_injective)).2 fun pair => ?_
  rw [mem_sharedFields namesakes.symm, List.mem_map]
  constructor
  · rintro ⟨member, otherMember, same⟩
    exact ⟨pair.swap, (mem_sharedFields namesakes).2 ⟨otherMember, member, same.symm⟩,
      Prod.swap_swap pair⟩
  · rintro ⟨other, shared, rfl⟩
    obtain ⟨member, otherMember, same⟩ := (mem_sharedFields namesakes).1 shared
    exact ⟨otherMember, member, same.symm⟩

/-- So a test that does not tell the sides apart chooses the same fields. -/
theorem perm_filter_sharedFields (namesakes : AreNamesakes first second)
    {keeps : Field × Field → Bool} (mirrored : ∀ pair, keeps pair.swap = keeps pair) :
    ((sharedFields second first).filter keeps).Perm
      (((sharedFields first second).filter keeps).map Prod.swap) := by
  have swapped := (perm_sharedFields namesakes).filter keeps
  rwa [List.filter_map, show keeps ∘ Prod.swap = keeps from funext mirrored] at swapped

theorem perm_mistyped (equivalences : List (String × String))
    (namesakes : AreNamesakes first second) :
    (mistyped equivalences second first).Perm ((mistyped equivalences first second).map Prod.swap) :=
  perm_filter_sharedFields namesakes fun _ => congrArg not (TypeName.compatible_comm equivalences _ _)

theorem perm_unlike (namesakes : AreNamesakes first second) :
    (unlike second first).Perm ((unlike first second).map Prod.swap) :=
  perm_filter_sharedFields namesakes fun _ => bne_comm

/-! ### What a comparison finds -/

theorem flatMap_if {Value Made : Type} (keeps : Value → Bool) (make : Value → Made)
    (values : List Value) :
    (values.flatMap fun value => if keeps value then [make value] else []) =
      (values.filter keeps).map make := by
  induction values with
  | nil => rfl
  | cons value values inductionHypothesis =>
    rw [List.flatMap_cons, inductionHypothesis, List.filter_cons]
    split <;> rfl

/-- From gaps that the fields do not show, every field that the baseline lacks is reported, if there are
no two fields of one name. -/
theorem otherFieldIssues_of_nodup (equivalences : List (String × String))
    (baseline other : Declaration) {known : List Gap} {fields : List Field}
    (distinct : (fields.map (·.name)).Nodup)
    (fresh : ∀ field ∈ fields, (⟨baseline.document, baseline.name, field.name⟩ : Gap) ∉ known) :
    (otherFieldIssues equivalences baseline other known fields).1 =
      fields.flatMap fun field =>
        (if (baseline.field? field.name).isNone then
            [missingIssue field baseline other baseline.name] else []) ++
          match baseline.field? field.name with
          | some base => sharedFieldIssues equivalences baseline other base field
          | none => [] := by
  induction fields generalizing known with
  | nil => rfl
  | cons field fields inductionHypothesis =>
    rw [List.map_cons, List.nodup_cons] at distinct
    rw [List.forall_mem_cons] at fresh
    rw [otherFieldIssues, List.flatMap_cons]
    cases baseline.field? field.name with
    | some base => simp [inductionHypothesis distinct.2 fresh.2]
    | none =>
      have still : ∀ later ∈ fields, (⟨baseline.document, baseline.name, later.name⟩ : Gap) ∉
          (⟨baseline.document, baseline.name, field.name⟩ : Gap) :: known := by
        intro later member
        rw [List.mem_cons, not_or]
        refine ⟨fun same => ?_, fresh.2 later member⟩
        exact distinct.1 ((Gap.mk.inj same).2.2 ▸ List.mem_map_of_mem member)
      simp [fresh.1, inductionHypothesis distinct.2 still]

theorem sharedIssues_eq (equivalences : List (String × String)) :
    sharedIssues equivalences first second second.fields =
      (sharedFields first second).flatMap fun pair =>
        sharedFieldIssues equivalences first second pair.1 pair.2 := by
  rw [sharedIssues, sharedFields, List.filterMap_eq_flatMap_toList, List.flatMap_assoc]
  refine List.flatMap_congr fun field _ => ?_
  cases first.field? field.name <;> simp

theorem perm_sharedIssues (equivalences : List (String × String)) :
    (sharedIssues equivalences first second second.fields).Perm
      ((mistyped equivalences first second).map (fun pair =>
          typeIssue first.name first second pair.1 pair.2) ++
        (unlike first second).map fun pair =>
          optionalityIssue first.name first second pair.1 pair.2) := by
  rw [sharedIssues_eq, mistyped, unlike, ← flatMap_if, ← flatMap_if]
  refine .trans (.of_eq (List.flatMap_congr fun pair _ => ?_)) (List.flatMap_append_perm ..).symm
  rw [sharedFieldIssues]
  congr 1
  · cases TypeName.compatible equivalences pair.1.typeExpression pair.2.typeExpression <;> rfl
  · cases pair.1.isOptional <;> cases pair.2.isOptional <;> rfl

/-- A comparison from no known gap finds the fields that one of the records lacks, the shared fields whose
types do not agree, and those of which only one may be left out. -/
theorem perm_compare (equivalences : List (String × String)) (namesakes : AreNamesakes first second) :
    (compare equivalences first second []).1.Perm
      (missingBetween first second ++
        ((mistyped equivalences first second).map (fun pair =>
            typeIssue first.name first second pair.1 pair.2) ++
          (unlike first second).map fun pair =>
            optionalityIssue first.name first second pair.1 pair.2)) := by
  have lacking : (second.fields.flatMap fun field =>
      if (first.field? field.name).isNone then
        [missingIssue field first second first.name] else []) = lackedByOther second first := by
    rw [lackedByOther, namesakes.sameName]
    exact flatMap_if (fun field : Field => (first.field? field.name).isNone) _ _
  have fresh : ∀ field ∈ second.fields,
      (⟨first.document, first.name, field.name⟩ : Gap) ∉ ([] : List Gap) :=
    fun _ _ => List.not_mem_nil
  have found := otherFieldIssues_of_nodup equivalences first second namesakes.otherDistinct fresh
  rw [compare, if_pos ⟨namesakes.isRecord, namesakes.otherIsRecord⟩, missingBetween,
    List.append_assoc]
  refine List.Perm.append_left _ ?_
  rw [found]
  refine (List.flatMap_append_perm ..).symm.trans ?_
  rw [lacking]
  exact (perm_sharedIssues equivalences).append_left _

theorem mem_lackedByOther {issue : Issue} :
    issue ∈ lackedByOther first second ↔
      ∃ field ∈ first.fields, second.field? field.name = none ∧
        issue = missingIssue field second first first.name := by
  simp only [lackedByOther, List.mem_map, List.mem_filter, Option.isNone_iff_eq_none, and_assoc]
  exact exists_congr fun field => and_congr_right fun _ => and_congr_right fun _ => eq_comm

theorem mem_missingBetween (namesakes : AreNamesakes first second) {issue : Issue} :
    issue ∈ missingBetween first second ↔
      ∃ lacking having, (lacking = second ∧ having = first ∨ lacking = first ∧ having = second) ∧
        ∃ field ∈ having.fields, lacking.field? field.name = none ∧
          issue = missingIssue field lacking having first.name := by
  rw [missingBetween, List.mem_append, mem_lackedByOther, mem_lackedByOther, namesakes.sameName]
  constructor
  · rintro (found | found)
    · exact ⟨second, first, .inl ⟨rfl, rfl⟩, found⟩
    · exact ⟨first, second, .inr ⟨rfl, rfl⟩, found⟩
  · rintro ⟨lacking, having, ⟨rfl, rfl⟩ | ⟨rfl, rfl⟩, found⟩
    · exact .inl found
    · exact .inr found

/-- Nothing is found exactly when the records have the same fields, and shared fields agree in type and in
optionality. -/
theorem compare_eq_nil_iff (equivalences : List (String × String))
    (namesakes : AreNamesakes first second) :
    (compare equivalences first second []).1 = [] ↔
      (∀ name, name ∈ first.fieldNames ↔ name ∈ second.fieldNames) ∧
        ∀ base ∈ first.fields, ∀ field ∈ second.fields, base.name = field.name →
          TypeName.compatible equivalences base.typeExpression field.typeExpression = true ∧
            base.isOptional = field.isOptional := by
  have found := perm_compare equivalences namesakes
  have nothing : (compare equivalences first second []).1 = [] ↔
      (lackedByOther first second = [] ∧ lackedByOther second first = []) ∧
        mistyped equivalences first second = [] ∧ unlike first second = [] := by
    rw [← List.length_eq_zero_iff, found.length_eq, List.length_eq_zero_iff, missingBetween]
    simp only [List.append_eq_nil_iff, List.map_eq_nil_iff]
  have names : (lackedByOther first second = [] ∧ lackedByOther second first = []) ↔
      ∀ name, name ∈ first.fieldNames ↔ name ∈ second.fieldNames := by
    rw [lackedByOther_eq_nil_iff, lackedByOther_eq_nil_iff, ← forall_and]
    exact forall_congr' fun name => iff_iff_implies_and_implies.symm
  have shared : (mistyped equivalences first second = [] ∧ unlike first second = []) ↔
      ∀ pair ∈ sharedFields first second,
        TypeName.compatible equivalences pair.1.typeExpression pair.2.typeExpression = true ∧
          pair.1.isOptional = pair.2.isOptional := by
    rw [mistyped, unlike, List.filter_eq_nil_iff, List.filter_eq_nil_iff, ← forall₂_and]
    refine forall₂_congr fun pair _ => ?_
    simp
  rw [nothing, names, shared]
  refine and_congr_right fun _ => ?_
  simp only [mem_sharedFields namesakes, Prod.forall]
  constructor
  · exact fun agree base baseMember field member same => agree base field ⟨baseMember, member, same⟩
  · rintro agree base field ⟨baseMember, member, same⟩
    exact agree base baseMember field member same

/-- Whichever of two records is the baseline, the same fields are found missing, with issues that blame
the record that lacks them, and the same shared fields are found to differ in type or in optionality; and
nothing is found exactly when the records have the same fields, of one type and one optionality. -/
theorem compare_either_way (equivalences : List (String × String))
    (namesakes : AreNamesakes first second) :
    (compare equivalences first second []).1.Perm
        (missingBetween first second ++
          ((mistyped equivalences first second).map (fun pair =>
              typeIssue first.name first second pair.1 pair.2) ++
            (unlike first second).map fun pair =>
              optionalityIssue first.name first second pair.1 pair.2)) ∧
      (compare equivalences second first []).1.Perm
        (missingBetween first second ++
          ((mistyped equivalences first second).map (fun pair =>
              typeIssue first.name second first pair.2 pair.1) ++
            (unlike first second).map fun pair =>
              optionalityIssue first.name second first pair.2 pair.1)) ∧
      (∀ issue, issue ∈ missingBetween first second ↔
        ∃ lacking having, (lacking = second ∧ having = first ∨ lacking = first ∧ having = second) ∧
          ∃ field ∈ having.fields, lacking.field? field.name = none ∧
            issue = missingIssue field lacking having first.name) ∧
      ((compare equivalences first second []).1 = [] ↔
        (∀ name, name ∈ first.fieldNames ↔ name ∈ second.fieldNames) ∧
          ∀ base ∈ first.fields, ∀ field ∈ second.fields, base.name = field.name →
            TypeName.compatible equivalences base.typeExpression field.typeExpression = true ∧
              base.isOptional = field.isOptional) := by
  refine ⟨perm_compare equivalences namesakes, ?_, fun issue => mem_missingBetween namesakes,
    compare_eq_nil_iff equivalences namesakes⟩
  refine (perm_compare equivalences namesakes.symm).trans ?_
  rw [← namesakes.sameName]
  refine List.perm_append_comm.append (List.Perm.append ?_ ?_)
  · simpa only [List.map_map, Function.comp_def, Prod.fst_swap, Prod.snd_swap] using
      (perm_mistyped equivalences namesakes).map fun pair =>
      typeIssue first.name second first pair.1 pair.2
  · simpa only [List.map_map, Function.comp_def, Prod.fst_swap, Prod.snd_swap] using
      (perm_unlike namesakes).map fun pair =>
      optionalityIssue first.name second first pair.1 pair.2

end

/-! ### Records that differ -/

/-- A record with an optional amount and a note. -/
def orderRecord : Declaration where
  name := "Order"
  kind := .record
  location := ⟨"orders.ts", 3⟩
  fields := [⟨"id", "string", false⟩, ⟨"total", "number", true⟩, ⟨"note", "string", false⟩]

/-- A record of the same name with a date, in which the amount is text and always there. -/
def billedRecord : Declaration where
  name := "Order"
  kind := .record
  location := ⟨"bills.ts", 1⟩
  fields := [⟨"due", "Date", false⟩, ⟨"total", "string", false⟩, ⟨"id", "UUID", false⟩]

theorem compare_either_way_orders :
    AreNamesakes orderRecord billedRecord ∧
      (missingBetween orderRecord billedRecord).map (fun issue => (issue.document, issue.line)) =
        [("bills.ts", some 1), ("orders.ts", some 3)] ∧
      (mistyped [("UUID", "string")] orderRecord billedRecord).map (·.1.name) = ["total"] ∧
      (unlike orderRecord billedRecord).map (·.1.name) = ["total"] ∧
      (compare [("UUID", "string")] billedRecord orderRecord []).1.Perm
        (missingBetween orderRecord billedRecord ++
          ((mistyped [("UUID", "string")] orderRecord billedRecord).map (fun pair =>
              typeIssue "Order" billedRecord orderRecord pair.2 pair.1) ++
            (unlike orderRecord billedRecord).map fun pair =>
              optionalityIssue "Order" billedRecord orderRecord pair.2 pair.1)) := by
  have namesakes : AreNamesakes orderRecord billedRecord :=
    ⟨rfl, rfl, rfl, by decide, by decide⟩
  exact ⟨namesakes, by decide +kernel, by decide +kernel, by decide +kernel,
    (compare_either_way [("UUID", "string")] namesakes).2.1⟩

end Concord.Shape
