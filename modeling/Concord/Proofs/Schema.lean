/-
Values that meet a schema. Whether a keyword is violated does not depend on how the value was reached,
so a schema is met keyword by keyword, and a schema that is put together from others by the values that
are put together in the same way. Conversely, a value that meets a schema in its place is of the type that the
schema demands, and its parts meet the schemas of the parts.
-/

import Concord.Schema.Published
import Mathlib.Data.List.Basic
import Mathlib.Data.List.Forall2

namespace Concord

/-! ### Entries by name -/

theorem Value.field?_record (entries : List (String × Value)) (name : String) :
    (record entries).field? name = entries.lookup name := by
  induction entries with
  | nil => rfl
  | cons entry entries inductionHypothesis =>
    simp only [record, field?, atName?] at inductionHypothesis ⊢
    rw [List.map_cons, List.find?_cons, List.lookup_cons]
    by_cases same : name = entry.1
    · simp [same]
    · have other : (Scalar.text entry.1 == .text name) = false :=
        beq_false_of_ne fun equal => same (Scalar.text.inj equal).symm
      simpa [other, beq_false_of_ne same] using inductionHypothesis

namespace Schema

variable {schema item : Schema} {value : Value}

/-! ### Meeting a schema -/

/-- Wherever the value stands, no keyword of the schema is violated. -/
def Meets (schema : Schema) (value : Value) : Prop :=
  ∀ path, violationsOf schema.propertyNames schema.types? path value schema = []

theorem Meets.check_eq_ok (meets : schema.Meets value) : schema.check value = .ok () :=
  check_eq_ok_of_violations_nil (meets [])

theorem violationsOf_eq_nil_iff {names : List String} {types : Option (List DataType)}
    {path : List Step} {keywords : List Keyword} :
    violationsOf names types path value keywords = [] ↔
      ∀ keyword ∈ keywords, violationHere names keyword value = [] ∧
        violationsInside names path value keyword = [] := by
  induction keywords with
  | nil => simp [violationsOf]
  | cons keyword keywords inductionHypothesis =>
    rw [violationsOf, List.append_eq_nil_iff, List.append_eq_nil_iff, List.map_eq_nil_iff,
      inductionHypothesis, List.forall_mem_cons]

/-- No keyword of the schema is violated by the value that stands at the path. -/
def MeetsAt (schema : Schema) (path : List Step) (value : Value) : Prop :=
  violationsOf schema.propertyNames schema.types? path value schema = []

theorem meetsAt_iff {path : List Step} : schema.MeetsAt path value ↔
    ∀ keyword ∈ schema, violationHere schema.propertyNames keyword value = [] ∧
      violationsInside schema.propertyNames path value keyword = [] :=
  violationsOf_eq_nil_iff

theorem check_eq_ok_iff : schema.check value = .ok () ↔ schema.MeetsAt [] value := by
  unfold check MeetsAt
  rw [violations]
  cases violationsOf schema.propertyNames schema.types? [] value schema <;> simp [reported?]

/-- A schema is met keyword by keyword. -/
theorem meets_of_keywords
    (here : ∀ keyword ∈ schema, violationHere schema.propertyNames keyword value = [])
    (inside : ∀ keyword ∈ schema, ∀ path,
      violationsInside schema.propertyNames path value keyword = []) :
    schema.Meets value := fun path =>
  violationsOf_eq_nil_iff.2 fun keyword member => ⟨here keyword member, inside keyword member path⟩

/-! ### Keywords that are not violated -/

theorem complaint_eq_nil_iff {violated : Bool} {complaint : Complaint} :
    (if violated then [complaint] else []) = [] ↔ violated = false := by
  cases violated <;> simp

section

variable {names : List String}

theorem violationHere_types {types : List DataType} (holds : types.any (·.holds value) = true) :
    violationHere names (.types types) value = [] :=
  complaint_eq_nil_iff.2 (by rw [holds, Bool.not_true])

theorem violationHere_leastItems {least : Nat} {items : List Value} (long : least ≤ items.length) :
    violationHere names (.leastItems least) (.list items) = [] :=
  complaint_eq_nil_iff.2 (decide_eq_false (Nat.not_lt.2 long))

theorem violationHere_leastLength {least : Nat} {text : String} (long : least ≤ text.length) :
    violationHere names (.leastLength least) (.text text) = [] :=
  complaint_eq_nil_iff.2 (decide_eq_false (Nat.not_lt.2 long))

theorem violationHere_minimum {bound : Int} {number : Number}
    (notLess : number.less (.integer bound) = false) :
    violationHere names (.minimum bound) (.number number) = [] :=
  complaint_eq_nil_iff.2 notLess

theorem violationHere_maximum {bound : Int} {number : Number}
    (notGreater : Number.less (.integer bound) number = false) :
    violationHere names (.maximum bound) (.number number) = [] :=
  complaint_eq_nil_iff.2 notGreater

theorem violationHere_constant {expected : Scalar} (same : equals value expected = true) :
    violationHere names (.constant expected) value = [] :=
  complaint_eq_nil_iff.2 (by rw [same, Bool.not_true])

theorem violationHere_oneOf {listed : List Scalar} (found : listed.any (equals value) = true) :
    violationHere names (.oneOf listed) value = [] :=
  complaint_eq_nil_iff.2 (by rw [found, Bool.not_true])

end

/-! ### Scalars -/

theorem violationsOfProperties_scalar (path : List Step) (scalar : Scalar)
    (properties : List (String × Schema)) :
    violationsOfProperties path (.scalar scalar) properties = [] := by
  induction properties with
  | nil => rfl
  | cons property properties inductionHypothesis => exact inductionHypothesis

/-- Nothing stands inside a scalar. -/
theorem violationsInside_scalar (names : List String) (path : List Step) (scalar : Scalar)
    (keyword : Keyword) : violationsInside names path (.scalar scalar) keyword = [] := by
  cases keyword with
  | properties properties => exact violationsOfProperties_scalar path scalar properties
  | _ => rfl

theorem meets_scalar {scalar : Scalar}
    (here : ∀ keyword ∈ schema, violationHere schema.propertyNames keyword (.scalar scalar) = []) :
    schema.Meets (.scalar scalar) :=
  meets_of_keywords here fun keyword _ path => violationsInside_scalar _ path scalar keyword

theorem meets_anyText (text : String) : anyText.Meets (.text text) :=
  meets_scalar (List.forall_mem_singleton.2 (violationHere_types rfl))

theorem meets_someText {text : String} (isSome : text ≠ "") : someText.Meets (.text text) := by
  have long : 1 ≤ text.length := Nat.pos_of_ne_zero fun none => isSome (String.length_eq_zero_iff.1 none)
  refine meets_scalar (List.forall_mem_cons.2 ⟨violationHere_types rfl, ?_⟩)
  exact List.forall_mem_singleton.2 (violationHere_leastLength long)

theorem meets_optionalText (text : Option String) : optionalText.Meets (.optionalText text) := by
  cases text <;> exact meets_scalar (List.forall_mem_singleton.2 (violationHere_types rfl))

theorem meets_truthValue (value : Bool) : truthValue.Meets (.boolean value) :=
  meets_scalar (List.forall_mem_singleton.2 (violationHere_types rfl))

theorem less_natural (number bound : Nat) :
    (Number.integer number).less (.integer bound) = decide (number < bound) := by
  simp [Number.less, Number.extended, Extended.less]

theorem meets_count (number : Nat) : count.Meets (.natural number) := by
  refine meets_scalar (List.forall_mem_cons.2 ⟨violationHere_types rfl, ?_⟩)
  exact List.forall_mem_singleton.2 (violationHere_minimum (less_natural number 0))

theorem meets_fixedText (text : String) : (fixedText text).Meets (.text text) :=
  meets_scalar (List.forall_mem_singleton.2 (violationHere_constant (beq_self_eq_true _)))

theorem meets_oneOfTexts {texts : List String} {text : String} (listed : text ∈ texts) :
    (oneOfTexts texts).Meets (.text text) := by
  refine meets_scalar (List.forall_mem_singleton.2 (violationHere_oneOf ?_))
  exact List.any_eq_true.2 ⟨.text text, List.mem_map_of_mem listed, beq_self_eq_true _⟩

/-- The version of every report. -/
theorem meets_versionOne : Meets [.constant (.number (.integer 1))] (.natural 1) :=
  meets_scalar (List.forall_mem_singleton.2 (violationHere_constant (by decide)))

/-! ### Lists -/

theorem values_numbered (start : Nat) (items : List Value) :
    (numbered start items).map (·.2) = items := by
  induction items generalizing start with
  | nil => rfl
  | cons first items inductionHypothesis =>
    exact congrArg (first :: ·) (inductionHypothesis (start + 1))

theorem violationsInside_items {names : List String} {items : List Value}
    (meets : ∀ member ∈ items, item.Meets member) (path : List Step) :
    violationsInside names path (.list items) (.items item) = [] := by
  rw [violationsInside, List.flatMap_eq_nil_iff]
  intro entry listed
  have found : entry.2 ∈ items := values_numbered 0 items ▸ List.mem_map_of_mem listed
  exact meets entry.2 found _

theorem meets_listOf {items : List Value} (meets : ∀ member ∈ items, item.Meets member) :
    (listOf item).Meets (.list items) := by
  refine meets_of_keywords (fun keyword member => ?_) fun keyword member path => ?_
  · rcases List.mem_pair.1 member with rfl | rfl
    · exact violationHere_types rfl
    · rfl
  · rcases List.mem_pair.1 member with rfl | rfl
    · rfl
    · exact violationsInside_items meets path

theorem meets_listWithLeast {items : List Value} {least : Nat} (long : least ≤ items.length)
    (meets : ∀ member ∈ items, item.Meets member) :
    Meets [.types [.array], .items item, .leastItems least] (.list items) := by
  refine meets_of_keywords (fun keyword member => ?_) fun keyword member path => ?_
  · simp only [List.mem_cons, List.not_mem_nil, or_false] at member
    rcases member with rfl | rfl | rfl
    · exact violationHere_types rfl
    · rfl
    · exact violationHere_leastItems long
  · simp only [List.mem_cons, List.not_mem_nil, or_false] at member
    rcases member with rfl | rfl | rfl
    · rfl
    · exact violationsInside_items meets path
    · rfl

theorem meets_texts (items : List String) : (listOf anyText).Meets (.texts items) :=
  meets_listOf (List.forall_mem_map.2 fun text _ => meets_anyText text)

/-! ### Objects -/

/-- Every entry meets the schema of the others: nothing is listed. -/
theorem meets_othersOnly {entries : List (Scalar × Value)}
    (meets : ∀ entry ∈ entries, item.Meets entry.2) :
    Meets [.types [.object], .others item] (.mapping entries) := by
  refine meets_of_keywords (fun keyword member => ?_) fun keyword member path => ?_
  · rcases List.mem_pair.1 member with rfl | rfl
    · exact violationHere_types rfl
    · rfl
  · rcases List.mem_pair.1 member with rfl | rfl
    · rfl
    · rw [violationsInside, List.flatMap_eq_nil_iff]
      exact fun entry listed => meets entry listed _

/-- The entry is that of the property, and its value meets the schema of the property. -/
def Fits (property : String × Schema) (entry : String × Value) : Prop :=
  property.1 = entry.1 ∧ property.2.Meets entry.2

variable {properties : List (String × Schema)} {entries : List (String × Value)}

theorem names_eq_of_fits (fits : List.Forall₂ Fits properties entries) :
    properties.map (·.1) = entries.map (·.1) := by
  induction fits with
  | nil => rfl
  | cons here _ inductionHypothesis => rw [List.map_cons, List.map_cons, here.1, inductionHypothesis]

/-- What the entries of a closed object say at the name of a property meets its schema. -/
theorem meets_of_lookup (distinct : (properties.map (·.1)).Nodup)
    (fits : List.Forall₂ Fits properties entries) {property : String × Schema}
    (listed : property ∈ properties) (found : entries.lookup property.1 = some value) :
    property.2.Meets value := by
  induction fits with
  | nil => exact absurd listed List.not_mem_nil
  | @cons first entry properties entries here fits inductionHypothesis =>
    rw [List.map_cons, List.nodup_cons] at distinct
    rw [List.lookup_cons] at found
    rcases List.mem_cons.1 listed with rfl | later
    · rw [here.1, beq_self_eq_true] at found
      exact Option.some.inj found ▸ here.2
    · have apart : property.1 ≠ entry.1 := fun same =>
        distinct.1 (here.1.trans same.symm ▸ List.mem_map_of_mem later)
      rw [beq_false_of_ne apart] at found
      exact inductionHypothesis distinct.2 later found

theorem violationsOfProperties_eq_nil_iff {path : List Step} :
    violationsOfProperties path value properties = [] ↔
      ∀ property ∈ properties, ∀ member, value.field? property.1 = some member →
        property.2.MeetsAt (path ++ [.key (.text property.1)]) member := by
  induction properties with
  | nil => simp [violationsOfProperties]
  | cons property properties inductionHypothesis =>
    obtain ⟨name, schema⟩ := property
    rw [violationsOfProperties, List.append_eq_nil_iff, inductionHypothesis, List.forall_mem_cons]
    refine and_congr_left fun _ => ?_
    cases value.field? name <;> simp [MeetsAt]

theorem violationsOfProperties_eq_nil {path : List Step}
    (meets : ∀ property ∈ properties, ∀ member, value.field? property.1 = some member →
      property.2.Meets member) :
    violationsOfProperties path value properties = [] :=
  violationsOfProperties_eq_nil_iff.2 fun property listed member found =>
    meets property listed member found _

theorem violationHere_noOthers_iff {names : List String} {entries : List (Scalar × Value)} :
    violationHere names .noOthers (.mapping entries) = [] ↔
      ∀ key ∈ entries.map (·.1), ∃ name ∈ names, key = .text name := by
  simp only [violationHere]
  rw [complaint_eq_nil_iff, Bool.not_eq_false', List.isEmpty_iff, List.filter_eq_nil_iff]
  simp only [Bool.not_eq_true', Bool.not_eq_false, List.any_eq_true, beq_iff_eq]

theorem violationHere_noOthers (entries : List (String × Value)) :
    violationHere (entries.map (·.1)) .noOthers (.record entries) = [] := by
  refine violationHere_noOthers_iff.2 fun key member => ?_
  rw [List.map_map] at member
  obtain ⟨entry, listed, rfl⟩ := List.mem_map.1 member
  exact ⟨entry.1, List.mem_map_of_mem listed, rfl⟩

theorem violationHere_required (entries : List (String × Value)) :
    violationHere (entries.map (·.1)) (.required (entries.map (·.1))) (.record entries) = [] := by
  have present : ∀ name ∈ entries.map (·.1), ((Value.record entries).field? name).isSome := by
    intro name member
    obtain ⟨entry, listed, rfl⟩ := List.mem_map.1 member
    rw [Value.field?_record, List.lookup_isSome_iff]
    exact ⟨entry, listed, beq_self_eq_true _⟩
  simp only [Value.record, violationHere, List.map_eq_nil_iff, List.filter_eq_nil_iff]
  intro name member absent
  exact Option.isSome_iff_ne_none.1 (present name member) (Option.isNone_iff_eq_none.1 absent)

/-- An object with the entries of its properties, in order, meets the closed schema. -/
theorem meets_closedObject (distinct : (properties.map (·.1)).Nodup)
    (fits : List.Forall₂ Fits properties entries) :
    (closedObject properties).Meets (.record entries) := by
  have same := names_eq_of_fits fits
  have names : (closedObject properties).propertyNames = entries.map (·.1) := by
    simp [closedObject, propertyNames, same]
  refine meets_of_keywords (fun keyword member => ?_) fun keyword member path => ?_
  · rw [names]
    simp only [closedObject, same, List.mem_cons, List.not_mem_nil, or_false] at member
    rcases member with rfl | rfl | rfl | rfl
    · rfl
    · exact violationHere_noOthers entries
    · exact violationHere_required entries
    · rfl
  · simp only [closedObject, List.mem_cons, List.not_mem_nil, or_false] at member
    rcases member with rfl | rfl | rfl | rfl
    · rfl
    · rfl
    · rfl
    · refine violationsOfProperties_eq_nil fun property listed member found => ?_
      rw [Value.field?_record] at found
      exact meets_of_lookup distinct fits listed found

/-! ### Values met in any place -/

mutual

/-- Where a value stands has no part in whether it violates the keywords of a schema. -/
theorem violationsOf_moved {names : List String} {types : Option (List DataType)} {path : List Step}
    (other : List Step) {value : Value} (keywords : List Keyword)
    (none : violationsOf names types path value keywords = []) :
    violationsOf names types other value keywords = [] := by
  match keywords with
  | [] => rfl
  | keyword :: keywords =>
    rw [violationsOf, List.append_eq_nil_iff, List.append_eq_nil_iff, List.map_eq_nil_iff] at none ⊢
    exact ⟨⟨none.1.1, violationsInside_moved other keyword none.1.2⟩,
      violationsOf_moved other keywords none.2⟩

theorem violationsInside_moved {names : List String} {path : List Step} (other : List Step)
    {value : Value} (keyword : Keyword) (none : violationsInside names path value keyword = []) :
    violationsInside names other value keyword = [] := by
  match keyword, value with
  | .properties properties, value => exact violationsOfProperties_moved other properties none
  | .others schema, .mapping members =>
    rw [violationsInside, List.flatMap_eq_nil_iff] at none ⊢
    intro member listed
    have here := none member listed
    dsimp only at here ⊢
    split at here
    · next known => rw [if_pos known]
    · next unknown =>
      rw [if_neg unknown]
      exact violationsOf_moved _ schema here
  | .items schema, .list items =>
    rw [violationsInside, List.flatMap_eq_nil_iff] at none ⊢
    exact fun entry listed => violationsOf_moved _ schema (none entry listed)
  | .others _, .scalar _ | .others _, .list _ | .items _, .scalar _ | .items _, .mapping _ => rfl
  | .types _, _ | .noOthers, _ | .required _, _ | .leastItems _, _ | .mostItems _, _ => rfl
  | .leastLength _, _ | .minimum _, _ | .maximum _, _ | .constant _, _ | .oneOf _, _ => rfl

theorem violationsOfProperties_moved {path : List Step} (other : List Step) {value : Value}
    (properties : List (String × List Keyword))
    (none : violationsOfProperties path value properties = []) :
    violationsOfProperties other value properties = [] := by
  match properties with
  | [] => rfl
  | (name, schema) :: properties =>
    rw [violationsOfProperties, List.append_eq_nil_iff] at none ⊢
    refine ⟨?_, violationsOfProperties_moved other properties none.2⟩
    cases found : value.field? name with
    | none => rfl
    | some member =>
      simp only [found] at none
      exact violationsOf_moved _ schema none.1

end

theorem meetsAt_iff_meets {path : List Step} : schema.MeetsAt path value ↔ schema.Meets value :=
  ⟨fun meets other => violationsOf_moved other schema meets, fun meets => meets path⟩

/-! ### Values met in their place -/

section

variable {path : List Step}

theorem MeetsAt.holds {types : List DataType} (meets : schema.MeetsAt path value)
    (demanded : .types types ∈ schema) : types.any (·.holds value) = true := by
  have here := (meetsAt_iff.1 meets _ demanded).1
  simpa using complaint_eq_nil_iff.1 here

/-- Each item of a list meets the schema of items, in a place of its own. -/
theorem MeetsAt.items {items : List Value} (meets : schema.MeetsAt path (.list items))
    (demanded : .items item ∈ schema) {member : Value} (found : member ∈ items) :
    ∃ place, item.MeetsAt place member := by
  have inside := (meetsAt_iff.1 meets _ demanded).2
  rw [violationsInside, List.flatMap_eq_nil_iff] at inside
  rw [← values_numbered 0 items] at found
  obtain ⟨entry, listed, rfl⟩ := List.mem_map.1 found
  exact ⟨path ++ [Step.index entry.1], inside entry listed⟩

theorem MeetsAt.isList (meets : schema.MeetsAt path value) (demanded : .types [.array] ∈ schema) :
    ∃ items, value = .list items := by
  have isArray := meets.holds demanded
  cases value with
  | list items => exact ⟨items, rfl⟩
  | scalar scalar => cases scalar <;> exact absurd isArray (by simp [DataType.holds])
  | mapping entries => exact absurd isArray (by simp [DataType.holds])

theorem MeetsAt.isMapping (meets : schema.MeetsAt path value) (demanded : .types [.object] ∈ schema) :
    ∃ entries, value = .mapping entries := by
  have isObject := meets.holds demanded
  cases value with
  | mapping entries => exact ⟨entries, rfl⟩
  | scalar scalar => cases scalar <;> exact absurd isObject (by simp [DataType.holds])
  | list items => exact absurd isObject (by simp [DataType.holds])

/-- A closed object has each of its properties, and what it has there meets the schema of the property. -/
theorem MeetsAt.property (meets : (closedObject properties).MeetsAt path value) {property : String × Schema}
    (listed : property ∈ properties) :
    ∃ member place, value.field? property.1 = some member ∧ property.2.MeetsAt place member := by
  obtain ⟨entries, rfl⟩ := meets.isMapping List.mem_cons_self
  have isComplete := (meetsAt_iff.1 meets (.required (properties.map (·.1))) (by simp [closedObject])).1
  have areMet := (meetsAt_iff.1 meets (.properties properties) (by simp [closedObject])).2
  simp only [violationHere, List.map_eq_nil_iff, List.filter_eq_nil_iff] at isComplete
  have present := isComplete property.1 (List.mem_map_of_mem listed)
  obtain ⟨member, found⟩ : ∃ member, Value.atName? entries property.1 = some member :=
    Option.ne_none_iff_exists'.1 fun absent => present (absent ▸ rfl)
  exact ⟨member, _, found, violationsOfProperties_eq_nil_iff.1 areMet property listed member found⟩

/-- An object that may have the listed properties and no others. -/
def openObject (properties : List (String × Schema)) : Schema :=
  [.types [.object], .noOthers, .properties properties]

theorem meetsAt_openObject_iff {entries : List (Scalar × Value)} :
    (openObject properties).MeetsAt path (.mapping entries) ↔
      (∀ key ∈ entries.map (·.1), ∃ name ∈ properties.map (·.1), key = .text name) ∧
        ∀ property ∈ properties, ∀ member, Value.atName? entries property.1 = some member →
          property.2.MeetsAt (path ++ [.key (.text property.1)]) member := by
  have names : (openObject properties).propertyNames = properties.map (·.1) := List.append_nil _
  rw [meetsAt_iff, names, ← violationHere_noOthers_iff]
  constructor
  · intro each
    exact ⟨(each .noOthers (by simp [openObject])).1, violationsOfProperties_eq_nil_iff.1
      (each (.properties properties) (by simp [openObject])).2⟩
  · rintro ⟨noOthers, areMet⟩ keyword member
    simp only [openObject, List.mem_cons, List.not_mem_nil, or_false] at member
    rcases member with rfl | rfl | rfl
    · exact ⟨violationHere_types rfl, rfl⟩
    · exact ⟨noOthers, rfl⟩
    · exact ⟨rfl, violationsOfProperties_eq_nil_iff.2 areMet⟩

end

end Schema

end Concord
