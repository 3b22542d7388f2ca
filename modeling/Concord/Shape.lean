/-
Whether the records that share a name have one shape. The record of the vocabulary is the baseline of
its name, or else the record of the first document in alphabetical order; every other record is
compared with it field by field. A field that the baseline lacks is reported once, however many records
have it.
-/

import Concord.Issue
import Concord.Settings
import Concord.TypeName

namespace Concord.Shape

/-! ### Comparing two records -/

/-- A field that a document's record of a name lacks. -/
structure Gap where
  document : String
  record : String
  field : String
  deriving DecidableEq, Repr

/-- What a record's field is said to be. -/
def optionality (isOptional : Bool) : String :=
  if isOptional then "optional" else "required"

/-- The issue of a field that a record lacks and another has. -/
def missingIssue (field : Field) (lacking having : Declaration) (name : String) : Issue :=
  .error .typeShapeMismatch
    s!"Type '{name}' is missing property '{field.name}' in {lacking.document}"
    lacking.document (some lacking.line)
    s!"Add property '{field.name}: {field.typeExpression}' to match {having.document}"

/-- The issue of two fields whose types do not agree. -/
def typeIssue (name : String) (baseline other : Declaration) (base field : Field) : Issue :=
  .error .typeShapeMismatch
    s!"Type mismatch for '{name}.{field.name}': '{base.typeExpression}' in {baseline.document} vs '{field.typeExpression}' in {other.document}"
    other.document (some other.line)
    s!"Ensure '{field.name}' has consistent type across all definitions"

/-- The issue of two fields of which only one may be left out. -/
def optionalityIssue (name : String) (baseline other : Declaration) (base field : Field) : Issue :=
  let left := optionality base.isOptional
  let right := optionality field.isOptional
  .warning .typeShapeMismatch
    s!"Optionality mismatch for '{name}.{field.name}': {left} in {baseline.document} vs {right} in {other.document}"
    other.document (some other.line)
    s!"Ensure '{field.name}' has consistent optionality"

/-- The issues of two fields of one name. -/
def sharedFieldIssues (equivalences : List (String × String)) (baseline other : Declaration)
    (base field : Field) : List Issue :=
  (if TypeName.compatible equivalences base.typeExpression field.typeExpression then []
    else [typeIssue baseline.name baseline other base field]) ++
  (if base.isOptional = field.isOptional then []
    else [optionalityIssue baseline.name baseline other base field])

/-- The issues of fields that the other record lacks. -/
def lackedByOther (baseline other : Declaration) : List Issue :=
  (baseline.fields.filter fun field => (other.field? field.name).isNone).map fun field =>
    missingIssue field other baseline baseline.name

/-- The issues of the other record's fields, and the gaps of the baseline known afterwards. -/
def otherFieldIssues (equivalences : List (String × String)) (baseline other : Declaration)
    (gaps : List Gap) : List Field → List Issue × List Gap
  | [] => ([], gaps)
  | field :: fields =>
    match baseline.field? field.name with
    | some base =>
      let (issues, gaps) := otherFieldIssues equivalences baseline other gaps fields
      (sharedFieldIssues equivalences baseline other base field ++ issues, gaps)
    | none =>
      let gap : Gap := ⟨baseline.document, baseline.name, field.name⟩
      if gaps.contains gap then otherFieldIssues equivalences baseline other gaps fields
      else
        let (issues, gaps) := otherFieldIssues equivalences baseline other (gap :: gaps) fields
        (missingIssue field baseline other baseline.name :: issues, gaps)

/-- The differences between two records of one name, and the gaps of the baseline known afterwards.
Only records are compared. -/
def compare (equivalences : List (String × String)) (baseline other : Declaration)
    (gaps : List Gap) : List Issue × List Gap :=
  if baseline.kind = .record ∧ other.kind = .record then
    let (issues, gaps) := otherFieldIssues equivalences baseline other gaps other.fields
    (lackedByOther baseline other ++ issues, gaps)
  else ([], gaps)

/-! ### Records of one name -/

/-- The records of all documents in order. -/
def recordsOf (documents : List Document) : List Declaration :=
  (documents.flatMap (·.declarations)).filter (·.kind == .record)

/-- The first in the order of document and line. -/
def precedes (first second : Declaration) : Bool :=
  first.document < second.document ||
    (first.document == second.document && first.line < second.line)

/-- The index of the first of the least records among `records`, when `best` at `bestIndex` is the
least before `index`. -/
def leastIndexFrom (best : Declaration) (bestIndex index : Nat) : List Declaration → Nat
  | [] => bestIndex
  | record :: records =>
    if precedes record best then leastIndexFrom record index (index + 1) records
    else leastIndexFrom best bestIndex (index + 1) records

/-- The index of the baseline among records of one name: the first of the vocabulary, or else the least
by document and line. -/
def baselineIndex (vocabulary : String) (records : List Declaration) : Nat :=
  match records.findIdx? (·.document == vocabulary) with
  | some index => index
  | none =>
    match records with
    | [] => 0
    | record :: others => leastIndexFrom record 0 1 others

/-- The issues of comparing a baseline with several records, and the gaps known afterwards. -/
def compareAll (equivalences : List (String × String)) (baseline : Declaration) (gaps : List Gap) :
    List Declaration → List Issue × List Gap
  | [] => ([], gaps)
  | other :: others =>
    let (issues, gaps) := compare equivalences baseline other gaps
    let (further, gaps) := compareAll equivalences baseline gaps others
    (issues ++ further, gaps)

/-- The issues of the records of one name, and the gaps known afterwards. -/
def groupIssues (equivalences : List (String × String)) (vocabulary : String) (gaps : List Gap)
    (records : List Declaration) : List Issue × List Gap :=
  let index := baselineIndex vocabulary records
  match records[index]? with
  | some baseline => compareAll equivalences baseline gaps (records.eraseIdx index)
  | none => ([], gaps)

/-- The issues of records, name by name in order of first occurrence. -/
def recordIssuesFrom (equivalences : List (String × String)) (vocabulary : String)
    (records : List Declaration) (gaps : List Gap) : List String → List Issue
  | [] => []
  | name :: names =>
    let (issues, gaps) := groupIssues equivalences vocabulary gaps (records.filter (·.name == name))
    issues ++ recordIssuesFrom equivalences vocabulary records gaps names

/-- The issues of all records. -/
def recordIssues (settings : Settings) (vocabulary : Document) (contracts : List Document) :
    List Issue :=
  let records := recordsOf (vocabulary :: contracts)
  recordIssuesFrom settings.typeEquivalences vocabulary.identifier records []
    (firstOccurrences (records.map (·.name)))

/-! ### Kinds -/

/-- The issue of an imported name that the contract declares as something else. -/
def kindIssue (contract : Document) (name : String) (own shared : Declaration) : Issue :=
  .error .typeShapeMismatch
    s!"Import '{name}' is redefined as {own.kind.name} but primitives defines it as {shared.kind.name}"
    contract.identifier (some own.line)
    "Remove local definition and use the imported type, or rename to avoid conflict"

/-- The issue of an imported name whose kind differs from that of the vocabulary. -/
def kindIssue? (vocabulary contract : Document) (name : String) : Option Issue :=
  match contract.declaration? name, vocabulary.declaration? name with
  | some own, some shared =>
    if own.kind = shared.kind then none else some (kindIssue contract name own shared)
  | _, _ => none

/-- The issues of imported names that are declared again with another kind. -/
def kindIssues (vocabulary contract : Document) : List Issue :=
  contract.importedNames.filterMap (kindIssue? vocabulary contract)

/-- The issues of shapes, then those of kinds. -/
def issues (settings : Settings) (vocabulary : Document) (contracts : List Document) : List Issue :=
  recordIssues settings vocabulary contracts ++ contracts.flatMap (kindIssues vocabulary)

end Concord.Shape
