/-
Issues: what a verification finds. An issue is an error or a warning, belongs to a category, and names
the document and, where there is one, the line that it is about.
-/

import Concord.Text.Blank

namespace Concord

/-! ### Severity and category -/

inductive Severity where
  | error
  | warning
  deriving DecidableEq, Repr

/-- The name of a severity in reports. -/
def Severity.name : Severity → String
  | .error => "error"
  | .warning => "warning"

/-- The severity of a name. -/
def Severity.ofName? (name : String) : Option Severity :=
  [Severity.error, .warning].find? (·.name == name)

theorem Severity.ofName?_name (severity : Severity) : ofName? severity.name = some severity := by
  cases severity <;> rfl

inductive IssueCategory where
  | unresolvedImport
  | namingSimilarity
  | typeShapeMismatch
  | circularDependency
  deriving DecidableEq, Repr

/-- The name of a category in reports. -/
def IssueCategory.name : IssueCategory → String
  | .unresolvedImport => "unresolved-import"
  | .namingSimilarity => "naming-similarity"
  | .typeShapeMismatch => "type-shape-mismatch"
  | .circularDependency => "circular-dependency"

/-- Every category, in the order of their names. -/
def IssueCategory.all : List IssueCategory :=
  [.circularDependency, .namingSimilarity, .typeShapeMismatch, .unresolvedImport]

/-- The category of a name. -/
def IssueCategory.ofName? (name : String) : Option IssueCategory :=
  all.find? (·.name == name)

theorem IssueCategory.ofName?_name (category : IssueCategory) :
    ofName? category.name = some category := by
  cases category <;> rfl

/-! ### Issues -/

structure Issue where
  severity : Severity
  category : IssueCategory
  message : String
  document : String
  line : Option Nat := none
  suggestion : Option String := none
  deriving DecidableEq, Repr

namespace Issue

/-- A message without the blanks at its ends. -/
def trimmed (message : String) : String :=
  String.ofList (Text.strip message.toList)

/-- An error, its message trimmed. -/
def error (category : IssueCategory) (message document : String) (line : Option Nat)
    (suggestion : String) : Issue :=
  ⟨.error, category, trimmed message, document, line, some suggestion⟩

/-- A warning, its message trimmed. -/
def warning (category : IssueCategory) (message document : String) (line : Option Nat)
    (suggestion : String) : Issue :=
  ⟨.warning, category, trimmed message, document, line, some suggestion⟩

end Issue

end Concord
