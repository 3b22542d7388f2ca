/-
The coverage of a vocabulary as data, which has to meet its schema, and as text for readers.
-/

import Concord.Coverage.Expected
import Concord.Schema.Published
import Concord.Verification

namespace Concord.Coverage

/-! ### As data -/

/-- The entries of an item. -/
def Item.value (item : Item) : Value :=
  .record [
    ("label", .text item.label),
    ("expected", .texts item.expected),
    ("found", .boolean item.isFound),
    ("actual", .optionalText item.actual),
    ("suggestion", .optionalText item.suggestion)]

/-- The entries of a domain. -/
def DomainItems.value (row : DomainItems) : Value :=
  .record [("domain", .text row.domain), ("items", .list (row.items.map (·.value)))]

/-- The counts. -/
def summary (coverage : Coverage) : Value :=
  .record [
    ("total_expected", .natural coverage.expectedCount),
    ("total_found", .natural coverage.foundCount),
    ("missing", .texts coverage.missing),
    ("coverage", .number (.double (Decimal.rounded 1 coverage.percentage)))]

/-- The coverage as data. -/
def payload (coverage : Coverage) (runId : String) : Value :=
  .record [
    ("schema_name", .text Schema.vocabularyName),
    ("schema_version", .natural 1),
    ("tool", .text "contractctl"),
    ("kind", .text "vocabulary-validation"),
    ("run_id", .text runId),
    ("status", .text (statusName coverage.passed)),
    ("passed", .boolean coverage.passed),
    ("primitives", .text coverage.vocabulary),
    ("domains", .list (coverage.domains.map (·.value))),
    ("common", .list (coverage.common.map (·.value))),
    ("summary", coverage.summary)]

/-- The coverage as data, if it meets its schema. -/
def checkedPayload (coverage : Coverage) (runId : String) : Except Schema.Violation Value := do
  let payload := coverage.payload runId
  Schema.vocabulary.check payload
  return payload

/-! ### As text -/

def rule : String := String.ofList (List.replicate 60 '=')

def subrule : String := String.ofList (List.replicate 60 '-')

/-- A part of the text that may be left out, under its heading. -/
def partIf (isShown : Bool) (heading : String) (lines : List String) : List String :=
  if isShown then ["", heading, subrule] ++ lines else []

/-- The line of an item behind its lead. -/
def itemLine (lead : String) (item : Item) (isVerbose : Bool) : String :=
  let line := lead ++ item.names ++ (if item.isFound then ": [OK]" else ": [MISSING]")
  match item.actual with
  | some actual =>
    if isVerbose && item.isFound && actual != "" then line ++ " (" ++ actual ++ ")" else line
  | none => line

/-- The lines of a domain. -/
def domainLines (row : DomainItems) (isVerbose : Bool) : List String :=
  ("[" ++ row.domain ++ "]") ::
    row.items.map fun item => itemLine ("  " ++ item.label ++ " ") item isVerbose

/-- The suggestion for an item that is not found, unless it is empty. -/
def Item.suggestion? (item : Item) : Option String :=
  if item.isFound then none else item.suggestion.filter (· != "")

/-- The lines of all suggestions. -/
def suggestionLines (coverage : Coverage) : List String :=
  (coverage.domains.flatMap fun row =>
    row.items.flatMap fun item =>
      match item.suggestion? with
      | some suggestion => ["", s!"// {row.domain} {item.label}", suggestion]
      | none => []) ++
  coverage.common.flatMap fun item =>
    match item.suggestion? with
    | some suggestion => ["", suggestion]
    | none => []

/-- The coverage as text. -/
def text (coverage : Coverage) (isVerbose : Bool) : String :=
  let verdict := if coverage.passed then "PASSED" else "FAILED"
  let percentage := Decimal.fixed 1 coverage.percentage
  let isIncomplete := !coverage.missing.isEmpty
  "\n".intercalate <|
    [rule, s!"  VOCABULARY VALIDATION: {verdict}", rule, "",
      s!"Coverage: {percentage}% ({coverage.foundCount}/{coverage.expectedCount})", "",
      "DOMAIN VALIDATION", subrule] ++
    coverage.domains.flatMap (domainLines · isVerbose) ++
    partIf true "COMMON PATTERNS" (coverage.common.map (itemLine "  " · isVerbose)) ++
    partIf isIncomplete "MISSING ITEMS" (coverage.missing.map ("  - " ++ ·)) ++
    partIf (isVerbose && isIncomplete) "SUGGESTED ADDITIONS" coverage.suggestionLines ++
    ["", rule]

end Concord.Coverage
