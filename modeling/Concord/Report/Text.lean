/-
The verification report as text for readers. The text is made from the payload, whichever that is; an
entry that it lacks is named by its key, the first that is looked for.
-/

import Concord.Text.Case
import Concord.Value.Display

namespace Concord.Report

/-! ### Access -/

/-- A key that a value does not have. -/
structure MissingKey where
  key : String
  deriving DecidableEq, Repr

/-- The missing key in words. -/
def MissingKey.message (missing : MissingKey) : String :=
  Text.quote missing.key

/-- The entry of a value at a key. -/
def entry (value : Value) (key : String) : Except MissingKey Value :=
  match value.field? key with
  | some found => .ok found
  | none => .error ⟨key⟩

/-- The entry of a value at a key, as text. -/
def shownEntry (value : Value) (key : String) : Except MissingKey String :=
  (entry value key).map (·.shown)

/-- What a value consists of: the items of a list, the keys of a mapping, the characters of a text. -/
def elements : Value → List Value
  | .list items => items
  | .mapping entries => entries.map fun item => .scalar item.1
  | .text text => text.toList.map fun c => .text (String.ofList [c])
  | _ => []

/-! ### Layout -/

def rule : String := String.ofList (List.replicate 80 '=')

def subrule : String := String.ofList (List.replicate 40 '-')

/-- A heading between two rules. -/
def heading (text : String) : List String :=
  [subrule, text, subrule]

/-! ### Parts -/

/-- The title that a name has among titles; null when it has none. -/
def titleAt (titles name : Value) : Value :=
  match titles, name with
  | .mapping entries, .scalar key =>
    ((entries.find? fun item => item.1.sameKey key).map (·.2)).getD .null
  | _, _ => .null

/-- The line of a contract, with its title if it has one. -/
def contractLine (titles name : Value) : String :=
  let title := titleAt titles name
  if title.isTruthy then s!"  - {title.shown} ({name.shown})" else s!"  - {name.shown}"

/-- The counts, with the words for them. -/
def statisticsRows : List (String × String) :=
  [("Documents", "documents"), ("Contracts", "contracts"), ("Declarations", "declarations"),
    ("Imports", "imports"), ("Service methods", "service_methods"), ("API routes", "api_routes")]

/-- The lines of the counts. -/
def statisticsLines (statistics : Value) : Except MissingKey (List String) :=
  statisticsRows.mapM fun (label, key) => do
    let count ← shownEntry statistics key
    return s!"{label}: {count}"

/-- The line of a node of the graph. -/
def nodeLine (node : Value) : Except MissingKey String := do
  let dependencies ← entry node "dependencies"
  let name ← shownEntry node "name"
  if dependencies.isTruthy then
    let listed := ", ".intercalate ((elements dependencies).map (·.shown))
    return s!"{name} -> [{listed}]"
  else return s!"{name} (no dependencies)"

/-- The lines of the counts by category. -/
def categoryLines (summary : Value) : Except MissingKey (List String) := do
  let counts ← entry summary "by_category"
  match counts with
  | .mapping entries =>
    return entries.map fun (category, count) => s!"category {category.shown}: {count.shown}"
  | _ => return []

/-- The entry of an optional key, if it counts as true. -/
def presentEntry? (value : Value) (key : String) : Option Value :=
  (value.field? key).filter (·.isTruthy)

/-- The lines of an issue. -/
def issueLines (issue : Value) : Except MissingKey (List String) := do
  let document ← shownEntry issue "document"
  let place := match presentEntry? issue "line" with
    | some line => s!"{document}:{line.shown}"
    | none => document
  let category ← shownEntry issue "category"
  let message ← shownEntry issue "message"
  let capitals := String.ofList (Text.upper category.toList)
  let suggestion := match presentEntry? issue "suggestion" with
    | some suggestion => [s!"    Suggestion: {suggestion.shown}"]
    | none => []
  return [s!"  [{capitals}] {message}", s!"    Document: {place}"] ++ suggestion ++ [""]

/-- The issues of a severity. -/
def issuesOf (severity : String) (issues : List Value) : Except MissingKey (List Value) :=
  issues.filterM fun issue => do
    let found ← entry issue "severity"
    match found with
    | .text name => return name == severity
    | _ => return false

/-- The lines of issues under a title; nothing when there are none. -/
def sectionLines (title : String) (issues : List Value) : Except MissingKey (List String) := do
  if issues.isEmpty then return []
  else
    let lines ← issues.mapM issueLines
    return ["", title] ++ lines.flatten

/-! ### The text -/

/-- The lines from the title down to the list of contracts. -/
def openingLines (payload : Value) : Except MissingKey (List String) := do
  let timestamp ← shownEntry payload "timestamp"
  let vocabulary ← shownEntry payload "shared_vocabulary"
  let contracts ← entry payload "contracts"
  let titles ← entry payload "titles"
  let count := (elements contracts).length
  return [rule, "CONTRACT VERIFICATION REPORT", rule, "", s!"Timestamp: {timestamp}",
    s!"Shared vocabulary: {vocabulary}", s!"Contracts analyzed: {count}"] ++
    (elements contracts).map (contractLine titles)

/-- The lines of the issues, under their numbers. -/
def issueSection (payload summary : Value) : Except MissingKey (List String) := do
  let errors ← shownEntry summary "errors"
  let warnings ← shownEntry summary "warnings"
  let issues ← entry payload "issues"
  let errorIssues ← issuesOf "error" (elements issues)
  let warningIssues ← issuesOf "warning" (elements issues)
  let errorLines ← sectionLines "ERRORS:" errorIssues
  let warningLines ← sectionLines "WARNINGS:" warningIssues
  let noneFound := if issues.isTruthy then [] else ["No issues found!", ""]
  return heading s!"ISSUES ({errors} errors, {warnings} warnings)" ++ errorLines ++ warningLines ++
    noneFound

/-- The line of the verdict. -/
def verdictLine (payload : Value) : Except MissingKey String := do
  let passed ← entry payload "passed"
  return if passed.isTruthy then "RESULT: PASS" else "RESULT: FAIL"

/-- The report as text. -/
def text (payload : Value) (isVerbose : Bool) : Except MissingKey String := do
  let statistics ← entry payload "stats"
  let summary ← entry payload "summary"
  let opening ← openingLines payload
  let counts ← statisticsLines statistics
  let graph ← entry payload "dependency_graph"
  let nodes ← (elements graph).mapM nodeLine
  let categories ← if isVerbose then categoryLines summary else pure []
  let issues ← issueSection payload summary
  let verdict ← verdictLine payload
  return "\n".intercalate <|
    opening ++ [""] ++ heading "STATISTICS" ++ counts ++ [""] ++ heading "DEPENDENCY GRAPH" ++
      nodes ++ [""] ++ (if isVerbose then categories ++ [""] else []) ++ issues ++ [rule, verdict]

end Concord.Report
