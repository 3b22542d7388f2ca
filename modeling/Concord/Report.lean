/-
The verification report as data. A draft holds what a report says, entry by entry, in values of the data
format; the payload adds the verdict and the counts, and is given out only if it meets the schema of
reports. A draft made from a verification is one case; drafts may also be put together from elsewhere,
and the schema then decides whether their entries make sense.
-/

import Concord.Instant
import Concord.Schema.Published
import Concord.Verification

namespace Concord

/-! ### Drafts -/

/-- An issue in a report. Document, line and suggestion are as they were given. -/
structure ReportedIssue where
  severity : Severity
  category : IssueCategory
  message : String
  document : Value
  line : Value
  suggestion : Value

/-- The issue of a verification in a report. -/
def Issue.reported (issue : Issue) : ReportedIssue :=
  { severity := issue.severity
    category := issue.category
    message := issue.message
    document := .text issue.document
    line := match issue.line with
      | some line => .natural line
      | none => .null
    suggestion := .optionalText issue.suggestion }

/-- The entries of an issue. -/
def ReportedIssue.value (issue : ReportedIssue) : Value :=
  .record [
    ("severity", .text issue.severity.name),
    ("category", .text issue.category.name),
    ("message", .text issue.message),
    ("document", issue.document),
    ("line", issue.line),
    ("suggestion", issue.suggestion)]

/-- The counts of a report. -/
structure Tally where
  documents : Value := .natural 0
  contracts : Value := .natural 0
  declarations : Value := .natural 0
  imports : Value := .natural 0
  serviceMethods : Value := .natural 0
  routes : Value := .natural 0

/-- The counts of a verification. -/
def Statistics.tally (statistics : Statistics) : Tally :=
  { documents := .natural statistics.documents
    contracts := .natural statistics.contracts
    declarations := .natural statistics.declarations
    imports := .natural statistics.imports
    serviceMethods := .natural statistics.serviceMethods
    routes := .natural statistics.routes }

/-- The entries of the counts. -/
def Tally.value (tally : Tally) : Value :=
  .record [
    ("documents", tally.documents),
    ("contracts", tally.contracts),
    ("declarations", tally.declarations),
    ("imports", tally.imports),
    ("service_methods", tally.serviceMethods),
    ("api_routes", tally.routes)]

/-- What a report says. -/
structure Draft where
  sharedVocabulary : Value
  contracts : List Scalar
  issues : List ReportedIssue
  tally : Tally
  graph : DependencyGraph
  cycles : List (List String)
  titles : List (Scalar × Value)

/-- The draft of a verification. -/
def Verification.draft (verification : Verification) : Draft :=
  { sharedVocabulary := .text verification.sharedVocabulary
    contracts := verification.contracts.map .text
    issues := verification.issues.map (·.reported)
    tally := verification.statistics.tally
    graph := verification.graph
    cycles := verification.cycles
    titles := verification.titles.map fun (name, title) => (.text name, .text title) }

namespace Draft

/-! ### The payload -/

/-- How many issues have a severity. -/
def countOf (draft : Draft) (severity : Severity) : Nat :=
  (draft.issues.filter (·.severity == severity)).length

/-- No issue is an error. -/
def passed (draft : Draft) : Bool :=
  draft.countOf .error == 0

/-- How many issues each category has, for those that have any, in the order of their names. -/
def byCategory (draft : Draft) : List (String × Value) :=
  (IssueCategory.all.map fun category =>
    (category.name, (draft.issues.filter (·.category == category)).length)).filterMap
      fun (name, count) => if count = 0 then none else some (name, .natural count)

/-- The numbers of issues. -/
def summary (draft : Draft) : Value :=
  .record [
    ("errors", .natural (draft.countOf .error)),
    ("warnings", .natural (draft.countOf .warning)),
    ("total", .natural draft.issues.length),
    ("by_category", .record draft.byCategory)]

/-- The title of each contract, empty where none is known. -/
def contractTitles (draft : Draft) : List (Scalar × Value) :=
  Value.ofEntries (draft.contracts.map fun name =>
    (name, ((draft.titles.find? fun entry => entry.1.sameKey name).map (·.2)).getD (.text "")))

/-- The report as data. -/
def payload (draft : Draft) (runId : String) (now : Instant) : Value :=
  .record [
    ("schema_name", .text Schema.reportName),
    ("schema_version", .natural 1),
    ("tool", .text "contractctl"),
    ("kind", .text "verification-report"),
    ("run_id", .text runId),
    ("timestamp", .text now.reportText),
    ("status", .text (statusName draft.passed)),
    ("passed", .boolean draft.passed),
    ("shared_vocabulary", draft.sharedVocabulary),
    ("contracts", .list (draft.contracts.map .scalar)),
    ("titles", .mapping draft.contractTitles),
    ("summary", draft.summary),
    ("stats", draft.tally.value),
    ("dependency_graph", .list (draft.graph.entries.map fun (name, targets) =>
      .record [("name", .text name), ("dependencies", .texts targets)])),
    ("cycles", .list (draft.cycles.map .texts)),
    ("issues", .list (draft.issues.map (·.value)))]

/-- The report as data, if it meets the schema of reports. -/
def checkedPayload (draft : Draft) (runId : String) (now : Instant) :
    Except Schema.Violation Value := do
  let payload := draft.payload runId now
  Schema.report.check payload
  return payload

end Draft

end Concord
