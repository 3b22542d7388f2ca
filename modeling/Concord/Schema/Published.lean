/-
The schemas of this program's own data files: the settings file, the verification report and the result
of checking a vocabulary. The keywords stand in the order that decides between violations of equal
weight.
-/

import Concord.Schema

namespace Concord.Schema

/-! ### Building blocks -/

/-- A text. -/
def anyText : Schema := [.types [.string]]

/-- A text that is not empty. -/
def someText : Schema := [.types [.string], .leastLength 1]

/-- A text or null. -/
def optionalText : Schema := [.types [.string, .null]]

/-- A truth value. -/
def truthValue : Schema := [.types [.boolean]]

/-- A list whose items meet a schema. -/
def listOf (item : Schema) : Schema := [.types [.array], .items item]

/-- An integer that is not negative. -/
def count : Schema := [.types [.integer], .minimum 0]

/-- A text that is fixed. -/
def fixedText (text : String) : Schema := [.constant (.text text)]

/-- One of several texts. -/
def oneOfTexts (texts : List String) : Schema := [.oneOf (texts.map .text)]

/-- An object with exactly the listed properties. -/
def closedObject (properties : List (String × Schema)) : Schema :=
  [.types [.object], .noOthers, .required (properties.map (·.1)), .properties properties]

/-! ### Settings -/

/-- A list of names. -/
def nameList : Schema := listOf someText

/-- A share between nothing and the whole. -/
def share : Schema := [.types [.number], .minimum 0, .maximum 1]

/-- Two names. -/
def namePair : Schema := [.types [.array], .items someText, .leastItems 2, .mostItems 2]

/-- The settings file. Every property may be left out. -/
def settings : Schema :=
  [.types [.object], .noOthers,
    .properties [
      ("fence_languages", nameList),
      ("external_modules", nameList),
      ("scoped_modules_are_external", truthValue),
      ("shared_markers", nameList),
      ("type_equivalences", listOf namePair),
      ("naming_threshold", share),
      ("naming_pairs", listOf (closedObject [("left", someText), ("right", someText)])),
      ("strippable_suffixes", nameList),
      ("reference_suffix", someText),
      ("service_suffixes", nameList),
      ("markdown_suffixes", nameList)]]

/-! ### Verification reports -/

/-- How many issues there are. -/
def reportSummary : Schema :=
  closedObject [
    ("errors", count),
    ("warnings", count),
    ("total", count),
    ("by_category", [.types [.object], .others count])]

/-- How much was read. -/
def reportStatistics : Schema :=
  closedObject [
    ("documents", count),
    ("contracts", count),
    ("declarations", count),
    ("imports", count),
    ("service_methods", count),
    ("api_routes", count)]

/-- One contract and those it depends on. -/
def dependencyNode : Schema :=
  closedObject [("name", anyText), ("dependencies", listOf anyText)]

/-- A path that comes back to its start. -/
def dependencyCycle : Schema := [.types [.array], .items anyText, .leastItems 2]

/-- One issue. -/
def reportedIssue : Schema :=
  closedObject [
    ("severity", oneOfTexts ["error", "warning"]),
    ("category", oneOfTexts ["unresolved-import", "naming-similarity", "type-shape-mismatch",
      "circular-dependency"]),
    ("message", someText),
    ("document", anyText),
    ("line", [.types [.integer, .null], .minimum 1]),
    ("suggestion", optionalText)]

/-- The verification report. -/
def report : Schema :=
  closedObject [
    ("schema_name", fixedText "contractctl.report.v1"),
    ("schema_version", [.constant (.number (.integer 1))]),
    ("tool", fixedText "contractctl"),
    ("kind", fixedText "verification-report"),
    ("run_id", anyText),
    ("timestamp", someText),
    ("status", oneOfTexts ["pass", "fail"]),
    ("passed", truthValue),
    ("shared_vocabulary", someText),
    ("contracts", listOf anyText),
    ("titles", [.types [.object], .others anyText]),
    ("summary", reportSummary),
    ("stats", reportStatistics),
    ("dependency_graph", listOf dependencyNode),
    ("cycles", listOf dependencyCycle),
    ("issues", listOf reportedIssue)]

/-! ### Vocabulary results -/

/-- One expected item. -/
def vocabularyItem : Schema :=
  closedObject [
    ("label", anyText),
    ("expected", [.types [.array], .items anyText, .leastItems 1]),
    ("found", truthValue),
    ("actual", optionalText),
    ("suggestion", optionalText)]

/-- The items of one domain. -/
def vocabularyDomain : Schema :=
  closedObject [("domain", someText), ("items", listOf vocabularyItem)]

/-- The counts of a vocabulary result. -/
def vocabularySummary : Schema :=
  closedObject [
    ("total_expected", count),
    ("total_found", count),
    ("missing", listOf anyText),
    ("coverage", [.types [.number], .minimum 0, .maximum 100])]

/-- The result of checking a vocabulary. -/
def vocabulary : Schema :=
  closedObject [
    ("schema_name", fixedText "contractctl.vocabulary.v1"),
    ("schema_version", [.constant (.number (.integer 1))]),
    ("tool", fixedText "contractctl"),
    ("kind", fixedText "vocabulary-validation"),
    ("run_id", anyText),
    ("status", oneOfTexts ["pass", "fail"]),
    ("passed", truthValue),
    ("primitives", anyText),
    ("domains", listOf vocabularyDomain),
    ("common", listOf vocabularyItem),
    ("summary", vocabularySummary)]

/-! ### By name -/

def settingsName : String := "contractctl.config.v1"
def reportName : String := "contractctl.report.v1"
def vocabularyName : String := "contractctl.vocabulary.v1"

/-- The schemas by name. -/
def published : List (String × Schema) :=
  [(settingsName, settings), (reportName, report), (vocabularyName, vocabulary)]

end Concord.Schema
