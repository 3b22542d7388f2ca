/-
A verification of contracts against the shared vocabulary. Four checks run one after another, each
whatever the others find, and their issues are listed in that order. The run passes when no issue is an
error.
-/

import Concord.Dependency
import Concord.Naming
import Concord.Resolution
import Concord.Shape

namespace Concord

/-! ### What the checks find -/

/-- The issues, check by check. -/
structure Findings where
  resolution : List Issue
  cycles : List Issue
  naming : List Issue
  shapes : List Issue
  deriving DecidableEq, Repr

/-- All issues in order. -/
def Findings.all (findings : Findings) : List Issue :=
  findings.resolution ++ findings.cycles ++ findings.naming ++ findings.shapes

/-- How much was read. -/
structure Statistics where
  documents : Nat := 0
  contracts : Nat := 0
  declarations : Nat := 0
  imports : Nat := 0
  serviceMethods : Nat := 0
  routes : Nat := 0
  deriving DecidableEq, Repr

/-- The sum of a count over documents. -/
def Statistics.total (count : Document → Nat) : List Document → Nat
  | [] => 0
  | document :: documents => count document + total count documents

/-- The statistics of a vocabulary and contracts. -/
def Statistics.of (vocabulary : Document) (contracts : List Document) : Statistics :=
  let documents := vocabulary :: contracts
  { documents := documents.length
    contracts := contracts.length
    declarations := total (·.declarations.length) documents
    imports := total (·.imports.length) documents
    serviceMethods := total (·.serviceMethods.length) documents
    routes := total (·.routes.length) documents }

/-! ### The verification -/

structure Verification where
  sharedVocabulary : String
  contracts : List String
  findings : Findings
  statistics : Statistics
  graph : DependencyGraph
  cycles : List (List String)
  /-- The titles of the contracts, each contract once. -/
  titles : List (String × String)
  deriving DecidableEq, Repr

namespace Verification

/-- The title of each contract; of several contracts with one identifier the last counts. -/
def titlesOf (contracts : List Document) : List (String × String) :=
  (firstOccurrences (contracts.map (·.identifier))).map fun identifier =>
    (identifier, ((contracts.reverse.find? (·.identifier == identifier)).map (·.title)).getD "")

/-- The verification of contracts against a vocabulary. Only a naming rule that cannot be read stops
it. -/
def of (reading : Pattern.Reading) (settings : Settings) (vocabulary : Document)
    (contracts : List Document) : Except Naming.BadPattern Verification := do
  let graph := DependencyGraph.ofContracts contracts
  let naming ← Naming.issues reading settings vocabulary contracts
  return {
    sharedVocabulary := vocabulary.identifier
    contracts := contracts.map (·.identifier)
    findings := {
      resolution := Resolution.issues settings vocabulary contracts
      cycles := DependencyGraph.cycleIssues graph.cycles
      naming := naming
      shapes := Shape.issues settings vocabulary contracts }
    statistics := .of vocabulary contracts
    graph := graph
    cycles := graph.cycles
    titles := titlesOf contracts }

/-- All issues in order. -/
def issues (verification : Verification) : List Issue :=
  verification.findings.all

/-- The errors among the issues. -/
def errors (verification : Verification) : List Issue :=
  verification.issues.filter (·.severity == .error)

/-- The warnings among the issues. -/
def warnings (verification : Verification) : List Issue :=
  verification.issues.filter (·.severity == .warning)

/-- No issue is an error. -/
def passed (verification : Verification) : Bool :=
  verification.errors.isEmpty

end Verification

/-- The word for a verdict. -/
def statusName (passed : Bool) : String :=
  if passed then "pass" else "fail"

end Concord
