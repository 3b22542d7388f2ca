/-
Why a run ends without a result. Each fault is of one of a few kinds, which have a name and an exit code of
their own. A fault that belongs to none of the things a user does is internal.
-/

import Concord.Coverage.Report
import Concord.DataFile
import Concord.Document.File
import Concord.Report
import Concord.Report.Text
import Concord.Settings.File
import Concord.Storage.Expansion
import Concord.Value.Json.Writer

namespace Concord

/-! ### Kinds -/

inductive FaultKind where
  | usage
  | document
  | settings
  | data
  | internal
  deriving DecidableEq, Repr

namespace FaultKind

/-- The name of a kind. -/
def name : FaultKind → String
  | .usage => "usage_error"
  | .document => "document_read_error"
  | .settings => "config_error"
  | .data | .internal => "generic_error"

/-- The exit code of a run that a fault of the kind ends. -/
def exitCode : FaultKind → Nat
  | .usage => 2
  | .document => 3
  | .settings => 4
  | .data => 5
  | .internal => 99

theorem two_le_exitCode (kind : FaultKind) : 2 ≤ kind.exitCode := by
  cases kind <;> decide

end FaultKind

/-! ### Faults -/

inductive Fault where
  /-- One output format is asked for by name and another by its own option. -/
  | formatConflict
  | tooFewJobs
  | noDomains
  | expansion (refusal : Storage.ExpansionRefusal)
  | document (unreadable : Document.Unreadable)
  | settings (refusal : Settings.Refusal)
  | dataFile (refusal : DataFile.Refusal)
  /-- A payload does not meet its schema. -/
  | payload (schema : String) (violation : Schema.Violation)
  | naming (pattern : Naming.BadPattern)
  | coverage (refusal : Coverage.Refusal)
  | report (missing : Report.MissingKey)
  | storage (refusal : StorageRefusal)

namespace Fault

/-- The kind of a fault. -/
def kind : Fault → FaultKind
  | .formatConflict | .tooFewJobs | .noDomains => .usage
  | .expansion refusal => if refusal.isForeseen then .usage else .internal
  | .document unreadable => if unreadable.isForeseen then .document else .internal
  | .settings refusal => if refusal.isForeseen then .settings else .internal
  | .dataFile refusal => if refusal.isForeseen then .data else .internal
  | .payload _ _ => .data
  | .naming _ | .coverage _ | .report _ | .storage _ => .internal

/-- What went wrong, in words. -/
def reason : Fault → String
  | .formatConflict => "conflicting output flags: use either --format json or --json"
  | .tooFewJobs => "--jobs must be at least 1"
  | .noDomains => "--domains needs at least one domain name"
  | .expansion refusal => refusal.message
  | .document unreadable => unreadable.message
  | .settings refusal => refusal.message
  | .dataFile refusal => refusal.message
  | .payload schema violation => violation.message schema
  | .naming pattern => pattern.message
  | .coverage refusal => refusal.message
  | .report missing => missing.message
  | .storage refusal => refusal.message

/-- The fault in words; an internal one is called so. -/
def message (fault : Fault) : String :=
  if fault.kind = .internal then "internal error: " ++ fault.reason else fault.reason

/-- The exit code of a run that the fault ends. -/
def exitCode (fault : Fault) : Nat :=
  fault.kind.exitCode

end Fault

/-! ### Error reports -/

/-- What is told about an error. -/
structure ErrorReport where
  code : Int
  kind : String
  message : String
  deriving DecidableEq, Repr

namespace ErrorReport

/-- The report of a fault. -/
def ofFault (fault : Fault) : ErrorReport :=
  { code := fault.exitCode, kind := fault.kind.name, message := fault.message }

/-- The report as data. -/
def value (report : ErrorReport) : Value :=
  .record [
    ("schema_name", .text "contractctl.error.v1"),
    ("schema_version", .natural 1),
    ("tool", .text "contractctl"),
    ("status", .text "error"),
    ("errors", .list [.record [
      ("code", .integer report.code),
      ("kind", .text report.kind),
      ("message", .text report.message)]])]

/-- The report in the form of the output. -/
def render (report : ErrorReport) (asJson : Bool) : String :=
  if asJson then Json.compact report.value else "error: " ++ report.message

end ErrorReport

end Concord
