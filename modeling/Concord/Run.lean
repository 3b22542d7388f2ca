/-
A run of the program: from the words of the command line, what surrounds the run and the files that it can
see, to what it prints, what it tells beside that, the files it leaves and its exit code. A command that is
stopped by a fault prints nothing; its exit code is that of the fault. Otherwise the exit code is 0 or 1,
for a result that is as it should be or is not.
-/

import Concord.Run.Context

namespace Concord.Run

/-! ### Results -/

/-- How a command ends that no fault stops. -/
structure Result where
  /-- All is as it should be. -/
  passed : Bool
  text : String
  deriving DecidableEq, Repr

/-- What a command comes to: the events on the way, the files it leaves, and how it ends. -/
structure Progress where
  events : List Log.Event := []
  storage : Storage
  ending : Except Fault Result

/-- What a run leaves behind. -/
structure Outcome where
  exitCode : Nat
  /-- What is printed. -/
  output : String
  /-- What is told beside the output, line by line. -/
  diagnostics : List String
  storage : Storage

/-- The exit code of a command that no fault stops. -/
def Result.exitCode (result : Result) : Nat :=
  if result.passed then 0 else 1

/-! ### Delivering a payload -/

/-- The payload is written to a file, unless its name is empty. -/
def writePayload (storage : Storage) (outFile : String) (payload : Value) : Storage × Option Fault :=
  if outFile = "" then (storage, none)
  else
    let (storage, refusal) := storage.write (.ofText outFile) (Json.indented payload ++ "\n")
    (storage, refusal.map .storage)

/-- The payload as it is printed: as data, or as a text that is made for it. -/
def payloadText (context : Context) (payload : Value) (text : Except Fault String) :
    Except Fault String :=
  if context.asJson then .ok (Json.compact payload) else text

/-- The payload is written to the file that is asked for and then printed. -/
def deliver (context : Context) (storage : Storage) (outFile : String) (payload : Value)
    (passed : Bool) (text : Except Fault String) : Storage × Except Fault Result :=
  match writePayload storage outFile payload with
  | (storage, some fault) => (storage, .error fault)
  | (storage, none) =>
    (storage, (payloadText context payload text).map fun text => ⟨passed, text⟩)

/-! ### Verifying -/

/-- The documents of a verification. -/
structure Documents where
  vocabulary : Document
  contracts : List Document

/-- All documents of a verification. -/
def Documents.all (documents : Documents) : List Document :=
  documents.vocabulary :: documents.contracts

/-- The documents that a request names, the vocabulary first. -/
def readDocuments (context : Context) (storage : Storage) (request : CommandLine.VerifyRequest) :
    Except Fault Documents := do
  if request.jobs < 1 then throw .tooFewJobs
  let paths ← (storage.expand request.contracts).mapError .expansion
  let vocabulary ← (Document.ofFile context.settings storage (.ofText request.vocabulary)).mapError
    .document
  let contracts ← (Document.ofFiles context.settings storage (paths.map .ofText)).mapError .document
  return { vocabulary, contracts }

/-- The event of a document that has been read. Only a verbose run tells it. -/
def readEvent (context : Context) (document : Document) : Log.Event :=
  { level := if context.isVerbose then .info else .debug
    component := "verify"
    action := "parsed"
    fields := [
      ("document", .text document.identifier),
      ("declarations", .natural document.declarations.length),
      ("imports", .natural document.imports.length)] }

/-- The event of a check that has found issues. -/
def checkEvent (name : String) (issues : List Issue) (fields : List (String × Value) := []) :
    Log.Event :=
  { level := .info, component := "verify", action := name
    fields := ("issues", .natural issues.length) :: fields }

/-- The events of a verification. No time is counted. -/
def verificationEvents (verification : Verification) : List Log.Event :=
  let findings := verification.findings
  [checkEvent "imports" findings.resolution,
    checkEvent "cycles" findings.cycles [("nodes", .natural verification.graph.entries.length)],
    checkEvent "naming" findings.naming,
    checkEvent "shapes" findings.shapes,
    { level := .info, component := "verify", action := "done"
      fields := [
        ("status", .text (statusName verification.passed)),
        ("errors", .natural verification.errors.length),
        ("warnings", .natural verification.warnings.length),
        ("duration_ms", .natural 0)] }]

/-- The report of a verification is delivered. -/
def deliverReport (context : Context) (now : Instant) (storage : Storage) (outFile : String)
    (verification : Verification) : Storage × Except Fault Result :=
  match verification.draft.checkedPayload context.runId now with
  | .error violation => (storage, .error (.payload Schema.reportName violation))
  | .ok payload =>
    deliver context storage outFile payload verification.passed
      ((Report.text payload context.isVerbose).mapError .report)

/-- The contracts are verified against the vocabulary. -/
def verify (reading : Pattern.Reading) (context : Context) (now : Instant) (storage : Storage)
    (request : CommandLine.VerifyRequest) : Progress :=
  match readDocuments context storage request with
  | .error fault => { storage, ending := .error fault }
  | .ok documents =>
    let events := documents.all.map (readEvent context)
    match Verification.of reading context.settings documents.vocabulary documents.contracts with
    | .error pattern => { events, storage, ending := .error (.naming pattern) }
    | .ok verification =>
      let (storage, ending) := deliverReport context now storage request.outFile verification
      { events := events ++ verificationEvents verification, storage, ending }

/-! ### Validating a vocabulary -/

/-- The coverage that a vocabulary has of domains. -/
def readCoverage (context : Context) (storage : Storage) (request : CommandLine.CoverageRequest) :
    Except Fault Coverage := do
  let domains := Coverage.parseDomains request.domains
  if domains.isEmpty then throw .noDomains
  let vocabulary ← (Document.ofFile context.settings storage (.ofText request.vocabulary)).mapError
    .document
  (Coverage.of Coverage.defaultExpectations vocabulary domains).mapError .coverage

/-- The event of a coverage. -/
def coverageEvent (coverage : Coverage) : Log.Event :=
  { level := .info, component := "vocabulary", action := "validated"
    fields := [
      ("primitives", .text coverage.vocabulary),
      ("domains", .natural coverage.domains.length),
      ("missing", .natural coverage.missing.length),
      ("coverage", .text (Decimal.fixed 1 coverage.percentage))] }

/-- A coverage is delivered. -/
def deliverCoverage (context : Context) (storage : Storage) (outFile : String)
    (coverage : Coverage) : Storage × Except Fault Result :=
  match coverage.checkedPayload context.runId with
  | .error violation => (storage, .error (.payload Schema.vocabularyName violation))
  | .ok payload =>
    deliver context storage outFile payload coverage.passed (.ok (coverage.text context.isVerbose))

/-- The vocabulary is checked for what domains need. -/
def validate (context : Context) (storage : Storage) (request : CommandLine.CoverageRequest) :
    Progress :=
  match readCoverage context storage request with
  | .error fault => { storage, ending := .error fault }
  | .ok coverage =>
    let (storage, ending) := deliverCoverage context storage request.outFile coverage
    { events := [coverageEvent coverage], storage, ending }

/-! ### Checking a data file -/

/-- What is said about a data file that meets its schema. -/
def metText (context : Context) (request : CommandLine.CheckRequest) : String :=
  if context.asJson then
    Json.compact (.record
      (context.entries ++ [("schema", .text request.schema), ("file", .text request.file)]))
  else s!"ok: {request.file} matches {request.schema}"

/-- The data file is checked against its schema. -/
def checkFile (reading : Json.Reading) (context : Context) (storage : Storage)
    (request : CommandLine.CheckRequest) : Except Fault Result := do
  (DataFile.checkFile reading storage request.schema (.ofText request.file)).mapError .dataFile
  return ⟨true, metText context request⟩

/-! ### The version -/

def version : String := "0.1.0"

/-- The program with its version. -/
def versionLine : String :=
  CommandLine.programName ++ " " ++ version

/-- The version in the form of the output. -/
def versionText (context : Context) : String :=
  if context.asJson then
    Json.compact (.record (context.entries ++ [("contractctl_version", .text version)]))
  else versionLine

/-! ### Commands -/

/-- What a command comes to. -/
def perform (readers : Readers) (context : Context) (now : Instant) (storage : Storage) :
    CommandLine.Command → Progress
  | .verify request => verify readers.pattern context now storage request
  | .validate request => validate context storage request
  | .validateOutput request => { storage, ending := checkFile readers.json context storage request }
  | .version => { storage, ending := .ok ⟨true, versionText context⟩ }

/-- The event of a command that begins. -/
def startEvent (context : Context) (command : CommandLine.Command) : Log.Event :=
  { level := .debug, component := "cli", action := "start"
    fields := [("cmd", .text command.name), ("fmt", .text context.format.name)] }

/-- What a run leaves behind that a fault stops. -/
def stopped (fault : Fault) (asJson : Bool) (told : List String) (storage : Storage) : Outcome :=
  { exitCode := fault.exitCode
    output := ""
    diagnostics := told ++ [(ErrorReport.ofFault fault).render asJson]
    storage := storage }

/-- What a command leaves behind that has come to its end. -/
def outcomeOf (context : Context) (told : List String) (storage : Storage) :
    Except Fault Result → Outcome
  | .error fault => stopped fault context.asJson told storage
  | .ok result =>
    { exitCode := result.exitCode
      output := result.text ++ "\n"
      diagnostics := told
      storage := storage }

/-- What a command leaves behind in a context. -/
def runIn (readers : Readers) (context : Context) (now : Instant) (storage : Storage)
    (command : CommandLine.Command) : Outcome :=
  let progress := perform readers context now storage command
  let told := Log.lines context.logStyle now (startEvent context command :: progress.events)
  outcomeOf context told progress.storage progress.ending

/-! ### Invocations -/

/-- The output format of an invocation. -/
def formatOf (invocation : CommandLine.Invocation) : Format :=
  if invocation.wantsJson || invocation.format == some "json" then .json else .text

/-- One output format is asked for by name and another by its own option. -/
def isConflicting (invocation : CommandLine.Invocation) : Bool :=
  invocation.wantsJson && (invocation.format.any fun name => name != "" && name != "json")

/-- What an invocation chooses, whatever its command. -/
def choicesOf (invocation : CommandLine.Invocation) : Choices :=
  { runId := invocation.runId
    profile := invocation.profile
    format := formatOf invocation
    isVerbose := invocation.isVerbose
    isQuiet := invocation.isQuiet
    logsJson := invocation.logsJson
    settingsPath := invocation.settingsPath }

/-- What an invocation leaves behind. Of two formats neither is used to tell of the conflict. -/
def ofInvocation (surroundings : Surroundings) (storage : Storage)
    (invocation : CommandLine.Invocation) : Outcome :=
  if isConflicting invocation then stopped .formatConflict false [] storage
  else match Context.of surroundings storage (choicesOf invocation) with
    | .error fault => stopped fault (formatOf invocation == .json) [] storage
    | .ok context =>
      runIn surroundings.readers context surroundings.now storage invocation.command

/-- What a run leaves behind whose command line ends it early. -/
def ofStop (storage : Storage) : CommandLine.Stop → Outcome
  | .shown form option =>
    { exitCode := 0
      output := (if option = "--version" then versionLine else form.usageLine) ++ "\n"
      diagnostics := []
      storage := storage }
  | .notUsable form misuse =>
    { exitCode := FaultKind.usage.exitCode
      output := ""
      diagnostics := [form.usageLine, form.program ++ ": error: " ++ misuse.message]
      storage := storage }

/-- A run of the program. -/
def ofWords (surroundings : Surroundings) (storage : Storage) (words : List String) : Outcome :=
  match CommandLine.read words with
  | .error stop => ofStop storage stop
  | .ok invocation => ofInvocation surroundings storage invocation

end Concord.Run
