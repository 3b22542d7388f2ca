/-
What a run leaves behind that verifies contracts: its exit code, what it prints and the file that it is
asked to write agree with one another. A run that ends with zero or one has printed one report, whose
views of the verdict say the same as the exit code, and the file holds this report; every other run has
printed nothing and has not touched the file.
-/

import Concord.Proofs.Report.Payload
import Concord.Proofs.Storage
import Concord.Run

namespace Concord.Run

/-! ### Exit codes -/

theorem two_le_exitCode (fault : Fault) : 2 ≤ fault.exitCode :=
  FaultKind.two_le_exitCode fault.kind

theorem exitCode_cases (result : Result) : result.exitCode = 0 ∨ result.exitCode = 1 := by
  unfold Result.exitCode
  split
  · exact .inl rfl
  · exact .inr rfl

theorem exitCode_eq_zero_iff (result : Result) : result.exitCode = 0 ↔ result.passed = true := by
  unfold Result.exitCode
  split <;> simp_all

theorem exitCode_eq_one_iff (result : Result) : result.exitCode = 1 ↔ result.passed = false := by
  unfold Result.exitCode
  split <;> simp_all

/-! ### Files -/

/-- The file at the path is as it was, or still there is none. -/
def LeavesAlone (before after : Storage) (path : Path) : Prop :=
  ∀ content, after.bytes path = .ok content ↔ before.bytes path = .ok content

theorem LeavesAlone.refl (storage : Storage) (path : Path) : LeavesAlone storage storage path :=
  fun _ => Iff.rfl

/-- Either the payload stands in the file, if one is named, or its writing is refused and the file is
left alone. -/
theorem writePayload_cases (storage : Storage) (outFile : String) (payload : Value) :
    (∃ after, writePayload storage outFile payload = (after, none) ∧
      (outFile ≠ "" → after.bytes (.ofText outFile) =
        .ok (Utf8.encode (Json.indented payload ++ "\n")))) ∨
    ∃ after fault, writePayload storage outFile payload = (after, some fault) ∧
      LeavesAlone storage after (.ofText outFile) := by
  unfold writePayload
  split
  · next unnamed => exact .inl ⟨storage, rfl, fun named => absurd unnamed named⟩
  · obtain ⟨after, refusal, wrote⟩ : ∃ after refusal,
        storage.write (.ofText outFile) (Json.indented payload ++ "\n") = (after, refusal) := ⟨_, _, rfl⟩
    rw [wrote]
    cases refusal with
    | none => exact .inl ⟨after, rfl, fun _ => Storage.bytes_write wrote⟩
    | some refusal =>
      exact .inr ⟨after, .storage refusal, rfl, Storage.bytes_of_write_refused wrote⟩

/-! ### Reports -/

/-- The payload is the report of the contracts that a request names, verified in the context of the run.
-/
structure IsReport (reading : Pattern.Reading) (context : Context) (now : Instant)
    (storage : Storage) (request : CommandLine.VerifyRequest) (verification : Verification)
    (payload : Value) : Prop where
  verified : ∃ documents, readDocuments context storage request = .ok documents ∧
    Verification.of reading context.settings documents.vocabulary documents.contracts =
      .ok verification
  made : payload = verification.draft.payload context.runId now
  met : Schema.report.check payload = .ok ()

theorem payload_of_checked {draft : Draft} {runId : String} {now : Instant} {payload : Value}
    (checked : draft.checkedPayload runId now = .ok payload) :
    payload = draft.payload runId now ∧ Schema.report.check payload = .ok () := by
  simp only [Draft.checkedPayload] at checked
  cases met : Schema.report.check (draft.payload runId now) with
  | error violation =>
    rw [met] at checked
    cases checked
  | ok done =>
    rw [met] at checked
    obtain rfl := Except.ok.inj checked
    exact ⟨rfl, met⟩

/-- The file is left alone by a fault, or it holds the payload and the result shows it. -/
theorem deliver_cases (context : Context) (storage : Storage) (outFile : String) (payload : Value)
    (passed : Bool) {text : Except Fault String} {shown : String} (made : text = .ok shown) :
    (∃ after fault, deliver context storage outFile payload passed text = (after, .error fault) ∧
      LeavesAlone storage after (.ofText outFile)) ∨
    ∃ after, deliver context storage outFile payload passed text =
        (after, .ok ⟨passed, if context.asJson then Json.compact payload else shown⟩) ∧
      (outFile ≠ "" → after.bytes (.ofText outFile) =
        .ok (Utf8.encode (Json.indented payload ++ "\n"))) := by
  have given : payloadText context payload text =
      .ok (if context.asJson then Json.compact payload else shown) := by
    rw [payloadText, made]
    split <;> rfl
  rcases writePayload_cases storage outFile payload with
    ⟨after, wrote, file⟩ | ⟨after, fault, wrote, leaves⟩
  · refine .inr ⟨after, ?_, file⟩
    rw [deliver, wrote, given]
    rfl
  · refine .inl ⟨after, fault, ?_, leaves⟩
    rw [deliver, wrote]

/-- What a verification comes to: it is stopped and leaves the file alone, or its report is delivered. -/
inductive Comes (reading : Pattern.Reading) (context : Context) (now : Instant) (storage : Storage)
    (request : CommandLine.VerifyRequest) (after : Storage) : Except Fault Result → Prop
  | stopped (fault : Fault) (leaves : LeavesAlone storage after (.ofText request.outFile)) :
    Comes reading context now storage request after (.error fault)
  | reported {verification : Verification} {payload : Value} {shown : String}
    (report : IsReport reading context now storage request verification payload)
    (made : Report.text payload context.isVerbose = .ok shown)
    (file : request.outFile ≠ "" → after.bytes (.ofText request.outFile) =
      .ok (Utf8.encode (Json.indented payload ++ "\n"))) :
    Comes reading context now storage request after
      (.ok ⟨verification.passed, if context.asJson then Json.compact payload else shown⟩)

theorem comes_deliverReport {reading : Pattern.Reading} {context : Context} (now : Instant)
    {storage : Storage} {request : CommandLine.VerifyRequest} {documents : Documents}
    {verification : Verification}
    (found : readDocuments context storage request = .ok documents)
    (verified : Verification.of reading context.settings documents.vocabulary documents.contracts =
      .ok verification) :
    Comes reading context now storage request
      (deliverReport context now storage request.outFile verification).1
      (deliverReport context now storage request.outFile verification).2 := by
  unfold deliverReport
  cases checked : verification.draft.checkedPayload context.runId now with
  | error violation => exact .stopped _ (.refl storage _)
  | ok payload =>
    obtain ⟨isPayload, met⟩ := payload_of_checked checked
    obtain ⟨lines, made⟩ := Report.text_payload verification.draft context.runId now context.isVerbose
    rw [← isPayload] at made
    rcases deliver_cases context storage request.outFile payload verification.passed
        (congrArg (Except.mapError Fault.report) made) with
      ⟨after, fault, delivered, leaves⟩ | ⟨after, delivered, file⟩
    · dsimp only
      rw [delivered]
      exact .stopped fault leaves
    · dsimp only
      rw [delivered]
      exact .reported ⟨⟨documents, found, verified⟩, isPayload, met⟩ made file

theorem comes_verify (reading : Pattern.Reading) (context : Context) (now : Instant)
    (storage : Storage) (request : CommandLine.VerifyRequest) :
    Comes reading context now storage request (verify reading context now storage request).storage
      (verify reading context now storage request).ending := by
  unfold verify
  cases found : readDocuments context storage request with
  | error fault => exact .stopped fault (.refl storage _)
  | ok documents =>
    dsimp only
    cases verified : Verification.of reading context.settings documents.vocabulary
        documents.contracts with
    | error pattern => exact .stopped _ (.refl storage _)
    | ok verification =>
      have comes := comes_deliverReport now found verified
      dsimp only
      generalize deliverReport context now storage request.outFile verification = delivered at comes ⊢
      exact comes

/-! ### Runs -/

/-- A context has the format and the talkativeness that are chosen. -/
theorem choices_of_context {surroundings : Surroundings} {storage : Storage} {choices : Choices}
    {context : Context} (made : Context.of surroundings storage choices = .ok context) :
    context.format = choices.format ∧ context.isVerbose = choices.isVerbose := by
  unfold Context.of at made
  cases read : Context.settingsAt surroundings.readers storage
      ((firstGiven [choices.settingsPath, surroundings.settingsPath]).map Path.ofText) with
  | error fault => simp [read, bind, Except.bind] at made
  | ok settings =>
    simp only [read, bind, Except.bind, pure, Except.pure, Except.ok.injEq] at made
    exact made ▸ ⟨rfl, rfl⟩

/-- A run that is stopped: it has printed nothing and left the file alone, and its exit code is neither
zero nor one. -/
structure Outcome.IsStopped (outcome : Outcome) (storage : Storage) (path : Path) : Prop where
  exitCode : 2 ≤ outcome.exitCode
  output : outcome.output = ""
  leaves : LeavesAlone storage outcome.storage path

theorem isStopped_stopped (fault : Fault) (asJson : Bool) (told : List String) {before after : Storage}
    {path : Path} (leaves : LeavesAlone before after path) :
    (stopped fault asJson told after).IsStopped before path :=
  ⟨two_le_exitCode fault, rfl, leaves⟩

/-- A run that is not stopped has printed one report, as text or as data, and every view of the verdict
says what the exit code says. The file that is asked for holds the same report: it is read as the same
data that is read from the printed data, which are those of the report as long as their numbers can be
read. -/
structure Outcome.Delivers (outcome : Outcome) (invocation : CommandLine.Invocation)
    (request : CommandLine.VerifyRequest) (payload : Value) : Prop where
  exitCode : outcome.exitCode = 0 ∨ outcome.exitCode = 1
  output : ∃ shown, Report.text payload invocation.isVerbose = .ok shown ∧
    outcome.output =
      (if formatOf invocation = .json then Json.compact payload else shown) ++ "\n" ∧
    (outcome.exitCode = 0 → Report.ShowsPass payload shown) ∧
    (outcome.exitCode = 1 → Report.ShowsFail payload shown)
  file : request.outFile ≠ "" →
    outcome.storage.bytes (.ofText request.outFile) =
      .ok (Utf8.encode (Json.indented payload ++ "\n")) ∧
    (DataFile.load Json.read outcome.storage (.ofText request.outFile)).toOption =
      (Json.read (Json.compact payload)).toOption ∧
    (payload.isReadable = true →
      (DataFile.load Json.read outcome.storage (.ofText request.outFile)).toOption = some payload.ordered)

theorem runIn_verify {surroundings : Surroundings} {storage : Storage}
    {invocation : CommandLine.Invocation} {context : Context}
    (made : Context.of surroundings storage (choicesOf invocation) = .ok context)
    (readers : Readers) (request : CommandLine.VerifyRequest) (now : Instant) :
    (runIn readers context now storage (.verify request)).IsStopped storage
        (.ofText request.outFile) ∨
      ∃ verification payload,
        IsReport readers.pattern context now storage request verification payload ∧
        (runIn readers context now storage (.verify request)).Delivers invocation request payload := by
  obtain ⟨format, isVerbose⟩ := choices_of_context made
  have comes := comes_verify readers.pattern context now storage request
  simp only [runIn, perform]
  generalize (verify readers.pattern context now storage request).ending = ending at comes ⊢
  cases comes with
  | stopped fault leaves => exact .inl (isStopped_stopped _ _ _ leaves)
  | @reported verification payload shown report made file =>
    have isPlain : payload.IsPlain := report.made ▸ verification.isPlain_payload _ _
    rw [report.made, isVerbose] at made
    refine .inr ⟨verification, payload, report, ?_, ⟨shown, ?_, ?_, ?_, ?_⟩, fun named => ?_⟩
    · exact exitCode_cases _
    · exact report.made ▸ made
    · have same : (context.asJson = true) = (formatOf invocation = .json) := by
        rw [Context.asJson, format, beq_iff_eq]
        rfl
      simp only [outcomeOf, same]
    · intro isZero
      rw [report.made]
      exact Report.showsPass made ((exitCode_eq_zero_iff _).1 isZero)
    · intro isOne
      rw [report.made]
      exact Report.showsFail made ((exitCode_eq_one_iff _).1 isOne)
    · have standing := file named
      have loaded := DataFile.load_indented isPlain standing
      refine ⟨standing, loaded.trans (Json.read_compact isPlain).symm, fun isReadable => ?_⟩
      exact loaded.trans (if_pos isReadable)

/-- Exit code, report and file agree in every run that verifies contracts. One that ends with zero or
one has printed exactly one report, and the file that is asked for holds this report; any other has
printed nothing and left the file alone. -/
theorem ofWords_verify {surroundings : Surroundings} {storage : Storage} {words : List String}
    {invocation : CommandLine.Invocation} {request : CommandLine.VerifyRequest}
    (accepted : CommandLine.read words = .ok invocation) (asked : invocation.command = .verify request) :
    (ofWords surroundings storage words).IsStopped storage (.ofText request.outFile) ∨
      ∃ context verification payload,
        Context.of surroundings storage (choicesOf invocation) = .ok context ∧
        IsReport surroundings.readers.pattern context surroundings.now storage request verification
          payload ∧
        (ofWords surroundings storage words).Delivers invocation request payload := by
  simp only [ofWords, accepted, ofInvocation]
  split
  · exact .inl (isStopped_stopped _ _ _ (.refl storage _))
  · cases made : Context.of surroundings storage (choicesOf invocation) with
    | error fault => exact .inl (isStopped_stopped _ _ _ (.refl storage _))
    | ok context =>
      simp only [asked]
      refine (runIn_verify made surroundings.readers request surroundings.now).imp_right ?_
      rintro ⟨verification, payload, report, delivers⟩
      exact ⟨context, verification, payload, rfl, report, delivers⟩

/-! ### A run that writes its report -/

/-- Two empty scripts. -/
def emptyScripts : Storage :=
  ⟨.directory [("p.ts", .file []), ("c.ts", .file [])], []⟩

/-- The command line that has the second verified against the first, with a file for the report. -/
def verifyWords (outFile : String) : List String :=
  ["verify", "--primitives", "p.ts", "--contracts", "c.ts", "--out-file", outFile]

/-- What this command line asks for. -/
def verifyRequest (outFile : String) : CommandLine.VerifyRequest :=
  ⟨"p.ts", ["c.ts"], 1, outFile⟩

def verifyInvocation (outFile : String) : CommandLine.Invocation :=
  { wantsJson := false, format := none, runId := none, profile := none, settingsPath := none
    logsJson := false, isVerbose := false, isQuiet := false
    command := .verify (verifyRequest outFile) }

/-- The surroundings of a run in which nothing is set. -/
def bareSurroundings : Surroundings :=
  { now := Instant.ofSeconds 0 0, readers := .own Pattern.noNames }

theorem read_verifyWords {outFile : String}
    (found : (CommandLine.read (verifyWords outFile)).toOption = some (verifyInvocation outFile)) :
    CommandLine.read (verifyWords outFile) = .ok (verifyInvocation outFile) := by
  cases read : CommandLine.read (verifyWords outFile) with
  | error stop => simp [read, Except.toOption] at found
  | ok invocation =>
    rw [read] at found
    exact congrArg Except.ok (Option.some.inj found)

theorem ofWords_verify_emptyScripts :
    (ofWords bareSurroundings emptyScripts (verifyWords "out/report.json")).exitCode = 0 ∧
      ∃ context verification payload,
        Context.of bareSurroundings emptyScripts (choicesOf (verifyInvocation "out/report.json")) =
          .ok context ∧
        IsReport bareSurroundings.readers.pattern context bareSurroundings.now emptyScripts
          (verifyRequest "out/report.json") verification payload ∧
        (ofWords bareSurroundings emptyScripts (verifyWords "out/report.json")).Delivers
          (verifyInvocation "out/report.json") (verifyRequest "out/report.json") payload := by
  have accepted : CommandLine.read (verifyWords "out/report.json") =
      .ok (verifyInvocation "out/report.json") := read_verifyWords (by decide +kernel)
  have succeeds :
      (ofWords bareSurroundings emptyScripts (verifyWords "out/report.json")).exitCode = 0 := by
    decide +kernel
  refine ⟨succeeds, ?_⟩
  have agrees :
      (ofWords bareSurroundings emptyScripts (verifyWords "out/report.json")).IsStopped _ _ ∨ _ :=
    ofWords_verify accepted rfl
  rcases agrees with stopped | delivers
  · have atLeast := stopped.exitCode
    omega
  · exact delivers

/-- A report for a file without a name is printed, and no file holds it. -/
theorem bytes_unnamed :
    CommandLine.read (verifyWords "") = .ok (verifyInvocation "") ∧
      (ofWords bareSurroundings emptyScripts (verifyWords "")).exitCode = 0 ∧
      ∀ content,
        (ofWords bareSurroundings emptyScripts (verifyWords "")).storage.bytes (.ofText "") ≠
          .ok content := by
  have ends : (ofWords bareSurroundings emptyScripts (verifyWords "")).exitCode = 0 ∧
      ((ofWords bareSurroundings emptyScripts (verifyWords "")).storage.bytes
        (.ofText "")).toOption = none := by decide +kernel
  refine ⟨read_verifyWords (by decide +kernel), ends.1, fun content standing => ?_⟩
  have absent := ends.2
  rw [standing] at absent
  cases absent

end Concord.Run
