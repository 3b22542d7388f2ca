/-
The command line of this program: what the user wants done, and how. Options for all commands stand before
the command, its own options behind it.
-/

import Concord.CommandLine.Usage

namespace Concord.CommandLine

/-! ### What the user wants -/

structure VerifyRequest where
  vocabulary : String
  contracts : List String
  jobs : Int
  outFile : String
  deriving DecidableEq, Repr

structure CoverageRequest where
  vocabulary : String
  domains : String
  outFile : String
  deriving DecidableEq, Repr

structure CheckRequest where
  schema : String
  file : String
  deriving DecidableEq, Repr

inductive Command where
  /-- Contracts are checked against the vocabulary. -/
  | verify (request : VerifyRequest)
  /-- The vocabulary is checked for what domains need. -/
  | validate (request : CoverageRequest)
  /-- A data file is checked against a schema. -/
  | validateOutput (request : CheckRequest)
  | version
  deriving DecidableEq, Repr

/-- The name of a command. -/
def Command.name : Command → String
  | .verify _ => "verify"
  | .validate _ => "validate"
  | .validateOutput _ => "validate-output"
  | .version => "version"

structure Invocation where
  wantsJson : Bool
  format : Option String
  runId : Option String
  profile : Option String
  settingsPath : Option String
  logsJson : Bool
  isVerbose : Bool
  isQuiet : Bool
  command : Command
  deriving DecidableEq, Repr

/-! ### Forms -/

/-- The name of the program. -/
def programName : String := "contractctl"

/-- Asks for help. -/
def helpOption : OptionForm := { names := ["-h", "--help"] }

/-- The options for all commands. -/
def commonOptions : List OptionForm :=
  [helpOption,
    { names := ["--version"] },
    { names := ["--json"] },
    { names := ["--format"], arity := .one, choices := ["text", "json"] },
    { names := ["--run-id"], arity := .one },
    { names := ["--profile"], arity := .one },
    { names := ["--config"], arity := .one },
    { names := ["--log-json"] },
    { names := ["--verbose"], excluded := ["--quiet"] },
    { names := ["--quiet"], excluded := ["--verbose"] }]

/-- The options of each command. -/
def commandOptions : List (String × List OptionForm) :=
  [("verify", [helpOption,
      { names := ["--primitives"], arity := .one, isRequired := true },
      { names := ["--contracts"], arity := .several, isRequired := true },
      { names := ["--jobs"], arity := .one, takesInteger := true },
      { names := ["--out-file"], arity := .one }]),
    ("validate", [helpOption,
      { names := ["--primitives"], arity := .one, isRequired := true },
      { names := ["--domains"], arity := .one, isRequired := true },
      { names := ["--out-file"], arity := .one }]),
    ("validate-output", [helpOption,
      { names := ["--schema"], arity := .one, isRequired := true },
      { names := ["--file"], arity := .one, isRequired := true }]),
    ("version", [helpOption])]

/-- The whole command line. -/
def programForm : Form :=
  { program := programName, options := commonOptions, commands := commandOptions.map (·.1) }

/-- What stands behind a command. -/
def commandForm (name : String) : Form :=
  { program := programName ++ " " ++ name, options := (commandOptions.lookup name).getD [] }

/-! ### Reading -/

/-- The word of an option, empty when it is not set. -/
def wordOf (usage : Usage) (name : String) : String :=
  (usage.word? name).getD ""

/-- The number of jobs, one if none is given. -/
def jobsOf (usage : Usage) : Int :=
  ((usage.word? "--jobs").bind fun word => Text.integer? word.toList).getD 1

/-- The command of a name with its options. -/
def commandOf (name : String) (usage : Usage) : Command :=
  if name = "verify" then
    .verify ⟨wordOf usage "--primitives", usage.words "--contracts", jobsOf usage,
      wordOf usage "--out-file"⟩
  else if name = "validate" then
    .validate ⟨wordOf usage "--primitives", wordOf usage "--domains", wordOf usage "--out-file"⟩
  else if name = "validate-output" then
    .validateOutput ⟨wordOf usage "--schema", wordOf usage "--file"⟩
  else .version

/-- The invocation that options and a command make. -/
def invocationOf (usage : Usage) (command : Command) : Invocation :=
  { wantsJson := usage.has "--json"
    format := usage.word? "--format"
    runId := usage.word? "--run-id"
    profile := usage.word? "--profile"
    settingsPath := usage.word? "--config"
    logsJson := usage.has "--log-json"
    isVerbose := usage.has "--verbose"
    isQuiet := usage.has "--quiet"
    command := command }

/-- The command of a command line with what stands behind it. -/
def readCommand (usage : Usage) : Except Stop (Command × List String) := do
  match usage.command with
  | none => .error (.notUsable programForm (.missing ["cmd"]))
  | some (name, words) =>
    let form := commandForm name
    let own ← usageOf form words
    checkComplete form own
    return (commandOf name own, own.unrecognized)

/-- What a command line asks for. Words that nothing takes are reported last. -/
def read (words : List String) : Except Stop Invocation := do
  let usage ← usageOf programForm words
  let (command, left) ← readCommand usage
  match usage.unrecognized ++ left with
  | [] => return invocationOf usage command
  | unrecognized => .error (.notUsable programForm (.unrecognized unrecognized))

end Concord.CommandLine
