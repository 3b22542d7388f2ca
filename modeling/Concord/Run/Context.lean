/-
What a run knows before its command begins: a name for the run, a profile, the form of its output, how
talkative it is, and its settings. What the command line leaves open is taken from the surroundings, and
what those leave open too has a default. An empty text leaves a choice open.
-/

import Concord.CommandLine.Invocation
import Concord.Fault
import Concord.Log

namespace Concord.Run

/-! ### Choices -/

inductive Format where
  | text
  | json
  deriving DecidableEq, Repr

/-- The word for a format. -/
def Format.name : Format → String
  | .text => "text"
  | .json => "json"

/-- What a user asks for, whatever the command. -/
structure Choices where
  runId : Option String := none
  profile : Option String := none
  format : Format := .text
  isVerbose : Bool := false
  isQuiet : Bool := false
  logsJson : Bool := false
  settingsPath : Option String := none
  deriving DecidableEq, Repr

/-- What surrounds a run: the variables that it looks at, the time, and the readers it is given. -/
structure Surroundings where
  runId : Option String := none
  profile : Option String := none
  settingsPath : Option String := none
  now : Instant
  readers : Readers

/-- The first text that is given and is not empty. -/
def firstGiven (texts : List (Option String)) : Option String :=
  (texts.filterMap id).find? (· != "")

/-! ### The context -/

structure Context where
  runId : String
  profile : String
  format : Format
  isVerbose : Bool
  isQuiet : Bool
  logsJson : Bool
  settingsPath : Option Path
  settings : Settings

namespace Context

/-- The output is in the data format. -/
def asJson (context : Context) : Bool :=
  context.format == .json

/-- The name of a run that is not given one. -/
def defaultRunId (now : Instant) : String :=
  CommandLine.programName ++ "-" ++ now.stamp

/-- The settings of the file that is chosen, or the default ones. -/
def settingsAt (readers : Readers) (storage : Storage) : Option Path → Except Fault Settings
  | some path => (Settings.ofFile readers storage path).mapError .settings
  | none => .ok {}

/-- The context that choices make in their surroundings. Only the settings can fail. -/
def of (surroundings : Surroundings) (storage : Storage) (choices : Choices) :
    Except Fault Context := do
  let settingsPath := (firstGiven [choices.settingsPath, surroundings.settingsPath]).map Path.ofText
  let settings ← settingsAt surroundings.readers storage settingsPath
  return {
    runId :=
      (firstGiven [choices.runId, surroundings.runId]).getD (defaultRunId surroundings.now)
    profile := (firstGiven [choices.profile, surroundings.profile]).getD "local"
    format := choices.format
    isVerbose := choices.isVerbose
    isQuiet := choices.isQuiet
    logsJson := choices.logsJson
    settingsPath := settingsPath
    settings := settings }

/-- How the events of the run are written. -/
def logStyle (context : Context) : Log.Style :=
  { runId := context.runId
    isVerbose := context.isVerbose
    isQuiet := context.isQuiet
    asJson := context.logsJson }

/-- What is told about the run with every result that is not a report. -/
def entries (context : Context) : List (String × Value) := [
  ("schema_version", .natural 1),
  ("tool", .text CommandLine.programName),
  ("status", .text "ok"),
  ("run_id", .text context.runId),
  ("profile", .text context.profile),
  ("format", .text context.format.name),
  ("config", .optionalText (context.settingsPath.map (·.text)))]

end Context

end Concord.Run
