/-
Events of a run and the lines in which they are written. A line is a text with the fields of its event in
the order of their keys, or a record in which a field takes the place of an entry of its name. How much is
written depends on how talkative the run is.
-/

import Concord.Instant
import Concord.Value.Json.Writer

namespace Concord.Log

/-! ### Events -/

inductive Level where
  | debug
  | info
  | warn
  | error
  deriving DecidableEq, Repr

/-- The word for a level. -/
def Level.name : Level → String
  | .debug => "debug"
  | .info => "info"
  | .warn => "warn"
  | .error => "error"

/-- All levels. -/
def levels : List Level := [.debug, .info, .warn, .error]

/-- The level that a word is for. -/
def Level.ofName? (name : String) : Option Level :=
  levels.find? (·.name == name)

theorem Level.ofName_name (level : Level) : Level.ofName? level.name = some level := by
  cases level <;> decide

structure Event where
  level : Level
  component : String
  action : String
  fields : List (String × Value) := []

/-! ### Writing -/

/-- How events are written. -/
structure Style where
  runId : String
  isVerbose : Bool := false
  isQuiet : Bool := false
  asJson : Bool := false
  deriving DecidableEq, Repr

/-- Events of the level are written. A quiet run writes nothing but errors, and only a verbose one writes
what helps to find them. -/
def Style.admits (style : Style) : Level → Bool
  | .debug => style.isVerbose && !style.isQuiet
  | .error => true
  | _ => !style.isQuiet

/-- The event as data. -/
def Event.value (event : Event) (style : Style) (now : Instant) : Value :=
  let entries := [
    ("ts", .text now.logText),
    ("level", .text event.level.name),
    ("run_id", .text style.runId),
    ("component", .text event.component),
    ("action", .text event.action)] ++ event.fields
  .mapping (Value.ofEntries (entries.map fun (key, value) => (.text key, value)))

/-- The time that a text line shows: a field of that name, or the instant. -/
def Event.timeText (event : Event) (now : Instant) : String :=
  match event.fields.lookup "ts" with
  | some value => value.shown
  | none => now.logText

/-- The event as text. -/
def Event.text (event : Event) (style : Style) (now : Instant) : String :=
  let fields := event.fields.mergeSort fun first second => first.1 ≤ second.1
  let entries := [
    ("ts", event.timeText now),
    ("level", event.level.name),
    ("run_id", style.runId),
    ("component", event.component),
    ("action", event.action)] ++ fields.map fun (key, value) => (key, value.shown)
  " ".intercalate (entries.map fun (key, value) => key ++ "=" ++ value)

/-- The line of an event. -/
def Event.line (event : Event) (style : Style) (now : Instant) : String :=
  if style.asJson then Json.compact (event.value style now) else event.text style now

/-- The lines that are written for events. -/
def lines (style : Style) (now : Instant) (events : List Event) : List String :=
  (events.filter fun event => style.admits event.level).map fun event => event.line style now

end Concord.Log
