/-
Values of the data formats in which settings and reports are written: scalars, lists, and mappings
whose entries keep their order. Keys are scalars; most are texts, but a settings file may use others.
-/

import Concord.Number.Decimal
import Concord.Text.Quoted

namespace Concord

/-! ### Scalars -/

/-- A day of the calendar. -/
structure Day where
  year : Nat
  month : Nat
  day : Nat
  deriving DecidableEq, Repr

/-- A time of a day. The zone is its distance from universal time in minutes, if it is known. -/
structure Moment where
  day : Day
  hour : Nat
  minute : Nat
  second : Nat
  microsecond : Nat
  zone : Option Int
  deriving DecidableEq, Repr

inductive Scalar where
  | null
  | boolean (value : Bool)
  | number (value : Number)
  | text (value : String)
  | day (value : Day)
  | moment (value : Moment)
  deriving DecidableEq, Repr

/-- The number that a scalar counts as when keys are compared: a truth value counts as one or zero. -/
def Scalar.numeric? : Scalar → Option Number
  | .boolean value => some (.integer (if value then 1 else 0))
  | .number value => some value
  | _ => none

/-- The same key of a mapping. -/
def Scalar.sameKey (first second : Scalar) : Bool :=
  match first.numeric?, second.numeric? with
  | some a, some b => a.same b
  | none, none => first == second
  | _, _ => false

/-! ### Values -/

inductive Value where
  | scalar (value : Scalar)
  | list (items : List Value)
  | mapping (entries : List (Scalar × Value))
  deriving Repr

namespace Value

@[match_pattern] abbrev null : Value := .scalar .null
@[match_pattern] abbrev boolean (value : Bool) : Value := .scalar (.boolean value)
@[match_pattern] abbrev number (value : Number) : Value := .scalar (.number value)
@[match_pattern] abbrev text (value : String) : Value := .scalar (.text value)
@[match_pattern] abbrev integer (value : Int) : Value := .scalar (.number (.integer value))

instance : Inhabited Value := ⟨null⟩

/-- A natural number. -/
def natural (value : Nat) : Value := integer value

/-- A list of texts. -/
def texts (items : List String) : Value := .list (items.map text)

/-- A mapping with texts as keys. -/
def record (entries : List (String × Value)) : Value :=
  .mapping (entries.map fun (name, value) => (.text name, value))

/-- A text, or null. -/
def optionalText : Option String → Value
  | some value => text value
  | none => null

/-! ### Mappings -/

/-- The value at a text among entries. -/
def atName? (entries : List (Scalar × Value)) (name : String) : Option Value :=
  (entries.find? fun entry => entry.1 == .text name).map (·.2)

/-- The value that a mapping has at a text. -/
def field? : Value → String → Option Value
  | .mapping entries, name => atName? entries name
  | _, _ => none

/-- An entry is put in: a known key keeps its place and takes the new value. -/
def putEntry (key : Scalar) (value : Value) : List (Scalar × Value) → List (Scalar × Value)
  | [] => [(key, value)]
  | (known, old) :: entries =>
    if known.sameKey key then (known, value) :: entries
    else (known, old) :: putEntry key value entries

/-- Entries put in one after another. -/
def ofEntries (entries : List (Scalar × Value)) : List (Scalar × Value) :=
  entries.foldl (fun known entry => putEntry entry.1 entry.2 known) []

/-- The value counts as true: it is not null, false, zero, an empty text or an empty collection. -/
def isTruthy : Value → Bool
  | .scalar .null => false
  | .scalar (.boolean value) => value
  | .scalar (.number value) => !value.same (.integer 0)
  | .scalar (.text value) => value != ""
  | .scalar (.day _) | .scalar (.moment _) => true
  | .list items => !items.isEmpty
  | .mapping entries => !entries.isEmpty

end Value

end Concord
