/-
Schemas of data files. A schema is a list of keywords, each a condition on a value; checking walks the
schema and the value together and finds every violation with the path that leads to it. One violation
is reported: the one with the shortest path, among those the one whose path comes last, and then one
whose schema does not say that the value is of the wanted type in the first place. Of equals the first
found is reported, in the order in which the keywords stand.
-/

import Concord.Value.Display

namespace Concord

/-! ### Schemas -/

/-- The types of JSON. -/
inductive DataType where
  | object
  | array
  | string
  | integer
  | number
  | boolean
  | null
  deriving DecidableEq, Repr

/-- The name of a type. -/
def DataType.name : DataType → String
  | .object => "object"
  | .array => "array"
  | .string => "string"
  | .integer => "integer"
  | .number => "number"
  | .boolean => "boolean"
  | .null => "null"

/-- The value is of the type. A double without a fraction is an integer; a truth value is no number. -/
def DataType.holds : DataType → Value → Bool
  | .object, .mapping _ => true
  | .array, .list _ => true
  | .string, .text _ => true
  | .integer, .number (.integer _) => true
  | .integer, .number (.double value) => value.isIntegral
  | .number, .number _ => true
  | .boolean, .boolean _ => true
  | .null, .null => true
  | _, _ => false

inductive Keyword where
  | types (types : List DataType)
  | properties (entries : List (String × List Keyword))
  /-- No properties but those listed. -/
  | noOthers
  /-- What every property that is not listed has to meet. -/
  | others (schema : List Keyword)
  | required (names : List String)
  | items (schema : List Keyword)
  | leastItems (count : Nat)
  | mostItems (count : Nat)
  | leastLength (count : Nat)
  | minimum (bound : Int)
  | maximum (bound : Int)
  | constant (value : Scalar)
  | oneOf (values : List Scalar)
  deriving Repr

/-- The keywords that a value has to meet together. -/
abbrev Schema := List Keyword

namespace Schema

/-- The properties that a schema lists. -/
def propertyNames : Schema → List String
  | [] => []
  | .properties entries :: keywords => entries.map (·.1) ++ propertyNames keywords
  | _ :: keywords => propertyNames keywords

/-- The types that a schema demands, if it demands any. -/
def types? (schema : Schema) : Option (List DataType) :=
  schema.findSome? fun keyword =>
    match keyword with
    | .types types => some types
    | _ => none

/-! ### Violations -/

/-- What a value does not meet. -/
inductive Complaint where
  | wrongType (value : Value) (types : List DataType)
  | unexpectedProperties (keys : List Scalar)
  | missingProperty (name : String)
  | empty (value : Value)
  | tooShort (value : Value)
  | tooLong (value : Value)
  | belowMinimum (value : Value) (bound : Int)
  | aboveMaximum (value : Value) (bound : Int)
  | notConstant (expected : Scalar)
  | notListed (value : Value) (listed : List Scalar)
  deriving Repr

/-- One step into a value: a key of a mapping or an index of a list. -/
inductive Step where
  | key (name : Scalar)
  | index (position : Nat)
  deriving DecidableEq, Repr

structure Violation where
  path : List Step
  complaint : Complaint
  /-- The schema that is violated does not demand a type that the value has. -/
  isForeign : Bool
  deriving Repr

/-! ### Checking -/

/-- The value equals the scalar; numbers are compared by value, and a truth value is no number. -/
def equals (value : Value) (expected : Scalar) : Bool :=
  match value, expected with
  | .number first, .number second => first.same second
  | .scalar first, second => first == second
  | _, _ => false

/-- A keyword is violated by the value itself. -/
def violationHere (names : List String) (keyword : Keyword) (value : Value) : List Complaint :=
  let when := fun (violated : Bool) (complaint : Complaint) => if violated then [complaint] else []
  match keyword, value with
  | .types types, value => when (!types.any (·.holds value)) (.wrongType value types)
  | .noOthers, .mapping entries =>
    let others := (entries.map (·.1)).filter fun key => !names.any fun name => key == .text name
    let sorted := others.mergeSort fun first second => first.shown ≤ second.shown
    when (!others.isEmpty) (.unexpectedProperties sorted)
  | .required required, .mapping entries =>
    (required.filter fun name => (Value.atName? entries name).isNone).map .missingProperty
  | .leastItems count, .list items =>
    when (items.length < count) (if count = 1 then .empty value else .tooShort value)
  | .mostItems count, .list items => when (count < items.length) (.tooLong value)
  | .leastLength count, .text text =>
    when (text.length < count) (if count = 1 then .empty value else .tooShort value)
  | .minimum bound, .number number =>
    when (number.less (.integer bound)) (.belowMinimum value bound)
  | .maximum bound, .number number =>
    when (Number.less (.integer bound) number) (.aboveMaximum value bound)
  | .constant expected, value => when (!equals value expected) (.notConstant expected)
  | .oneOf listed, value => when (!listed.any (equals value)) (.notListed value listed)
  | _, _ => []

/-- The value meets none of the demanded types, or no type is demanded. -/
def isForeignTo (types? : Option (List DataType)) (value : Value) : Bool :=
  match types? with
  | some types => !types.any (·.holds value)
  | none => true

/-- Values of a list with their indices from `start` on. -/
def numbered (start : Nat) : List Value → List (Nat × Value)
  | [] => []
  | item :: items => (start, item) :: numbered (start + 1) items

mutual

/-- The violations of the keywords of a schema that lists the properties `names` and demands `types?`.
The path leads from the root to the value. -/
def violationsOf (names : List String) (types? : Option (List DataType)) (path : List Step)
    (value : Value) : List Keyword → List Violation
  | [] => []
  | keyword :: keywords =>
    (violationHere names keyword value).map (⟨path, ·, isForeignTo types? value⟩) ++
      violationsInside names path value keyword ++ violationsOf names types? path value keywords

/-- The violations of one keyword inside the value. -/
def violationsInside (names : List String) (path : List Step) (value : Value) :
    Keyword → List Violation
  | .properties entries => violationsOfProperties path value entries
  | .others schema =>
    match value with
    | .mapping members =>
      members.flatMap fun (key, member) =>
        if names.any fun name => key == .text name then []
        else violationsOf (propertyNames schema) (Schema.types? schema) (path ++ [.key key]) member
          schema
    | _ => []
  | .items schema =>
    match value with
    | .list items =>
      (numbered 0 items).flatMap fun (index, item) =>
        violationsOf (propertyNames schema) (Schema.types? schema) (path ++ [.index index]) item schema
    | _ => []
  | _ => []

/-- The violations of the listed properties that the value has. -/
def violationsOfProperties (path : List Step) (value : Value) :
    List (String × List Keyword) → List Violation
  | [] => []
  | (name, schema) :: entries =>
    (match value.field? name with
      | some member =>
        violationsOf (propertyNames schema) (Schema.types? schema) (path ++ [.key (.text name)]) member
          schema
      | none => []) ++
      violationsOfProperties path value entries

end

/-- All violations of a schema by a value. -/
def violations (schema : Schema) (value : Value) : List Violation :=
  violationsOf schema.propertyNames schema.types? [] value schema

/-! ### The violation that is reported -/

/-- The order of steps: keys by code points, indices by size. -/
def Step.less : Step → Step → Bool
  | .key (.text first), .key (.text second) => first < second
  | .key (.number first), .key (.number second) => first.less second
  | .index first, .index second => first < second
  | _, _ => false

/-- The order of paths of one length, step by step. -/
def pathLess : List Step → List Step → Bool
  | first :: others, second :: more =>
    if first = second then pathLess others more else first.less second
  | _, _ => false

/-- The second violation is to be reported rather than the first. -/
def Violation.yields (first second : Violation) : Bool :=
  if second.path.length < first.path.length then true
  else if first.path.length < second.path.length then false
  else if pathLess first.path second.path then true
  else if pathLess second.path first.path then false
  else !first.isForeign && second.isForeign

/-- The violation that is reported. -/
def reported? (found : List Violation) : Option Violation :=
  match found with
  | [] => none
  | violation :: others =>
    some (others.foldl (fun best other => if best.yields other then other else best) violation)

/-- The value meets the schema, or the violation that is reported. -/
def check (schema : Schema) (value : Value) : Except Violation Unit :=
  match reported? (schema.violations value) with
  | some violation => .error violation
  | none => .ok ()

theorem check_eq_ok_of_violations_nil {schema : Schema} {value : Value}
    (none : schema.violations value = []) : schema.check value = .ok () := by
  simp [check, none, reported?]

/-! ### Violations in words -/

/-- A complaint in words. -/
def Complaint.message : Complaint → String
  | .wrongType value types =>
    value.quoted ++ " is not of type " ++
      ", ".intercalate (types.map fun expected => Text.quote expected.name)
  | .unexpectedProperties keys =>
    "Additional properties are not allowed (" ++ ", ".intercalate (keys.map Scalar.quoted) ++
      (if keys.length = 1 then " was unexpected)" else " were unexpected)")
  | .missingProperty name => Text.quote name ++ " is a required property"
  | .empty value => value.quoted ++ " should be non-empty"
  | .tooShort value => value.quoted ++ " is too short"
  | .tooLong value => value.quoted ++ " is too long"
  | .belowMinimum value bound =>
    value.quoted ++ " is less than the minimum of " ++ integerText bound
  | .aboveMaximum value bound =>
    value.quoted ++ " is greater than the maximum of " ++ integerText bound
  | .notConstant expected => expected.quoted ++ " was expected"
  | .notListed value listed =>
    value.quoted ++ " is not one of " ++ (Value.list (listed.map Value.scalar)).quoted

/-- A step as part of a path. -/
def Step.text : Step → String
  | .key name => name.shown
  | .index position => integerText position

/-- The path of a violation, with a name of its own for the root. -/
def Violation.place (violation : Violation) : String :=
  let path := "/".intercalate (violation.path.map Step.text)
  if path.isEmpty then "<root>" else path

/-- A violation of the schema of a name in words. -/
def Violation.message (violation : Violation) (schema : String) : String :=
  "schema validation failed for " ++ schema ++ " at " ++ violation.place ++ ": " ++
    violation.complaint.message

end Schema

end Concord
