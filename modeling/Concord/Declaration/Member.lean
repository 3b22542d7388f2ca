/-
Members of bodies. A body is split into members in the masked view, and each member is read in the
clean view: as a field `name?: type` of a record, as a member `name = value` of an enumeration, or as
a method `name(parameters): type` of a service. What has another shape is passed over.
-/

import Concord.Declaration
import Concord.Source.Matching
import Concord.Source.Members

namespace Concord.Member

open Source Text

/-! ### Names with a type -/

/-- A type expression as it is recorded: on one line, without the separators that end it. -/
def typeText (text : List Char) : String :=
  String.ofList (strip (trimEnd (fun c => c == ';' || c == ',') (collapse text)))

/-- Text between two equal quotes that does not hold that quote, quotes included, and the rest. -/
def quotedName? : List Char → Option (List Char × List Char)
  | [] => none
  | quote :: rest =>
    if quote = '\x27' ∨ quote = '\x22' then
      match before (· == quote) rest, rest.dropWhile (· != quote) with
      | c :: inner, close :: left => some (quote :: c :: inner ++ [close], left)
      | _, _ => none
    else none

/-- The name of a field: an identifier or a quoted text. -/
def fieldName? (text : List Char) : Option (List Char × List Char) :=
  (identifier? text).or (quotedName? text)

/-- What stands behind a name: perhaps a question mark, then a colon and a type. -/
def annotation? (text : List Char) : Option (Bool × List Char) :=
  let (isOptional, text) := match text with
    | '?' :: rest => (true, rest)
    | text => (false, text)
  match stripStart text with
  | ':' :: c :: rest => some (isOptional, c :: rest)
  | _ => none

/-- A name that `name?` reads, and its annotation. -/
def annotated? (name? : List Char → Option (List Char × List Char)) (text : List Char) :
    Option (List Char × Bool × List Char) := do
  let (name, rest) ← name? text
  let (isOptional, typeExpression) ← annotation? rest
  return (name, isOptional, typeExpression)

/-- An annotated name, perhaps behind `readonly`. -/
def readonlyAnnotated? (name? : List Char → Option (List Char × List Char)) (text : List Char) :
    Option (List Char × Bool × List Char) :=
  ((spacedKeyword? "readonly".toList text).bind (annotated? name?)).or (annotated? name? text)

/-! ### Fields -/

/-- A quote that may stand around the name of a field. -/
def isNameQuote (c : Char) : Bool :=
  c == '\x27' || c == '\x22'

/-- The field that a stripped member declares. -/
def field? (text : List Char) : Option Field :=
  (readonlyAnnotated? fieldName? text).map fun (name, isOptional, typeExpression) =>
    ⟨String.ofList (trim isNameQuote name), typeText typeExpression, isOptional⟩

/-- The fields whose names have not occurred before. -/
def firstOfName : (seen : List String) → List Field → List Field
  | _, [] => []
  | seen, field :: fields =>
    if seen.contains field.name then firstOfName seen fields
    else field :: firstOfName (field.name :: seen) fields

/-- The fields of the record whose body stands between two braces. -/
def fields (views : Views) (opening closing : Nat) : List Field :=
  firstOfName [] <|
    (members .body views.masked (opening + 1) closing).filterMap fun span =>
      field? (strip (span.slice views.clean))

/-! ### Enumerations -/

/-- The name of an enumeration member: an identifier before the first equals sign. -/
def enumerationMember? (text : List Char) : Option Field :=
  let name := strip (before (· == '=') text)
  if isIdentifier name then some ⟨String.ofList name, "", false⟩ else none

/-- The members of the enumeration whose body stands between two braces. -/
def enumerationMembers (views : Views) (opening closing : Nat) : List Field :=
  (members .list views.masked (opening + 1) closing).filterMap fun span =>
    enumerationMember? (span.slice views.clean)

/-! ### Methods -/

/-- The parameters between the parentheses of a method. -/
def parameters (text : List Char) : List Parameter :=
  (allMembers .list text).filterMap fun span =>
    (readonlyAnnotated? identifier? (strip (span.slice text))).map
      fun (name, isOptional, typeExpression) =>
        ⟨String.ofList name, typeText typeExpression, isOptional⟩

/-- A parenthesis, opening or closing. -/
def isParenthesis (c : Char) : Bool :=
  c == '(' || c == ')'

/-- Behind the type parameters of a method, which hold no parenthesis. -/
def behindMethodParameters : List Char → List Char
  | '<' :: rest =>
    if (stripEnd (before isParenthesis rest)).getLast? = some '>' then
      rest.dropWhile fun c => !isParenthesis c
    else '<' :: rest
  | text => text

/-- The name of a method, and the rest from its opening parenthesis on. -/
def methodName? (text : List Char) : Option (List Char × List Char) := do
  let (name, rest) ← identifier? text
  let rest := match rest with
    | '?' :: rest => rest
    | rest => rest
  match stripStart (behindMethodParameters (stripStart rest)) with
  | '(' :: rest => return (name, '(' :: rest)
  | _ => none

/-- The head of a method, perhaps behind `readonly` and `async`. -/
def methodHead? (text : List Char) : Option (List Char × List Char) :=
  let asynchronous := fun text =>
    ((spacedKeyword? "async".toList text).bind methodName?).or (methodName? text)
  ((spacedKeyword? "readonly".toList text).bind asynchronous).or (asynchronous text)

/-- The method that a member of the body declares, with the position at which the member begins. -/
def method? (views : Views) (span : Span) : Option (Nat × String × List Parameter × String) := do
  let member := span.slice views.masked
  let text := stripStart member
  let start := span.start + (member.length - text.length)
  let (name, rest) ← methodHead? text
  let opening := start + (text.length - rest.length)
  let closing ← closingParenthesis? views.masked opening
  if closing < span.stop then
    match strip (Span.slice ⟨closing + 1, span.stop⟩ views.clean) with
    | ':' :: returnType =>
      return (start, String.ofList name, parameters (Span.slice ⟨opening + 1, closing⟩ views.clean),
        typeText returnType)
    | _ => none
  else none

/-- The methods of the service `owner` whose body stands between two braces. -/
def methods (passage : Passage) (owner : String) (opening closing : Nat) : List ServiceMethod :=
  (members .body passage.views.masked (opening + 1) closing).filterMap fun span =>
    (method? passage.views span).map fun (start, name, parameters, returnType) =>
      ⟨owner, name, parameters, returnType, passage.locate start⟩

end Concord.Member
