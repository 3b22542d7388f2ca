/-
From heads to declarations. Every head that is not inside what an earlier declaration consumed looks
for its own body: a type expression for an alias, a pair of braces for every other kind. A head that
finds no body is dropped and consumes nothing; otherwise the text up to the end of the body is
consumed, so that nothing declared inside a body counts as a declaration.
-/

import Concord.Declaration.Head
import Concord.Declaration.Header
import Concord.Declaration.Member

namespace Concord

open Source Text

/-! ### The end of an alias -/

/-- The words that begin a statement. -/
def statementWords : List String :=
  ["export", "interface", "type", "enum", "const", "let", "var", "import", "function", "class",
    "declare", "namespace"]

/-- The line opens with the word that begins a statement. -/
def opensStatement (line : List Char) : Bool :=
  statementWords.any fun word =>
    match after? word.toList (stripStart line) with
    | some rest => !Header.isWordAt rest.head?
    | none => false

/-- A line behind which an alias does not go on: an empty one, or one that begins a statement. -/
def endsExpression (line : List Char) : Bool :=
  isAllBlank line || opensStatement line

/-- How many characters belong to a type expression inside `depth` brackets: it ends at a semicolon or
a line break outside every bracket, at a line break only if the next line does not carry on. -/
def expressionLength (depth : Nat) : List Char → Nat
  | [] => 0
  | c :: rest =>
    if (partner? c).isSome then expressionLength (depth + 1) rest + 1
    else if isClosing c then expressionLength (depth - 1) rest + 1
    else if depth = 0 ∧ c = ';' then 0
    else if depth = 0 ∧ c = '\n' ∧ endsExpression (before (· == '\n') rest) then 0
    else expressionLength depth rest + 1

/-! ### Bodies -/

/-- The body of a declaration, by position: a type expression, or what stands between two braces. -/
inductive Body where
  | expression (span : Span)
  | block (opening closing : Nat)
  deriving DecidableEq, Repr

/-- The position behind a body. -/
def Body.behind : Body → Nat
  | .expression span => span.stop
  | .block _ closing => closing + 1

/-- The position at which a body begins. -/
def Body.start : Body → Nat
  | .expression span => span.start
  | .block opening _ => opening

/-- The position of the brace that opens the body behind a head. -/
def Head.opening? (head : Head) (masked : List Char) : Option Nat :=
  match head.kind with
  | .record => Header.body? masked head.stop
  | .typeAlias => none
  | .enumeration | .constantGroup => some (head.stop - 1)

/-- The body behind a head. The expression of an alias must hold something. -/
def Head.body? (head : Head) (views : Views) : Option Body :=
  match head.kind with
  | .typeAlias =>
    let span : Span := ⟨head.stop, head.stop + expressionLength 0 (views.masked.drop head.stop)⟩
    if Member.typeText (span.slice views.clean) = "" then none else some (.expression span)
  | _ => do
    let opening ← head.opening? views.masked
    let closing ← closingBrace? views.masked opening
    return .block opening closing

/-! ### Declarations by place -/

/-- A head with its body. -/
structure Placed where
  head : Head
  body : Body
  deriving DecidableEq, Repr

/-- The heads that have a body and do not begin before `consumed`, each with its body. -/
def Placed.among (views : Views) (consumed : Nat) : List Head → List Placed
  | [] => []
  | head :: heads =>
    if head.start < consumed then among views consumed heads
    else match head.body? views with
      | none => among views consumed heads
      | some body => ⟨head, body⟩ :: among views body.behind heads

/-- Every declaration of a source, by place. -/
def Placed.all (views : Views) : List Placed :=
  among views 0 (Head.all views.masked)

/-- The fields that a declaration of a kind has between its braces. -/
def Placed.fields (placed : Placed) (views : Views) : List Field :=
  match placed.head.kind, placed.body with
  | .record, .block opening closing => Member.fields views opening closing
  | .enumeration, .block opening closing => Member.enumerationMembers views opening closing
  | _, _ => []

/-- The supertypes that a record names. -/
def Placed.supertypes (placed : Placed) (views : Views) : List String :=
  match placed.head.kind, placed.body with
  | .record, .block opening _ =>
    Header.supertypes (Span.slice ⟨placed.head.stop, opening⟩ views.clean)
  | _, _ => []

/-- The type expression of an alias. -/
def Placed.typeExpression (placed : Placed) (views : Views) : String :=
  match placed.body with
  | .expression span => Member.typeText (span.slice views.clean)
  | .block _ _ => ""

/-- The declaration as it is recorded. -/
def Placed.declaration (placed : Placed) (passage : Passage) : Declaration :=
  { name := String.ofList placed.head.name
    kind := placed.head.kind
    location := passage.locate placed.head.start
    fields := placed.fields passage.views
    supertypes := placed.supertypes passage.views
    typeExpression := placed.typeExpression passage.views }

/-- The methods of a record whose name marks it as a service. -/
def Placed.methods (placed : Placed) (passage : Passage) (serviceSuffixes : List String) :
    List ServiceMethod :=
  match placed.head.kind, placed.body with
  | .record, .block opening closing =>
    if serviceSuffixes.any fun suffix => Text.endsWith placed.head.name suffix.toList then
      Member.methods passage (String.ofList placed.head.name) opening closing
    else []
  | _, _ => []

/-! ### Regions -/

/-- The declarations of a region, in order of place. -/
def declarationsOf (region : Region) (document : String) : List Declaration :=
  let passage := region.passage document
  (Placed.all passage.views).map (·.declaration passage)

/-- The methods of the services of a region, in order of place. -/
def methodsOf (region : Region) (document : String) (serviceSuffixes : List String) :
    List ServiceMethod :=
  let passage := region.passage document
  (Placed.all passage.views).flatMap (·.methods passage serviceSuffixes)

end Concord
