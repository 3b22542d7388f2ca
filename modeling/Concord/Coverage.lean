/-
What a complete vocabulary declares, and how much of it a document does. For every domain a few items
are expected, each by the names that will do and the kind of declaration; a few more are expected
whatever the domains. An item is found when some declaration has one of its names and its kind. What is
missing comes with a suggestion of what to add.
-/

import Concord.Document
import Concord.Number.Binary64
import Concord.Template

namespace Concord.Coverage

/-! ### Expectations -/

/-- What is expected for each domain. The templates give the names that will do, the preferred one
first. -/
structure DomainExpectation where
  label : String
  kind : DeclarationKind
  templates : List String
  suggestion : String
  deriving DecidableEq, Repr

/-- What is expected whatever the domains. -/
structure CommonExpectation where
  name : String
  kind : DeclarationKind
  suggestion : String
  deriving DecidableEq, Repr

structure Expectations where
  domainItems : List DomainExpectation
  commonItems : List CommonExpectation := []
  deriving DecidableEq, Repr

/-- Why expectations cannot be worked out. -/
inductive Refusal where
  | template (refusal : Template.Refusal)
  /-- A suggestion needs a name and there is no template for one. -/
  | noTemplate
  deriving DecidableEq, Repr

/-- The refusal in words. -/
def Refusal.message : Refusal → String
  | .template refusal => refusal.message
  | .noTemplate => "tuple index out of range"

/-- The names that will do for a domain. -/
def DomainExpectation.names (expectation : DomainExpectation) (domain : String) :
    Except Refusal (List String) :=
  expectation.templates.mapM fun template =>
    (Template.fill [("domain", domain)] template).mapError .template

/-- The suggestion for a domain, with the preferred name. -/
def DomainExpectation.suggest (expectation : DomainExpectation) (domain : String)
    (names : List String) : Except Refusal String :=
  match names with
  | [] => .error .noTemplate
  | name :: _ =>
    (Template.fill [("domain", domain), ("name", name)] expectation.suggestion).mapError .template

/-! ### What is found -/

/-- What became of one expected item. -/
structure Item where
  label : String
  expected : List String
  isFound : Bool
  actual : Option String := none
  suggestion : Option String := none
  deriving DecidableEq, Repr

/-- The names of an item as a missing one is listed. -/
def Item.names (item : Item) : String :=
  " or ".intercalate item.expected

/-- The items of one domain. -/
structure DomainItems where
  domain : String
  items : List Item
  deriving DecidableEq, Repr

/-- A declaration in a few words. -/
def describe (declaration : Declaration) : String :=
  match declaration.kind with
  | .typeAlias => declaration.typeExpression
  | .record => s!"record with {declaration.fields.length} fields"
  | .enumeration => "enumeration with values: " ++ ", ".intercalate declaration.fieldNames
  | .constantGroup => declaration.kind.name

/-- The first declaration of a kind with the first of the names that has one. -/
def find? (document : Document) (names : List String) (kind : DeclarationKind) : Option Declaration :=
  names.findSome? fun name =>
    document.declarations.find? fun declaration => declaration.name == name && declaration.kind == kind

/-- What became of an item that is expected for a domain. -/
def domainItem (document : Document) (domain : String) (expectation : DomainExpectation) :
    Except Refusal Item := do
  let names ← expectation.names domain
  match find? document names expectation.kind with
  | some declaration =>
    return { label := expectation.label, expected := names, isFound := true,
             actual := some (describe declaration) }
  | none =>
    let suggestion ← expectation.suggest domain names
    return { label := expectation.label, expected := names, isFound := false,
             suggestion := some suggestion }

/-- What became of an item that is expected whatever the domains. -/
def commonItem (document : Document) (expectation : CommonExpectation) : Item :=
  let item : Item := { label := expectation.name, expected := [expectation.name], isFound := false }
  match find? document [expectation.name] expectation.kind with
  | some declaration => { item with isFound := true, actual := some (describe declaration) }
  | none => { item with suggestion := some expectation.suggestion }

end Coverage

/-! ### The coverage -/

/-- How far a vocabulary covers what is expected. -/
structure Coverage where
  vocabulary : String
  domains : List Coverage.DomainItems
  common : List Coverage.Item
  deriving DecidableEq, Repr

namespace Coverage

/-- The items of one domain. -/
def itemsOf (document : Document) (expectations : Expectations) (domain : String) :
    Except Refusal DomainItems := do
  let items ← expectations.domainItems.mapM (domainItem document domain)
  return ⟨domain, items⟩

/-- The coverage of expectations for domains by a document. -/
def of (expectations : Expectations) (document : Document) (domains : List String) :
    Except Refusal Coverage := do
  let domains ← domains.mapM (itemsOf document expectations)
  return ⟨document.identifier, domains, expectations.commonItems.map (commonItem document)⟩

/-- Every item, those of the domains first. -/
def items (coverage : Coverage) : List Item :=
  coverage.domains.flatMap (·.items) ++ coverage.common

/-! ### Counts -/

/-- What is counted on the way through the items. -/
structure Tally where
  expected : Nat := 0
  found : Nat := 0
  missing : List String := []
  deriving DecidableEq, Repr

/-- One more item is counted; a missing one is listed. -/
def Tally.count (tally : Tally) (item : Item) : Tally :=
  if item.isFound then { tally with expected := tally.expected + 1, found := tally.found + 1 }
  else { tally with expected := tally.expected + 1, missing := tally.missing ++ [item.names] }

/-- Items are counted, one after the other. -/
def Tally.countAll (tally : Tally) (items : List Item) : Tally :=
  items.foldl count tally

/-- The items of the domains are counted, one domain after the other, and then the common ones. -/
def tally (coverage : Coverage) : Tally :=
  let start : Tally := {}
  let ofDomains := coverage.domains.foldl (fun counted row => counted.countAll row.items) start
  ofDomains.countAll coverage.common

/-- How many items are expected. -/
def expectedCount (coverage : Coverage) : Nat :=
  coverage.tally.expected

/-- How many items are found. -/
def foundCount (coverage : Coverage) : Nat :=
  coverage.tally.found

/-- The names of the items that are not found. -/
def missing (coverage : Coverage) : List String :=
  coverage.tally.missing

/-- Every item is found. -/
def passed (coverage : Coverage) : Bool :=
  coverage.missing.isEmpty

/-- The share of the items that is found, in percent; all when nothing is expected. -/
def percentage (coverage : Coverage) : Binary64 :=
  if coverage.expectedCount = 0 then .ofInt 100
  else (Binary64.ofRatio false coverage.foundCount coverage.expectedCount).mul (.ofInt 100)

/-- The domains of a list between commas, each once. -/
def parseDomains (listed : String) : List String :=
  firstOccurrences <|
    ((Text.pieces (· == ',') listed.toList).map Text.strip).filterMap fun domain =>
      if domain.isEmpty then none else some (String.ofList domain)

end Coverage

end Concord
