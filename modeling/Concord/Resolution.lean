/-
Whether every name that a contract uses can be found. An import must name something that the vocabulary
or a contract declares, unless its module is out of scope; and a name that another document declares
must be imported before a type may use it.
-/

import Concord.Issue
import Concord.Settings
import Concord.TypeName

namespace Concord.Resolution

open Text

/-! ### Modules out of scope -/

/-- The part of a file name before its first dot, in lower case. -/
def moduleStem (name : List Char) : List Char :=
  lower (before (· == '.') name)

/-- The last component of a path. -/
def lastComponent (path : List Char) : List Char :=
  behindLast (· == '/') path

/-- The relative module points at the vocabulary: it has the stem of that document. -/
def namesVocabulary (vocabulary : String) (path : List Char) : Bool :=
  let stem := moduleStem (lastComponent (trimEnd (· == '/') path))
  vocabulary != "" && !stem.isEmpty &&
    stem == moduleStem (lastComponent (replaced '\\' '/' vocabulary.toList))

/-- Imports from the module need no declaration here: it is external, scoped, or a relative path that
does not point at the shared vocabulary. -/
def isExempt (settings : Settings) (vocabulary sourceModule : String) : Bool :=
  let path := strip sourceModule.toList
  settings.externalModules.contains (String.ofList path) ||
    (settings.scopedModulesAreExternal && path.head? == some '@') ||
    (path.head? == some '.' && !namesVocabulary vocabulary path &&
      !settings.sharedMarkers.any fun marker => holds (lower marker.toList) (lower path))

/-! ### Who declares what -/

/-- The first document that declares a name. -/
def owner? (documents : List Document) (name : String) : Option String :=
  (documents.find? (·.declares name)).map (·.identifier)

/-- The issues of imports that no document declares. -/
def unresolvedImports (settings : Settings) (vocabulary : Document) (contracts : List Document)
    (contract : Document) : List Issue :=
  contract.imports.filterMap fun imported =>
    if isExempt settings vocabulary.identifier imported.sourceModule then none
    else if (owner? (vocabulary :: contracts) imported.name).isSome then none
    else some <| .error .unresolvedImport
      s!"Unresolved import: '{imported.name}' from '{imported.sourceModule}'"
      contract.identifier (some imported.location.line)
      s!"Ensure '{imported.name}' is defined in shared primitives or another contract"

/-! ### Uses -/

/-- The type expressions in which a declaration uses names. -/
def expressions (declaration : Declaration) : List String :=
  match declaration.kind with
  | .record => declaration.fields.map (·.typeExpression)
  | .typeAlias => [declaration.typeExpression]
  | _ => []

/-- The uses of names by the declarations of a document, in order, each with its declaration. -/
def uses (contract : Document) : List (Declaration × String) :=
  contract.declarations.flatMap fun declaration =>
    (expressions declaration).flatMap fun expression =>
      (TypeName.references expression).map fun name => (declaration, name)

/-- The document that must be imported for a name: another one declares it, and the contract neither
imports nor declares it. -/
def neededFrom? (documents : List Document) (contract : Document) (name : String) : Option String :=
  (owner? documents name).filter fun owner =>
    owner != contract.identifier && !contract.importsName name && !contract.declares name

/-- The issue of a name that is used and not imported. -/
def usageIssue (contract : Document) (declaration : Declaration) (name owner : String) : Issue :=
  .error .unresolvedImport
    s!"Unresolved import: '{name}' is used by '{declaration.name}' but never imported (declared in {owner})"
    contract.identifier (some declaration.line) s!"Add '{name}' to an import from {owner}"

/-- The issues of the names in `remaining` that have not been reported. -/
def usageIssuesFrom (documents : List Document) (contract : Document) (reported : List String) :
    List (Declaration × String) → List Issue
  | [] => []
  | (declaration, name) :: remaining =>
    match if reported.contains name then none else neededFrom? documents contract name with
    | some owner =>
      usageIssue contract declaration name owner ::
        usageIssuesFrom documents contract (name :: reported) remaining
    | none => usageIssuesFrom documents contract reported remaining

/-- The issues of names that a contract uses and does not import, one for each name. -/
def usageIssues (documents : List Document) (contract : Document) : List Issue :=
  usageIssuesFrom documents contract [] (uses contract)

/-! ### All issues -/

/-- The issues of imports, then those of uses, contract by contract. -/
def issues (settings : Settings) (vocabulary : Document) (contracts : List Document) : List Issue :=
  contracts.flatMap (unresolvedImports settings vocabulary contracts) ++
    contracts.flatMap (usageIssues (vocabulary :: contracts))

end Concord.Resolution
