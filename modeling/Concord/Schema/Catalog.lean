/-
The catalog of schemas: under which name, in which version and in which file each schema is kept. A
catalog is read from a file of its own; an entry without a name or a file is passed over, and of several
entries with one name the last counts.
-/

import Concord.Document
import Concord.Schema.Published
import Concord.Storage
import Concord.Text.Integer
import Concord.Value.Json.Reader

namespace Concord.Schema

/-! ### Entries -/

/-- One schema of a catalog. -/
structure CatalogEntry where
  name : String
  version : Int
  file : String
  deriving DecidableEq, Repr

/-- The catalog of the published schemas. -/
def publishedCatalog : List CatalogEntry :=
  published.map fun (name, _) => ⟨name, 1, name ++ ".schema.json"⟩

/-! ### Refusals -/

/-- Why a catalog cannot be read. -/
inductive CatalogRefusal where
  | storage (refusal : StorageRefusal)
  | notJson (refusal : Json.Refusal)
  /-- An entry lacks a key. -/
  | withoutKey (key : String)
  /-- The text of a version is no integer. -/
  | badVersion (text : String)
  /-- A version is no number of finite size. -/
  | unboundedVersion (value : Binary64)
  /-- A part of the catalog is not of the kind that it has to be. -/
  | wrongKind
  deriving DecidableEq, Repr

/-- The refusal in words. -/
def CatalogRefusal.message : CatalogRefusal → String
  | .storage refusal => refusal.message
  | .notJson refusal => refusal.message
  | .withoutKey key => Text.quote key
  | .badVersion text => s!"invalid literal for int() with base 10: {Text.quote text}"
  | .unboundedVersion value =>
    if value = .undefined then "cannot convert float NaN to integer"
    else "cannot convert float infinity to integer"
  | .wrongKind => "not a catalog"

/-! ### Reading -/

/-- A value as text, without the blanks at its ends; empty when it is missing. -/
def trimmedText (value : Option Value) : String :=
  String.ofList (Text.strip ((value.map (·.shown)).getD "").toList)

/-- The integer of a double, whose fraction is dropped. -/
def wholePart? (value : Binary64) : Option Int :=
  value.ratio?.map fun ratio => ratio.numerator.tdiv ratio.denominator

/-- The version that a value stands for. -/
def versionOf : Value → Except CatalogRefusal Int
  | .integer value => .ok value
  | .boolean value => .ok (if value then 1 else 0)
  | .number (.double value) =>
    match wholePart? value with
    | some whole => .ok whole
    | none => .error (.unboundedVersion value)
  | .text text =>
    match Text.integer? text.toList with
    | some value => .ok value
    | none => .error (.badVersion text)
  | _ => .error .wrongKind

/-- The entry that a mapping stands for, if it has a name and a file. -/
def catalogEntry (row : Value) : Except CatalogRefusal (Option CatalogEntry) :=
  match row with
  | .mapping entries => do
    let name := trimmedText (Value.atName? entries "name")
    let file := trimmedText (Value.atName? entries "file")
    if name = "" ∨ file = "" then return none
    else match Value.atName? entries "version" with
      | none => .error (.withoutKey "version")
      | some value =>
        let version ← versionOf value
        return some ⟨name, version, file⟩
  | _ => .error .wrongKind

/-- The entries that a catalog lists. -/
def catalogEntries (catalog : Value) : Except CatalogRefusal (List CatalogEntry) := do
  match catalog with
  | .mapping entries =>
    match Value.atName? entries "schemas" with
    | none => return []
    | some (.list rows) => return (← rows.mapM catalogEntry).filterMap id
    | some _ => .error .wrongKind
  | _ => .error .wrongKind

/-- The file of the catalog in a directory of schemas. -/
def catalogPath (directory : Path) : Path :=
  { directory with components := directory.components ++ ["catalog.json"] }

/-- The entries of the catalog in a directory of schemas. -/
def readCatalog (storage : Storage) (directory : Path) :
    Except CatalogRefusal (List CatalogEntry) := do
  let text ← (storage.text (catalogPath directory)).mapError .storage
  let catalog ← (Json.read text).mapError .notJson
  catalogEntries catalog

/-! ### Finding a schema -/

/-- The names of a catalog, each once. -/
def catalogNames (entries : List CatalogEntry) : List String :=
  firstOccurrences (entries.map (·.name))

/-- The entry that counts for a name. -/
def entryOf? (entries : List CatalogEntry) (name : String) : Option CatalogEntry :=
  entries.reverse.find? (·.name == name)

/-- Why a schema has no file. -/
inductive PathRefusal where
  | unknown (name : String)
  /-- The file lies outside of the directory of schemas. -/
  | outside (name file : String)
  | missing (name file : String)
  deriving DecidableEq, Repr

/-- The refusal in words. -/
def PathRefusal.message : PathRefusal → String
  | .unknown name => s!"unknown schema: {name}"
  | .outside name file => s!"invalid schema path for {name}: {file}"
  | .missing name file => s!"missing schema file for {name}: {file}"

/-- The file of a schema, below the directory of schemas. What exists there is given. -/
def fileOf (doesExist : Path → Bool) (entries : List CatalogEntry) (name : String) :
    Except PathRefusal Path :=
  match entryOf? entries name with
  | none => .error (.unknown name)
  | some entry =>
    let path := Path.ofText entry.file
    if path.isAbsolute || path.components.contains ".." then .error (.outside name entry.file)
    else if doesExist path then .ok path
    else .error (.missing name entry.file)

/-- Something stands at a path below a directory. -/
def existsBelow (storage : Storage) (directory path : Path) : Bool :=
  storage.holds { directory with components := directory.components ++ path.components }

end Concord.Schema
