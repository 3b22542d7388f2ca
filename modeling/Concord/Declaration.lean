/-
What a document declares. A record has fields, an enumeration has members, an alias has a type
expression, and a constant group is known by its name alone. A record that describes a service also
has methods.
-/

import Concord.Source.Location

namespace Concord

open Source

/-! ### Kinds -/

inductive DeclarationKind where
  | record
  | typeAlias
  | enumeration
  | constantGroup
  deriving DecidableEq, Repr

/-- The kinds, in the order in which their heads are looked for. -/
def DeclarationKind.all : List DeclarationKind :=
  [.record, .typeAlias, .enumeration, .constantGroup]

/-- The name of a kind in reports. -/
def DeclarationKind.name : DeclarationKind → String
  | .record => "record"
  | .typeAlias => "alias"
  | .enumeration => "enumeration"
  | .constantGroup => "constant-group"

/-- The kind of a name. -/
def DeclarationKind.ofName? (name : String) : Option DeclarationKind :=
  all.find? (·.name == name)

theorem DeclarationKind.ofName?_name (kind : DeclarationKind) : ofName? kind.name = some kind := by
  cases kind <;> rfl

/-! ### Declarations -/

/-- A field of a record, or a member of an enumeration, which has no type. -/
structure Field where
  name : String
  typeExpression : String := ""
  isOptional : Bool := false
  deriving DecidableEq, Repr

structure Declaration where
  name : String
  kind : DeclarationKind
  location : Location
  fields : List Field := []
  supertypes : List String := []
  typeExpression : String := ""
  deriving DecidableEq, Repr

/-- The document that declares. -/
def Declaration.document (declaration : Declaration) : String :=
  declaration.location.document

/-- The line that names the declaration. -/
def Declaration.line (declaration : Declaration) : Nat :=
  declaration.location.line

/-- The first field of a name. -/
def Declaration.field? (declaration : Declaration) (name : String) : Option Field :=
  declaration.fields.find? (·.name == name)

/-- The names of the fields in order. -/
def Declaration.fieldNames (declaration : Declaration) : List String :=
  declaration.fields.map (·.name)

/-! ### Services -/

structure Parameter where
  name : String
  typeExpression : String
  isOptional : Bool := false
  deriving DecidableEq, Repr

structure ServiceMethod where
  owner : String
  name : String
  parameters : List Parameter
  returnType : String
  location : Location
  deriving DecidableEq, Repr

end Concord
