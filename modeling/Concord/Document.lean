/-
A document that has been read: its declarations, imports, service methods and routes in the order of
the text, and its title. Of several declarations with one name the first is the one that the name
stands for.
-/

import Concord.Declaration
import Concord.Import

namespace Concord

open Source

/-- A route of an interface: the method of the request and the path. -/
structure Route where
  method : String
  path : String
  location : Location
  deriving DecidableEq, Repr

structure Document where
  identifier : String
  declarations : List Declaration := []
  imports : List Import := []
  serviceMethods : List ServiceMethod := []
  routes : List Route := []
  title : String := ""
  deriving DecidableEq, Repr

/-- The values of a list in order of their first occurrence. -/
def firstOccurrences {Value : Type} [BEq Value] (values : List Value) : List Value :=
  values.eraseDups

namespace Document

/-- The declaration that a name stands for. -/
def declaration? (document : Document) (name : String) : Option Declaration :=
  document.declarations.find? (·.name == name)

/-- The document declares the name. -/
def declares (document : Document) (name : String) : Bool :=
  document.declarations.any (·.name == name)

/-- The declared names, each once, in order. -/
def declaredNames (document : Document) : List String :=
  firstOccurrences (document.declarations.map (·.name))

/-- The imported names, each once, in order. -/
def importedNames (document : Document) : List String :=
  firstOccurrences (document.imports.map (·.name))

/-- The document imports the name. -/
def importsName (document : Document) (name : String) : Bool :=
  document.imports.any (·.name == name)

end Document

end Concord
