/-
A document read from its text. The end of its path tells prose from plain source; the regions of the
layout give the declarations, the imports and the service methods, and the prose gives the title and
the routes.
-/

import Concord.Declaration.Body
import Concord.Document
import Concord.Document.Fence
import Concord.Document.Title
import Concord.Settings

namespace Concord.Document

open Source Text

/-- The path has the end of a prose document, letter case aside. -/
def isProse (settings : Settings) (identifier : String) : Bool :=
  settings.proseSuffixes.any fun suffix => endsWith (lower identifier.toList) (lower suffix.toList)

/-- The layout of a text under its path. -/
def layoutOf (settings : Settings) (identifier text : String) : Layout :=
  Layout.of (isProse settings identifier) settings.fenceLanguages text

/-- The routes that lines of prose name. -/
def routesOf (identifier : String) (prose : List (Nat × String)) : List Route :=
  prose.filterMap fun (number, line) =>
    (routeOfLine? line.toList).map fun (method, path) => ⟨method, path, ⟨identifier, number⟩⟩

/-- The document that a text is under its path. -/
def ofText (settings : Settings) (identifier text : String) : Document :=
  let layout := layoutOf settings identifier text
  { identifier := identifier
    declarations := layout.regions.flatMap (declarationsOf · identifier)
    imports := layout.regions.flatMap (Import.ofRegion · identifier)
    serviceMethods := layout.regions.flatMap (methodsOf · identifier settings.serviceSuffixes)
    routes := routesOf identifier layout.prose
    title :=
      if isProse settings identifier then titleOf layout.prose identifier
      else (Path.ofText identifier).stem }

end Concord.Document
