/-
Paths of files, as written by a user. A path is absolute or relative and has components between
slashes; empty components and single dots say nothing and vanish, two dots stay. A path that opens
with exactly two slashes keeps both.
-/

import Concord.Text.Pieces

namespace Concord

open Text

structure Path where
  /-- How many slashes the path opens with: none when it is relative, one, or exactly two. -/
  slashes : Nat
  components : List String
  deriving DecidableEq, Repr

namespace Path

/-- How many slashes are kept of those that open a path. -/
def keptSlashes (opening : Nat) : Nat :=
  if opening = 2 then 2 else min opening 1

/-- The path that a text names. -/
def ofText (text : String) : Path :=
  let characters := text.toList
  let parts := (pieces (· == '/') characters).map String.ofList
  ⟨keptSlashes (characters.takeWhile (· == '/')).length, parts.filter fun part =>
    part != "" && part != "."⟩

/-- The path begins at the root. -/
def isAbsolute (path : Path) : Bool :=
  path.slashes != 0

/-- The path as text; one that names the current directory is a dot. -/
def text (path : Path) : String :=
  if path.slashes = 0 ∧ path.components.isEmpty then "."
  else String.ofList (List.replicate path.slashes '/') ++ "/".intercalate path.components

/-- The last component; empty when there is none. -/
def name (path : Path) : String :=
  path.components.getLast?.getD ""

/-- The name up to its last dot, unless that dot opens or ends the name. -/
def stem (path : Path) : String :=
  let name := path.name.toList
  let extension := behindLast (· == '.') name
  let kept := name.length - (extension.length + 1)
  if extension.length < name.length ∧ 0 < kept ∧ !extension.isEmpty then
    String.ofList (name.take kept)
  else path.name

/-- The path without its last component. -/
def parent (path : Path) : Path :=
  { path with components := path.components.dropLast }

end Path

end Concord
