/-
Paths that a pattern stands for. Every component of a pattern is matched against the names in the
directories that the components before it lead to; two asterisks stand for directories at any depth, with
what is in them if they come last. A name that opens with a dot is hidden from a component that does not.
-/

import Concord.Document
import Concord.Storage
import Concord.Storage.NamePattern

namespace Concord.Storage

open Text

/-! ### Names in a directory -/

/-- The name is hidden. -/
def isHidden (name : List Char) : Bool :=
  name.head? == some '.'

/-- A name put behind a directory. -/
def joinName (directory name : List Char) : List Char :=
  if directory.isEmpty || directory.getLast? == some '/' then directory ++ name
  else directory ++ '/' :: name

/-- The entries of a directory, given as text; the empty text is the working directory. -/
def entriesAt (storage : Storage) (directory : List Char) : List (String × Node) :=
  match storage.node (.ofText (String.ofList directory)) with
  | .ok (.directory entries) => entries
  | _ => []

/-- The entries that may be chosen: all, or only directories. -/
def chosen (onlyDirectories : Bool) (entries : List (String × Node)) : List (String × Node) :=
  entries.filter fun (_, node) => !onlyDirectories || node.isDirectory

mutual

/-- Everything below a node that is not hidden, by the names that lead there. -/
def below (onlyDirectories : Bool) : Node → List (List Char)
  | .file _ => []
  | .directory entries => belowEntries onlyDirectories entries

/-- Everything below entries that is not hidden, with the entries themselves. -/
def belowEntries (onlyDirectories : Bool) : List (String × Node) → List (List Char)
  | [] => []
  | (name, node) :: entries =>
    let characters := name.toList
    let others := belowEntries onlyDirectories entries
    if isHidden characters || (onlyDirectories && !node.isDirectory) then others
    else characters :: (below onlyDirectories node).map (joinName characters) ++ others

end

/-- A directory stands at a path given as text; the empty text names none. -/
def isDirectoryAt (storage : Storage) (path : List Char) : Bool :=
  !path.isEmpty && storage.isDirectory (.ofText (String.ofList path))

/-- Something stands at a path given as text. -/
def holdsAt (storage : Storage) (path : List Char) : Bool :=
  storage.holds (.ofText (String.ofList path))

/-- The pattern of a component that stands for directories at any depth. -/
def anyDepth : List Char := ['*', '*']

/-- The names in a directory that a component stands for. An empty component stands for the directory
itself. -/
def namesIn (storage : Storage) (onlyDirectories : Bool) (directory component : List Char) :
    List (List Char) :=
  let entries := storage.entriesAt directory
  if !NamePattern.hasMagic component then
    let isThere := if component.isEmpty then storage.isDirectoryAt directory
      else storage.holdsAt (joinName directory component)
    if isThere then [component] else []
  else if component = anyDepth then
    let found := below onlyDirectories (.directory entries)
    if directory.isEmpty || storage.isDirectoryAt directory then [] :: found else found
  else
    let names := (chosen onlyDirectories entries).map (·.1.toList)
    (names.filter fun name => isHidden component || !isHidden name).filter
      (NamePattern.matchesName component)

/-! ### Paths -/

/-- The directory part of a path and its last component. The slashes between them belong to neither,
unless the directory part has nothing else. -/
def splitLast (path : List Char) : List Char × List Char :=
  let last := behindLast (· == '/') path
  let head := path.take (path.length - last.length)
  (if head.all (· == '/') then head else trimEnd (· == '/') head, last)

/-- The paths that a pattern stands for. Every step goes up by one component. -/
def pathsOf (storage : Storage) : (steps : Nat) → (onlyDirectories : Bool) → List Char →
    List (List Char)
  | 0, _, _ => []
  | steps + 1, onlyDirectories, pattern =>
    let (directory, last) := splitLast pattern
    if !NamePattern.hasMagic pattern then
      let isThere := if last.isEmpty then storage.isDirectoryAt directory else storage.holdsAt pattern
      if isThere then [pattern] else []
    else if directory.isEmpty then storage.namesIn onlyDirectories [] last
    else
      let directories :=
        if NamePattern.hasMagic directory then storage.pathsOf steps true directory else [directory]
      directories.flatMap fun directory =>
        (storage.namesIn onlyDirectories directory last).map (joinName directory)

/-- The part of a directory that no component with magic belongs to. Every step goes up by one component. -/
def literalPart : (steps : Nat) → List Char → List Char
  | 0, directory => directory
  | steps + 1, directory =>
    if NamePattern.hasMagic directory then literalPart steps (splitLast directory).1 else directory

/-- The pattern is looked for in a directory that no path can name. -/
def searchesNull (pattern : List Char) : Bool :=
  NamePattern.hasMagic pattern && (literalPart pattern.length pattern).contains '\x00'

/-- The paths that a pattern stands for, sorted; a path may occur several times. -/
def glob (storage : Storage) (pattern : String) : List String :=
  let characters := pattern.toList
  let found := storage.pathsOf (characters.length + 1) false characters
  ((found.filter (!·.isEmpty)).map String.ofList).mergeSort fun first second => first ≤ second

/-! ### Lists of patterns -/

/-- Why patterns have no expansion. -/
inductive ExpansionRefusal where
  /-- A pattern stands for no path. -/
  | noMatch (pattern : String)
  /-- A pattern is looked for in a directory that no path can name. -/
  | nullCharacter
  deriving DecidableEq, Repr

/-- The refusal belongs to the use of patterns; a directory that no path can name is a failure of another
kind. -/
def ExpansionRefusal.isForeseen : ExpansionRefusal → Bool
  | .noMatch _ => true
  | .nullCharacter => false

/-- The refusal in words. -/
def ExpansionRefusal.message : ExpansionRefusal → String
  | .noMatch pattern => "no contract documents match \x60" ++ pattern ++ "\x60"
  | .nullCharacter => StorageRefusal.nullCharacter.message

/-- What a pattern stands for. A text without magic stands for itself, whether there is such a file or
not. -/
def matchesOf (storage : Storage) (pattern : String) : Except ExpansionRefusal (List String) :=
  if !NamePattern.hasMagic pattern.toList then .ok [pattern]
  else if searchesNull pattern.toList then .error .nullCharacter
  else match storage.glob pattern with
    | [] => .error (.noMatch pattern)
    | found => .ok found

/-- The paths that patterns stand for, each once. -/
def expand (storage : Storage) (patterns : List String) :
    Except ExpansionRefusal (List String) := do
  let found ← patterns.mapM storage.matchesOf
  return firstOccurrences found.flatten

end Concord.Storage
