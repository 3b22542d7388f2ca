/-
The files that a run can see: a tree of directories and the directory in which the run works. Reading
and writing are functions on the tree, and each refusal is one of a few that a file system gives.
-/

import Concord.Path
import Concord.Text.Lines
import Concord.Text.Utf8

namespace Concord

/-! ### The tree -/

inductive Node where
  | file (content : List UInt8)
  | directory (entries : List (String × Node))
  deriving Repr

instance : Inhabited Node := ⟨.directory []⟩

/-- The entry of a name in a directory. -/
def Node.entry? : Node → String → Option Node
  | .directory entries, name => entries.lookup name
  | .file _, _ => none

/-- The node is a directory. -/
def Node.isDirectory : Node → Bool
  | .directory _ => true
  | .file _ => false

/-- The node at a place, given by names from this node downward. -/
def Node.at? (node : Node) : List String → Option Node
  | [] => some node
  | name :: names => (node.entry? name).bind (·.at? names)

/-- An entry of a directory put in place of the one of that name, or at the end. -/
def Node.putEntry (name : String) (node : Node) : List (String × Node) → List (String × Node)
  | [] => [(name, node)]
  | (known, old) :: entries =>
    if known = name then (name, node) :: entries else (known, old) :: putEntry name node entries

/-- The tree with a node put at a place. Directories that are missing on the way are made. -/
def Node.put (root : Node) : (place : List String) → Node → Node
  | [], node => node
  | name :: names, node =>
    let child := ((root.entry? name).getD (.directory [])).put names node
    match root with
    | .directory entries => .directory (putEntry name child entries)
    | .file _ => .directory [(name, child)]

/-- A tree and the place of the working directory in it. -/
structure Storage where
  root : Node
  current : List String := []

/-! ### Refusals -/

inductive SystemCause where
  | notFound
  | exists
  | notADirectory
  | isADirectory
  deriving DecidableEq, Repr

/-- The number and the name of a cause. -/
def SystemCause.text : SystemCause → String
  | .notFound => "[Errno 2] No such file or directory"
  | .exists => "[Errno 17] File exists"
  | .notADirectory => "[Errno 20] Not a directory"
  | .isADirectory => "[Errno 21] Is a directory"

/-- Why a file cannot be used. -/
inductive StorageRefusal where
  | system (cause : SystemCause) (path : String)
  /-- The path holds a character that no path may hold. -/
  | nullCharacter
  | undecodable (refusal : Utf8.Refusal)
  deriving DecidableEq, Repr

/-- The refusal in words. -/
def StorageRefusal.message : StorageRefusal → String
  | .system cause path => cause.text ++ ": " ++ Text.quote path
  | .nullCharacter => "embedded null byte"
  | .undecodable refusal => refusal.message

namespace Storage

/-! ### Finding a place -/

/-- The place that components lead to from a place. Everything that is passed through must be a
directory that exists. -/
def walk (root : Node) (place : List String) : List String → Except SystemCause (List String)
  | [] => .ok place
  | component :: components =>
    match root.at? place with
    | none => .error .notFound
    | some (.file _) => .error .notADirectory
    | some (.directory _) =>
      if component = ".." then walk root place.dropLast components
      else walk root (place ++ [component]) components

/-- The place of a path; nothing need stand there yet. -/
def place (storage : Storage) (path : Path) : Except SystemCause (List String) :=
  walk storage.root (if path.isAbsolute then [] else storage.current) path.components

/-- The place that components name from a place, whatever stands there. -/
def named (place : List String) : List String → List String
  | [] => place
  | component :: components =>
    named (if component = ".." then place.dropLast else place ++ [component]) components

/-- The place that a path names, whatever stands there. -/
def namedBy (storage : Storage) (path : Path) : List String :=
  named (if path.isAbsolute then [] else storage.current) path.components

/-- What stands at a path. -/
def node (storage : Storage) (path : Path) : Except SystemCause Node := do
  let place ← storage.place path
  match storage.root.at? place with
  | some node => return node
  | none => .error .notFound

/-- The path holds the null character. -/
def holdsNull (path : Path) : Bool :=
  path.components.any fun component => component.toList.contains '\x00'

/-- A regular file stands at the path. -/
def isFile (storage : Storage) (path : Path) : Bool :=
  match storage.node path with
  | .ok (.file _) => !holdsNull path
  | _ => false

/-- Something stands at the path. -/
def holds (storage : Storage) (path : Path) : Bool :=
  match storage.node path with
  | .ok _ => !holdsNull path
  | .error _ => false

/-! ### Reading -/

/-- The bytes of the file at a path. -/
def bytes (storage : Storage) (path : Path) : Except StorageRefusal (List UInt8) :=
  if holdsNull path then .error .nullCharacter
  else match storage.node path with
    | .ok (.file content) => .ok content
    | .ok (.directory _) => .error (.system .isADirectory path.text)
    | .error cause => .error (.system cause path.text)

/-- The text of bytes, with line feeds for its line ends. -/
def textOfBytes (content : List UInt8) : Except Utf8.Refusal String :=
  (Utf8.decode content).map fun characters => String.ofList (Text.unixLines characters)

/-- The text of the file at a path. -/
def text (storage : Storage) (path : Path) : Except StorageRefusal String := do
  let content ← storage.bytes path
  (textOfBytes content).mapError .undecodable

/-! ### Writing -/

/-- The storage with a node put at a place. -/
def put (storage : Storage) (place : List String) (node : Node) : Storage :=
  { storage with root := storage.root.put place node }

/-- One attempt at making a directory: nothing may stand there, and what leads there must exist. -/
def makeOne (storage : Storage) (path : Path) : Except SystemCause Storage := do
  let place ← storage.place path
  match storage.root.at? place with
  | some _ => .error .exists
  | none =>
    match storage.root.at? place.dropLast with
    | some (.directory _) => .ok (storage.put place (.directory []))
    | some (.file _) => .error .notADirectory
    | none => .error .notFound

/-- A directory stands at the path. -/
def isDirectory (storage : Storage) (path : Path) : Bool :=
  match storage.node path with
  | .ok node => node.isDirectory
  | .error _ => false

/-- Makes the directory of a path, and first those above it where they are missing; one that exists
already will do. The first of the result is the storage as it is left, also after a refusal. -/
def makeDirectory (storage : Storage) (slashes : Nat) :
    (reversed : List String) → Storage × Option StorageRefusal
  | [] => (storage, none)
  | name :: above =>
    let path : Path := ⟨slashes, (name :: above).reverse⟩
    let settle := fun (storage : Storage) (cause : SystemCause) =>
      if storage.isDirectory path then (storage, none)
      else (storage, some (.system cause path.text))
    match storage.makeOne path with
    | .ok storage => (storage, none)
    | .error .notFound =>
      match storage.makeDirectory slashes above with
      | (storage, some refusal) => (storage, some refusal)
      | (storage, none) =>
        match storage.makeOne path with
        | .ok storage => (storage, none)
        | .error cause => settle storage cause
    | .error cause => settle storage cause

/-- Writes a text to the file at a path, in directories that are made if missing. The first of the
result is the storage as it is left, also after a refusal. -/
def write (storage : Storage) (path : Path) (text : String) : Storage × Option StorageRefusal :=
  if holdsNull path.parent then (storage, some .nullCharacter)
  else match storage.makeDirectory path.slashes path.parent.components.reverse with
    | (storage, some refusal) => (storage, some refusal)
    | (storage, none) =>
      if holdsNull path then (storage, some .nullCharacter)
      else match storage.place path with
        | .error cause => (storage, some (.system cause path.text))
        | .ok place =>
          match storage.root.at? place with
          | some (.directory _) => (storage, some (.system .isADirectory path.text))
          | _ => (storage.put place (.file (Utf8.encode text)), none)

end Storage

end Concord
