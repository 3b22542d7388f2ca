/-
A document read from its file. Its identifier is the path in its normal form.
-/

import Concord.Document.Reading
import Concord.Storage

namespace Concord.Document

/-- A document whose file cannot be read. -/
structure Unreadable where
  path : Path
  refusal : StorageRefusal
  deriving DecidableEq, Repr

namespace Unreadable

/-- The file is refused for a reason that belongs to reading a document; a path that no file can have is
a failure of another kind. -/
def isForeseen (unreadable : Unreadable) : Bool :=
  unreadable.refusal != .nullCharacter

/-- Why the document cannot be read, in words. -/
def reason (unreadable : Unreadable) : String :=
  match unreadable.refusal with
  | .system .notFound _ => "file not found"
  | refusal => refusal.message

/-- The refusal in words. -/
def message (unreadable : Unreadable) : String :=
  if unreadable.isForeseen then
    s!"cannot read document {unreadable.path.text}: {unreadable.reason}"
  else unreadable.reason

end Unreadable

/-- The document in the file at a path. -/
def ofFile (settings : Settings) (storage : Storage) (path : Path) : Except Unreadable Document :=
  match storage.text path with
  | .ok text => .ok (ofText settings path.text text)
  | .error refusal => .error ⟨path, refusal⟩

/-- The documents in the files at paths. The first that cannot be read is reported. -/
def ofFiles (settings : Settings) (storage : Storage) (paths : List Path) :
    Except Unreadable (List Document) :=
  paths.mapM (ofFile settings storage)

end Concord.Document
