/-
Data files: JSON text that has to meet one of the published schemas, which is given by its name.
-/

import Concord.Schema.Published
import Concord.Storage
import Concord.Value.Json.Reader

namespace Concord.DataFile

/-! ### Refusals -/

/-- Why a value or a file is not accepted. -/
inductive Refusal where
  | unknownSchema (name : String)
  | notMet (schema : String) (violation : Schema.Violation)
  | unreadable (path : Path) (refusal : StorageRefusal)
  | notJson (path : Path) (refusal : Json.Refusal)
  deriving Repr

/-- The refusal belongs to the checking of data files; failures of decoding do not, nor paths that no file
can have, nor texts that are of the format and cannot be read. -/
def Refusal.isForeseen : Refusal → Bool
  | .unreadable _ (.system _ _) => true
  | .unreadable _ _ => false
  | .notJson _ refusal => refusal.isOfFormat
  | _ => true

/-- What is wrong, in words. -/
def Refusal.reason : Refusal → String
  | .unknownSchema name => s!"unknown schema: {name}"
  | .notMet schema violation => violation.message schema
  | .unreadable _ refusal => refusal.message
  | .notJson _ refusal => refusal.message

/-- The refusal in words. A file that cannot be used is named. -/
def Refusal.message (refusal : Refusal) : String :=
  match refusal with
  | .unreadable path _ | .notJson path _ =>
    if refusal.isForeseen then s!"cannot load {path.text}: {refusal.reason}" else refusal.reason
  | _ => refusal.reason

/-! ### Checking -/

/-- The value meets the schema of a name. -/
def check (schema : String) (value : Value) : Except Refusal Unit :=
  match Schema.published.lookup schema with
  | none => .error (.unknownSchema schema)
  | some conditions => (conditions.check value).mapError (.notMet schema)

/-- The value in the file at a path. -/
def load (reading : Json.Reading) (storage : Storage) (path : Path) : Except Refusal Value := do
  let text ← (storage.text path).mapError (.unreadable path)
  (reading text).mapError (.notJson path)

/-- The file at a path meets the schema of a name. The file is read before the schema is looked up. -/
def checkFile (reading : Json.Reading) (storage : Storage) (schema : String) (path : Path) :
    Except Refusal Unit := do
  let value ← load reading storage path
  check schema value

end Concord.DataFile
