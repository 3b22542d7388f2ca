/-
Settings from a settings file. An empty file leaves every setting as it is by default; any other has to be
a mapping, which is laid over the defaults.
-/

import Concord.Readers
import Concord.Settings.Overlay
import Concord.Storage

namespace Concord.Settings

/-! ### Refusals -/

/-- Why there are no settings. -/
inductive Refusal where
  | notFound (path : Path)
  | unreadable (path : Path) (refusal : Yaml.Refusal)
  | notAMapping (path : Path)
  | overlay (refusal : OverlayRefusal)
  deriving Repr

/-- The refusal of a mapping in words. -/
def OverlayRefusal.message : OverlayRefusal → String
  | .notMet violation => "invalid config: " ++ violation.message Schema.settingsName
  | .badPattern pattern =>
    if pattern.isForeseen then
      "invalid config: naming pair pattern \x60" ++ pattern.form ++ "\x60: " ++ pattern.message
    else pattern.message

/-- Settings are refused for a reason that belongs to settings; the rest are failures of decoding, of
making a value and of putting a pattern together. -/
def Refusal.isForeseen : Refusal → Bool
  | .overlay (.badPattern pattern) => pattern.isForeseen
  | .unreadable _ refusal => refusal.isOfFormat
  | _ => true

/-- The refusal in words. -/
def Refusal.message : Refusal → String
  | .notFound path => s!"config file not found: {path.text}"
  | .unreadable path refusal =>
    if refusal.isOfFormat then s!"invalid config {path.text}: {refusal.message}"
    else refusal.message
  | .notAMapping path => s!"invalid config {path.text}: root must be mapping"
  | .overlay refusal => refusal.message

/-! ### Reading -/

/-- The settings that a value stands for. -/
def ofValue (reading : Pattern.Reading) (path : Path) : Value → Except Refusal Settings
  | .null => .ok {}
  | .mapping entries => (overlay reading {} (.mapping entries)).mapError .overlay
  | _ => .error (.notAMapping path)

/-- The settings that a text stands for. -/
def ofText (readers : Readers) (path : Path) (text : String) : Except Refusal Settings := do
  let value ← (readers.yaml.ofText text).mapError (.unreadable path)
  ofValue readers.pattern path value

/-- The settings of the file at a path. -/
def ofFile (readers : Readers) (storage : Storage) (path : Path) : Except Refusal Settings :=
  match storage.isFile path, storage.bytes path with
  | true, .ok content =>
    match Storage.textOfBytes content with
    | .ok text => ofText readers path text
    | .error _ => .error (.unreadable path (readers.yaml.ofBroken content))
  | _, _ => .error (.notFound path)

end Concord.Settings
