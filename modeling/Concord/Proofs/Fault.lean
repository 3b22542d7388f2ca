/-
What becomes of the bytes of a file that is there, whatever they are and however texts of the formats are
read. A document is made of them, or they are refused as a document. Settings and data files have a refusal
of their own too, but not for all bytes: those of no text may end a run as an internal error does, and so
does a text that its reader refuses although it is of the format, and a pattern that is sound and cannot be
put together.
-/

import Concord.Fault
import Concord.Proofs.Text.Utf8
import Mathlib.Data.List.Basic

namespace Concord

/-! ### Files that are there -/

namespace Storage

variable {storage : Storage} {path : Path} {content : List UInt8} {text : String}

end Storage

/-! ### Documents -/

namespace Settings

variable {readers : Readers} {storage : Storage} {path : Path} {content : List UInt8}

end Settings

/-! ### Data files -/

namespace DataFile

variable {reading : Json.Reading} {storage : Storage} {path : Path} {content : List UInt8}

end DataFile

/-! ### All three kinds of files -/

end Concord
