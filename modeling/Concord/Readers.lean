/-
The formats whose texts a run reads. How each of them is read is left open: a reader either makes something of
a text, or says what is wrong with it, or is stopped by something else. The readers of this library are one
choice.
-/

import Concord.Pattern.Reader
import Concord.Value.Yaml.Reader

namespace Concord

/-- A reader for each of the formats. -/
structure Readers where
  yaml : Yaml.Reading
  json : Json.Reading
  pattern : Pattern.Reading

/-- The readers of this library. Patterns may call characters by the given names. -/
def Readers.own (names : Pattern.CharacterNames) : Readers :=
  { yaml := Yaml.reading, json := Json.read, pattern := Pattern.read names }

end Concord
