/-
Where something stands: a document and a line of it, counted from one. A region is a stretch of source
inside a document together with the line on which it begins; a passage is a region as it is read, with
its views and the document it belongs to.
-/

import Concord.Source.Views

namespace Concord.Source

structure Location where
  document : String
  line : Nat
  deriving DecidableEq, Repr

/-- The document and the line with a colon between. -/
def Location.text (location : Location) : String :=
  s!"{location.document}:{location.line}"

/-- A stretch of source and the line of the document on which it begins. -/
structure Region where
  startLine : Nat
  text : String
  deriving DecidableEq, Repr

/-- How many lines the region has. -/
def Region.lineCount (region : Region) : Nat :=
  region.text.toList.count '\n' + 1

/-! ### Passages -/

/-- The views of a region, with the document it belongs to and the line on which it begins. -/
structure Passage where
  document : String
  startLine : Nat
  views : Views
  deriving DecidableEq, Repr

/-- The passage that a region of a document is. -/
def Region.passage (region : Region) (document : String) : Passage :=
  ⟨document, region.startLine, Views.of region.text.toList⟩

/-- Where a position of the passage stands in its document. -/
def Passage.locate (passage : Passage) (offset : Nat) : Location :=
  ⟨passage.document, passage.startLine + passage.views.lineOf offset⟩

end Concord.Source
