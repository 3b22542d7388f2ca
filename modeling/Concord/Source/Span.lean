/-
A span is a stretch of a text given by two positions: it holds the characters from `start` up to but
not including `stop`.
-/

namespace Concord.Source

structure Span where
  start : Nat
  stop : Nat
  deriving DecidableEq, Repr

/-- The characters that a span covers. -/
def Span.slice (span : Span) (text : List Char) : List Char :=
  (text.drop span.start).take (span.stop - span.start)

theorem Span.length_slice_le (span : Span) (text : List Char) :
    (span.slice text).length ≤ span.stop - span.start := by
  simp only [Span.slice, List.length_take]
  omega

end Concord.Source
