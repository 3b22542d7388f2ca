/-
Fenced blocks of a prose document. A fence is a line of at least three back quotes or tildes, indented
by at most three blanks, with an info text behind; the block lasts until a line that is nothing but at
least as many of the same marks. Only blocks whose info text begins with a wanted language are regions
of source; the other blocks are passed over as a whole. Lines outside every block are prose.
-/

import Concord.Source.Location
import Concord.Text.Blank
import Concord.Text.Case

namespace Concord.Document

open Source Text

/-! ### Fences -/

/-- The line that opens a block: its mark, how often it is repeated, and the info text. -/
structure Fence where
  mark : Char
  width : Nat
  info : List Char
  deriving DecidableEq, Repr

/-- The back quote. -/
def backQuote : Char := '\x60'

/-- The fence that a line without its indentation is. -/
def Fence.ofUnindented? : List Char → Option Fence
  | [] => none
  | mark :: rest =>
    let repeated := rest.takeWhile (· == mark)
    let info := rest.dropWhile (· == mark)
    if (mark = backQuote ∨ mark = '~') ∧ 2 ≤ repeated.length ∧ !info.contains backQuote then
      some ⟨mark, repeated.length + 1, stripStart info⟩
    else none

/-- The fence that a line is. -/
def Fence.ofLine? (line : List Char) : Option Fence :=
  if (line.takeWhile isBlank).length ≤ 3 then ofUnindented? (stripStart line) else none

/-- The line closes the block that the fence opened. -/
def Fence.isClosedBy (fence : Fence) (line : List Char) : Bool :=
  let marks := strip line
  !marks.isEmpty && marks.all (· == fence.mark) && fence.width ≤ marks.length

/-- Stands around the name of a language in an info text. -/
def isLanguageMark (c : Char) : Bool :=
  c == '\x7b' || c == '\x7d' || c == '.'

/-- The language that the info text names, in lower case; empty when it names none. -/
def Fence.language (fence : Fence) : List Char :=
  match words fence.info with
  | [] => []
  | word :: _ => lower (trim isLanguageMark word)

/-- The language is one of those wanted, letter case aside. -/
def Fence.isWanted (fence : Fence) (languages : List String) : Bool :=
  languages.any fun language => lower language.toList == fence.language

/-! ### Blocks -/

/-- A document cut into regions of source and numbered lines of prose. -/
structure Layout where
  regions : List Region
  prose : List (Nat × String)
  deriving DecidableEq, Repr

/-- A block that is being read: its fence, the line behind the fence, and its lines in reverse. -/
structure Block where
  isWanted : Bool
  fence : Fence
  firstLine : Nat
  lines : List (List Char)
  deriving DecidableEq, Repr

/-- The region that the lines of a block make. -/
def Block.region (block : Block) : Region :=
  ⟨block.firstLine, String.ofList (['\n'].intercalate block.lines.reverse)⟩

/-- One more region at the front. -/
def Layout.addRegion (layout : Layout) (region : Region) : Layout :=
  { layout with regions := region :: layout.regions }

/-- One more line of prose at the front. -/
def Layout.addProse (layout : Layout) (number : Nat) (line : List Char) : Layout :=
  { layout with prose := (number, String.ofList line) :: layout.prose }

/-- The layout of the lines from line `number` on, inside the given block if there is one. A block
that is never closed counts when it has a line. -/
def layoutFrom (languages : List String) (number : Nat) (block? : Option Block) :
    List (List Char) → Layout
  | [] =>
    match block? with
    | some block =>
      if block.isWanted && !block.lines.isEmpty then ⟨[block.region], []⟩ else ⟨[], []⟩
    | none => ⟨[], []⟩
  | line :: lines =>
    match block? with
    | none =>
      match Fence.ofLine? line with
      | some fence =>
        layoutFrom languages (number + 1)
          (some ⟨fence.isWanted languages, fence, number + 1, []⟩) lines
      | none => (layoutFrom languages (number + 1) none lines).addProse number line
    | some block =>
      if block.fence.isClosedBy line then
        let layout := layoutFrom languages (number + 1) none lines
        if block.isWanted then layout.addRegion block.region else layout
      else
        layoutFrom languages (number + 1) (some { block with lines := line :: block.lines }) lines

/-- The layout of a document: prose with fenced blocks, or a single region. -/
def Layout.of (isProse : Bool) (languages : List String) (text : String) : Layout :=
  if isProse then layoutFrom languages 1 none (lines text.toList)
  else ⟨[⟨1, text⟩], []⟩

end Concord.Document
