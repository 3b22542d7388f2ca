/-
A prose document is read block by block: what it declares, imports and offers is what its blocks of the
wanted languages would give by themselves as plain documents, one after another, each further down by
the lines before it. Prose gives routes, and nothing else does.
-/

import Concord.Document.Reading
import Concord.Proofs.Document.Manuscript
import Concord.Proofs.Source.Region

namespace Concord.Document

open Source Text

/-! ### Plain documents -/

variable {settings : Settings} {identifier plain : String}

theorem regions_of_plain (isPlain : isProse settings plain = false) (text : String) :
    (layoutOf settings plain text).regions = [⟨1, text⟩] := by
  rw [layoutOf, isPlain, Layout.of, if_neg Bool.false_ne_true]

/-! ### Block by block -/

/-- The blocks of a manuscript in the languages that the settings want, each with the number of lines
before its body. -/
def Manuscript.wantedBlocks (manuscript : Manuscript) (settings : Settings) :
    List (Nat × FencedBlock) :=
  manuscript.blocks.filter (·.2.isWanted settings.fenceLanguages)

section

variable (manuscript : Manuscript) (isProse : isProse settings identifier = true)

include isProse

theorem regions_manuscript :
    (layoutOf settings identifier manuscript.text).regions =
      (manuscript.wantedBlocks settings).map fun (before, block) => block.region before := by
  obtain ⟨numbered, isLayout, -⟩ := manuscript.layoutOf_text settings.fenceLanguages
  rw [layoutOf, isProse, isLayout, Manuscript.wantedBlocks]

theorem routes_manuscript :
    (ofText settings identifier manuscript.text).routes =
      manuscript.prose.filterMap fun (number, line) =>
        (routeOfLine? line).map fun (method, path) => ⟨method, path, ⟨identifier, number⟩⟩ := by
  obtain ⟨numbered, isLayout, missing, isNumbered, areEmpty⟩ :=
    manuscript.layoutOf_text settings.fenceLanguages
  have nothing : routesOf identifier missing = [] := by
    refine List.filterMap_eq_nil_iff.2 fun (number, line) member => ?_
    obtain rfl : line = "" := areEmpty _ member
    rfl
  have all : routesOf identifier (numbered ++ missing) = routesOf identifier numbered := by
    rw [routesOf, List.filterMap_append, ← routesOf, ← routesOf, nothing, List.append_nil]
  simp only [ofText, layoutOf, isProse, isLayout]
  rw [← all, ← isNumbered, routesOf, List.filterMap_map]
  refine List.filterMap_congr fun (number, line) _ => ?_
  simp only [Function.comp_apply, String.toList_ofList]

variable (isPlain : Document.isProse settings plain = false)

include isPlain

/-- Whatever is read from regions and moves with them is read from a manuscript block by block. -/
theorem flatMap_regions_manuscript {Value : Type} (read : Region → String → List Value)
    {moved : Value → String → Nat → Value}
    (isMoved : ∀ text startLine lines plain document,
      read ⟨startLine + lines, text⟩ document =
        (read ⟨startLine, text⟩ plain).map (moved · document lines)) :
    (layoutOf settings identifier manuscript.text).regions.flatMap (read · identifier) =
      (manuscript.wantedBlocks settings).flatMap fun (before, block) =>
        ((layoutOf settings plain block.text).regions.flatMap (read · plain)).map
          (moved · identifier before) := by
  simp only [regions_manuscript manuscript isProse, regions_of_plain isPlain, List.flatMap_map,
    List.flatMap_singleton, FencedBlock.region]
  refine List.flatMap_congr fun (before, block) _ => ?_
  rw [← isMoved, Nat.add_comm]

/-- A prose document declares, imports and offers what its blocks of the wanted languages do by
themselves, and its prose names its routes. -/
theorem ofText_manuscript :
    (ofText settings identifier manuscript.text).declarations =
        (manuscript.wantedBlocks settings).flatMap (fun (before, block) =>
          (ofText settings plain block.text).declarations.map (·.moved identifier before)) ∧
      (ofText settings identifier manuscript.text).imports =
        (manuscript.wantedBlocks settings).flatMap (fun (before, block) =>
          (ofText settings plain block.text).imports.map (·.moved identifier before)) ∧
      (ofText settings identifier manuscript.text).serviceMethods =
        (manuscript.wantedBlocks settings).flatMap (fun (before, block) =>
          (ofText settings plain block.text).serviceMethods.map (·.moved identifier before)) ∧
      (ofText settings identifier manuscript.text).routes =
        manuscript.prose.filterMap fun (number, line) =>
          (routeOfLine? line).map fun (method, path) => ⟨method, path, ⟨identifier, number⟩⟩ := by
  refine ⟨?_, ?_, ?_, routes_manuscript manuscript isProse⟩
  · exact flatMap_regions_manuscript manuscript isProse isPlain declarationsOf declarationsOf_moved
  · exact flatMap_regions_manuscript manuscript isProse isPlain Import.ofRegion ofRegion_moved
  · exact flatMap_regions_manuscript manuscript isProse isPlain
      (methodsOf · · settings.serviceSuffixes) fun text startLine lines plain document =>
        methodsOf_moved text startLine lines plain document settings.serviceSuffixes

end

/-! ### A manuscript -/

/-- A block of drawings that shows the fences of another block. -/
def drawingBlock : FencedBlock where
  indentation := 1
  mark := '~'
  width := 3
  info := " text".toList
  body := ["```ts".toList, "type Shown = string;".toList, "```".toList]
  isIndented := by decide
  isMark := by decide
  isWide := by decide
  isQuiet := by decide
  isBehindMarks := by decide
  isInside := by decide +kernel

/-- A block of source that goes on to the end of the document. -/
def orderBlock : FencedBlock where
  indentation := 0
  mark := backQuote
  width := 4
  info := "TypeScript title".toList
  body := ["".toList, "interface Order { total: number }".toList]
  isIndented := by decide
  isMark := by decide
  isWide := by decide
  isQuiet := by decide
  isBehindMarks := by decide
  isInside := by decide +kernel

/-- Two lines of prose, a block that is passed over and a block that is read. -/
def orderManuscript : Manuscript where
  parts :=
    [.prose "# Orders".toList (by decide +kernel),
      .prose "### GET /orders".toList (by decide +kernel),
      .fenced drawingBlock " ~~~~ ".toList (by decide +kernel)]
  unclosed? := some orderBlock
  isEnded := true
  areOneLine := by decide +kernel
  endsInside := by
    intro block isUnclosed
    obtain rfl := Option.some.inj isUnclosed
    exact ⟨_, rfl, by decide⟩

theorem ofText_orderManuscript :
    isProse {} "orders.md" = true ∧ isProse {} "orders.ts" = false ∧
      (ofText {} "orders.md" orderManuscript.text).declarations =
        (ofText {} "orders.ts" orderBlock.text).declarations.map (·.moved "orders.md" 8) ∧
      (ofText {} "orders.md" orderManuscript.text).routes =
        [⟨"GET", "/orders", ⟨"orders.md", 2⟩⟩] := by
  have prose : isProse {} "orders.md" = true := by decide +kernel
  have plain : isProse {} "orders.ts" = false := by decide +kernel
  obtain ⟨declarations, -, -, routes⟩ := ofText_manuscript orderManuscript prose plain
  refine ⟨prose, plain, declarations.trans ?_, routes.trans ?_⟩
  · have passedOver : drawingBlock.isWanted ({} : Settings).fenceLanguages = false := by
      decide +kernel
    have read : orderBlock.isWanted ({} : Settings).fenceLanguages = true := by decide +kernel
    have written : orderManuscript.blocks = [(3, drawingBlock), (8, orderBlock)] := rfl
    have blocks : orderManuscript.wantedBlocks {} = [(8, orderBlock)] := by
      simp [Manuscript.wantedBlocks, written, passedOver, read]
    rw [blocks, List.flatMap_singleton]
  · decide +kernel

end Concord.Document
