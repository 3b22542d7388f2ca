/-
A region further down in a document, or in another document, holds the same declarations, imports and
methods at other places: nothing that is read from a region depends on where it stands.
-/

import Concord.Declaration.Body
import Concord.Import
import Mathlib.Data.List.Basic

namespace Concord

open Source

/-! ### Moving what has a place -/

/-- The place in a document, further down by so many lines. -/
def Source.Location.moved (location : Location) (document : String) (lines : Nat) : Location :=
  ⟨document, location.line + lines⟩

/-- The declaration as it would stand in a document further down by so many lines. -/
def Declaration.moved (declaration : Declaration) (document : String) (lines : Nat) : Declaration :=
  { declaration with location := declaration.location.moved document lines }

/-- The import as it would stand in a document further down by so many lines. -/
def Import.moved (imported : Import) (document : String) (lines : Nat) : Import :=
  { imported with location := imported.location.moved document lines }

/-- The method as it would stand in a document further down by so many lines. -/
def ServiceMethod.moved (method : ServiceMethod) (document : String) (lines : Nat) :
    ServiceMethod :=
  { method with location := method.location.moved document lines }

/-! ### Regions in another place -/

variable (text : String) (startLine lines : Nat) (plain document : String)

theorem views_passage : (Region.passage ⟨startLine, text⟩ document).views = Views.of text.toList :=
  rfl

theorem locate_moved (offset : Nat) :
    (Region.passage ⟨startLine + lines, text⟩ document).locate offset =
      ((Region.passage ⟨startLine, text⟩ plain).locate offset).moved document lines := by
  unfold Passage.locate Source.Location.moved Region.passage
  rw [Nat.add_right_comm]

theorem declarationsOf_moved :
    declarationsOf ⟨startLine + lines, text⟩ document =
      (declarationsOf ⟨startLine, text⟩ plain).map (·.moved document lines) := by
  rw [declarationsOf, declarationsOf, List.map_map]
  refine List.map_congr_left fun placed _ => ?_
  rw [Placed.declaration, locate_moved text startLine lines plain document]
  rfl

theorem methodsOf_moved (serviceSuffixes : List String) :
    methodsOf ⟨startLine + lines, text⟩ document serviceSuffixes =
      (methodsOf ⟨startLine, text⟩ plain serviceSuffixes).map (·.moved document lines) := by
  rw [methodsOf, methodsOf, List.map_flatMap]
  refine List.flatMap_congr fun placed _ => ?_
  unfold Placed.methods
  split
  · split
    · rw [Member.methods, Member.methods, List.map_filterMap]
      refine List.filterMap_congr fun span _ => ?_
      rw [Option.map_map]
      refine congrArg (Option.map · _) (funext fun ⟨start, name, parameters, returnType⟩ => ?_)
      simp only [locate_moved text startLine lines plain document]
      rfl
    · rfl
  · rfl

theorem ofRegion_moved :
    Import.ofRegion ⟨startLine + lines, text⟩ document =
      (Import.ofRegion ⟨startLine, text⟩ plain).map (·.moved document lines) := by
  rw [Import.ofRegion, Import.ofRegion, List.map_flatMap]
  refine List.flatMap_congr fun statement _ => ?_
  simp only [Import.ofStatement, views_passage]
  cases Text.strip (statement.2.quoted.slice (Views.of text.toList).clean) with
  | nil => rfl
  | cons c rest =>
    simp only [List.map_map]
    refine List.map_congr_left fun name _ => ?_
    rw [locate_moved text startLine lines plain document]
    rfl

end Concord
