/-
What every document that was read from a text is like: its declarations say that they stand in it, what
it declares and imports stands on lines that are counted from one, and no record of it has two fields of
one name.
-/

import Concord.Document.Reading
import Mathlib.Data.List.Nodup

namespace Concord

/-! ### Fields -/

theorem Member.firstOfName_spec (seen : List String) (fields : List Field) :
    ((firstOfName seen fields).map (·.name)).Nodup ∧
      ∀ field ∈ firstOfName seen fields, field.name ∉ seen := by
  induction fields generalizing seen with
  | nil => exact ⟨List.nodup_nil, fun _ absent => absurd absent List.not_mem_nil⟩
  | cons field fields inductionHypothesis =>
    rw [firstOfName]
    split
    · exact inductionHypothesis seen
    · rename_i fresh
      obtain ⟨distinct, apart⟩ := inductionHypothesis (field.name :: seen)
      refine ⟨?_, fun other member => ?_⟩
      · rw [List.map_cons, List.nodup_cons]
        refine ⟨fun repeated => ?_, distinct⟩
        obtain ⟨other, member, same⟩ := List.mem_map.1 repeated
        exact apart other member (same ▸ List.mem_cons_self)
      · rcases List.mem_cons.1 member with rfl | later
        · simpa using fresh
        · exact fun known => apart other later (List.mem_cons_of_mem _ known)

theorem Placed.nodup_fields {placed : Placed} {views : Source.Views}
    (isRecord : placed.head.kind = .record) : ((placed.fields views).map (·.name)).Nodup := by
  unfold Placed.fields
  rw [isRecord]
  cases placed.body with
  | expression span => exact List.nodup_nil
  | block opening closing => exact (Member.firstOfName_spec [] _).1

namespace Document

/-! ### Lines -/

theorem startLine_pos_of_mem_layoutFrom {languages : List String} {number : Nat}
    {block? : Option Block} {lines : List (List Char)}
    (opened : ∀ block ∈ block?, 0 < block.firstLine) :
    ∀ region ∈ (layoutFrom languages number block? lines).regions, 0 < region.startLine := by
  induction lines generalizing number block? with
  | nil =>
    cases block? with
    | none => simp [layoutFrom]
    | some block =>
      rw [layoutFrom]
      split
      · exact List.forall_mem_singleton.2 (opened block rfl)
      · simp
  | cons line lines inductionHypothesis =>
    cases block? with
    | none =>
      simp only [layoutFrom]
      split
      · exact inductionHypothesis fun block same => Option.mem_some.1 same ▸ Nat.succ_pos number
      · exact inductionHypothesis (by simp)
    | some block =>
      simp only [layoutFrom]
      split
      · split
        · exact List.forall_mem_cons.2 ⟨opened block rfl, inductionHypothesis (by simp)⟩
        · exact inductionHypothesis (by simp)
      · exact inductionHypothesis fun other same => Option.mem_some.1 same ▸ opened block rfl

/-- Regions begin on lines that are counted from one. -/
theorem startLine_pos_of_mem_layoutOf {settings : Settings} {identifier text : String}
    {region : Source.Region} (member : region ∈ (layoutOf settings identifier text).regions) :
    0 < region.startLine := by
  rw [layoutOf, Layout.of] at member
  split at member
  · exact startLine_pos_of_mem_layoutFrom (by simp) region member
  · exact List.mem_singleton.1 member ▸ Nat.one_pos

/-! ### Documents that were read -/

/-- The document is what some text is under its path. -/
def IsRead (document : Document) : Prop :=
  ∃ settings identifier text, document = ofText settings identifier text

theorem isRead_ofText (settings : Settings) (identifier text : String) :
    (ofText settings identifier text).IsRead :=
  ⟨settings, identifier, text, rfl⟩

variable {document : Document} (isRead : document.IsRead) {declaration : Declaration}
  (declared : declaration ∈ document.declarations)

include isRead declared

theorem IsRead.exists_placed :
    ∃ passage : Source.Passage, passage.document = document.identifier ∧
      ∃ placed : Placed, declaration = placed.declaration passage := by
  obtain ⟨settings, identifier, text, rfl⟩ := isRead
  obtain ⟨region, -, found⟩ := List.mem_flatMap.1 declared
  obtain ⟨placed, -, rfl⟩ := List.mem_map.1 found
  exact ⟨region.passage identifier, rfl, placed, rfl⟩

/-- A declaration stands in the document that declares it. -/
theorem IsRead.document_eq : declaration.document = document.identifier := by
  obtain ⟨passage, same, placed, rfl⟩ := isRead.exists_placed declared
  exact same

/-- A record has no two fields of one name. -/
theorem IsRead.nodup_fieldNames (isRecord : declaration.kind = .record) :
    declaration.fieldNames.Nodup := by
  obtain ⟨passage, -, placed, rfl⟩ := isRead.exists_placed declared
  exact placed.nodup_fields isRecord

theorem IsRead.line_pos : 0 < declaration.line := by
  obtain ⟨settings, identifier, text, rfl⟩ := isRead
  obtain ⟨region, inside, found⟩ := List.mem_flatMap.1 declared
  obtain ⟨placed, -, rfl⟩ := List.mem_map.1 found
  exact Nat.add_pos_left (startLine_pos_of_mem_layoutOf inside) _

omit declared in
theorem IsRead.importLine_pos {imported : Import} (listed : imported ∈ document.imports) :
    0 < imported.location.line := by
  obtain ⟨settings, identifier, text, rfl⟩ := isRead
  obtain ⟨region, inside, found⟩ := List.mem_flatMap.1 listed
  obtain ⟨⟨start, statement⟩, -, made⟩ := List.mem_flatMap.1 found
  simp only [Import.ofStatement] at made
  split at made
  · exact absurd made List.not_mem_nil
  · obtain ⟨name, -, rfl⟩ := List.mem_map.1 made
    exact Nat.add_pos_left (startLine_pos_of_mem_layoutOf inside) _

end Document

end Concord
