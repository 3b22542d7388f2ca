/-
The positions that the declarations of a document record are true. The regions of a document are cut out of
its lines one behind another, and joining the lines of a region and cutting them again changes nothing, so a
declaration records the line of the document that holds its name, and the lines of declarations grow from the
top of the document to its end. This is so for whatever text, fences and declarations left open included.
-/

import Concord.Document.Reading
import Concord.Proofs.Declaration.Places

namespace Concord

open Source Text

/-! ### Lines of a text -/

namespace Text

theorem intercalate_pieces (c : Char) (text : List Char) :
    [c].intercalate (pieces (· == c) text) = text := by
  induction text with
  | nil => rfl
  | cons d text inductionHypothesis =>
    obtain ⟨first, others, isPieces⟩ := List.exists_cons_of_ne_nil (pieces_ne_nil (· == c) text)
    by_cases same : d = c
    · subst same
      rw [@pieces_marked (· == d) d (beq_self_eq_true d), isPieces, List.intercalate_cons_cons, ← isPieces,
        inductionHypothesis]
      rfl
    · rw [@pieces_unmarked (· == c) d (beq_eq_false_iff_ne.2 same), isPieces, List.modifyHead_cons]
      rw [isPieces] at inductionHypothesis
      cases others with
      | nil => exact congrArg (d :: ·) inductionHypothesis
      | cons next others =>
        rw [List.intercalate_cons_cons, List.cons_append, List.cons_append, ← List.intercalate_cons_cons,
          inductionHypothesis]

theorem isOneLine_of_mem_linesFrom {seen text line : List Char} (isOneLine : IsOneLine seen)
    (member : line ∈ linesFrom seen text) : IsOneLine line := by
  have turned : IsOneLine seen.reverse := fun c inside => isOneLine c (List.mem_reverse.1 inside)
  have nothing : IsOneLine [] := fun _ absent => absurd absent List.not_mem_nil
  fun_induction linesFrom seen text with
  | case1 => exact absurd member List.not_mem_nil
  | case2 => exact List.mem_singleton.1 member ▸ turned
  | case3 seen rest inductionHypothesis =>
    rcases List.mem_cons.1 member with rfl | later
    · exact turned
    · exact inductionHypothesis nothing later nothing
  | case4 seen c rest _ isBoundary inductionHypothesis =>
    rcases List.mem_cons.1 member with rfl | later
    · exact turned
    · exact inductionHypothesis nothing later nothing
  | case5 seen c rest _ quiet inductionHypothesis =>
    have more : IsOneLine (c :: seen) := List.forall_mem_cons.2 ⟨Bool.not_eq_true _ ▸ quiet, isOneLine⟩
    exact inductionHypothesis more member fun d inside => more d (List.mem_reverse.1 inside)

theorem IsOneLine.noBreak {line : List Char} (isOneLine : IsOneLine line) : '\n' ∉ line :=
  fun inside => absurd (isOneLine '\n' inside) (by decide)

end Text

/-! ### Regions cut out of lines -/

namespace Document

/-- The regions are cut out of the lines, the first of which has the given number: one behind another, each
of lines that follow each other, with any number of lines left out between them. -/
inductive CutFrom : Nat → List (List Char) → List Region → Prop
  | nothing {number : Nat} {lines : List (List Char)} : CutFrom number lines []
  | skip {number : Nat} {line : List Char} {lines : List (List Char)} {regions : List Region} :
    CutFrom (number + 1) lines regions → CutFrom number (line :: lines) regions
  | region {number : Nat} {own lines : List (List Char)} {regions : List Region} :
    CutFrom (number + own.length) lines regions →
      CutFrom number (own ++ lines) (⟨number, String.ofList (['\n'].intercalate own)⟩ :: regions)

theorem CutFrom.skipAll {number : Nat} {passed lines : List (List Char)} {regions : List Region}
    (cut : CutFrom (number + passed.length) lines regions) : CutFrom number (passed ++ lines) regions := by
  induction passed generalizing number with
  | nil => exact cut
  | cons line passed inductionHypothesis =>
    refine .skip (inductionHypothesis ?_)
    rwa [List.length_cons, Nat.add_comm passed.length, ← Nat.add_assoc] at cut

/-- The regions of a layout are cut out of its lines. While a block is read, the lines that it has so far
still count as uncut, as only its end tells whether they make a region. -/
theorem cutFrom_layoutFrom (languages : List String) (number : Nat) (lines : List (List Char)) :
    CutFrom number lines (layoutFrom languages number none lines).regions ∧
      ∀ block : Block, block.firstLine + block.lines.length = number →
        CutFrom block.firstLine (block.lines.reverse ++ lines)
          (layoutFrom languages number (some block) lines).regions := by
  induction lines generalizing number with
  | nil =>
    refine ⟨.nothing, fun block _ => ?_⟩
    simp only [layoutFrom]
    split
    · exact .region .nothing
    · exact .nothing
  | cons line lines inductionHypothesis =>
    obtain ⟨outside, inside⟩ := inductionHypothesis (number + 1)
    constructor
    · simp only [layoutFrom]
      split
      · rename_i fence _
        exact .skip (inside ⟨fence.isWanted languages, fence, number + 1, []⟩ rfl)
      · exact .skip outside
    · rintro block rfl
      simp only [layoutFrom]
      split
      · have behind : CutFrom (block.firstLine + block.lines.reverse.length) (line :: lines)
            (layoutFrom languages (block.firstLine + block.lines.length + 1) none lines).regions := by
          rw [List.length_reverse]
          exact .skip outside
        split
        · exact .region behind
        · exact .skipAll behind
      · have further := inside { block with lines := line :: block.lines } (Nat.add_assoc ..).symm
        rwa [List.reverse_cons, List.append_assoc, List.singleton_append] at further

/-! ### Declarations and their lines -/

/-- The declaration records the number of one of the lines, of which the first has the given number, and
that line holds the name. -/
def StandsOn (declaration : Declaration) (number : Nat) (lines : List (List Char)) : Prop :=
  ∃ before line, declaration.line = number + before ∧ lines[before]? = some line ∧
    declaration.name.toList <:+: line

theorem StandsOn.behind {declaration : Declaration} {number : Nat} {passed lines : List (List Char)}
    (stands : StandsOn declaration (number + passed.length) lines) :
    StandsOn declaration number (passed ++ lines) := by
  obtain ⟨before, line, isLine, found, holds⟩ := stands
  refine ⟨passed.length + before, line, by rw [isLine, Nat.add_assoc], ?_, holds⟩
  rw [List.getElem?_append_right (Nat.le_add_right _ _), Nat.add_sub_cancel_left, found]

/-- What a region of joined lines declares stands on one of these lines. -/
theorem exists_line_of_joined {number : Nat} {own : List (List Char)}
    (noBreak : ∀ line ∈ own, '\n' ∉ line) {document : String} {declaration : Declaration}
    (declared : declaration ∈
      declarationsOf ⟨number, String.ofList (['\n'].intercalate own)⟩ document) :
    StandsOn declaration number own := by
  obtain ⟨before, line, isLine, found, holds, something⟩ := exists_line_of_mem declared
  refine ⟨before, line, isLine, ?_, holds⟩
  rw [String.toList_ofList] at found
  -- A block without lines makes one empty line, which holds no name.
  rcases List.eq_nil_or_concat own with rfl | ⟨opening, last, rfl⟩
  · obtain rfl : line = [] := List.mem_singleton.1 (List.mem_of_getElem? found)
    exact absurd (List.infix_nil.1 holds) something
  · have unmarked : ∀ text ∈ opening.concat last, ∀ c ∈ text, (c == '\n') = false :=
      fun text member c inside =>
        beq_eq_false_iff_ne.2 fun same => noBreak text member (same ▸ inside)
    rwa [@pieces_intercalate (· == '\n') '\n' (by decide) _ (by simp) unmarked] at found

/-- What regions cut out of lines declare stands on these lines, from the top downwards. -/
theorem CutFrom.declared {number : Nat} {lines : List (List Char)} {regions : List Region}
    (cut : CutFrom number lines regions) (noBreak : ∀ line ∈ lines, '\n' ∉ line) (document : String) :
    (∀ declaration ∈ regions.flatMap (declarationsOf · document), StandsOn declaration number lines) ∧
      ((regions.flatMap (declarationsOf · document)).map (·.line)).Pairwise (· < ·) := by
  induction cut with
  | nothing => exact ⟨fun _ absent => absurd absent List.not_mem_nil, .nil⟩
  | @skip number line lines regions cut inductionHypothesis =>
    obtain ⟨stand, inOrder⟩ := inductionHypothesis (List.forall_mem_cons.1 noBreak).2
    exact ⟨fun declaration member =>
      @StandsOn.behind declaration number [line] lines (stand declaration member), inOrder⟩
  | @region number own lines regions cut inductionHypothesis =>
    rw [List.forall_mem_append] at noBreak
    obtain ⟨stand, inOrder⟩ := inductionHypothesis noBreak.2
    have here := fun declaration => @exists_line_of_joined number own noBreak.1 document declaration
    rw [List.flatMap_cons, List.map_append, List.pairwise_append]
    refine ⟨List.forall_mem_append.2 ⟨fun declaration member => ?_, fun declaration member =>
      (stand declaration member).behind⟩, lines_inOrder _ document, inOrder, ?_⟩
    · obtain ⟨before, line, isLine, found, holds⟩ := here declaration member
      refine ⟨before, line, isLine, ?_, holds⟩
      rw [List.getElem?_append_left (List.getElem?_eq_some_iff.1 found).1, found]
    · intro first firstMember second secondMember
      obtain ⟨declaration, member, rfl⟩ := List.mem_map.1 firstMember
      obtain ⟨other, otherMember, rfl⟩ := List.mem_map.1 secondMember
      obtain ⟨before, line, isLine, found, -⟩ := here declaration member
      obtain ⟨otherBefore, -, isOtherLine, -, -⟩ := stand other otherMember
      have within := (List.getElem?_eq_some_iff.1 found).1
      rw [isLine, isOtherLine]
      omega

/-- The lines of a text under its path: those of prose, or else what stands between line feeds. -/
def sourceLines (settings : Settings) (identifier text : String) : List (List Char) :=
  if isProse settings identifier then lines text.toList else pieces (· == '\n') text.toList

theorem cutFrom_layoutOf (settings : Settings) (identifier text : String) :
    CutFrom 1 (sourceLines settings identifier text) (layoutOf settings identifier text).regions := by
  rw [sourceLines, layoutOf, Layout.of]
  split
  · exact (cutFrom_layoutFrom settings.fenceLanguages 1 (lines text.toList)).1
  · have whole := @CutFrom.region 1 (pieces (· == '\n') text.toList) [] [] .nothing
    rwa [intercalate_pieces, String.ofList_toList, List.append_nil] at whole

theorem noBreak_of_mem_sourceLines {settings : Settings} {identifier text : String} {line : List Char}
    (member : line ∈ sourceLines settings identifier text) : '\n' ∉ line := by
  unfold sourceLines at member
  split at member
  · exact (isOneLine_of_mem_linesFrom (fun _ absent => absurd absent List.not_mem_nil) member).noBreak
  · exact fun inside => absurd (isBlank_of_mem_pieces member '\n' inside) (by decide)

/-- The declarations of a document record the lines that hold their names, in increasing order, and within
a region none of them has its head inside the body of another. -/
theorem positions_ofText (settings : Settings) (identifier text : String) :
    let declarations := (ofText settings identifier text).declarations
    let lines := sourceLines settings identifier text
    (declarations.map (·.line)).Pairwise (· < ·) ∧
      (∀ declaration ∈ declarations, 1 ≤ declaration.line ∧ declaration.line ≤ lines.length ∧
        ∃ line, lines[declaration.line - 1]? = some line ∧ declaration.name.toList <:+: line) ∧
      ∀ region ∈ (layoutOf settings identifier text).regions,
        (Placed.all (region.passage identifier).views).Pairwise fun first second =>
          first.head.IsOutside second.body ∧ second.head.IsOutside first.body := by
  obtain ⟨stand, inOrder⟩ := (cutFrom_layoutOf settings identifier text).declared
    (fun _ => noBreak_of_mem_sourceLines) identifier
  refine ⟨inOrder, fun declaration member => ?_, fun region _ => Placed.heads_isOutside _⟩
  obtain ⟨before, line, isLine, found, holds⟩ := stand declaration member
  have within := (List.getElem?_eq_some_iff.1 found).1
  rw [isLine, Nat.add_sub_cancel_left]
  exact ⟨by omega, by omega, line, found, holds⟩

end Document

end Concord
