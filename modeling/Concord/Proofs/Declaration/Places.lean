/-
Where declarations stand. A head opens a line and has its name on it, and the masked view shows both as the
source has them, so the line of the source that a declaration records holds its name. The walk over the
heads never goes back: the next head stands behind the body before it, and as it opens a line of its own,
the lines of declarations grow. No head stands in the body of another declaration.
-/

import Concord.Proofs.Declaration.Masked
import Concord.Proofs.Source.Alignment
import Mathlib.Data.List.Forall2

namespace Concord

open Source Text

/-! ### Lines by position -/

namespace Text

theorem length_pieces (marked : Char → Bool) (text : List Char) :
    (pieces marked text).length = text.countP marked + 1 := by
  induction text with
  | nil => rfl
  | cons c text inductionHypothesis =>
    cases mark : marked c with
    | true => rw [pieces_marked mark, List.length_cons, inductionHypothesis, List.countP_cons_of_pos mark]
    | false =>
      rw [pieces_unmarked mark, List.length_modifyHead, inductionHypothesis,
        List.countP_cons_of_neg (by simp [mark])]

theorem pieces_append_unmarked {marked : Char → Bool} {run : List Char}
    (unmarked : ∀ c ∈ run, marked c = false) (rest : List Char) :
    pieces marked (run ++ rest) = (pieces marked rest).modifyHead (run ++ ·) := by
  induction run with
  | nil => rw [List.nil_append]; cases pieces marked rest <;> rfl
  | cons c run inductionHypothesis =>
    rw [List.forall_mem_cons] at unmarked
    rw [List.cons_append, pieces_unmarked unmarked.1, inductionHypothesis unmarked.2,
      List.modifyHead_modifyHead]
    rfl

/-- The position begins a line of the text. -/
def BeginsLine (text : List Char) (position : Nat) : Prop :=
  position = 0 ∨ text[position - 1]? = some '\n'

theorem take_eq_of_break {text : List Char} {position : Nat} (behind : 0 < position)
    (isBreak : text[position - 1]? = some '\n') :
    text.take position = text.take (position - 1) ++ ['\n'] := by
  rw [← Nat.sub_add_cancel behind, List.take_add_one, isBreak, Nat.add_sub_cancel]
  rfl

/-- The line that begins at a position is the piece behind as many line feeds. -/
theorem getElem?_pieces_lineOf {text : List Char} {position : Nat} (begins : BeginsLine text position) :
    (pieces (· == '\n') text)[lineOf text position]? =
      (pieces (· == '\n') (text.drop position)).head? := by
  rcases Nat.eq_zero_or_pos position with rfl | behind
  · rw [lineOf_zero, List.drop_zero, List.head?_eq_getElem?]
  · have opening := take_eq_of_break behind (begins.resolve_left (Nat.ne_of_gt behind))
    have count : lineOf text position =
        (pieces (· == '\n') (text.take (position - 1))).length := by
      rw [lineOf, opening, length_pieces, List.count_append, List.count_singleton_self, List.count]
    have cut : pieces (· == '\n') text = pieces (· == '\n') (text.take (position - 1)) ++
        pieces (· == '\n') (text.drop position) := by
      rw [← @pieces_append_marked (· == '\n') '\n' (by decide), ← List.singleton_append,
        ← List.append_assoc, ← opening, List.take_append_drop]
    rw [cut, count, List.getElem?_append_right (Nat.le_refl _), Nat.sub_self,
      List.head?_eq_getElem?]

/-- A later line has a greater number. -/
theorem lineOf_lt {text : List Char} {first second : Nat} (later : first < second)
    (begins : BeginsLine text second) : lineOf text first < lineOf text second := by
  have behind := Nat.zero_lt_of_lt later
  have opening := take_eq_of_break behind (begins.resolve_left (Nat.ne_of_gt behind))
  have within : (text.take first).count '\n' ≤ (text.take (second - 1)).count '\n' :=
    (List.take_sublist_take_left (by omega)).count_le '\n'
  rw [lineOf, lineOf, opening, List.count_append, List.count_singleton_self]
  omega

/-- What the line that begins at a position goes on with is inside that line. -/
theorem exists_line_of_reaches {text run rest : List Char} {position : Nat}
    (begins : BeginsLine text position) (reaches : Head.Reaches (text.drop position) (run ++ rest))
    (oneLine : '\n' ∉ run) :
    ∃ line, (pieces (· == '\n') text)[lineOf text position]? = some line ∧ run <:+: line := by
  obtain ⟨opening, alsoOneLine, isText⟩ := reaches
  obtain ⟨piece, others, isPieces⟩ := List.exists_cons_of_ne_nil (pieces_ne_nil (· == '\n') rest)
  have unmarked : ∀ c ∈ opening ++ run, (c == '\n') = false := by
    refine fun c inside => beq_eq_false_iff_ne.2 fun same => ?_
    exact (List.mem_append.1 inside).elim (same ▸ alsoOneLine) (same ▸ oneLine)
  refine ⟨opening ++ run ++ piece, ?_, opening, piece, rfl⟩
  rw [getElem?_pieces_lineOf begins, isText, ← List.append_assoc, pieces_append_unmarked unmarked,
    isPieces]
  rfl

end Text

/-! ### The masked view and the source -/

namespace Source

/-- The masked text is the text with some characters blanked, and its lines end where those of the text do. -/
def Masks (masked text : List Char) : Prop :=
  List.Forall₂ (fun shown c => (shown = c ∨ shown = ' ') ∧ (shown = '\n' ↔ c = '\n')) masked text

theorem masks_masked (source : List Char) : Masks (Views.of source).masked source := by
  have each : ∀ mode, Masks ((cellsFrom mode source).map (·.masked)) source := by
    induction source with
    | nil => exact fun _ => .nil
    | cons c source inductionHypothesis =>
      refine fun mode => .cons ⟨?_, (mode.isAligned_cell c source).maskedBreak⟩ (inductionHypothesis _)
      have aligned := mode.isAligned_cell c source
      rcases aligned.masked with same | blank
      · exact aligned.clean.imp same.trans same.trans
      · exact .inr blank
  exact each .code

namespace Masks

variable {masked text : List Char}

theorem count_break (masks : Masks masked text) : masked.count '\n' = text.count '\n' := by
  induction masks with
  | nil => rfl
  | cons here _ inductionHypothesis =>
    rw [List.count_cons, List.count_cons, inductionHypothesis]
    simp only [beq_iff_eq, here.2]

theorem oneLine (masks : Masks masked text) (inLine : '\n' ∉ masked) : '\n' ∉ text :=
  List.count_eq_zero.1 (masks.count_break ▸ List.count_eq_zero.2 inLine)

theorem eq_of_noSpace (masks : Masks masked text) (noSpace : ' ' ∉ masked) : masked = text := by
  induction masks with
  | nil => rfl
  | cons here _ inductionHypothesis =>
    rw [List.mem_cons, not_or] at noSpace
    rw [here.1.resolve_right (Ne.symm noSpace.1), inductionHypothesis noSpace.2]

theorem lineOf_eq (masks : Masks masked text) (position : Nat) :
    lineOf masked position = lineOf text position :=
  count_break (List.forall₂_take position masks)

theorem append_inv {first second : List Char} (masks : Masks (first ++ second) text) :
    ∃ opening rest, text = opening ++ rest ∧ Masks first opening ∧ Masks second rest := by
  refine ⟨text.take first.length, text.drop first.length, (List.take_append_drop _ _).symm, ?_, ?_⟩
  · have opening := List.forall₂_take first.length masks
    rwa [List.take_left] at opening
  · have rest := List.forall₂_drop first.length masks
    rwa [List.drop_left] at rest

/-- What the masked text goes on with is what the text goes on with, if it holds no blank. -/
theorem exists_reaches (masks : Masks masked text) {run rest : List Char}
    (reaches : Head.Reaches masked (run ++ rest)) (noSpace : ' ' ∉ run) :
    ∃ behind, Head.Reaches text (run ++ behind) := by
  obtain ⟨opening, oneLine, rfl⟩ := reaches
  obtain ⟨first, others, rfl, masksFirst, masks⟩ := masks.append_inv
  obtain ⟨own, behind, rfl, masksOwn, -⟩ := masks.append_inv
  exact ⟨behind, first, masksFirst.oneLine oneLine, masksOwn.eq_of_noSpace noSpace ▸ rfl⟩

end Masks

end Source

/-! ### Names in heads -/

namespace Head

theorem isSuffix_of_annotated {text rest : List Char}
    (found : behindAnnotation text = some rest) : rest <:+ text := by
  unfold behindAnnotation at found
  split at found
  · simp only at found
    split at found
    · exact absurd found (by simp)
    · exact Option.some.inj found ▸ (List.dropWhile_suffix _).trans (List.suffix_cons _ _)
  · exact Option.some.inj found ▸ List.suffix_refl _

theorem skipFreeze_isSuffix (text : List Char) : skipFreeze text <:+ text := by
  unfold skipFreeze
  cases found : after? "Object.freeze(".toList text with
  | none => exact List.suffix_refl text
  | some rest =>
    rw [eq_append_of_after? found]
    exact (List.dropWhile_suffix _).trans (List.suffix_append _ _)

theorem isSuffix_of_behind? {expected : Char} {text rest : List Char}
    (found : behind? expected text = some rest) : rest <:+ text :=
  eq_cons_of_behind? found ▸ List.suffix_cons _ _

theorem ne_nil_of_isIdentifier {name : List Char} (isName : isIdentifier name = true) : name ≠ [] := by
  rintro rfl
  exact absurd isName (by decide)

/-- The text goes on within its line as far as a name, and the rest stands behind that name. -/
def Names (text name left : List Char) : Prop :=
  isIdentifier name = true ∧ ∃ rest, Reaches text (name ++ rest) ∧ left <:+ rest

theorem names_of_keyword {keyword text behind name rest : List Char} (isWord : IsWord keyword)
    (isKeyword : inlineKeyword? keyword text = some behind)
    (isName : identifier? behind = some (name, rest)) {left : List Char} (ends : left <:+ rest) :
    Names text name left :=
  ⟨isIdentifier_of_identifier? isName, rest,
    identifier?_append isName ▸ reaches_of_inlineKeyword? isWord isKeyword, ends⟩

theorem Names.of_reaches {line text name left : List Char} (reaches : Reaches line text)
    (names : Names text name left) : Names line name left := by
  obtain ⟨isName, rest, inside, ends⟩ := names
  exact ⟨isName, rest, reaches.trans inside, ends⟩

/-- Whatever the kind of a head, its name stands on the line that it opens. -/
theorem names_of_read? {kind : DeclarationKind} {line name left : List Char}
    (found : read? kind line = some (name, left)) : Names line name left := by
  refine .of_reaches (reaches_behindModifiers line) ?_
  cases kind with
  | record =>
    obtain ⟨behind, isKeyword, isName⟩ := Option.bind_eq_some_iff.1 found
    exact names_of_keyword (by decide) isKeyword isName (List.suffix_refl left)
  | typeAlias =>
    simp only [read?, typeAlias?, bind, Option.bind_eq_some_iff, pure, Option.some.injEq,
      Prod.mk.injEq] at found
    obtain ⟨_, ⟨behind, isKeyword, isName⟩, _, parameters, _, equals, rfl, rfl⟩ := found
    refine names_of_keyword (by decide) isKeyword isName ?_
    exact (isSuffix_of_behind? equals).trans <| (List.dropWhile_suffix _).trans <|
      (isSuffix_of_behindOptionalParameters parameters).trans (List.dropWhile_suffix _)
  | enumeration =>
    simp only [read?, enumeration?, bind, Option.bind_eq_some_iff, pure, Option.some.injEq,
      Prod.mk.injEq] at found
    obtain ⟨_, ⟨behind, isKeyword, isName⟩, _, brace, rfl, rfl⟩ := found
    refine .of_reaches (reaches_skipInline (by decide : IsWord "const".toList) _) ?_
    exact names_of_keyword (by decide) isKeyword isName
      ((isSuffix_of_behind? brace).trans (List.dropWhile_suffix _))
  | constantGroup =>
    simp only [read?, constantGroup?, bind, Option.bind_eq_some_iff, pure, Option.some.injEq,
      Prod.mk.injEq] at found
    obtain ⟨_, ⟨behind, isKeyword, isName⟩, _, annotation, _, equals, _, brace, rfl, rfl⟩ := found
    refine names_of_keyword (by decide) isKeyword isName ?_
    exact (isSuffix_of_behind? brace).trans <| (skipFreeze_isSuffix _).trans <|
      (List.dropWhile_suffix _).trans <| (isSuffix_of_behind? equals).trans <|
        (isSuffix_of_annotated annotation).trans (List.dropWhile_suffix _)

theorem StandsIn.names {head : Head} {masked : List Char} (stands : head.StandsIn masked) :
    ∃ left, Names (masked.drop head.start) head.name left := by
  obtain ⟨left, read, -⟩ := stands.read
  exact ⟨left, names_of_read? read⟩

/-- A head ends behind the place where it begins. -/
theorem StandsIn.start_lt_stop {head : Head} {masked : List Char} (stands : head.StandsIn masked) :
    head.start < head.stop := by
  obtain ⟨left, read, isStop⟩ := stands.read
  obtain ⟨isName, rest, ⟨opening, -, isText⟩, ends⟩ := names_of_read? read
  have something := List.length_pos_of_ne_nil (ne_nil_of_isIdentifier isName)
  have size := ends.length_le
  rw [isText, List.length_append, List.length_append] at isStop
  omega

end Head

/-! ### Bodies behind heads -/

/-- The body behind a head begins with the last character of the head at the earliest, and what it
consumes goes at least as far as the head. -/
theorem Head.bounds_of_body? {head : Head} {views : Views} {body : Body}
    (hasBody : head.body? views = some body) :
    head.stop - 1 ≤ body.start ∧ head.stop ≤ body.behind := by
  cases isKind : head.kind with
  | typeAlias =>
    simp only [Head.body?, isKind, Option.ite_none_left_eq_some, Option.some.injEq] at hasBody
    obtain ⟨-, rfl⟩ := hasBody
    exact ⟨Nat.sub_le _ _, Nat.le_add_right _ _⟩
  | record =>
    simp only [Head.body?, Head.opening?, isKind, bind, Option.bind_eq_some_iff, pure,
      Option.some.injEq] at hasBody
    obtain ⟨opening, opens, closing, closes, rfl⟩ := hasBody
    obtain ⟨offset, -, rfl⟩ := Option.map_eq_some_iff.1 opens
    have inOrder := (closing?_lt closes).1
    simp only [Body.start, Body.behind]
    omega
  | enumeration | constantGroup =>
    simp only [Head.body?, Head.opening?, isKind, bind, Option.bind_some, Option.bind_eq_some_iff,
      pure, Option.some.injEq] at hasBody
    obtain ⟨closing, closes, rfl⟩ := hasBody
    have inOrder := (closing?_lt closes).1
    simp only [Body.start, Body.behind]
    omega

/-! ### Declarations apart -/

/-- The position is between the braces of the body, these included, or in its type expression. -/
def Body.Covers (body : Body) (position : Nat) : Prop :=
  body.start ≤ position ∧ position < body.behind

/-- The body covers nothing of the head. -/
def Head.IsOutside (head : Head) (body : Body) : Prop :=
  ∀ position, head.start ≤ position → position < head.stop → ¬ body.Covers position

namespace Placed

variable {views : Views}

/-- The walk over the heads emits none that begins before what is consumed, and goes on behind each body. -/
theorem among_inOrder {heads : List Head} (stand : ∀ head ∈ heads, head.StandsIn views.masked)
    (consumed : Nat) :
    (∀ placed ∈ among views consumed heads, consumed ≤ placed.head.start) ∧
      (among views consumed heads).Pairwise fun first second =>
        first.body.behind ≤ second.head.start := by
  induction heads generalizing consumed with
  | nil => exact ⟨fun _ absent => absurd absent List.not_mem_nil, .nil⟩
  | cons head heads inductionHypothesis =>
    obtain ⟨here, later⟩ := List.forall_mem_cons.1 stand
    rw [among]
    split
    · exact inductionHypothesis later consumed
    · rename_i fresh
      split
      · exact inductionHypothesis later consumed
      · rename_i body hasBody
        obtain ⟨behind, inOrder⟩ := inductionHypothesis later body.behind
        have bounds := Head.bounds_of_body? hasBody
        have grows := here.start_lt_stop
        refine ⟨List.forall_mem_cons.2 ⟨Nat.le_of_not_lt fresh, fun placed member => ?_⟩,
          .cons behind inOrder⟩
        have further := behind placed member
        omega

theorem standsIn_of_mem_all {placed : Placed} (emitted : placed ∈ all views) :
    placed.head.StandsIn views.masked :=
  Head.standsIn_of_mem_all (of_mem_among emitted).1

/-- The declarations of a source stand one behind another, each behind the body of the one before. -/
theorem all_inOrder (views : Views) :
    (all views).Pairwise fun first second => first.body.behind ≤ second.head.start :=
  (among_inOrder (fun _ => Head.standsIn_of_mem_all) 0).2

/-- No declaration has its head in the body of another one. -/
theorem heads_isOutside (views : Views) :
    (all views).Pairwise fun first second =>
      first.head.IsOutside second.body ∧ second.head.IsOutside first.body := by
  refine (all_inOrder views).imp_of_mem fun {first second} isFirst isSecond behind => ?_
  have firstBounds := Head.bounds_of_body? (of_mem_among isFirst).2
  have secondBounds := Head.bounds_of_body? (of_mem_among isSecond).2
  have grows := (standsIn_of_mem_all isSecond).start_lt_stop
  constructor
  · rintro position - before ⟨inside, -⟩
    omega
  · rintro position behindStart - ⟨-, inside⟩
    omega

end Placed

/-! ### Lines of a region -/

section

variable {region : Region} {document : String} {declaration : Declaration}

theorem exists_placed_of_mem (declared : declaration ∈ declarationsOf region document) :
    ∃ placed ∈ Placed.all (Views.of region.text.toList),
      declaration = placed.declaration (region.passage document) := by
  obtain ⟨placed, emitted, rfl⟩ := List.mem_map.1 declared
  exact ⟨placed, emitted, rfl⟩

theorem Placed.line_eq {placed : Placed} :
    (placed.declaration (region.passage document)).line =
      region.startLine + lineOf region.text.toList placed.head.start :=
  congrArg (region.startLine + ·) ((masks_masked region.text.toList).lineOf_eq placed.head.start)

theorem beginsLine_of_emitted {source : List Char} {placed : Placed}
    (emitted : placed ∈ Placed.all (Views.of source)) : BeginsLine source placed.head.start :=
  (Placed.standsIn_of_mem_all emitted).startsLine.imp_right
    ((Views.isAlignedWith_source source).maskedBreak _).1

/-- The line that a declaration records is a line of its region, and holds its name. -/
theorem exists_line_of_mem (declared : declaration ∈ declarationsOf region document) :
    ∃ before line, declaration.line = region.startLine + before ∧
      (pieces (· == '\n') region.text.toList)[before]? = some line ∧
      declaration.name.toList <:+: line ∧ declaration.name.toList ≠ [] := by
  obtain ⟨placed, emitted, rfl⟩ := exists_placed_of_mem declared
  obtain ⟨left, isName, rest, reaches, -⟩ := (Placed.standsIn_of_mem_all emitted).names
  have isWord := isWord_of_isIdentifier isName
  have masks : Masks _ _ := List.forall₂_drop placed.head.start (masks_masked region.text.toList)
  have noSpace : ' ' ∉ placed.head.name := fun inside => absurd (isWord ' ' inside) (by decide)
  obtain ⟨behind, reaches⟩ := masks.exists_reaches reaches noSpace
  obtain ⟨line, found, inside⟩ := exists_line_of_reaches (beginsLine_of_emitted emitted) reaches
    (Head.oneLine_of_isWord isWord)
  have something := Head.ne_nil_of_isIdentifier isName
  have isText : (placed.declaration (region.passage document)).name.toList = placed.head.name :=
    String.toList_ofList
  exact ⟨_, line, Placed.line_eq, found, isText ▸ inside, isText ▸ something⟩

theorem lines_inOrder (region : Region) (document : String) :
    ((declarationsOf region document).map (·.line)).Pairwise (· < ·) := by
  rw [declarationsOf, List.map_map, List.pairwise_map]
  refine (Placed.all_inOrder _).imp_of_mem fun {first second} isFirst isSecond behind => ?_
  have bounds := Head.bounds_of_body? (Placed.of_mem_among isFirst).2
  have grows := (Placed.standsIn_of_mem_all isFirst).start_lt_stop
  have later : first.head.start < second.head.start := by omega
  simp only [Function.comp_apply, Placed.line_eq]
  exact Nat.add_lt_add_left (lineOf_lt later (beginsLine_of_emitted isSecond)) _

end

end Concord
