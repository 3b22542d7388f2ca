/-
Prose documents as their authors think of them: lines of prose and fenced blocks, one after another, and
perhaps a last block that nobody closed. Written out line by line, such a manuscript is laid out again
as the blocks of the wanted languages and the numbered lines of prose.
-/

import Concord.Document.Fence
import Concord.Proofs.Text.Lines
import Concord.Proofs.Text.Runs

namespace Concord.Document

open Source Text

/-! ### Fenced blocks -/

/-- Blanks at its ends aside, the line is nothing but marks, as many as `width` or more. -/
def IsFenceEnd (mark : Char) (width : Nat) (line : List Char) : Prop :=
  ∃ count, width ≤ count ∧ strip line = List.replicate count mark

theorem isFenceEnd_iff {mark : Char} {width : Nat} {line : List Char} :
    IsFenceEnd mark width line ↔ (∀ c ∈ strip line, c = mark) ∧ width ≤ (strip line).length := by
  constructor
  · rintro ⟨count, wide, marks⟩
    rw [marks, List.length_replicate]
    exact ⟨fun c member => List.eq_of_mem_replicate member, wide⟩
  · rintro ⟨marks, wide⟩
    exact ⟨(strip line).length, wide, List.eq_replicate_iff.2 ⟨rfl, marks⟩⟩

instance (mark : Char) (width : Nat) (line : List Char) : Decidable (IsFenceEnd mark width line) :=
  decidable_of_iff ((strip line).all (· == mark) = true ∧ width ≤ (strip line).length) <| by
    rw [isFenceEnd_iff]
    simp

/-- A block up to the line that closes it. -/
structure FencedBlock where
  indentation : Nat
  mark : Char
  width : Nat
  info : List Char
  body : List (List Char)
  isIndented : indentation ≤ 3
  isMark : mark = backQuote ∨ mark = '~'
  isWide : 3 ≤ width
  isQuiet : backQuote ∉ info
  isBehindMarks : info.head? ≠ some mark
  isInside : ∀ line ∈ body, ¬ IsFenceEnd mark width line

namespace FencedBlock

/-- The line that opens the block. -/
def opening (block : FencedBlock) : List Char :=
  List.replicate block.indentation ' ' ++ (List.replicate block.width block.mark ++ block.info)

/-- The source between the fences. -/
def text (block : FencedBlock) : String :=
  String.ofList (['\n'].intercalate block.body)

/-- The first word of the info text, without braces and dots around it, in lower case. -/
def language (block : FencedBlock) : List Char :=
  ((words block.info).head?.map fun word => lower (trim isLanguageMark word)).getD []

/-- The language is one of those wanted, letter case aside. -/
def isWanted (languages : List String) (block : FencedBlock) : Bool :=
  languages.any fun language => lower language.toList == block.language

end FencedBlock

/-! ### Manuscripts -/

/-- A line of prose, or a block with the line that closes it. -/
inductive Part where
  | prose (line : List Char) (isProse : Fence.ofLine? line = none)
  | fenced (block : FencedBlock) (closing : List Char)
      (closes : IsFenceEnd block.mark block.width closing)

/-- The lines of a part. -/
def Part.lines : Part → List (List Char)
  | .prose line _ => [line]
  | .fenced block closing _ => block.opening :: (block.body ++ [closing])

/-- The lines of parts, and of the block behind them that is not closed. -/
def linesOf (parts : List Part) (unclosed? : Option FencedBlock) : List (List Char) :=
  parts.flatMap Part.lines ++
    (unclosed?.map fun block => block.opening :: block.body).getD []

structure Manuscript where
  parts : List Part
  unclosed? : Option FencedBlock
  /-- A line feed stands behind the last line. -/
  isEnded : Bool
  areOneLine : ∀ line ∈ linesOf parts unclosed?, IsOneLine line
  endsInside : ∀ block ∈ unclosed?, ∃ line, block.body.getLast? = some line ∧ line ≠ []

/-- The text of the manuscript. -/
def Manuscript.text (manuscript : Manuscript) : String :=
  let lines := linesOf manuscript.parts manuscript.unclosed?
  String.ofList (if manuscript.isEnded then ended lines else ['\n'].intercalate lines)

/-- The blocks behind `before` lines, each with the number of lines before its body. -/
def blocksFrom (before : Nat) (unclosed? : Option FencedBlock) :
    List Part → List (Nat × FencedBlock)
  | [] => (unclosed?.map fun block => (before + 1, block)).toList
  | .prose _ _ :: parts => blocksFrom (before + 1) unclosed? parts
  | .fenced block _ _ :: parts =>
    (before + 1, block) :: blocksFrom (before + block.body.length + 2) unclosed? parts

/-- The blocks of the manuscript, each with the number of lines before its body. -/
def Manuscript.blocks (manuscript : Manuscript) : List (Nat × FencedBlock) :=
  blocksFrom 0 manuscript.unclosed? manuscript.parts

/-- The lines of prose behind `before` lines, each with its number. -/
def proseFrom (before : Nat) : List Part → List (Nat × List Char)
  | [] => []
  | .prose line _ :: parts => (before + 1, line) :: proseFrom (before + 1) parts
  | .fenced block _ _ :: parts => proseFrom (before + block.body.length + 2) parts

/-- The lines of prose of the manuscript, each with its number. -/
def Manuscript.prose (manuscript : Manuscript) : List (Nat × List Char) :=
  proseFrom 0 manuscript.parts

/-! ### Fences are read back -/

variable {languages : List String}

/-- The fence that opens the block. -/
def FencedBlock.fence (block : FencedBlock) : Fence :=
  ⟨block.mark, block.width, stripStart block.info⟩

theorem not_isBlank_mark (block : FencedBlock) : isBlank block.mark = false := by
  rcases block.isMark with same | same <;> rw [same] <;> decide

theorem ofUnindented?_marks (block : FencedBlock) :
    Fence.ofUnindented? (List.replicate block.width block.mark ++ block.info) = some block.fence := by
  obtain ⟨more, isWidth⟩ : ∃ more, block.width = more + 1 :=
    ⟨block.width - 1, by have := block.isWide; omega⟩
  have isWide := block.isWide
  have marks : ∀ c ∈ List.replicate more block.mark, (c == block.mark) = true :=
    fun c member => beq_iff_eq.2 (List.eq_of_mem_replicate member)
  have stops : ∀ c, block.info.head? = some c → (c == block.mark) = false := by
    intro c found
    exact beq_false_of_ne fun same => block.isBehindMarks (same ▸ found)
  rw [isWidth, List.replicate_succ, List.cons_append, Fence.ofUnindented?]
  simp only [takeWhile_append_of_stops marks stops, dropWhile_append_of_stops marks stops,
    List.length_replicate]
  rw [if_pos ⟨block.isMark, by omega, by simpa using block.isQuiet⟩, FencedBlock.fence, isWidth]

theorem ofLine?_opening (block : FencedBlock) :
    Fence.ofLine? block.opening = some block.fence := by
  have blanks : ∀ c ∈ List.replicate block.indentation ' ', isBlank c = true := by
    intro c member
    rw [List.eq_of_mem_replicate member]
    decide
  have stops : ∀ c, (List.replicate block.width block.mark ++ block.info).head? = some c →
      isBlank c = false := by
    obtain ⟨more, isWidth⟩ : ∃ more, block.width = more + 1 :=
      ⟨block.width - 1, by have := block.isWide; omega⟩
    intro c found
    rw [isWidth, List.replicate_succ, List.cons_append, List.head?_cons] at found
    rw [← Option.some.inj found]
    exact not_isBlank_mark block
  rw [Fence.ofLine?, FencedBlock.opening, takeWhile_append_of_stops blanks stops,
    List.length_replicate, if_pos block.isIndented, stripStart,
    dropWhile_append_of_stops blanks stops]
  exact ofUnindented?_marks block

theorem isWanted_fence (block : FencedBlock) :
    block.fence.isWanted languages = block.isWanted languages := by
  have sameLanguage : block.fence.language = block.language := by
    rw [Fence.language, FencedBlock.language, FencedBlock.fence, words_stripStart]
    cases words block.info <;> rfl
  rw [Fence.isWanted, FencedBlock.isWanted, sameLanguage]

theorem isClosedBy_fence_iff (block : FencedBlock) (line : List Char) :
    block.fence.isClosedBy line = true ↔ IsFenceEnd block.mark block.width line := by
  rw [isFenceEnd_iff, Fence.isClosedBy]
  simp only [FencedBlock.fence, Bool.and_eq_true, Bool.not_eq_true', List.all_eq_true, beq_iff_eq]
  constructor
  · rintro ⟨⟨-, marks⟩, wide⟩
    exact ⟨marks, of_decide_eq_true wide⟩
  · rintro ⟨marks, wide⟩
    have something : (strip line).isEmpty = false := by
      rw [List.isEmpty_eq_false_iff, ← List.length_pos_iff]
      exact Nat.lt_of_lt_of_le (Nat.lt_of_lt_of_le (by decide) block.isWide) wide
    exact ⟨⟨something, marks⟩, decide_eq_true wide⟩

/-! ### Blocks are read back -/

variable (languages)

/-- The region that a block makes, `before` lines down. -/
def FencedBlock.region (before : Nat) (block : FencedBlock) : Region :=
  ⟨before + 1, block.text⟩

/-- The block as it is when the reading has come behind some lines of its body. -/
def FencedBlock.started (before : Nat) (block : FencedBlock)
    (body : List (List Char)) : Block :=
  ⟨block.isWanted languages, block.fence, before + 1, body.reverse⟩

theorem layoutFrom_opening (before : Nat) (block : FencedBlock) (rest : List (List Char)) :
    layoutFrom languages before none (block.opening :: rest) =
      layoutFrom languages (before + 1) (some (block.started languages before [])) rest := by
  rw [layoutFrom]
  simp only [ofLine?_opening, isWanted_fence]
  rfl

theorem layoutFrom_body (number before : Nat) (block : FencedBlock) (done : List (List Char))
    {body : List (List Char)} (inside : ∀ line ∈ body, ¬ IsFenceEnd block.mark block.width line)
    (rest : List (List Char)) :
    layoutFrom languages number (some (block.started languages before done)) (body ++ rest) =
      layoutFrom languages (number + body.length)
        (some (block.started languages before (done ++ body))) rest := by
  induction body generalizing number done with
  | nil => rw [List.nil_append, List.length_nil, Nat.add_zero, List.append_nil]
  | cons line body inductionHypothesis =>
    have goesOn : (block.started languages before done).fence.isClosedBy line = false := by
      rw [← Bool.not_eq_true]
      exact fun closed => inside line List.mem_cons_self ((isClosedBy_fence_iff block line).1 closed)
    have next : ({ block.started languages before done with
        lines := line :: (block.started languages before done).lines } : Block) =
          block.started languages before (done ++ [line]) := by
      simp [FencedBlock.started]
    rw [List.cons_append, layoutFrom]
    simp only [goesOn, Bool.false_eq_true, if_false, next]
    rw [inductionHypothesis _ _ fun other member => inside other (List.mem_cons_of_mem line member),
      List.length_cons, Nat.add_right_comm, Nat.add_assoc, List.append_assoc, List.singleton_append]

theorem region_started (before : Nat) (block : FencedBlock) :
    (block.started languages before block.body).region = block.region before := by
  rw [Block.region, FencedBlock.started, List.reverse_reverse]
  rfl

theorem linesOf_unclosed (block : FencedBlock) :
    linesOf [] (some block) = block.opening :: block.body := rfl

theorem linesOf_prose (line : List Char) (isProse : Fence.ofLine? line = none) (parts : List Part)
    (unclosed? : Option FencedBlock) :
    linesOf (.prose line isProse :: parts) unclosed? = line :: linesOf parts unclosed? := rfl

theorem linesOf_fenced (block : FencedBlock) (closing : List Char)
    (closes : IsFenceEnd block.mark block.width closing) (parts : List Part)
    (unclosed? : Option FencedBlock) :
    linesOf (.fenced block closing closes :: parts) unclosed? =
      block.opening :: (block.body ++ closing :: linesOf parts unclosed?) := by
  rw [linesOf, List.flatMap_cons, List.append_assoc, ← linesOf, Part.lines, List.cons_append,
    List.append_assoc, List.singleton_append]

/-- A manuscript is laid out as its blocks of the wanted languages and its numbered prose. -/
theorem layoutFrom_linesOf (before : Nat) (parts : List Part) {unclosed? : Option FencedBlock}
    (endsInside : ∀ block ∈ unclosed?, block.body ≠ []) :
    layoutFrom languages (before + 1) none (linesOf parts unclosed?) =
      ⟨((blocksFrom before unclosed? parts).filter (·.2.isWanted languages)).map
          fun (before, block) => block.region before,
        (proseFrom before parts).map fun (number, line) => (number, String.ofList line)⟩ := by
  induction parts generalizing before with
  | nil =>
    cases unclosed? with
    | none => rfl
    | some block =>
      have something : block.body.reverse.isEmpty = false := by
        simpa using endsInside block rfl
      have read := layoutFrom_body languages (before + 2) (before + 1) block [] block.isInside []
      rw [List.append_nil, List.nil_append] at read
      rw [linesOf_unclosed, layoutFrom_opening, read, layoutFrom]
      simp only [region_started, blocksFrom, proseFrom]
      cases wanted : block.isWanted languages with
      | true => simp [FencedBlock.started, wanted, something]
      | false => simp [FencedBlock.started, wanted]
  | cons part parts inductionHypothesis =>
    cases part with
    | prose line isProse =>
      rw [linesOf_prose, layoutFrom]
      simp only [isProse]
      rw [inductionHypothesis]
      rfl
    | fenced block closing closes =>
      have closed : (block.started languages (before + 1) block.body).fence.isClosedBy closing =
          true := (isClosedBy_fence_iff block closing).2 closes
      rw [linesOf_fenced, layoutFrom_opening,
        layoutFrom_body languages (before + 2) (before + 1) block [] block.isInside, List.nil_append, layoutFrom]
      simp only [closed, if_true]
      rw [show before + 2 + block.body.length + 1 = before + block.body.length + 2 + 1 by omega,
        inductionHypothesis, region_started, blocksFrom, proseFrom]
      cases wanted : block.isWanted languages with
      | true => simp [FencedBlock.started, wanted, Layout.addRegion]
      | false => simp [FencedBlock.started, wanted]

/-! ### The text of a manuscript -/

theorem linesOf_append_prose (parts : List Part) (line : List Char)
    (isProse : Fence.ofLine? line = none) :
    linesOf (parts ++ [.prose line isProse]) none = linesOf parts none ++ [line] := by
  simp [linesOf, Part.lines]

theorem linesOf_append_fenced (parts : List Part) (block : FencedBlock) (closing : List Char)
    (closes : IsFenceEnd block.mark block.width closing) :
    linesOf (parts ++ [.fenced block closing closes]) none =
      linesOf parts none ++ block.opening :: block.body ++ [closing] := by
  simp [linesOf, Part.lines]

theorem not_isFenceEnd_nil {mark : Char} {width : Nat} (isWide : 3 ≤ width) :
    ¬ IsFenceEnd mark width [] := by
  rintro ⟨count, wide, marks⟩
  have none : count = 0 := (List.replicate_eq_nil_iff mark).1 marks.symm
  omega

/-- Only a line of prose can be the last line and empty. -/
theorem exists_of_getLast?_linesOf {parts : List Part} {unclosed? : Option FencedBlock}
    (endsInside : ∀ block ∈ unclosed?, ∃ line, block.body.getLast? = some line ∧ line ≠ [])
    (endsEmpty : (linesOf parts unclosed?).getLast? = some []) :
    unclosed? = none ∧ ∃ others isProse, parts = others ++ [.prose [] isProse] := by
  cases unclosed? with
  | some block =>
    obtain ⟨line, last, something⟩ := endsInside block rfl
    obtain ⟨front, body⟩ := List.getLast?_eq_some_iff.1 last
    rw [linesOf, Option.map_some, Option.getD_some, body, ← List.cons_append, ← List.append_assoc,
      List.getLast?_concat] at endsEmpty
    exact absurd (Option.some.inj endsEmpty) something
  | none =>
    refine ⟨rfl, ?_⟩
    rcases List.eq_nil_or_concat parts with rfl | ⟨others, part, rfl⟩
    · exact absurd endsEmpty (by simp [linesOf])
    · rw [List.concat_eq_append] at endsEmpty ⊢
      cases part with
      | prose line isProse =>
        rw [linesOf_append_prose, List.getLast?_concat] at endsEmpty
        obtain rfl := Option.some.inj endsEmpty
        exact ⟨others, isProse, rfl⟩
      | fenced block closing closes =>
        rw [linesOf_append_fenced, List.getLast?_concat] at endsEmpty
        obtain rfl := Option.some.inj endsEmpty
        exact absurd closes (not_isFenceEnd_nil block.isWide)

/-- The lines of the text are those of the manuscript, but for an empty line of prose at the very
end. -/
theorem Manuscript.lines_text (manuscript : Manuscript) :
    Text.lines manuscript.text.toList = linesOf manuscript.parts manuscript.unclosed? ∨
      manuscript.unclosed? = none ∧ ∃ others isProse,
        manuscript.parts = others ++ [.prose [] isProse] ∧
          Text.lines manuscript.text.toList = linesOf others none := by
  have areOneLine := manuscript.areOneLine
  rw [text, String.toList_ofList]
  cases manuscript.isEnded with
  | true =>
    rw [if_pos rfl, lines_ended areOneLine]
    exact .inl rfl
  | false =>
    rw [if_neg Bool.false_ne_true]
    rcases List.eq_nil_or_concat (linesOf manuscript.parts manuscript.unclosed?) with
      none | ⟨front, last, isFront⟩
    · rw [none]
      exact .inl rfl
    · rw [List.concat_eq_append] at isFront
      rw [isFront, List.forall_mem_append, List.forall_mem_singleton] at areOneLine
      by_cases something : last = []
      · subst something
        have endsEmpty : (linesOf manuscript.parts manuscript.unclosed?).getLast? = some [] := by
          rw [isFront, List.getLast?_concat]
        obtain ⟨closed, others, isProse, isParts⟩ :=
          exists_of_getLast?_linesOf manuscript.endsInside endsEmpty
        refine .inr ⟨closed, others, isProse, isParts, ?_⟩
        rw [isParts, closed, linesOf_append_prose] at isFront ⊢
        rw [List.append_inj_left' isFront rfl] at *
        exact lines_intercalate_empty areOneLine.1
      · rw [isFront, lines_intercalate areOneLine.1 areOneLine.2 something]
        exact .inl rfl

theorem blocksFrom_append_prose (before : Nat) (parts : List Part) (line : List Char)
    (isProse : Fence.ofLine? line = none) :
    blocksFrom before none (parts ++ [.prose line isProse]) = blocksFrom before none parts := by
  induction parts generalizing before with
  | nil => rfl
  | cons part parts inductionHypothesis =>
    cases part with
    | prose => rw [List.cons_append, blocksFrom, blocksFrom, inductionHypothesis]
    | fenced => rw [List.cons_append, blocksFrom, blocksFrom, inductionHypothesis]

theorem exists_proseFrom_append_prose (before : Nat) (parts : List Part) (line : List Char)
    (isProse : Fence.ofLine? line = none) :
    ∃ number, proseFrom before (parts ++ [.prose line isProse]) =
      proseFrom before parts ++ [(number, line)] := by
  induction parts generalizing before with
  | nil => exact ⟨before + 1, rfl⟩
  | cons part parts inductionHypothesis =>
    cases part with
    | prose other _ =>
      obtain ⟨number, same⟩ := inductionHypothesis (before + 1)
      exact ⟨number, by rw [List.cons_append, proseFrom, proseFrom, same, List.cons_append]⟩
    | fenced block _ _ =>
      obtain ⟨number, same⟩ := inductionHypothesis (before + block.body.length + 2)
      exact ⟨number, by rw [List.cons_append, proseFrom, proseFrom, same]⟩

/-- The layout of a manuscript: its blocks of the wanted languages and its numbered prose, of which
only an empty line at the very end may be missing. -/
theorem Manuscript.layoutOf_text (manuscript : Manuscript) :
    ∃ numbered, Layout.of true languages manuscript.text =
        ⟨(manuscript.blocks.filter (·.2.isWanted languages)).map
          fun (before, block) => block.region before, numbered⟩ ∧
      ∃ missing, (manuscript.prose.map fun (number, line) => (number, String.ofList line)) =
          numbered ++ missing ∧ ∀ line ∈ missing, line.2 = "" := by
  have something : ∀ block ∈ manuscript.unclosed?, block.body ≠ [] := by
    intro block member none
    obtain ⟨line, last, -⟩ := manuscript.endsInside block member
    rw [none] at last
    exact absurd last (by simp)
  rw [Layout.of, if_pos rfl]
  rcases manuscript.lines_text with same | ⟨closed, others, isProse, isParts, same⟩
  · rw [same]
    refine ⟨_, layoutFrom_linesOf languages 0 manuscript.parts something, [], ?_, ?_⟩
    · rw [List.append_nil, prose]
    · exact fun _ absent => absurd absent List.not_mem_nil
  · obtain ⟨number, last⟩ := exists_proseFrom_append_prose 0 others [] isProse
    have sameBlocks : manuscript.blocks = blocksFrom 0 none others := by
      rw [blocks, isParts, closed, blocksFrom_append_prose]
    rw [same, sameBlocks, prose, isParts, last, List.map_append]
    refine ⟨_, layoutFrom_linesOf languages 0 others (closed ▸ something), _, rfl, ?_⟩
    exact fun line member => by rw [List.mem_singleton.1 member]

end Concord.Document
