/-
A text that equals its own collapse has no blank at its ends. Blanks around a text leave no trace in its
collapse, and stripping takes them off and nothing else. A character that is no blank is kept by both.
-/

import Concord.Proofs.Text.Lines
import Concord.Proofs.Text.Runs
import Mathlib.Data.List.TakeWhile

namespace Concord.Text

/-! ### Words between blanks -/

theorem pieces_append_marked {marked : Char → Bool} {c : Char} (mark : marked c = true)
    (text rest : List Char) :
    pieces marked (text ++ c :: rest) = pieces marked text ++ pieces marked rest := by
  induction text with
  | nil => rw [List.nil_append, pieces_marked mark, pieces_nil, List.singleton_append]
  | cons d text inductionHypothesis =>
    cases other : marked d with
    | true =>
      rw [List.cons_append, pieces_marked other, pieces_marked other, inductionHypothesis,
        List.cons_append]
    | false =>
      obtain ⟨first, others, isPieces⟩ := List.exists_cons_of_ne_nil (pieces_ne_nil marked text)
      rw [List.cons_append, pieces_unmarked other, pieces_unmarked other, inductionHypothesis,
        isPieces]
      rfl

theorem words_append_blank {c : Char} (blank : isBlank c = true) (text rest : List Char) :
    words (text ++ c :: rest) = words text ++ words rest := by
  rw [words, pieces_append_marked blank, List.filter_append, ← words, ← words]

theorem words_surrounded {before after : List Char} (text : List Char)
    (isBlankBefore : isAllBlank before = true) (isBlankAfter : isAllBlank after = true) :
    words (before ++ (text ++ after)) = words text := by
  induction before with
  | nil =>
    cases after with
    | nil => rw [List.nil_append, List.append_nil]
    | cons c after =>
      rw [isAllBlank, List.all_cons, Bool.and_eq_true] at isBlankAfter
      rw [List.nil_append, words_append_blank isBlankAfter.1,
        words_eq_nil_of_isAllBlank isBlankAfter.2, List.append_nil]
  | cons c before inductionHypothesis =>
    rw [isAllBlank, List.all_cons, Bool.and_eq_true] at isBlankBefore
    rw [List.cons_append, words_blank isBlankBefore.1]
    exact inductionHypothesis isBlankBefore.2

theorem words_behindBlank {before : List Char} (blank : isAllBlank before = true) (text : List Char) :
    words (before ++ text) = words text := by
  have surrounded := words_surrounded text blank isAllBlank_nil
  rwa [List.append_nil] at surrounded

/-- Blanks around a text leave no trace in its collapse. -/
theorem collapse_surrounded {before after : List Char} (text : List Char)
    (isBlankBefore : isAllBlank before = true) (isBlankAfter : isAllBlank after = true) :
    collapse (before ++ (text ++ after)) = collapse text := by
  rw [collapse, words_surrounded text isBlankBefore isBlankAfter, ← collapse]

/-! ### Texts without blanks at their ends -/

/-- No blank stands at either end. -/
structure IsTrimmed (text : List Char) : Prop where
  head : ∀ c, text.head? = some c → isBlank c = false
  last : ∀ c, text.getLast? = some c → isBlank c = false

theorem isBlank_of_mem_pieces {marked : Char → Bool} {text piece : List Char}
    (member : piece ∈ pieces marked text) : ∀ c ∈ piece, marked c = false := by
  induction text generalizing piece with
  | nil =>
    rw [pieces_nil, List.mem_singleton] at member
    subst member
    exact fun _ absent => absurd absent List.not_mem_nil
  | cons d text inductionHypothesis =>
    cases other : marked d with
    | true =>
      rw [pieces_marked other, List.mem_cons] at member
      rcases member with rfl | later
      · exact fun _ absent => absurd absent List.not_mem_nil
      · exact inductionHypothesis later
    | false =>
      obtain ⟨first, others, isPieces⟩ := List.exists_cons_of_ne_nil (pieces_ne_nil marked text)
      rw [isPieces] at inductionHypothesis
      rw [pieces_unmarked other, isPieces, List.modifyHead_cons, List.mem_cons] at member
      rcases member with rfl | later
      · intro c inside
        rcases List.mem_cons.1 inside with rfl | inside
        · exact other
        · exact inductionHypothesis List.mem_cons_self c inside
      · exact inductionHypothesis (List.mem_cons_of_mem first later)

/-- A word without a blank. -/
structure IsSolid (word : List Char) : Prop where
  something : word ≠ []
  noBlank : ∀ c ∈ word, isBlank c = false

theorem isSolid_of_mem_words {text word : List Char} (member : word ∈ words text) : IsSolid word := by
  obtain ⟨isPiece, something⟩ := List.mem_filter.1 member
  exact ⟨by simpa using something, isBlank_of_mem_pieces isPiece⟩

theorem pieces_of_unmarked {marked : Char → Bool} {text : List Char}
    (unmarked : ∀ c ∈ text, marked c = false) : pieces marked text = [text] := by
  induction text with
  | nil => exact pieces_nil marked
  | cons c text inductionHypothesis =>
    rw [List.forall_mem_cons] at unmarked
    rw [pieces_unmarked unmarked.1, inductionHypothesis unmarked.2]
    rfl

theorem pieces_intercalate {marked : Char → Bool} {c : Char} (mark : marked c = true)
    {texts : List (List Char)} (something : texts ≠ [])
    (unmarked : ∀ text ∈ texts, ∀ d ∈ text, marked d = false) :
    pieces marked ([c].intercalate texts) = texts := by
  induction texts with
  | nil => exact absurd rfl something
  | cons text texts inductionHypothesis =>
    rw [List.forall_mem_cons] at unmarked
    cases texts with
    | nil => rw [List.intercalate_singleton, pieces_of_unmarked unmarked.1]
    | cons next texts =>
      rw [List.intercalate_cons_cons, List.append_assoc, List.singleton_append,
        pieces_append_marked mark, pieces_of_unmarked unmarked.1,
        inductionHypothesis (by simp) unmarked.2]
      rfl

/-- Words with single spaces between them are read back. -/
theorem words_intercalate {texts : List (List Char)} (areWords : ∀ word ∈ texts, IsSolid word) :
    words ([' '].intercalate texts) = texts := by
  have single : ∀ word ∈ texts, words word = [word] := by
    intro word member
    obtain ⟨something, noBlank⟩ := areWords word member
    rw [words, pieces_of_unmarked noBlank]
    simp [something]
  induction texts with
  | nil => exact words_nil
  | cons word others inductionHypothesis =>
    rw [List.forall_mem_cons] at areWords single
    cases others with
    | nil => rw [List.intercalate_singleton, single.1]
    | cons second others =>
      rw [List.intercalate_cons_cons, List.append_assoc, List.singleton_append,
        words_append_blank (by decide), single.1, inductionHypothesis areWords.2 single.2]
      rfl

theorem words_solid {word : List Char} (solid : IsSolid word) : words word = [word] := by
  have single : words ([' '].intercalate [word]) = [word] :=
    words_intercalate (List.forall_mem_singleton.2 solid)
  rwa [List.intercalate_singleton] at single

theorem IsSolid.append {first second : List Char} (solid : IsSolid first) (solidSecond : IsSolid second) :
    IsSolid (first ++ second) :=
  ⟨List.append_ne_nil_of_left_ne_nil solid.something second,
    List.forall_mem_append.2 ⟨solid.noBlank, solidSecond.noBlank⟩⟩

/-- A text of words with single spaces between them. -/
def IsSpaced (text : List Char) : Prop :=
  ∃ texts : List (List Char), (∀ word ∈ texts, IsSolid word) ∧ text = [' '].intercalate texts

theorem IsSpaced.collapse_eq {text : List Char} (spaced : IsSpaced text) : collapse text = text := by
  obtain ⟨texts, areWords, rfl⟩ := spaced
  rw [collapse, words_intercalate areWords]

theorem isSpaced_of_collapse_eq {text : List Char} (collapsed : collapse text = text) :
    IsSpaced text :=
  ⟨words text, fun _ member => isSolid_of_mem_words member, collapsed.symm⟩

theorem IsSpaced.prefixed {text word : List Char} (spaced : IsSpaced text) (solid : IsSolid word) :
    IsSpaced (word ++ text) := by
  obtain ⟨texts, areWords, rfl⟩ := spaced
  cases texts with
  | nil => exact ⟨[word], List.forall_mem_singleton.2 solid, by simp⟩
  | cons first others =>
    rw [List.forall_mem_cons] at areWords
    refine ⟨(word ++ first) :: others,
      List.forall_mem_cons.2 ⟨solid.append areWords.1, areWords.2⟩, ?_⟩
    cases others with
    | nil => rw [List.intercalate_singleton, List.intercalate_singleton]
    | cons second others =>
      rw [List.intercalate_cons_cons, List.intercalate_cons_cons, List.append_assoc, List.append_assoc,
        List.append_assoc]

theorem IsSpaced.suffixed {text word : List Char} (spaced : IsSpaced text) (solid : IsSolid word) :
    IsSpaced (text ++ word) := by
  obtain ⟨texts, areWords, rfl⟩ := spaced
  rcases List.eq_nil_or_concat texts with rfl | ⟨others, last, rfl⟩
  · exact ⟨[word], List.forall_mem_singleton.2 solid, by simp⟩
  · rw [List.concat_eq_append, List.forall_mem_append, List.forall_mem_singleton] at areWords
    refine ⟨others ++ [last ++ word],
      List.forall_mem_append.2 ⟨areWords.1, List.forall_mem_singleton.2 (areWords.2.append solid)⟩, ?_⟩
    rw [List.concat_eq_append, intercalate_concat, intercalate_concat, List.append_assoc]

theorem intercalate_append (separator : List Char) {first second : List (List Char)}
    (something : first ≠ []) (somethingSecond : second ≠ []) :
    separator.intercalate (first ++ second) =
      separator.intercalate first ++ (separator ++ separator.intercalate second) := by
  induction first with
  | nil => exact absurd rfl something
  | cons text others inductionHypothesis =>
    cases others with
    | nil =>
      obtain ⟨next, others, rfl⟩ := List.exists_cons_of_ne_nil somethingSecond
      rw [List.singleton_append, List.intercalate_cons_cons, List.intercalate_singleton,
        List.append_assoc]
    | cons next others =>
      have behind := inductionHypothesis (List.cons_ne_nil next others)
      rw [List.cons_append, List.intercalate_cons_of_ne_nil (by simp), behind,
        List.intercalate_cons_cons, List.append_assoc, List.append_assoc, List.append_assoc]

/-- Spaced texts with a space between them are a spaced text. -/
theorem IsSpaced.spaced_append {first second : List Char} (spaced : IsSpaced first)
    (something : first ≠ []) (spacedSecond : IsSpaced second) (somethingSecond : second ≠ []) :
    IsSpaced (first ++ ' ' :: second) := by
  obtain ⟨texts, areWords, rfl⟩ := spaced
  obtain ⟨textsSecond, areWordsSecond, rfl⟩ := spacedSecond
  refine ⟨texts ++ textsSecond, List.forall_mem_append.2 ⟨areWords, areWordsSecond⟩, ?_⟩
  rw [intercalate_append, List.singleton_append]
  · rintro rfl
    exact something rfl
  · rintro rfl
    exact somethingSecond rfl

theorem isTrimmed_collapse (text : List Char) : IsTrimmed (collapse text) := by
  have spec := fun word (member : word ∈ words text) => isSolid_of_mem_words member
  rw [collapse]
  generalize words text = texts at spec
  constructor
  · cases texts with
    | nil => exact fun c absent => absurd absent (by simp [List.intercalate])
    | cons word others =>
      obtain ⟨something, noBlank⟩ := spec word List.mem_cons_self
      obtain ⟨d, word, rfl⟩ := List.exists_cons_of_ne_nil something
      intro c found
      have first : ([' '].intercalate ((d :: word) :: others)).head? = some d := by
        cases others <;> simp [List.intercalate]
      rw [first] at found
      rw [← Option.some.inj found]
      exact noBlank d List.mem_cons_self
  · rcases List.eq_nil_or_concat texts with rfl | ⟨others, word, rfl⟩
    · exact fun c absent => absurd absent (by simp [List.intercalate])
    · rw [List.concat_eq_append] at spec ⊢
      obtain ⟨something, noBlank⟩ := spec word (by simp)
      intro c found
      rw [intercalate_concat, List.getLast?_append_of_ne_nil _ something] at found
      exact noBlank c (List.mem_of_getLast? found)

/-- Stripping takes the blanks around a text off and nothing else. -/
theorem strip_surrounded {before text after : List Char} (isBlankBefore : isAllBlank before = true)
    (trimmed : IsTrimmed text) (isBlankAfter : isAllBlank after = true) :
    strip (before ++ (text ++ after)) = text := by
  rw [isAllBlank, List.all_eq_true] at isBlankBefore isBlankAfter
  cases text with
  | nil =>
    rw [List.nil_append, strip, stripStart, stripEnd, List.dropWhile_append_of_pos isBlankBefore,
      List.dropWhile_eq_nil_iff.2 isBlankAfter]
    rfl
  | cons c text =>
    rw [strip, stripStart, dropWhile_append_of_stops isBlankBefore, stripEnd, List.reverse_append,
      dropWhile_append_of_stops, List.reverse_reverse]
    · exact fun d member => isBlankAfter d (List.mem_reverse.1 member)
    · intro d found
      rw [List.head?_reverse] at found
      exact trimmed.last d found
    · intro d found
      exact trimmed.head d found

theorem strip_of_isTrimmed {text : List Char} (trimmed : IsTrimmed text) : strip text = text := by
  have alone := @strip_surrounded [] text [] rfl trimmed rfl
  rwa [List.nil_append, List.append_nil] at alone

/-- A text that holds something ends with something, blanks behind that left aside. -/
theorem exists_stripEnd {text : List Char} (something : isAllBlank text = false) :
    ∃ kept blanks, text = kept ++ blanks ∧ kept ≠ [] ∧ isAllBlank blanks = true ∧
      ∀ c, kept.getLast? = some c → isBlank c = false := by
  have whole : stripEnd text ++ (text.reverse.takeWhile isBlank).reverse = text := by
    rw [stripEnd, ← List.reverse_append, List.takeWhile_append_dropWhile, List.reverse_reverse]
  have blank : isAllBlank (text.reverse.takeWhile isBlank).reverse = true :=
    List.all_eq_true.2 fun c member => List.mem_takeWhile_imp (List.mem_reverse.1 member)
  refine ⟨stripEnd text, _, whole.symm, fun none => ?_, blank, fun c last => ?_⟩
  · rw [none, List.nil_append] at whole
    rw [whole, something] at blank
    exact absurd blank (by simp)
  · rw [stripEnd, List.getLast?_reverse] at last
    have ends := List.head?_dropWhile_not isBlank text.reverse
    rw [last] at ends
    simpa using ends

/-! ### Characters that are kept -/

theorem mem_dropWhile {isIn : Char → Bool} {c : Char} {text : List Char} (member : c ∈ text)
    (kept : isIn c = false) : c ∈ text.dropWhile isIn := by
  rw [← List.takeWhile_append_dropWhile (p := isIn) (l := text), List.mem_append] at member
  refine member.resolve_left fun dropped => ?_
  rw [List.mem_takeWhile_imp dropped] at kept
  exact absurd kept (by simp)

theorem mem_trimEnd {dropped : Char → Bool} {c : Char} {text : List Char} (member : c ∈ text)
    (kept : dropped c = false) : c ∈ trimEnd dropped text :=
  List.mem_reverse.2 (mem_dropWhile (List.mem_reverse.2 member) kept)

theorem mem_strip {c : Char} {text : List Char} (member : c ∈ text) (notBlank : isBlank c = false) :
    c ∈ strip text :=
  mem_trimEnd (mem_dropWhile member notBlank) notBlank

theorem exists_mem_pieces {marked : Char → Bool} {c : Char} {text : List Char} (member : c ∈ text)
    (unmarked : marked c = false) : ∃ piece ∈ pieces marked text, c ∈ piece := by
  induction text with
  | nil => exact absurd member List.not_mem_nil
  | cons d text inductionHypothesis =>
    cases mark : marked d with
    | true =>
      have later : c ∈ text := (List.mem_cons.1 member).resolve_left fun same => by simp_all
      obtain ⟨piece, isPiece, inside⟩ := inductionHypothesis later
      rw [pieces_marked mark]
      exact ⟨piece, List.mem_cons_of_mem _ isPiece, inside⟩
    | false =>
      obtain ⟨first, others, isPieces⟩ := List.exists_cons_of_ne_nil (pieces_ne_nil marked text)
      rw [pieces_unmarked mark, isPieces, List.modifyHead_cons]
      rcases List.mem_cons.1 member with rfl | later
      · exact ⟨_, List.mem_cons_self, List.mem_cons_self⟩
      · obtain ⟨piece, isPiece, inside⟩ := inductionHypothesis later
        rw [isPieces] at isPiece
        rcases List.mem_cons.1 isPiece with rfl | other
        · exact ⟨_, List.mem_cons_self, List.mem_cons_of_mem d inside⟩
        · exact ⟨piece, List.mem_cons_of_mem _ other, inside⟩

theorem forall_mem_intercalate {property : Char → Prop} {separator : List Char}
    (between : ∀ c ∈ separator, property c) {texts : List (List Char)}
    (inside : ∀ text ∈ texts, ∀ c ∈ text, property c) :
    ∀ c ∈ separator.intercalate texts, property c := by
  induction texts with
  | nil => exact fun _ absent => absurd absent (by simp)
  | cons text texts inductionHypothesis =>
    obtain ⟨here, later⟩ := List.forall_mem_cons.1 inside
    cases texts with
    | nil => rwa [List.intercalate_singleton]
    | cons next others =>
      rw [List.intercalate_cons_cons]
      exact List.forall_mem_append.2 ⟨List.forall_mem_append.2 ⟨here, between⟩,
        inductionHypothesis later⟩

theorem mem_intercalate {separator word : List Char} {texts : List (List Char)} {c : Char}
    (isText : word ∈ texts) (inside : c ∈ word) : c ∈ separator.intercalate texts := by
  induction texts with
  | nil => exact absurd isText List.not_mem_nil
  | cons first others inductionHypothesis =>
    cases others with
    | nil =>
      rw [List.intercalate_singleton]
      exact List.mem_singleton.1 isText ▸ inside
    | cons second others =>
      rw [List.intercalate_cons_cons, List.mem_append, List.mem_append]
      rcases List.mem_cons.1 isText with rfl | later
      · exact .inl (.inl inside)
      · exact .inr (inductionHypothesis later)

theorem mem_collapse {c : Char} {text : List Char} (member : c ∈ text) (notBlank : isBlank c = false) :
    c ∈ collapse text := by
  obtain ⟨piece, isPiece, inside⟩ := exists_mem_pieces member notBlank
  refine mem_intercalate (List.mem_filter.2 ⟨isPiece, ?_⟩) inside
  simpa using List.ne_nil_of_mem inside

end Concord.Text
