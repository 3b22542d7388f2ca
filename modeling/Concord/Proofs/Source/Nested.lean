/-
Well-nested type texts, and what the masked view shows of them. Behind a string literal without a quote
or a backslash inside the walk over the source is back in code, so the view of several such texts
written one after another is made of their views. The mask of a well-nested text is balanced: of its
literals it shows the quotes and nothing else, and its brackets are those of the text.
-/

import Concord.Proofs.Text.Words
import Concord.Source.Members
import Concord.Source.Views

namespace Concord.Source

open Text

/-! ### Well-nested texts -/

inductive Bracket where
  | round
  | square
  | curly
  | angle
  deriving DecidableEq, Repr

/-- The character that opens a bracket. -/
def Bracket.opening : Bracket → Char
  | .round => '('
  | .square => '['
  | .curly => '\x7b'
  | .angle => '<'

/-- The character that closes a bracket. -/
def Bracket.closing : Bracket → Char
  | .round => ')'
  | .square => ']'
  | .curly => '\x7d'
  | .angle => '>'

/-- Stands anywhere in a type: in identifiers, and between the parts of unions and paths. -/
def isPlain (c : Char) : Bool :=
  continuesIdentifier c || c == '|' || c == '&' || c == '.' || c == ' '

/-- Stands in a type inside brackets only. -/
def isInnerMark (c : Char) : Bool :=
  c == ':' || c == '?' || c == ','

/-- Stands in a string literal of a well-nested text: no quote, no backslash and no line feed. -/
def IsLiteralCharacter (c : Char) : Prop :=
  isQuote c = false ∧ c ≠ '\\' ∧ c ≠ '\n'

instance : DecidablePred IsLiteralCharacter := fun c =>
  inferInstanceAs (Decidable (isQuote c = false ∧ c ≠ '\\' ∧ c ≠ '\n'))

/-- A type text, or a part of one that stands `inside` a bracket or even inside braces. -/
inductive Nested : (inside braced : Bool) → List Char → Prop
  | nil {inside braced : Bool} : Nested inside braced []
  | plain {inside braced : Bool} {c : Char} {rest : List Char} (plain : isPlain c = true)
      (nested : Nested inside braced rest) : Nested inside braced (c :: rest)
  | arrow {inside braced : Bool} {rest : List Char} (nested : Nested inside braced rest) :
      Nested inside braced ('=' :: '>' :: rest)
  | mark {braced : Bool} {c : Char} {rest : List Char} (mark : isInnerMark c = true)
      (nested : Nested true braced rest) : Nested true braced (c :: rest)
  | semicolon {rest : List Char} (nested : Nested true true rest) : Nested true true (';' :: rest)
  | literal {inside braced : Bool} {quote : Char} {content rest : List Char}
      (quotes : isQuote quote = true) (contents : ∀ c ∈ content, IsLiteralCharacter c)
      (nested : Nested inside braced rest) :
      Nested inside braced (quote :: (content ++ quote :: rest))
  | group {inside braced : Bool} {inner rest : List Char} (bracket : Bracket)
      (nestedInner : Nested true (braced || bracket == .curly) inner)
      (nested : Nested inside braced rest) :
      Nested inside braced (bracket.opening :: (inner ++ bracket.closing :: rest))

theorem Nested.run {inside braced : Bool} {rest : List Char} (run : List Char)
    (plain : ∀ c ∈ run, isPlain c = true) (nested : Nested inside braced rest) :
    Nested inside braced (run ++ rest) := by
  induction run with
  | nil => exact nested
  | cons c run inductionHypothesis =>
    rw [List.forall_mem_cons] at plain
    exact .plain plain.1 (inductionHypothesis plain.2)

/-- Between braces the marks and semicolons of members may stand in a run. -/
theorem Nested.innerRun {rest : List Char} (run : List Char)
    (inner : ∀ c ∈ run, (isPlain c || isInnerMark c || c == ';') = true)
    (nested : Nested true true rest) : Nested true true (run ++ rest) := by
  induction run with
  | nil => exact nested
  | cons c run inductionHypothesis =>
    obtain ⟨here, later⟩ := List.forall_mem_cons.1 inner
    have behind := inductionHypothesis later
    rw [Bool.or_eq_true, Bool.or_eq_true] at here
    rcases here with (plain | mark) | semicolon
    · exact .plain plain behind
    · exact .mark mark behind
    · rw [beq_iff_eq.1 semicolon]
      exact .semicolon behind

/-- Outside every bracket a well-nested text does not end with a separator. -/
theorem Nested.noSeparator {braced : Bool} {text : List Char} (nested : Nested false braced text) :
    ∀ c, text.getLast? = some c → c ≠ ';' ∧ c ≠ ',' := by
  have step : ∀ {c : Char} {rest : List Char}, c ≠ ';' ∧ c ≠ ',' →
      (∀ d, rest.getLast? = some d → d ≠ ';' ∧ d ≠ ',') →
      ∀ d, (c :: rest).getLast? = some d → d ≠ ';' ∧ d ≠ ',' :=
    fun here => forall_getLast?_cons fun _ => here
  generalize outside : false = inside at nested
  induction nested with
  | nil => exact fun c absent => absurd absent (by simp)
  | @plain _ _ c rest plain _ inductionHypothesis =>
    refine step ⟨?_, ?_⟩ (inductionHypothesis outside)
    · rintro rfl
      exact absurd plain (by decide)
    · rintro rfl
      exact absurd plain (by decide)
  | arrow _ inductionHypothesis => exact step (by decide) (step (by decide) (inductionHypothesis outside))
  | mark | semicolon => exact absurd outside (by simp)
  | @literal _ _ quote content rest quotes _ _ inductionHypothesis =>
    have noSeparator : quote ≠ ';' ∧ quote ≠ ',' := by
      refine ⟨?_, ?_⟩ <;> rintro rfl <;> exact absurd quotes (by decide)
    intro c last
    rw [List.getLast?_cons_of_ne_nil (by simp), List.getLast?_append_of_ne_nil _ (by simp)] at last
    exact step noSeparator (inductionHypothesis outside) c last
  | @group _ _ inner rest bracket _ _ _ inductionHypothesis =>
    have noSeparator : bracket.closing ≠ ';' ∧ bracket.closing ≠ ',' := by
      cases bracket <;> decide
    intro c last
    rw [List.getLast?_cons_of_ne_nil (by simp), List.getLast?_append_of_ne_nil _ (by simp)] at last
    exact step noSeparator (inductionHypothesis outside) c last

/-! ### Balanced texts -/

/-- The characters that a walk in search of an end looks at. -/
def structural : List Char :=
  ['(', ')', '[', ']', '\x7b', '\x7d', '<', '>', '=', '\n']

/-- No bracket and no line feed, and a comma or a semicolon only where it separates nothing. -/
structure IsPassed (inside braced : Bool) (c : Char) : Prop where
  notStructural : c ∉ structural
  comma : c = ',' → inside = true
  semicolon : c = ';' → inside = true ∧ braced = true

instance (inside braced : Bool) : DecidablePred (IsPassed inside braced) := fun c =>
  decidable_of_iff
    (c ∉ structural ∧ (c = ',' → inside = true) ∧ (c = ';' → inside = true ∧ braced = true))
    ⟨fun both => ⟨both.1, both.2.1, both.2.2⟩,
      fun passed => ⟨passed.notStructural, passed.comma, passed.semicolon⟩⟩

/-- A text as the masked view shows it: every bracket that it opens it closes. -/
inductive Balanced : (inside braced : Bool) → List Char → Prop
  | nil {inside braced : Bool} : Balanced inside braced []
  | passed {inside braced : Bool} {c : Char} {rest : List Char} (passed : IsPassed inside braced c)
      (balanced : Balanced inside braced rest) : Balanced inside braced (c :: rest)
  | arrow {inside braced : Bool} {rest : List Char} (balanced : Balanced inside braced rest) :
      Balanced inside braced ('=' :: '>' :: rest)
  | group {inside braced : Bool} {inner rest : List Char} (bracket : Bracket)
      (balancedInner : Balanced true (braced || bracket == .curly) inner)
      (balanced : Balanced inside braced rest) :
      Balanced inside braced (bracket.opening :: (inner ++ bracket.closing :: rest))

theorem isPassed_of_class {isIn : Char → Bool} {c : Char} (inClass : isIn c = true)
    (never : ∀ d ∈ ',' :: ';' :: structural, isIn d = false) (inside braced : Bool) :
    IsPassed inside braced c := by
  have other : ∀ d ∈ ',' :: ';' :: structural, c ≠ d := by
    rintro d member rfl
    rw [never c member] at inClass
    exact absurd inClass (by simp)
  refine ⟨fun member => ?_, fun comma => ?_, fun semicolon => ?_⟩
  · exact other c (by simp [member]) rfl
  · exact absurd comma (other ',' (by simp))
  · exact absurd semicolon (other ';' (by simp))

theorem isPassed_of_isPlain {c : Char} (plain : isPlain c = true) (inside braced : Bool) :
    IsPassed inside braced c :=
  isPassed_of_class plain (by decide) inside braced

theorem isPassed_of_isQuote {c : Char} (quotes : isQuote c = true) (inside braced : Bool) :
    IsPassed inside braced c :=
  isPassed_of_class quotes (by decide) inside braced

theorem isPassed_of_isInnerMark {c : Char} (mark : isInnerMark c = true) (braced : Bool) :
    IsPassed true braced c := by
  rw [isInnerMark, Bool.or_eq_true, Bool.or_eq_true] at mark
  rcases mark with (same | same) | same <;> rw [beq_iff_eq.1 same] <;>
    exact ⟨by decide, fun _ => rfl, fun semicolon => absurd semicolon (by decide)⟩

theorem Balanced.run {inside braced : Bool} {run rest : List Char}
    (passed : ∀ c ∈ run, IsPassed inside braced c) (balanced : Balanced inside braced rest) :
    Balanced inside braced (run ++ rest) := by
  induction run with
  | nil => exact balanced
  | cons c run inductionHypothesis =>
    rw [List.forall_mem_cons] at passed
    exact .passed passed.1 (inductionHypothesis passed.2)

theorem balanced_of_passed {inside braced : Bool} {text : List Char}
    (passed : ∀ c ∈ text, IsPassed inside braced c) : Balanced inside braced text := by
  have run := Balanced.run passed .nil
  rwa [List.append_nil] at run

/-- A balanced text stands on one line. -/
theorem Balanced.oneLine {inside braced : Bool} {text : List Char}
    (balanced : Balanced inside braced text) : '\n' ∉ text := by
  induction balanced with
  | nil => exact List.not_mem_nil
  | passed passed _ inductionHypothesis =>
    refine List.not_mem_cons_of_ne_of_not_mem (fun same => passed.notStructural ?_) inductionHypothesis
    rw [← same]
    decide
  | arrow _ inductionHypothesis =>
    exact List.not_mem_cons_of_ne_of_not_mem (by decide)
      (List.not_mem_cons_of_ne_of_not_mem (by decide) inductionHypothesis)
  | group bracket _ _ innerHypothesis inductionHypothesis =>
    have noBreak : '\n' ≠ bracket.opening ∧ '\n' ≠ bracket.closing := by cases bracket <;> decide
    rw [List.mem_cons, List.mem_append, List.mem_cons, not_or, not_or, not_or]
    exact ⟨noBreak.1, innerHypothesis, noBreak.2, inductionHypothesis⟩

/-! ### Texts behind which the walk is back in code -/

/-- The walk is back in code behind the source, and the source holds no comment. -/
structure Settled (source : List Char) : Prop where
  returns : ∀ rest, cellsFrom .code (source ++ rest) = cellsFrom .code source ++ cellsFrom .code rest
  isClean : (Views.of source).clean = source

/-- The masked view of a source. -/
def mask (source : List Char) : List Char :=
  (Views.of source).masked

theorem length_mask (source : List Char) : (mask source).length = source.length :=
  Views.length_masked source

/-- The masked view has the line breaks of the source and no others. -/
theorem count_mask (source : List Char) : (mask source).count '\n' = source.count '\n' := by
  have blankedBreak : ∀ c, (blanked c == '\n') = (c == '\n') := by
    intro c
    unfold blanked
    split
    · rename_i same
      rw [same]
    · rename_i different
      rw [beq_false_of_ne different]
      rfl
  have cell : ∀ (mode : Mode) c rest, ((mode.cell c rest).masked == '\n') = (c == '\n') := by
    intro mode c rest
    cases mode <;>
      simp only [Mode.cell, apply_ite Cell.masked, apply_ite (· == '\n'), blankedBreak, ite_self]
  have cells : ∀ mode, ((cellsFrom mode source).map (·.masked)).count '\n' = source.count '\n' := by
    induction source with
    | nil => exact fun _ => rfl
    | cons c rest inductionHypothesis =>
      intro mode
      rw [cellsFrom, List.map_cons, List.count_cons, List.count_cons, inductionHypothesis, cell]
  exact cells .code

theorem Settled.nil : Settled [] :=
  ⟨fun _ => rfl, rfl⟩

theorem Settled.append {first second : List Char} (settled : Settled first)
    (settledSecond : Settled second) : Settled (first ++ second) := by
  refine ⟨fun rest => ?_, ?_⟩
  · rw [List.append_assoc, settled.returns, settledSecond.returns, settled.returns,
      List.append_assoc]
  · have clean := settled.isClean
    have cleanSecond := settledSecond.isClean
    rw [Views.of] at clean cleanSecond ⊢
    simp only [settled.returns, List.map_append] at clean cleanSecond ⊢
    rw [clean, cleanSecond]

/-- What stands behind a part that the walk leaves is left by it too. -/
theorem Settled.of_append {first second : List Char} (settled : Settled first)
    (whole : Settled (first ++ second)) : Settled second := by
  refine ⟨fun rest => ?_, ?_⟩
  · have walked := whole.returns rest
    rw [List.append_assoc, settled.returns, settled.returns, List.append_assoc] at walked
    exact List.append_cancel_left walked
  · have clean := settled.isClean
    have cleanWhole := whole.isClean
    simp only [Views.of, settled.returns, List.map_append] at clean cleanWhole ⊢
    rw [clean] at cleanWhole
    exact List.append_cancel_left cleanWhole

theorem mask_append {first : List Char} (settled : Settled first) (second : List Char) :
    mask (first ++ second) = mask first ++ mask second := by
  simp only [mask, Views.of, settled.returns, List.map_append]

/-- A character of code that stands for itself. -/
def isQuiet (c : Char) : Bool :=
  c != '/' && !isQuote c

theorem settled_singleton {c : Char} (quiet : isQuiet c = true) : Settled [c] ∧ mask [c] = [c] := by
  obtain ⟨noSlash, noQuote⟩ := Bool.and_eq_true_iff.1 quiet
  have noSlash : c ≠ '/' := bne_iff_ne.1 noSlash
  have cell : ∀ rest, Mode.code.cell c rest = ⟨c, c⟩ := fun rest => if_neg fun both => noSlash both.1
  have next : ∀ rest, Mode.code.next c rest = .code := by
    intro rest
    rw [Mode.next, Mode.behindCode, if_neg fun both => noSlash both.1,
      if_neg fun both => noSlash both.1, if_neg (by simpa using noQuote)]
  refine ⟨⟨fun rest => ?_, ?_⟩, ?_⟩
  · rw [List.singleton_append, cellsFrom, cellsFrom, cell, cell, next, next]
    rfl
  · simp only [Views.of, cellsFrom, cell, List.map_cons, List.map_nil]
  · simp only [mask, Views.of, cellsFrom, cell, List.map_cons, List.map_nil]

theorem settled_quiet {text : List Char} (quiet : ∀ c ∈ text, isQuiet c = true) :
    Settled text ∧ mask text = text := by
  induction text with
  | nil => exact ⟨.nil, rfl⟩
  | cons c text inductionHypothesis =>
    obtain ⟨settled, same⟩ := settled_singleton (quiet c List.mem_cons_self)
    obtain ⟨settledRest, sameRest⟩ :=
      inductionHypothesis fun d member => quiet d (List.mem_cons_of_mem c member)
    refine ⟨settled.append settledRest, ?_⟩
    rw [← List.singleton_append, mask_append settled, same, sameRest]

/-- The cells of a literal whose opening quote has been read. -/
theorem cellsFrom_literal {quote : Char} {content : List Char}
    (contents : ∀ c ∈ content, IsLiteralCharacter c) (quotes : isQuote quote = true)
    (rest : List Char) :
    cellsFrom (.literal quote) (content ++ quote :: rest) =
      content.map (fun c => ⟨c, ' '⟩) ++ ⟨quote, quote⟩ :: cellsFrom .code rest := by
  induction content with
  | nil =>
    rw [List.nil_append, List.map_nil, List.nil_append, cellsFrom, Mode.cell, Mode.next,
      Mode.behindLiteral, if_pos rfl, if_pos rfl]
  | cons c content inductionHypothesis =>
    obtain ⟨noQuote, noBackslash, noBreak⟩ := contents c List.mem_cons_self
    have different : c ≠ quote := by
      rintro rfl
      rw [quotes] at noQuote
      exact absurd noQuote (by simp)
    rw [List.cons_append, cellsFrom, Mode.cell, Mode.next, Mode.behindLiteral, if_neg different,
      if_neg different, if_neg noBackslash, if_neg fun both => noBreak both.1, blanked,
      if_neg noBreak,
      inductionHypothesis fun d member => contents d (List.mem_cons_of_mem c member)]
    rfl

theorem settled_literal {quote : Char} {content : List Char}
    (contents : ∀ c ∈ content, IsLiteralCharacter c) (quotes : isQuote quote = true) :
    Settled (quote :: (content ++ [quote])) ∧
      mask (quote :: (content ++ [quote])) = quote :: (List.replicate content.length ' ' ++ [quote]) := by
  have noSlash : quote ≠ '/' := by
    rintro rfl
    exact absurd quotes (by decide)
  have opens : ∀ rest, cellsFrom .code (quote :: (content ++ quote :: rest)) =
      ⟨quote, quote⟩ :: (content.map (fun c => ⟨c, ' '⟩) ++ ⟨quote, quote⟩ :: cellsFrom .code rest) := by
    intro rest
    rw [cellsFrom, Mode.cell, if_neg fun both => noSlash both.1, Mode.next, Mode.behindCode,
      if_neg fun both => noSlash both.1, if_neg fun both => noSlash both.1, if_pos quotes,
      cellsFrom_literal contents quotes]
  have alone : cellsFrom .code (quote :: (content ++ [quote])) =
      ⟨quote, quote⟩ :: (content.map (fun c => ⟨c, ' '⟩) ++ [⟨quote, quote⟩]) := opens []
  refine ⟨⟨fun rest => ?_, ?_⟩, ?_⟩
  · rw [List.cons_append, List.append_assoc, List.singleton_append, opens, alone, List.cons_append,
      List.append_assoc, List.singleton_append]
  · simp [Views.of, alone, Function.comp_def]
  · simp [mask, Views.of, alone, Function.comp_def, List.map_const']

/-! ### The mask of a well-nested text -/

theorem isQuiet_of_class {isIn : Char → Bool} {c : Char} (inClass : isIn c = true)
    (never : ∀ d ∈ ['/', '\x27', '\x22', '\x60'], isIn d = false) : isQuiet c = true := by
  have other : ∀ d ∈ ['/', '\x27', '\x22', '\x60'], c ≠ d := by
    rintro d member rfl
    rw [never c member] at inClass
    exact absurd inClass (by simp)
  simp [isQuiet, isQuote, other]

theorem isQuiet_of_isPlain {c : Char} (plain : isPlain c = true) : isQuiet c = true :=
  isQuiet_of_class plain (by decide)

theorem isQuiet_of_isInnerMark {c : Char} (mark : isInnerMark c = true) : isQuiet c = true :=
  isQuiet_of_class mark (by decide)

theorem isQuiet_opening (bracket : Bracket) : isQuiet bracket.opening = true := by
  cases bracket <;> decide

theorem isQuiet_closing (bracket : Bracket) : isQuiet bracket.closing = true := by
  cases bracket <;> decide

/-- Behind a well-nested text the walk is back in code, and the mask of the text is balanced. -/
theorem Nested.settled {inside braced : Bool} {text : List Char}
    (nested : Nested inside braced text) : Settled text ∧ Balanced inside braced (mask text) := by
  induction nested with
  | nil => exact ⟨.nil, .nil⟩
  | @plain _ _ c rest plain _ inductionHypothesis =>
    obtain ⟨settled, same⟩ := settled_singleton (isQuiet_of_isPlain plain)
    rw [← List.singleton_append, mask_append settled, same]
    exact ⟨settled.append inductionHypothesis.1,
      .passed (isPassed_of_isPlain plain _ _) inductionHypothesis.2⟩
  | @arrow _ _ rest _ inductionHypothesis =>
    obtain ⟨settled, same⟩ := @settled_quiet ['=', '>'] (by decide)
    rw [show '=' :: '>' :: rest = ['=', '>'] ++ rest from rfl, mask_append settled, same]
    exact ⟨settled.append inductionHypothesis.1, .arrow inductionHypothesis.2⟩
  | @mark _ c rest mark _ inductionHypothesis =>
    obtain ⟨settled, same⟩ := settled_singleton (isQuiet_of_isInnerMark mark)
    rw [← List.singleton_append, mask_append settled, same]
    exact ⟨settled.append inductionHypothesis.1,
      .passed (isPassed_of_isInnerMark mark _) inductionHypothesis.2⟩
  | @semicolon rest _ inductionHypothesis =>
    obtain ⟨settled, same⟩ := @settled_singleton ';' (by decide)
    rw [← List.singleton_append, mask_append settled, same]
    exact ⟨settled.append inductionHypothesis.1,
      .passed ⟨by decide, by decide, by decide⟩ inductionHypothesis.2⟩
  | @literal inside braced quote content rest quotes contents _ inductionHypothesis =>
    obtain ⟨settled, same⟩ := settled_literal contents quotes
    have isPassed := isPassed_of_isQuote quotes inside braced
    have spaces : ∀ c ∈ List.replicate content.length ' ', IsPassed inside braced c := by
      intro c member
      rw [List.eq_of_mem_replicate member]
      exact isPassed_of_isPlain (by decide) _ _
    rw [show quote :: (content ++ quote :: rest) = quote :: (content ++ [quote]) ++ rest by simp,
      mask_append settled, same]
    refine ⟨settled.append inductionHypothesis.1, ?_⟩
    rw [List.cons_append, List.append_assoc, List.singleton_append]
    exact .passed isPassed (.run spaces (.passed isPassed inductionHypothesis.2))
  | @group _ _ inner rest bracket _ _ innerHypothesis inductionHypothesis =>
    obtain ⟨settledOpening, sameOpening⟩ := settled_singleton (isQuiet_opening bracket)
    obtain ⟨settledClosing, sameClosing⟩ := settled_singleton (isQuiet_closing bracket)
    rw [← List.singleton_append, ← List.singleton_append (l := rest), mask_append settledOpening,
      mask_append innerHypothesis.1, mask_append settledClosing, sameOpening, sameClosing]
    refine ⟨settledOpening.append (innerHypothesis.1.append
      (settledClosing.append inductionHypothesis.1)), ?_⟩
    exact .group bracket innerHypothesis.2 inductionHypothesis.2

theorem Nested.isQuiet {inside braced : Bool} {text : List Char}
    (nested : Nested inside braced text) (noQuote : ∀ c ∈ text, isQuote c = false) :
    ∀ c ∈ text, isQuiet c = true := by
  induction nested with
  | nil => exact fun _ absent => absurd absent List.not_mem_nil
  | plain plain _ inductionHypothesis =>
    rw [List.forall_mem_cons] at noQuote ⊢
    exact ⟨isQuiet_of_isPlain plain, inductionHypothesis noQuote.2⟩
  | arrow _ inductionHypothesis =>
    rw [List.forall_mem_cons, List.forall_mem_cons] at noQuote ⊢
    exact ⟨by decide, by decide, inductionHypothesis noQuote.2.2⟩
  | mark mark _ inductionHypothesis =>
    rw [List.forall_mem_cons] at noQuote ⊢
    exact ⟨isQuiet_of_isInnerMark mark, inductionHypothesis noQuote.2⟩
  | semicolon _ inductionHypothesis =>
    rw [List.forall_mem_cons] at noQuote ⊢
    exact ⟨by decide, inductionHypothesis noQuote.2⟩
  | literal quotes _ _ _ =>
    rw [List.forall_mem_cons, quotes] at noQuote
    exact absurd noQuote.1 (by simp)
  | group bracket _ _ innerHypothesis inductionHypothesis =>
    rw [List.forall_mem_cons, List.forall_mem_append, List.forall_mem_cons] at noQuote ⊢
    exact ⟨isQuiet_opening bracket, innerHypothesis noQuote.2.1, isQuiet_closing bracket,
      inductionHypothesis noQuote.2.2.2⟩

/-- Without string literals a well-nested text is its own mask. -/
theorem Nested.mask_of_no_quote {inside braced : Bool} {text : List Char}
    (nested : Nested inside braced text) (noQuote : ∀ c ∈ text, isQuote c = false) :
    mask text = text :=
  (settled_quiet (nested.isQuiet noQuote)).2

end Concord.Source
