/-
What the masked view shows of a source, and what it hides. Outside a literal the masked view is the clean
view, and it shows where a literal begins; so two texts that it cannot tell apart are the same up to the
first quote. A character that is no blank and no quote it shows in code only, so behind such a character
the two views start afresh.
-/

import Concord.Proofs.Source.Comments
import Concord.Proofs.Text.Words
import Concord.Source.Span

namespace Concord.Source

open Text

/-! ### Texts that are the same up to a quote -/

theorem isIn_of_isQuote {isIn : Char → Bool} {answer : Bool} {c : Char} (quotes : isQuote c = true)
    (known : ∀ quote ∈ ['\x27', '\x22', '\x60'], isIn quote = answer) : isIn c = answer := by
  refine known c ?_
  simpa [isQuote, or_assoc] using quotes

theorem not_isBlank_of_isQuote {c : Char} (quotes : isQuote c = true) : isBlank c = false :=
  isIn_of_isQuote quotes (by decide)

theorem not_continuesIdentifier_of_isQuote {c : Char} (quotes : isQuote c = true) :
    continuesIdentifier c = false :=
  isIn_of_isQuote quotes (by decide)

section

variable {α β γ δ : Type} {relation : α → β → Prop} {onward : γ → δ → Prop} {first : Option α}
  {second : Option β}

/-- Both readings fail, or both succeed with results in the relation. -/
theorem rel_iff :
    Option.Rel relation first second ↔
      (first = none ∧ second = none) ∨
        ∃ value other, first = some value ∧ second = some other ∧ relation value other := by
  constructor
  · rintro (holds | _)
    · exact .inr ⟨_, _, rfl, rfl, holds⟩
    · exact .inl ⟨rfl, rfl⟩
  · rintro (⟨rfl, rfl⟩ | ⟨value, other, rfl, rfl, holds⟩)
    · exact .none
    · exact .some holds

theorem rel_bind {step : α → Option γ} {other : β → Option δ} (related : Option.Rel relation first second)
    (steps : ∀ value found, relation value found → Option.Rel onward (step value) (other found)) :
    Option.Rel onward (first.bind step) (second.bind other) := by
  cases related with
  | none => exact .none
  | some holds => exact steps _ _ holds

theorem rel_or {firstElse : Option α} {secondElse : Option β} (related : Option.Rel relation first second)
    (relatedElse : Option.Rel relation firstElse secondElse) :
    Option.Rel relation (first.or firstElse) (second.or secondElse) := by
  cases related with
  | none => exact relatedElse
  | some holds => exact .some holds

end

/-- The texts are the same, or the same up to a quote behind which `behind` holds of them. -/
inductive SameToQuote (behind : List Char → List Char → Prop) : (first second : List Char) → Prop
  | nil : SameToQuote behind [] []
  | quote {c : Char} {first second : List Char} (quotes : isQuote c = true)
      (holds : behind first second) : SameToQuote behind (c :: first) (c :: second)
  | plain {c : Char} {first second : List Char} (plain : isQuote c = false)
      (same : SameToQuote behind first second) : SameToQuote behind (c :: first) (c :: second)

/-- The texts are the same, or the same up to a quote. -/
abbrev LookAlike : (first second : List Char) → Prop :=
  SameToQuote fun _ _ => True

section

variable {behind : List Char → List Char → Prop} {first second : List Char}
  (same : SameToQuote behind first second)

include same

theorem SameToQuote.lookAlike : LookAlike first second := by
  induction same with
  | nil => exact .nil
  | quote quotes _ => exact .quote quotes trivial
  | plain plain _ inductionHypothesis => exact .plain plain inductionHypothesis

theorem SameToQuote.head?_eq : first.head? = second.head? := by
  cases same <;> rfl

theorem SameToQuote.isEmpty_eq : first.isEmpty = second.isEmpty := by
  cases same <;> rfl

/-- A character that is no quote opens both texts or neither. -/
theorem SameToQuote.exists_cons {c : Char} (plain : isQuote c = false) (opens : first.head? = some c) :
    ∃ rest other, first = c :: rest ∧ second = c :: other ∧ SameToQuote behind rest other := by
  cases same with
  | nil => exact absurd opens (by simp)
  | quote quotes _ =>
    rw [Option.some.inj opens, plain] at quotes
    exact absurd quotes (by simp)
  | plain _ same =>
    obtain rfl := Option.some.inj opens
    exact ⟨_, _, rfl, rfl, same⟩

/-- Behind the characters of a class without quotes the texts are still the same up to a quote. -/
theorem SameToQuote.dropWhile {isIn : Char → Bool} (stops : ∀ c, isQuote c = true → isIn c = false) :
    SameToQuote behind (first.dropWhile isIn) (second.dropWhile isIn) := by
  induction same with
  | nil => exact .nil
  | quote quotes holds =>
    rw [List.dropWhile_cons_of_neg (by simp [stops _ quotes]),
      List.dropWhile_cons_of_neg (by simp [stops _ quotes])]
    exact .quote quotes holds
  | @plain c _ _ plain same inductionHypothesis =>
    rw [List.dropWhile_cons, List.dropWhile_cons]
    split
    · exact inductionHypothesis
    · exact .plain plain same

theorem SameToQuote.takeWhile_eq {isIn : Char → Bool}
    (stops : ∀ c, isQuote c = true → isIn c = false) :
    first.takeWhile isIn = second.takeWhile isIn := by
  induction same with
  | nil => rfl
  | quote quotes _ =>
    rw [List.takeWhile_cons_of_neg (by simp [stops _ quotes]),
      List.takeWhile_cons_of_neg (by simp [stops _ quotes])]
  | plain _ _ inductionHypothesis => rw [List.takeWhile_cons, List.takeWhile_cons, inductionHypothesis]

theorem SameToQuote.stripStart : SameToQuote behind (stripStart first) (stripStart second) :=
  same.dropWhile fun _ => not_isBlank_of_isQuote

/-! ### Reading the front of such texts -/

theorem SameToQuote.after? {keyword : List Char} (noQuote : ∀ k ∈ keyword, isQuote k = false) :
    Option.Rel (SameToQuote behind) (after? keyword first) (after? keyword second) := by
  induction keyword generalizing first second with
  | nil =>
    rw [after?_nil, after?_nil]
    exact .some same
  | cons k keyword inductionHypothesis =>
    obtain ⟨here, later⟩ := List.forall_mem_cons.1 noQuote
    cases same with
    | nil => exact .none
    | @quote c _ _ quotes _ =>
      have different : k ≠ c := by
        rintro rfl
        exact absurd (here.symm.trans quotes) (by simp)
      rw [Text.after?, Text.after?, if_neg different, if_neg different]
      exact .none
    | plain _ same =>
      rw [Text.after?, Text.after?]
      split
      · exact inductionHypothesis same later
      · exact .none

theorem SameToQuote.spacedKeyword? {keyword : List Char} (noQuote : ∀ k ∈ keyword, isQuote k = false) :
    Option.Rel (SameToQuote behind) (spacedKeyword? keyword first) (spacedKeyword? keyword second) := by
  unfold Text.spacedKeyword?
  obtain ⟨isNone, otherNone⟩ | ⟨rest, other, found, otherFound, same⟩ := rel_iff.1 (same.after? noQuote)
  · rw [isNone, otherNone]
    exact .none
  · rw [found, otherFound]
    cases same with
    | nil => exact .none
    | quote quotes _ =>
      simp only [not_isBlank_of_isQuote quotes]
      exact .none
    | plain _ same =>
      simp only
      split
      · exact .some same.stripStart
      · exact .none

/-- The same identifier opens both texts, or none opens either. -/
theorem SameToQuote.identifier? :
    Option.Rel (fun read other => read.1 = other.1 ∧ SameToQuote behind read.2 other.2)
      (identifier? first) (identifier? second) := by
  cases same with
  | nil => exact .none
  | quote quotes _ =>
    have notOpening : opensIdentifier _ = false := isIn_of_isQuote quotes (by decide)
    rw [Text.identifier?, Text.identifier?, if_neg (by simp [notOpening]), if_neg (by simp [notOpening])]
    exact .none
  | plain _ same =>
    rw [Text.identifier?, Text.identifier?]
    split
    · refine .some ⟨congrArg (_ :: ·) (same.takeWhile_eq ?_), same.dropWhile ?_⟩ <;>
        exact fun _ => not_continuesIdentifier_of_isQuote
    · exact .none

end

/-! ### Stripping such texts -/

theorem stripEnd_cons (c : Char) (text : List Char) :
    stripEnd (c :: text) =
      if (stripEnd text).isEmpty && isBlank c then [] else c :: stripEnd text := by
  rw [stripEnd, stripEnd, List.reverse_cons, List.dropWhile_append, List.isEmpty_reverse]
  cases isEnd : text.reverse.dropWhile isBlank with
  | nil => cases blank : isBlank c <;> simp [blank]
  | cons d rest => simp

theorem LookAlike.stripEnd {first second : List Char} (alike : LookAlike first second) :
    LookAlike (stripEnd first) (stripEnd second) := by
  induction alike with
  | nil => exact .nil
  | quote quotes _ =>
    have notBlank := not_isBlank_of_isQuote quotes
    rw [stripEnd_cons, stripEnd_cons, if_neg (by simp [notBlank]), if_neg (by simp [notBlank])]
    exact .quote quotes trivial
  | plain plain _ inductionHypothesis =>
    rw [stripEnd_cons, stripEnd_cons, inductionHypothesis.isEmpty_eq]
    split
    · exact .nil
    · exact .plain plain inductionHypothesis

theorem LookAlike.strip {first second : List Char} (alike : LookAlike first second) :
    LookAlike (strip first) (strip second) :=
  LookAlike.stripEnd (SameToQuote.stripStart alike)

/-! ### What a quote decides -/

/-- The texts are the same, or both hold a quote. -/
theorem LookAlike.eq_or_quotes {first second : List Char} (alike : LookAlike first second) :
    first = second ∨
      (∃ quote ∈ first, isQuote quote = true) ∧ ∃ quote ∈ second, isQuote quote = true := by
  induction alike with
  | nil => exact .inl rfl
  | quote quotes _ => exact .inr ⟨⟨_, List.mem_cons_self, quotes⟩, ⟨_, List.mem_cons_self, quotes⟩⟩
  | plain _ _ inductionHypothesis =>
    refine inductionHypothesis.imp (congrArg _) ?_
    rintro ⟨⟨quote, inside, quotes⟩, ⟨other, insideOther, alsoQuotes⟩⟩
    exact ⟨⟨quote, List.mem_cons_of_mem _ inside, quotes⟩,
      ⟨other, List.mem_cons_of_mem _ insideOther, alsoQuotes⟩⟩

theorem LookAlike.takeWhile {first second : List Char} (alike : LookAlike first second)
    (isIn : Char → Bool) : LookAlike (first.takeWhile isIn) (second.takeWhile isIn) := by
  induction alike with
  | nil => exact .nil
  | quote quotes _ =>
    rw [List.takeWhile_cons, List.takeWhile_cons]
    split
    · exact .quote quotes trivial
    · exact .nil
  | plain plain _ inductionHypothesis =>
    rw [List.takeWhile_cons, List.takeWhile_cons]
    split
    · exact .plain plain inductionHypothesis
    · exact .nil

/-! ### What the masked view hides -/

/-- How the masked view veils the clean one. Outside a literal the two show the same. A literal begins with
a quote, which both show, and ends with a quote or a line feed, which both show; of what stands inside,
the masked view shows the line feeds. From a hidden character on, the clean view satisfies `mayHide`. -/
inductive Veils (mayHide : List Char → Prop) :
    (inLiteral : Bool) → (clean masked : List Char) → Prop
  | nil {inLiteral : Bool} : Veils mayHide inLiteral [] []
  | code {c : Char} {clean masked : List Char} (plain : isQuote c = false)
      (rest : Veils mayHide false clean masked) : Veils mayHide false (c :: clean) (c :: masked)
  | opening {c : Char} {clean masked : List Char} (quotes : isQuote c = true)
      (rest : Veils mayHide true clean masked) : Veils mayHide false (c :: clean) (c :: masked)
  | closing {c : Char} {clean masked : List Char} (ends : isQuote c = true ∨ c = '\n')
      (rest : Veils mayHide false clean masked) : Veils mayHide true (c :: clean) (c :: masked)
  | hidden {c : Char} {clean masked : List Char} (may : mayHide (c :: clean))
      (rest : Veils mayHide true clean masked) : Veils mayHide true (c :: clean) (blanked c :: masked)

/-- The mode stands inside a string literal. -/
def Mode.isInLiteral : Mode → Bool
  | .literal _ | .escaped _ => true
  | _ => false

/-- The literal in which the mode stands has a quote at its start. -/
def Mode.IsQuoted : Mode → Prop
  | .literal quote | .escaped quote => isQuote quote = true
  | _ => True

theorem Mode.isInLiteral_withoutComments (mode : Mode) :
    mode.withoutComments.isInLiteral = mode.isInLiteral := by
  cases mode <;> rfl

theorem Mode.isQuoted_withoutComments (mode : Mode) : mode.withoutComments.IsQuoted ↔ mode.IsQuoted := by
  cases mode <;> exact .rfl

theorem Mode.isQuoted_next {mode : Mode} (quoted : mode.IsQuoted) (c : Char) (rest : List Char) :
    (mode.next c rest).IsQuoted := by
  cases mode with
  | code =>
    by_cases opens : OpensComment c rest
    · rw [← isQuoted_withoutComments, (code_opensComment opens).2]
      trivial
    · rw [(code_plain opens).2]
      split
      · assumption
      · trivial
  | lineComment | block =>
    rw [next]
    split <;> trivial
  | blockOpening | blockClosing => trivial
  | literal quote =>
    rw [next, behindLiteral]
    split_ifs <;> trivial
  | escaped quote => exact quoted

theorem Mode.isInLiteral_next_of_comment {mode : Mode} (comment : mode = .lineComment ∨ mode = .block)
    (c : Char) (rest : List Char) : (mode.next c rest).isInLiteral = false := by
  rcases comment with rfl | rfl <;> rw [next] <;> split <;> rfl

/-- A literal ends with its quote or is cut off by a line feed; otherwise it goes on. -/
theorem Mode.behindLiteral_cases (quote c : Char) :
    c = quote ∧ behindLiteral quote c = .code ∨
      c ≠ quote ∧ c = '\n' ∧ behindLiteral quote c = .code ∨
      c ≠ quote ∧ (behindLiteral quote c).isInLiteral = true := by
  unfold behindLiteral
  split_ifs with isEnd isEscape isCut
  · exact .inl ⟨isEnd, rfl⟩
  · exact .inr (.inr ⟨isEnd, rfl⟩)
  · exact .inr (.inl ⟨isEnd, isCut.1, rfl⟩)
  · exact .inr (.inr ⟨isEnd, rfl⟩)

theorem veils_cellsFrom {mode : Mode} (quoted : mode.IsQuoted) (source : List Char) :
    Veils (fun _ => True) mode.isInLiteral ((cellsFrom mode source).map (·.clean))
      ((cellsFrom mode source).map (·.masked)) := by
  induction source generalizing mode with
  | nil => exact .nil
  | cons c rest inductionHypothesis =>
    have behind := inductionHypothesis (Mode.isQuoted_next quoted c rest)
    rw [cellsFrom, List.map_cons, List.map_cons]
    cases mode with
    | code =>
      by_cases opens : OpensComment c rest
      · rw [← Mode.isInLiteral_withoutComments, (code_opensComment opens).2] at behind
        rw [(code_opensComment opens).1]
        exact .code (isQuote_blanked c) behind
      · rw [(code_plain opens).1]
        rw [(code_plain opens).2] at behind ⊢
        split at behind
        · rename_i quotes
          rw [if_pos quotes]
          exact .opening quotes behind
        · rename_i plain
          rw [if_neg plain]
          exact .code (Bool.not_eq_true _ ▸ plain) behind
    | lineComment | block =>
      rw [Mode.isInLiteral_next_of_comment (by simp)] at behind
      exact .code (isQuote_blanked c) behind
    | blockOpening | blockClosing => exact .code (isQuote_blanked c) behind
    | literal quote =>
      rw [Mode.next] at behind ⊢
      rw [Mode.cell]
      obtain ⟨isEnd, isCode⟩ | ⟨isEnd, isBreak, isCode⟩ | ⟨isEnd, goesOn⟩ :=
        Mode.behindLiteral_cases quote c
      · rw [isCode] at behind ⊢
        rw [if_pos isEnd]
        exact .closing (.inl (isEnd ▸ quoted)) behind
      · rw [isCode] at behind ⊢
        rw [if_neg isEnd, isBreak]
        exact .closing (.inr rfl) behind
      · rw [goesOn] at behind
        rw [if_neg isEnd]
        exact .hidden trivial behind
    | escaped quote =>
      rw [Mode.cell]
      split
      · rename_i atEnd
        rw [List.isEmpty_iff.1 atEnd.2]
        exact .closing (.inl (atEnd.1 ▸ quoted)) .nil
      · exact .hidden trivial behind

/-- The masked view of a source veils the clean one. -/
theorem Views.veils (source : List Char) :
    Veils (fun _ => True) false (Views.of source).clean (Views.of source).masked :=
  @veils_cellsFrom .code trivial source

/-! ### Parts of veiled texts -/

section

variable {mayHide : List Char → Prop} {inLiteral : Bool} {clean masked : List Char}

theorem Veils.length_eq (veils : Veils mayHide inLiteral clean masked) :
    clean.length = masked.length := by
  induction veils with
  | nil => rfl
  | _ _ _ inductionHypothesis => simp [inductionHypothesis]

theorem Veils.take (veils : Veils mayHide inLiteral clean masked) (count : Nat) :
    Veils (fun _ => True) inLiteral (clean.take count) (masked.take count) := by
  induction count generalizing inLiteral clean masked with
  | zero => exact .nil
  | succ count inductionHypothesis =>
    cases veils with
    | nil => exact .nil
    | code plain rest => exact .code plain (inductionHypothesis rest)
    | opening quotes rest => exact .opening quotes (inductionHypothesis rest)
    | closing ends rest => exact .closing ends (inductionHypothesis rest)
    | hidden _ rest => exact .hidden trivial (inductionHypothesis rest)

/-- A character that the masked view shows in code only: no blank of its own making, and no quote. -/
def showsCode (c : Char) : Bool :=
  c != ' ' && c != '\n' && !isQuote c

theorem not_showsCode_blanked (c : Char) : showsCode (blanked c) = false := by
  rw [showsCode]
  unfold blanked
  split <;> rfl

theorem not_showsCode_of_ends {c : Char} (ends : isQuote c = true ∨ c = '\n') :
    showsCode c = false := by
  rcases ends with quotes | rfl
  · rw [showsCode, quotes]
    simp
  · rfl

/-- Behind a character that is shown in code only, the views start afresh. -/
theorem Veils.behind (veils : Veils mayHide inLiteral clean masked) {position : Nat} {c : Char}
    (shown : masked[position]? = some c) (isCode : showsCode c = true) :
    Veils mayHide false (clean.drop (position + 1)) (masked.drop (position + 1)) := by
  have notHere : ∀ d, showsCode d = false → some d ≠ some c := by
    rintro d notCode same
    rw [Option.some.inj same, isCode] at notCode
    exact absurd notCode (by simp)
  induction veils generalizing position with
  | nil => exact absurd shown (by simp)
  | code _ rest inductionHypothesis =>
    cases position with
    | zero => exact rest
    | succ position => exact inductionHypothesis shown
  | opening quotes rest inductionHypothesis =>
    cases position with
    | zero => exact absurd shown (notHere _ (not_showsCode_of_ends (.inl quotes)))
    | succ position => exact inductionHypothesis shown
  | closing ends rest inductionHypothesis =>
    cases position with
    | zero => exact absurd shown (notHere _ (not_showsCode_of_ends ends))
    | succ position => exact inductionHypothesis shown
  | hidden _ rest inductionHypothesis =>
    cases position with
    | zero => exact absurd shown (notHere _ (not_showsCode_blanked _))
    | succ position => exact inductionHypothesis shown

/-- Outside a literal the masked view can be told from the clean one behind a quote only. -/
theorem Veils.sameToQuote (veils : Veils mayHide false clean masked) :
    SameToQuote (Veils mayHide true) clean masked := by
  generalize outside : false = inLiteral at veils
  induction veils with
  | nil => exact .nil
  | code plain _ inductionHypothesis => exact .plain plain (inductionHypothesis outside)
  | opening quotes rest => exact .quote quotes rest
  | closing | hidden => exact absurd outside (by simp)

theorem SameToQuote.veils (same : SameToQuote (Veils mayHide true) clean masked) :
    Veils mayHide false clean masked := by
  induction same with
  | nil => exact .nil
  | quote quotes rest => exact .opening quotes rest
  | plain plain _ inductionHypothesis => exact .code plain inductionHypothesis

/-- From every character on that the second text hides, `allowed` holds of the first. -/
def HidesOnly (allowed : List Char → Bool) (clean masked : List Char) : Prop :=
  ∀ index < clean.length, clean[index]? = masked[index]? ∨ allowed (clean.drop index) = true

instance (allowed : List Char → Bool) (clean masked : List Char) :
    Decidable (HidesOnly allowed clean masked) :=
  inferInstanceAs (Decidable (∀ index < clean.length,
    clean[index]? = masked[index]? ∨ allowed (clean.drop index) = true))

theorem HidesOnly.tail {allowed : List Char → Bool} {c d : Char}
    (hides : HidesOnly allowed (c :: clean) (d :: masked)) : HidesOnly allowed clean masked :=
  fun index inside => hides (index + 1) (Nat.succ_lt_succ inside)

theorem Veils.restrict {allowed : List Char → Bool} (veils : Veils mayHide inLiteral clean masked)
    (hides : HidesOnly allowed clean masked)
    (shown : ∀ c rest, blanked c = c → allowed (c :: rest) = true) :
    Veils (fun text => allowed text = true) inLiteral clean masked := by
  induction veils with
  | nil => exact .nil
  | code plain _ inductionHypothesis => exact .code plain (inductionHypothesis hides.tail)
  | opening quotes _ inductionHypothesis => exact .opening quotes (inductionHypothesis hides.tail)
  | closing ends _ inductionHypothesis => exact .closing ends (inductionHypothesis hides.tail)
  | @hidden c clean masked _ _ inductionHypothesis =>
    refine .hidden ?_ (inductionHypothesis hides.tail)
    rcases hides 0 (Nat.succ_pos _) with same | harmless
    · exact shown c clean (Option.some.inj same).symm
    · exact harmless

/-- What a part of a source shows behind a character of code is veiled on its own. -/
theorem Views.veils_slice (source : List Char) (span : Span) {c : Char} (behind : 0 < span.start)
    (shown : (Views.of source).masked[span.start - 1]? = some c) (isCode : showsCode c = true) :
    Veils (fun _ => True) false (span.slice (Views.of source).clean)
      (span.slice (Views.of source).masked) := by
  have fromHere := (Views.veils source).behind shown isCode
  rw [Nat.sub_add_cancel behind] at fromHere
  exact fromHere.take _

end

end Concord.Source
