/-
How deep in braces a place of a text stands. Between a brace and the one that closes it no place is
outside both. The walk that splits a body keeps its own account of what is open, which passes over
closing brackets that have no partner: it may take a place to be deeper than it is, but never for less
deep. So where it sees no bracket open, at least as many braces are closed as opened; and inside a pair
of braces there cannot be more.
-/

import Concord.Proofs.Source.Matching
import Concord.Source.Members
import Mathlib.Data.List.Basic

namespace Concord.Source

/-! ### Depth -/

/-- The braces that a text opens, less those that it closes. -/
def depth (text : List Char) : Int :=
  text.count '\x7b' - text.count '\x7d'

theorem depth_append (first second : List Char) :
    depth (first ++ second) = depth first + depth second :=
  excess_append first second

theorem depth_cons (c : Char) (text : List Char) : depth (c :: text) = depth [c] + depth text :=
  depth_append [c] text

theorem depth_opening : depth ['\x7b'] = 1 :=
  rfl

theorem depth_closing : depth ['\x7d'] = -1 :=
  rfl

/-- A text without braces. -/
def HasNoBrace (text : List Char) : Prop :=
  ∀ c ∈ text, c ≠ '\x7b' ∧ c ≠ '\x7d'

theorem HasNoBrace.depth_eq {text : List Char} (plain : HasNoBrace text) : depth text = 0 := by
  have noOpening : text.count '\x7b' = 0 := List.count_eq_zero.2 fun member => (plain _ member).1 rfl
  have noClosing : text.count '\x7d' = 0 := List.count_eq_zero.2 fun member => (plain _ member).2 rfl
  rw [depth, noOpening, noClosing]
  rfl

theorem depth_singleton {c : Char} (notOpening : c ≠ '\x7b') (notClosing : c ≠ '\x7d') :
    depth [c] = 0 :=
  excess_other notOpening notClosing

/-- How deep a position stands, counted from an earlier one. -/
def depthBetween (text : List Char) (start stop : Nat) : Int :=
  depth (Span.slice ⟨start, stop⟩ text)

theorem slice_append (text : List Char) {first second third : Nat} (near : first ≤ second)
    (far : second ≤ third) :
    Span.slice ⟨first, third⟩ text =
      Span.slice ⟨first, second⟩ text ++ Span.slice ⟨second, third⟩ text := by
  have whole : third - first = (second - first) + (third - second) := by omega
  simp only [Span.slice]
  rw [whole, List.take_add, List.drop_drop, Nat.add_sub_cancel' near]

/-- What a span opens with stands where the span starts, and what goes on stands behind that. -/
theorem Span.slice_eq_append {span : Span} {text lead rest : List Char}
    (isSlice : span.slice text = lead ++ rest) :
    Span.slice ⟨span.start, span.start + lead.length⟩ text = lead ∧
      ∃ more, text.drop (span.start + lead.length) = rest ++ more := by
  have whole : text.drop span.start =
      lead ++ (rest ++ (text.drop span.start).drop (span.stop - span.start)) := by
    rw [← List.append_assoc, ← isSlice]
    exact (List.take_append_drop _ _).symm
  refine ⟨?_, (text.drop span.start).drop (span.stop - span.start), ?_⟩
  · rw [slice, Nat.add_sub_cancel_left, whole, List.take_left]
  · rw [← List.drop_drop, whole, List.drop_left, ← whole]

theorem depthBetween_add (text : List Char) {first second third : Nat} (near : first ≤ second)
    (far : second ≤ third) :
    depthBetween text first third = depthBetween text first second + depthBetween text second third := by
  rw [depthBetween, slice_append text near far, depth_append]
  rfl

/-! ### Between a brace and its partner -/

/-- No position behind a brace, up to the one that closes it, is outside. -/
theorem one_le_depthBetween {text : List Char} {opening closing : Nat}
    (opens : text[opening]? = some '\x7b') (closes : closingBrace? text opening = some closing)
    {position : Nat} (behind : opening < position) (before : position ≤ closing) :
    1 ≤ depthBetween text opening position := by
  have isOpen := (excess_of_closing? (by decide) opens closes).2.2 (position - 1) (by omega) (by omega)
  rw [Nat.sub_add_cancel (by omega)] at isOpen
  exact isOpen

/-- What stands directly inside a pair of braces stands inside no pair that is further inside. -/
theorem not_inside_of_depthBetween_eq_one {text : List Char} {opening closing position : Nat}
    (opens : text[opening]? = some '\x7b') (closes : closingBrace? text opening = some closing)
    (before : position ≤ closing) (isDirect : depthBetween text opening position = 1)
    {inner innerClosing : Nat} (isInside : opening < inner) (innerOpens : text[inner]? = some '\x7b')
    (innerCloses : closingBrace? text inner = some innerClosing) :
    ¬ (inner < position ∧ position ≤ innerClosing) := by
  rintro ⟨within, notBehind⟩
  have outer := one_le_depthBetween opens closes isInside (Nat.le_trans (Nat.le_of_lt within) before)
  have deeper := one_le_depthBetween innerOpens innerCloses within notBehind
  rw [depthBetween_add text (Nat.le_of_lt isInside) (Nat.le_of_lt within)] at isDirect
  omega

theorem lt_of_closingBrace? {text : List Char} {opening closing : Nat}
    (opens : text[opening]? = some '\x7b') (closes : closingBrace? text opening = some closing) :
    opening < closing :=
  (excess_of_closing? (by decide) opens closes).1

/-! ### Where members begin -/

/-- How many closing braces are awaited. -/
def Nesting.braces (nesting : Nesting) : Int :=
  nesting.awaited.count '\x7d'

theorem Nesting.braces_of_isFlat {nesting : Nesting} (isFlat : nesting.isFlat = true) :
    nesting.braces = 0 := by
  have none : nesting.awaited = [] := List.isEmpty_iff.1 (Bool.and_eq_true_iff.1 isFlat).1
  rw [Nesting.braces, none]
  rfl

theorem depth_le_zero {c : Char} (notOpening : c ≠ '\x7b') : depth [c] ≤ 0 := by
  by_cases isClosing : c = '\x7d'
  · rw [isClosing, depth_closing]
    decide
  · exact Int.le_of_eq (depth_singleton notOpening isClosing)

/-- A brace that opens is awaited to close, and one that closes is no more than one of those awaited. -/
theorem Nesting.le_braces_through (nesting : Nesting) (previous : Option Char) (c : Char) :
    nesting.braces + depth [c] ≤ (nesting.through previous c).braces := by
  by_cases isOpening : c = '\x7b'
  · have awaited : (nesting.through previous c).awaited = '\x7d' :: nesting.awaited := by
      rw [isOpening]
      rfl
    rw [braces, braces, awaited, List.count_cons_self, isOpening, depth_opening]
    omega
  have notDeeper := depth_le_zero isOpening
  -- A closing bracket that is the partner on top; nothing else takes from what is awaited.
  by_cases pops : isClosing c = true ∧ nesting.awaited.head? = some c
  · have awaited : (nesting.through previous c).awaited = nesting.awaited.tail := by
      have noPartner : partner? c = none := by
        have closing := pops.1
        simp only [isClosing, Bool.or_eq_true, beq_iff_eq] at closing
        rcases closing with (rfl | rfl) | rfl <;> rfl
      rw [through, noPartner]
      simp [pops]
    rw [braces, braces, awaited, List.count_tail, pops.2]
    by_cases isBrace : c = '\x7d'
    · rw [isBrace, depth_closing]
      simp
      omega
    · simp [isBrace]
      omega
  · have awaited : nesting.awaited.count '\x7d' ≤ (nesting.through previous c).awaited.count '\x7d' := by
      rw [through]
      split
      · exact List.count_le_count_cons
      · grind
    rw [braces, braces]
    omega

theorem depth_of_not_isBracket {c : Char} (plain : isBracket c = false) : depth [c] = 0 :=
  depth_singleton (fun same => by simp [same, isBracket, partner?] at plain)
    fun same => by simp [same, isBracket, isClosing] at plain

theorem eq_of_mem_member {walk : Walk} {span : Span} (member : span ∈ walk.member) :
    span = ⟨walk.begun, walk.index⟩ := by
  rw [Walk.member] at member
  split at member
  · exact List.mem_singleton.1 member
  · exact absurd member List.not_mem_nil

/-- A member begins where the walk says, or later: behind as many closing braces as have been opened, the
awaited ones included. -/
theorem start_of_mem_membersFrom {separation : Separation} {count : Nat} {text : List Char}
    {walk : Walk} {span : Span} (member : span ∈ membersFrom separation walk count text) :
    span.start = walk.begun ∨
      ∃ read ≤ count, span.start = walk.index + read ∧
        walk.nesting.braces + depth (text.take read) ≤ 0 := by
  fun_induction membersFrom separation walk count text with
  | case1 => exact .inl (congrArg Span.start (eq_of_mem_member member))
  | case2 => exact .inl (congrArg Span.start (eq_of_mem_member member))
  | case3 walk count c rest separates inductionHypothesis =>
    simp only [Separation.separates, Bool.and_eq_true, Bool.not_eq_true'] at separates
    have noBraces := Nesting.braces_of_isFlat separates.1.2
    have noBrace := depth_of_not_isBracket separates.1.1
    rcases List.mem_append.1 member with isOwn | later
    · exact .inl (congrArg Span.start (eq_of_mem_member isOwn))
    · right
      rcases inductionHypothesis later with begins | ⟨read, within, place, closed⟩
      · refine ⟨1, by omega, begins, ?_⟩
        rw [List.take_succ_cons, List.take_zero, noBraces, noBrace]
        decide
      · refine ⟨read + 1, by omega, place.trans (Nat.add_right_comm _ _ _), ?_⟩
        rw [List.take_succ_cons, depth_cons, noBrace, Int.zero_add]
        exact closed
  | case4 walk count c rest goesOn inductionHypothesis =>
    rcases inductionHypothesis member with begins | ⟨read, within, place, closed⟩
    · exact .inl begins
    · refine .inr ⟨read + 1, by omega, place.trans (Nat.add_right_comm _ _ _), ?_⟩
      have deeper := walk.nesting.le_braces_through walk.previous c
      rw [List.take_succ_cons, depth_cons]
      simp only [Walk.advance] at closed
      omega

theorem stop_le_of_mem_membersFrom {separation : Separation} {count : Nat} {text : List Char}
    {walk : Walk} {span : Span} (member : span ∈ membersFrom separation walk count text) :
    span.stop ≤ walk.index + count := by
  fun_induction membersFrom separation walk count text with
  | case1 => exact Nat.le_of_eq (congrArg Span.stop (eq_of_mem_member member))
  | case2 walk count => exact eq_of_mem_member member ▸ Nat.le_add_right walk.index (count + 1)
  | case3 walk count c rest separates inductionHypothesis =>
    rcases List.mem_append.1 member with isOwn | later
    · exact eq_of_mem_member isOwn ▸ Nat.le_add_right walk.index (count + 1)
    · have within := inductionHypothesis later
      simp only [Walk.restart] at within
      omega
  | case4 walk count c rest goesOn inductionHypothesis =>
    have within := inductionHypothesis member
    simp only [Walk.advance] at within
    omega

section

variable {separation : Separation} {text : List Char} {start stop : Nat} {span : Span}
  (member : span ∈ members separation text start stop)

include member

theorem stop_le_of_mem_members (ordered : start ≤ stop) : span.stop ≤ stop := by
  have within := stop_le_of_mem_membersFrom member
  simp only at within
  omega

/-- A member of a stretch begins behind at least as many closing braces as opening ones. -/
theorem depthBetween_le_zero_of_mem_members :
    start ≤ span.start ∧ depthBetween text start span.start ≤ 0 := by
  rcases start_of_mem_membersFrom member with begins | ⟨read, -, place, closed⟩
  · refine ⟨Nat.le_of_eq begins.symm, ?_⟩
    rw [begins, depthBetween, Span.slice, Nat.sub_self, List.take_zero]
    decide
  · refine ⟨place ▸ Nat.le_add_right _ _, ?_⟩
    rw [place, depthBetween, Span.slice, Nat.add_sub_cancel_left]
    simpa [Nesting.braces, Nesting.flat] using closed

end

/-- A member between a brace and its partner begins directly inside the two. -/
theorem depthBetween_eq_one_of_mem_members {separation : Separation} {text : List Char}
    {opening closing : Nat} {span : Span} (opens : text[opening]? = some '\x7b')
    (closes : closingBrace? text opening = some closing)
    (member : span ∈ members separation text (opening + 1) closing) (before : span.start ≤ closing) :
    opening < span.start ∧ depthBetween text opening span.start = 1 := by
  obtain ⟨behind, notDeeper⟩ := depthBetween_le_zero_of_mem_members member
  have inside := one_le_depthBetween opens closes behind before
  have first : depthBetween text opening (opening + 1) = 1 := by
    obtain ⟨within, isText⟩ := List.getElem?_eq_some_iff.1 opens
    rw [depthBetween, Span.slice, List.drop_eq_getElem_cons within, isText, Nat.add_sub_cancel_left]
    rfl
  rw [depthBetween_add text (Nat.le_add_right opening 1) behind, first] at inside ⊢
  exact ⟨behind, by omega⟩

end Concord.Source
