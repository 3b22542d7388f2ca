/-
Texts that close what is open. A text is read with the brackets that stand open before it: each closing
bracket meets the innermost of them, the `>` of an arrow is no bracket, and at the end none is left open.
Nothing separates outside of the brackets. The walk that splits goes through such a text and comes out flat,
and the search for the partner of a brace or parenthesis passes it over.
-/

import Concord.Proofs.Source.Splitting

namespace Concord.Source

open Text

/-- Read behind the brackets that are `awaited`, innermost first, the text closes them and every bracket that
it opens. A comma or a semicolon stands inside a bracket only, if the text is not itself `inside` one; and no
line ends. -/
inductive Closes (inside : Bool) : (awaited : List Bracket) → List Char → Prop
  | nil : Closes inside [] []
  | passed {awaited : List Bracket} {c : Char} {rest : List Char}
      (passed : IsPassed (inside || !awaited.isEmpty) (inside || !awaited.isEmpty) c)
      (closes : Closes inside awaited rest) : Closes inside awaited (c :: rest)
  | equals {awaited : List Bracket} {rest : List Char} (noArrow : rest.head? ≠ some '>')
      (closes : Closes inside awaited rest) : Closes inside awaited ('=' :: rest)
  | arrow {awaited : List Bracket} {rest : List Char} (closes : Closes inside awaited rest) :
      Closes inside awaited ('=' :: '>' :: rest)
  | opening {awaited : List Bracket} {rest : List Char} (bracket : Bracket)
      (closes : Closes inside (bracket :: awaited) rest) : Closes inside awaited (bracket.opening :: rest)
  | closing {awaited : List Bracket} {rest : List Char} (bracket : Bracket)
      (closes : Closes inside awaited rest) : Closes inside (bracket :: awaited) (bracket.closing :: rest)

theorem IsPassed.mono {inside within : Bool} {c : Char} (passed : IsPassed inside inside c)
    (covers : inside = true → within = true) : IsPassed within within c :=
  ⟨passed.notStructural, fun comma => covers (passed.comma comma), fun semicolon =>
    ⟨covers (passed.semicolon semicolon).1, covers (passed.semicolon semicolon).2⟩⟩

namespace Closes

variable {inside : Bool} {awaited : List Bracket} {text rest : List Char}

/-! ### Texts one behind the other -/

theorem run (run : List Char) (passed : ∀ c ∈ run, IsPassed inside inside c)
    (closes : Closes inside awaited rest) : Closes inside awaited (run ++ rest) := by
  induction run with
  | nil => exact closes
  | cons c run inductionHypothesis =>
    obtain ⟨here, later⟩ := List.forall_mem_cons.1 passed
    refine .passed (here.mono fun isInside => ?_) (inductionHypothesis later)
    rw [isInside, Bool.true_or]

/-- What follows closes the brackets that are left open around the text. -/
theorem append {within : Bool} {inner outer : List Bracket} (closes : Closes within inner text)
    (closesRest : Closes inside outer rest)
    (covers : within = true → (inside || !outer.isEmpty) = true) (noArrow : rest.head? ≠ some '>') :
    Closes inside (inner ++ outer) (text ++ rest) := by
  induction closes with
  | nil => exact closesRest
  | @passed awaited c _ passed _ inductionHypothesis =>
    refine .passed (passed.mono fun isInside => ?_) inductionHypothesis
    cases awaited with
    | nil => exact covers (by simpa using isInside)
    | cons => exact Bool.or_true inside
  | @equals _ after noArrowHere _ inductionHypothesis =>
    refine .equals ?_ inductionHypothesis
    cases after with
    | nil => exact noArrow
    | cons => exact noArrowHere
  | arrow _ inductionHypothesis => exact .arrow inductionHypothesis
  | opening bracket _ inductionHypothesis => exact .opening bracket inductionHypothesis
  | closing bracket _ inductionHypothesis => exact .closing bracket inductionHypothesis

theorem oneLine (closes : Closes inside awaited text) : '\n' ∉ text := by
  induction closes with
  | nil => exact List.not_mem_nil
  | passed passed _ inductionHypothesis =>
    refine List.not_mem_cons_of_ne_of_not_mem (fun same => passed.notStructural ?_) inductionHypothesis
    rw [← same]
    decide
  | equals _ _ inductionHypothesis =>
    exact List.not_mem_cons_of_ne_of_not_mem (by decide) inductionHypothesis
  | arrow _ inductionHypothesis =>
    exact List.not_mem_cons_of_ne_of_not_mem (by decide)
      (List.not_mem_cons_of_ne_of_not_mem (by decide) inductionHypothesis)
  | opening bracket _ inductionHypothesis | closing bracket _ inductionHypothesis =>
    exact List.not_mem_cons_of_ne_of_not_mem (by cases bracket <;> decide) inductionHypothesis

/-- No separator ends a text: behind it no bracket is open. -/
theorem noSeparator (closes : Closes false awaited text) :
    ∀ c, text.getLast? = some c → c ≠ ';' ∧ c ≠ ',' := by
  induction closes with
  | nil => exact fun c absent => absurd absent (by simp)
  | @passed awaited c _ passed closes inductionHypothesis =>
    refine forall_getLast?_cons (fun isLast => ?_) inductionHypothesis
    subst isLast
    cases closes
    refine ⟨fun semicolon => ?_, fun comma => ?_⟩
    · exact absurd (passed.semicolon semicolon).1 (by simp)
    · exact absurd (passed.comma comma) (by simp)
  | equals _ _ inductionHypothesis => exact forall_getLast?_cons (fun _ => by decide) inductionHypothesis
  | arrow _ inductionHypothesis =>
    exact forall_getLast?_cons (fun _ => by decide) (forall_getLast?_cons (fun _ => by decide) inductionHypothesis)
  | opening bracket _ inductionHypothesis | closing bracket _ inductionHypothesis =>
    exact forall_getLast?_cons (fun _ => by cases bracket <;> decide) inductionHypothesis

/-! ### The walk that splits -/

/-- What is open where the brackets are awaited. -/
def nesting (awaited : List Bracket) : Nesting :=
  awaited.foldr Bracket.nested .flat

/-- The walk goes through the text and comes out with nothing open. -/
theorem leads {separation : Separation} (marks : separation.marks ⊆ [',', ';'])
    (closes : Closes false awaited text) {following : List Char} (noArrow : following.head? ≠ some '>') :
    Leads separation text following (nesting awaited) .flat := by
  induction closes with
  | nil => exact .nil .flat
  | @passed awaited _ rest passed _ inductionHypothesis =>
    refine (leads_passed marks passed fun inside => ?_).append rest inductionHypothesis
    cases awaited with
    | nil => exact absurd inside (by simp)
    | cons bracket awaited => exact bracket.isFlat_nested (nesting awaited)
  | @equals _ after noArrowHere _ inductionHypothesis =>
    refine inductionHypothesis.assigned marks ?_
    rintro _ first rfl
    cases after with
    | nil => exact noArrow first
    | cons => exact noArrowHere first
  | @arrow awaited rest _ inductionHypothesis =>
    exact (leads_arrow marks (nesting awaited)).append rest inductionHypothesis
  | @opening awaited rest bracket _ inductionHypothesis =>
    exact (leads_opening bracket (nesting awaited)).append rest inductionHypothesis
  | @closing awaited rest bracket _ inductionHypothesis =>
    exact (leads_closing bracket (nesting awaited)).append rest inductionHypothesis

theorem passes {separation : Separation} (marks : separation.marks ⊆ [',', ';'])
    (closes : Closes false [] text) (inhabited : Bool) {following : List Char}
    (noArrow : following.head? ≠ some '>') : Passes separation inhabited text following :=
  (closes.leads marks noArrow).passes inhabited

/-! ### The search for a partner -/

/-- The search passes over what is open in the text and what the text opens. For an angle bracket it would
not: the `>` of an arrow counts for it. -/
theorem closingFrom_append {kind : Bracket} (noAngle : kind ≠ .angle)
    (closes : Closes inside awaited text)
    {depth : Int} (positive : 1 ≤ depth) (rest : List Char) :
    closingFrom kind.opening kind.closing (depth + awaited.count kind) (text ++ rest) =
      (closingFrom kind.opening kind.closing depth rest).map (· + text.length) := by
  have noEquals : '=' ≠ kind.opening ∧ '=' ≠ kind.closing := by cases kind <;> decide
  have noGreater : '>' ≠ kind.opening ∧ '>' ≠ kind.closing := by
    cases kind with
    | angle => exact absurd rfl noAngle
    | round | square | curly => decide
  induction closes with
  | nil =>
    rw [List.count_nil, Int.natCast_zero, Int.add_zero]
    exact Option.map_id'.symm
  | passed passed _ inductionHypothesis =>
    have ne : ∀ d ∈ structural, _ ≠ d := fun d => ne_of_not_structural passed.notStructural
    rw [List.cons_append,
      closingFrom_other (ne _ (by cases kind <;> decide)) (ne _ (by cases kind <;> decide)),
      inductionHypothesis, Option.map_map]
    rfl
  | equals _ _ inductionHypothesis =>
    rw [List.cons_append, closingFrom_other noEquals.1 noEquals.2, inductionHypothesis, Option.map_map]
    rfl
  | arrow _ inductionHypothesis =>
    rw [List.cons_append, List.cons_append, closingFrom_other noEquals.1 noEquals.2,
      closingFrom_other noGreater.1 noGreater.2, inductionHypothesis, Option.map_map, Option.map_map]
    rfl
  | @opening awaited _ bracket _ inductionHypothesis =>
    by_cases same : bracket = kind
    · subst same
      rw [List.count_cons_self, Int.natCast_succ, ← Int.add_assoc] at inductionHypothesis
      rw [List.cons_append, closingFrom, if_pos rfl, inductionHypothesis, Option.map_map]
      rfl
    · have noKind : bracket.opening ≠ kind.opening ∧ bracket.opening ≠ kind.closing := by
        cases bracket <;> cases kind <;> simp_all [Bracket.opening, Bracket.closing]
      rw [List.count_cons_of_ne same] at inductionHypothesis
      rw [List.cons_append, closingFrom_other noKind.1 noKind.2, inductionHypothesis, Option.map_map]
      rfl
  | @closing awaited _ bracket _ inductionHypothesis =>
    by_cases same : bracket = kind
    · subst same
      have noOpening : bracket.closing ≠ bracket.opening := by cases bracket <;> decide
      have inside : ¬ depth + (awaited.count bracket + 1 : Nat) - 1 = 0 := by omega
      rw [List.count_cons_self, List.cons_append, closingFrom, if_neg noOpening, if_pos rfl, if_neg inside,
        Int.natCast_succ, ← Int.add_assoc, Int.add_sub_cancel, inductionHypothesis, Option.map_map]
      rfl
    · have noKind : bracket.closing ≠ kind.opening ∧ bracket.closing ≠ kind.closing := by
        cases bracket <;> cases kind <;> simp_all [Bracket.opening, Bracket.closing]
      rw [List.count_cons_of_ne same, List.cons_append, closingFrom_other noKind.1 noKind.2,
        inductionHypothesis, Option.map_map]
      rfl

/-- The search for a closing brace passes the text over. -/
theorem keepsBraces (closes : Closes inside [] text) : KeepsBraces text := by
  intro depth rest positive
  have passedOver := @closingFrom_append _ _ _ .curly (by decide) closes depth positive rest
  rwa [List.count_nil, Int.natCast_zero, Int.add_zero] at passedOver

/-- The parenthesis behind a text closes the one before it. -/
theorem closingParenthesis?_eq (closes : Closes inside [] text) {whole : List Char} {opening : Nat}
    (here : whole.drop opening = '(' :: (text ++ ')' :: rest)) :
    closingParenthesis? whole opening = some (opening + 1 + text.length) := by
  have passedOver := @closingFrom_append _ _ _ .round (by decide) closes 1 (by decide) (')' :: rest)
  have closesHere : closingFrom '(' ')' 1 (')' :: rest) = some 0 := rfl
  rw [List.count_nil, Int.natCast_zero, Int.add_zero] at passedOver
  rw [closingParenthesis?, closing?, here, closingFrom, if_pos rfl, Int.zero_add]
  refine (congrArg (fun found => (found.map (· + 1)).map (opening + ·))
    (passedOver.trans (congrArg (Option.map _) closesHere))).trans ?_
  simp only [Option.map_some, Nat.zero_add, Nat.add_assoc, Nat.add_comm 1]

end Closes

end Concord.Source
