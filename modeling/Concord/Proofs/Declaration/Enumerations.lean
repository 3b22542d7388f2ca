/-
Enumerations whose members have computed values. The members are cut at the commas that stand outside every
bracket, and the signs of a shift count as angle brackets there: each `<<` opens two, and each `>>` closes
two that are open. So a member is recorded when the values before it leave no angle bracket open, and is
taken for a part of an earlier value otherwise; without a shift to the left none is lost.
-/

import Concord.Proofs.Declaration.Opening
import Concord.Proofs.Source.Literals

namespace Concord.Source

open Text

/-! ### The walk over a list -/

/-- The walk over a list goes through the text whatever follows, and what is open before the text turns
into what is open behind it. -/
def Turns (text : List Char) (before after : Nesting) : Prop :=
  ∀ following, Leads .list text following before after

theorem Turns.append {first second : List Char} {before middle after : Nesting}
    (turns : Turns first before middle) (turnsSecond : Turns second middle after) :
    Turns (first ++ second) before after :=
  fun following => (turns (second ++ following)).append second (turnsSecond following)

/-- What the walk over a list looks at. -/
def listMarks : List Char :=
  [',', '=', '(', ')', '[', ']', '\x7b', '\x7d', '<', '>']

/-- The walk over a list goes on at this character whatever is open. -/
def IsInert (c : Char) : Prop :=
  c ∉ listMarks

instance : DecidablePred IsInert := fun c => inferInstanceAs (Decidable (c ∉ listMarks))

theorem isInert_of_class {isIn : Char → Bool} {c : Char} (inClass : isIn c = true)
    (never : ∀ d ∈ listMarks, isIn d = false) : IsInert c := fun member => by
  rw [never c member] at inClass
  exact absurd inClass (by simp)

theorem IsInert.ne {c d : Char} (inert : IsInert c) (member : d ∈ listMarks) : c ≠ d := by
  rintro rfl
  exact inert member

theorem IsInert.isBracket {c : Char} (inert : IsInert c) : isBracket c = false := by
  have other : ∀ d ∈ listMarks, c ≠ d := fun d member => inert.ne member
  simp only [listMarks, List.forall_mem_cons] at other
  simp [Source.isBracket, partner?, isClosing, other]

/-- A character that is no bracket and separates nothing, outside brackets or inside. -/
theorem turns_plain {c : Char} (plain : isBracket c = false) (noEquals : c ≠ '=') {nesting : Nesting}
    (joins : c = ',' → nesting.isFlat = false) : Turns [c] nesting nesting := by
  refine fun following => leads_inner plain noEquals fun index begun inhabited => ?_
  rw [Separation.separates]
  by_cases comma : c = ','
  · simp [joins comma]
  · simp [Separation.list, comma]

theorem turns_inert {text : List Char} (inert : ∀ c ∈ text, IsInert c) (nesting : Nesting) :
    Turns text nesting nesting := by
  induction text with
  | nil => exact fun _ => .nil nesting
  | cons c text inductionHypothesis =>
    rw [List.forall_mem_cons] at inert
    have single : Turns [c] nesting nesting :=
      turns_plain inert.1.isBracket (inert.1.ne (by decide)) fun comma =>
        absurd comma (inert.1.ne (by decide))
    exact single.append (inductionHypothesis inert.2)

/-- An equals sign that makes no arrow. -/
theorem Turns.assigned {text : List Char} {before after : Nesting} (turns : Turns text before after)
    (something : text ≠ []) (noClosing : ∀ c, text.head? = some c → c ≠ '>') :
    Turns ('=' :: text) before after := by
  refine fun following => (turns following).assigned marks_list ?_
  rwa [List.head?_append_of_ne_nil _ something]

theorem turns_bracket {c : Char} (bracket : isBracket c = true) (before : Nesting) :
    Turns [c] before (before.through none c) :=
  fun _ => leads_bracket bracket before

/-- A text between parentheses. -/
theorem Turns.enclosed {inner : List Char} {awaited : List Char} {before after : Nat}
    (turns : Turns inner ⟨')' :: awaited, before⟩ ⟨')' :: awaited, after⟩) :
    Turns ('(' :: (inner ++ [')'])) ⟨awaited, before⟩ ⟨awaited, after⟩ :=
  (turns_bracket (by decide) ⟨awaited, before⟩).append
    (turns.append (turns_bracket (by decide) ⟨')' :: awaited, after⟩))

end Concord.Source

namespace Concord.Printed

open Source Text

/-! ### Values -/

inductive Sign where
  | plus
  | minus
  | complement
  deriving DecidableEq, Repr

def Sign.text : Sign → List Char
  | .plus => ['+']
  | .minus => ['-']
  | .complement => ['~']

inductive Operator where
  | plus
  | minus
  | either
  | both
  | shiftLeft
  | shiftRight
  deriving DecidableEq, Repr

def Operator.text : Operator → List Char
  | .plus => ['+']
  | .minus => ['-']
  | .either => ['|']
  | .both => ['&']
  | .shiftLeft => ['<', '<']
  | .shiftRight => ['>', '>']

/-- A value that is computed from numbers, names and string literals. -/
inductive Expression where
  /-- A number or the name of a member. -/
  | word (text : List Char) (isWord : IsWord text) (something : text ≠ [])
  | quoted (literal : Literal)
  | signed (sign : Sign) (gap : Gap) (operand : Expression)
  | joined (left : Expression) (gapLeft : Gap) (operator : Operator) (gapRight : Gap)
    (right : Expression)
  | enclosed (gapLeft : Gap) (inner : Expression) (gapRight : Gap)

/-- How many angle brackets the walk over a list counts as open behind an operator. -/
def Operator.angles : Operator → Nat → Nat
  | .shiftLeft, angles => angles + 2
  | .shiftRight, angles => angles - 2
  | _, angles => angles

namespace Expression

variable (view : List Char → List Char)

/-- The value as it is printed. -/
def text : Expression → List Char
  | .word text _ _ => text
  | .quoted literal => view literal.text
  | .signed sign gap operand => sign.text ++ (gap.text ++ operand.text)
  | .joined left gapLeft operator gapRight right =>
    left.text ++ (gapLeft.text ++ (operator.text ++ (gapRight.text ++ right.text)))
  | .enclosed gapLeft inner gapRight =>
    '(' :: (gapLeft.text ++ (inner.text ++ gapRight.text) ++ [')'])

omit view

/-- How many angle brackets the walk over a list counts as open behind the value. -/
def angles : Expression → Nat → Nat
  | .word .., angles => angles
  | .quoted _, angles => angles
  | .signed _ _ operand, angles => operand.angles angles
  | .joined left _ operator _ right, angles => right.angles (operator.angles (left.angles angles))
  | .enclosed _ inner _, angles => inner.angles angles

/-- No shift to the left stands in the value. -/
def shiftsLeft : Expression → Bool
  | .word .. => false
  | .quoted _ => false
  | .signed _ _ operand => operand.shiftsLeft
  | .joined left _ operator _ right => left.shiftsLeft || operator == .shiftLeft || right.shiftsLeft
  | .enclosed _ inner _ => inner.shiftsLeft

theorem angles_of_not_shiftsLeft {expression : Expression} (none : expression.shiftsLeft = false) :
    expression.angles 0 = 0 := by
  induction expression with
  | word | quoted => rfl
  | signed _ _ _ inductionHypothesis => exact inductionHypothesis none
  | joined left _ operator _ right leftHypothesis rightHypothesis =>
    rw [shiftsLeft, Bool.or_eq_false_iff, Bool.or_eq_false_iff] at none
    rw [angles, leftHypothesis none.1.1]
    cases operator with
    | shiftLeft => exact absurd none.1.2 (by decide)
    | _ => exact rightHypothesis none.2
  | enclosed _ _ _ inductionHypothesis => exact inductionHypothesis none

/-! ### What the walk makes of a value -/

theorem isInert_of_isBlank {c : Char} (blank : isBlank c = true) : IsInert c :=
  isInert_of_class blank (by decide)

theorem turns_gap (gap : Gap) (nesting : Nesting) : Turns gap.text nesting nesting :=
  turns_inert (fun c member => isInert_of_isBlank (List.all_eq_true.1 gap.isGap c member)) nesting

theorem turns_literal (literal : Literal) (nesting : Nesting) :
    Turns (mask literal.text) nesting nesting := by
  have quote : IsInert literal.quote := isInert_of_class literal.quotes (by decide)
  have hidden : ∀ c, IsInert (blanked c) := by
    intro c
    unfold blanked
    split <;> decide
  rw [literal.settled.2]
  refine turns_inert ?_ nesting
  rw [List.forall_mem_cons, List.forall_mem_append, List.forall_mem_singleton, List.forall_mem_map]
  exact ⟨quote, fun c _ => hidden c, quote⟩

theorem turns_operator (operator : Operator) (awaited : List Char) (angles : Nat) :
    Turns operator.text ⟨awaited, angles⟩ ⟨awaited, operator.angles angles⟩ := by
  have twice : ∀ c, isBracket c = true → Turns [c, c] ⟨awaited, angles⟩
      (((⟨awaited, angles⟩ : Nesting).through none c).through none c) :=
    fun c bracket => (turns_bracket bracket _).append (turns_bracket bracket _)
  cases operator with
  | shiftLeft => exact twice '<' (by decide)
  | shiftRight => exact twice '>' (by decide)
  | plus | minus | either | both => exact turns_inert (by decide) _

theorem keepsBraces_literal (literal : Literal) : KeepsBraces (mask literal.text) := by
  have brace : ∀ c, isQuote c = false → literal.quote ≠ c := fun c => literal.ne_of_isQuote
  have hidden : ∀ c, blanked c ≠ '\x7b' ∧ blanked c ≠ '\x7d' := by
    intro c
    unfold blanked
    split <;> decide
  rw [literal.settled.2]
  refine keepsBraces_of_forall ?_
  rw [List.forall_mem_cons, List.forall_mem_append, List.forall_mem_singleton, List.forall_mem_map]
  exact ⟨⟨brace _ (by decide), brace _ (by decide)⟩, fun c _ => hidden c,
    ⟨brace _ (by decide), brace _ (by decide)⟩⟩

/-- Behind a value its parentheses are closed, and of its shifts the angle brackets remain. -/
theorem turns_text (expression : Expression) (awaited : List Char) (angles : Nat) :
    Turns (expression.text mask) ⟨awaited, angles⟩ ⟨awaited, expression.angles angles⟩ := by
  induction expression generalizing awaited angles with
  | word text isWord _ =>
    exact turns_inert (fun c member => isInert_of_class (isWord c member) (by decide)) _
  | quoted literal => exact turns_literal literal _
  | signed sign gap operand inductionHypothesis =>
    have isSign : Turns sign.text ⟨awaited, angles⟩ ⟨awaited, angles⟩ :=
      turns_inert (by cases sign <;> decide) _
    exact isSign.append ((turns_gap gap _).append (inductionHypothesis awaited angles))
  | joined left gapLeft operator gapRight right leftHypothesis rightHypothesis =>
    exact (leftHypothesis awaited angles).append ((turns_gap gapLeft _).append
      ((turns_operator operator awaited _).append ((turns_gap gapRight _).append
        (rightHypothesis awaited _))))
  | enclosed gapLeft inner gapRight inductionHypothesis =>
    exact Turns.enclosed ((turns_gap gapLeft _).append
      ((inductionHypothesis (')' :: awaited) angles).append (turns_gap gapRight _)))

/-- No value begins with an angle bracket. -/
theorem head_text (expression : Expression) :
    expression.text mask ≠ [] ∧ ∀ c, (expression.text mask).head? = some c → c ≠ '>' := by
  induction expression with
  | word text isWord something =>
    refine ⟨something, fun c first => ?_⟩
    rintro rfl
    exact absurd (isWord '>' (List.mem_of_head? first)) (by decide)
  | quoted literal =>
    rw [text, literal.settled.2]
    refine ⟨List.cons_ne_nil _ _, fun c first => ?_⟩
    rw [← Option.some.inj first]
    exact literal.ne_of_isQuote (by decide)
  | signed sign _ _ _ =>
    refine ⟨by cases sign <;> exact List.cons_ne_nil _ _, fun c first => ?_⟩
    rw [text] at first
    cases sign <;> (rw [← Option.some.inj first]; decide)
  | joined left _ _ _ _ leftHypothesis _ =>
    refine ⟨List.append_ne_nil_of_left_ne_nil leftHypothesis.1 _, fun c first => ?_⟩
    rw [text, List.head?_append_of_ne_nil _ leftHypothesis.1] at first
    exact leftHypothesis.2 c first
  | enclosed =>
    refine ⟨List.cons_ne_nil _ _, fun c first => ?_⟩
    rw [← Option.some.inj first]
    decide

theorem shows_text (expression : Expression) :
    Shows (expression.text id) (expression.text mask) := by
  have gaps : ∀ gap : Gap, Shows gap.text gap.text := fun gap => shows_blank gap.isGap
  induction expression with
  | word text isWord _ => exact shows_quiet (isQuiet_of_isWord isWord)
  | quoted literal => exact ⟨literal.settled.1, rfl⟩
  | signed sign gap operand inductionHypothesis =>
    exact (shows_quiet (by cases sign <;> decide)).append ((gaps gap).append inductionHypothesis)
  | joined left gapLeft operator gapRight right leftHypothesis rightHypothesis =>
    have isOperator : Shows operator.text operator.text := shows_quiet (by cases operator <;> decide)
    exact leftHypothesis.append ((gaps gapLeft).append
      (isOperator.append ((gaps gapRight).append rightHypothesis)))
  | enclosed gapLeft inner gapRight inductionHypothesis =>
    exact (((gaps gapLeft).append (inductionHypothesis.append (gaps gapRight))).append
      (shows_quiet (by decide))).cons (by decide)

/-- A value holds braces in its literals only. -/
theorem keepsBraces_text (expression : Expression) : KeepsBraces (expression.text mask) := by
  have gaps : ∀ gap : Gap, KeepsBraces gap.text := fun gap => keepsBraces_blank gap.isGap
  induction expression with
  | word text isWord _ => exact (balanced_of_passed (isPassed_of_isWord isWord false false)).keepsBraces
  | quoted literal => exact keepsBraces_literal literal
  | signed sign gap operand inductionHypothesis =>
    have isSign : KeepsBraces sign.text := keepsBraces_of_forall (by cases sign <;> decide)
    exact isSign.append ((gaps gap).append inductionHypothesis)
  | joined left gapLeft operator gapRight right leftHypothesis rightHypothesis =>
    have isOperator : KeepsBraces operator.text :=
      keepsBraces_of_forall (by cases operator <;> decide)
    exact leftHypothesis.append ((gaps gapLeft).append
      (isOperator.append ((gaps gapRight).append rightHypothesis)))
  | enclosed gapLeft inner gapRight inductionHypothesis =>
    have opening : KeepsBraces ['('] := keepsBraces_singleton (by decide) (by decide)
    have closing : KeepsBraces [')'] := keepsBraces_singleton (by decide) (by decide)
    exact opening.append (((gaps gapLeft).append (inductionHypothesis.append (gaps gapRight))).append
      closing)

end Expression

/-! ### Members with values -/

structure Assignment where
  gapBefore : Gap
  gapBehind : Gap
  expression : Expression

/-- A member of an enumeration, perhaps with a value, and the blanks around it. -/
structure Entry where
  lead : Gap
  name : Name
  value : Option Assignment
  trail : Gap

namespace Entry

variable (view : List Char → List Char)

/-- What stands between the name and the blanks behind the member. -/
def assignment (entry : Entry) : List Char :=
  match entry.value with
  | none => []
  | some value =>
    value.gapBefore.text ++ '=' :: (value.gapBehind.text ++ value.expression.text view)

/-- The member as it is printed. -/
def text (entry : Entry) : List Char :=
  entry.lead.text ++ (entry.name.text ++ (entry.assignment view ++ entry.trail.text))

omit view

/-- The member as it is recorded. -/
def recorded (entry : Entry) : Concord.Field :=
  ⟨String.ofList entry.name.text, "", false⟩

/-- How many angle brackets the walk counts as open behind the member. -/
def angles (entry : Entry) (angles : Nat) : Nat :=
  match entry.value with
  | none => angles
  | some value => value.expression.angles angles

/-- No shift to the left stands in the value of the member. -/
def shiftsLeft (entry : Entry) : Bool :=
  match entry.value with
  | none => false
  | some value => value.expression.shiftsLeft

theorem angles_of_not_shiftsLeft {entry : Entry} (none : entry.shiftsLeft = false) :
    entry.angles 0 = 0 := by
  unfold shiftsLeft at none
  unfold angles
  split
  · rfl
  · rename_i isSome
    rw [isSome] at none
    exact Expression.angles_of_not_shiftsLeft none

theorem turns_assignment (entry : Entry) (angles : Nat) :
    Turns (entry.assignment mask) ⟨[], angles⟩ ⟨[], entry.angles angles⟩ := by
  unfold assignment Entry.angles
  cases entry.value with
  | none => exact fun _ => .nil _
  | some value =>
    have head := value.expression.head_text
    have noClosing : ∀ c, (value.gapBehind.text ++ value.expression.text mask).head? = some c →
        c ≠ '>' := by
      intro c first
      cases gap : value.gapBehind.text with
      | nil =>
        rw [gap, List.nil_append] at first
        exact head.2 c first
      | cons d rest =>
        have blank := List.all_eq_true.1 value.gapBehind.isGap d (by rw [gap]; exact List.mem_cons_self)
        rw [gap] at first
        rw [← Option.some.inj first]
        rintro rfl
        exact absurd blank (by decide)
    exact (Expression.turns_gap value.gapBefore _).append
      (((Expression.turns_gap value.gapBehind _).append
        (value.expression.turns_text [] angles)).assigned
          (List.append_ne_nil_of_right_ne_nil _ head.1) noClosing)

/-- The walk goes through a member; the commas between members are not looked at here. -/
theorem turns_text (entry : Entry) (angles : Nat) :
    Turns (entry.text mask) ⟨[], angles⟩ ⟨[], entry.angles angles⟩ := by
  have name : ∀ nesting, Turns entry.name.text nesting nesting := turns_inert fun c member =>
    isInert_of_class (entry.name.isWord c member) (by decide)
  exact (Expression.turns_gap entry.lead _).append ((name _).append
    ((entry.turns_assignment angles).append (Expression.turns_gap entry.trail _)))

theorem something (entry : Entry) : isAllBlank (entry.text mask) = false := by
  rw [text, isAllBlank_append, isAllBlank_append, entry.name.something, Bool.false_and, Bool.and_false]

theorem shows_text (entry : Entry) : Shows (entry.text id) (entry.text mask) := by
  have gaps : ∀ gap : Gap, Shows gap.text gap.text := fun gap => shows_blank gap.isGap
  have assignment : Shows (entry.assignment id) (entry.assignment mask) := by
    unfold Entry.assignment
    cases entry.value with
    | none => exact shows_quiet (by simp)
    | some value =>
      exact (gaps value.gapBefore).append
        (((gaps value.gapBehind).append value.expression.shows_text).cons (by decide))
  exact (gaps entry.lead).append (entry.name.shows.append (assignment.append (gaps entry.trail)))

theorem keepsBraces_text (entry : Entry) : KeepsBraces (entry.text mask) := by
  have gaps : ∀ gap : Gap, KeepsBraces gap.text := fun gap => keepsBraces_blank gap.isGap
  have equals : KeepsBraces ['='] := keepsBraces_singleton (by decide) (by decide)
  have assignment : KeepsBraces (entry.assignment mask) := by
    unfold Entry.assignment
    cases entry.value with
    | none => exact .nil
    | some value =>
      exact (gaps value.gapBefore).append
        (equals.append ((gaps value.gapBehind).append value.expression.keepsBraces_text))
  exact (gaps entry.lead).append
    (entry.name.balanced.keepsBraces.append (assignment.append (gaps entry.trail)))

/-- A member is read as what was printed, also when blanks follow, and behind a value whatever follows. -/
theorem enumerationMember?_append {entry : Entry} {more : List Char}
    (joins : entry.value = none → isAllBlank more = true) :
    Concord.Member.enumerationMember? (entry.text id ++ more) = some entry.recorded := by
  unfold text assignment
  cases isValue : entry.value with
  | none =>
    have blank : isAllBlank (entry.trail.text ++ more) = true := by
      rw [isAllBlank_append, entry.trail.isGap, joins isValue, Bool.true_and]
    have read := @enumerationMember?_name entry.name _ _ [] entry.lead.isGap blank (by simp)
    simp only [List.append_nil, List.nil_append, List.append_assoc] at read ⊢
    exact read
  | some value =>
    have read := fun rest => @enumerationMember?_name entry.name _ _ ('=' :: rest)
      entry.lead.isGap value.gapBefore.isGap (by simp)
    simp only [List.append_assoc, List.cons_append] at read ⊢
    exact read _

theorem value_ne_none {entry : Entry} (isOpen : entry.angles 0 ≠ 0) : entry.value ≠ none := by
  intro absent
  rw [Entry.angles, absent] at isOpen
  exact isOpen rfl

end Entry

/-! ### Lists of members -/

section

variable (view : List Char → List Char)

/-- Members as they are printed behind something, with a comma before each. -/
def followingEntries (entries : List Entry) : List Char :=
  entries.flatMap fun entry => ',' :: entry.text view

/-- What stands behind the last member. -/
def endOfEntries (lastComma : Bool) (gap : Gap) : List Char :=
  (if lastComma then [','] else []) ++ gap.text

/-- Members with commas between them, perhaps one behind the last, and blanks before the brace. -/
def entryList (entries : List Entry) (lastComma : Bool) (gap : Gap) : List Char :=
  match entries with
  | [] => gap.text
  | entry :: entries => entry.text view ++ (followingEntries view entries ++ endOfEntries lastComma gap)

theorem followingEntries_cons (entry : Entry) (entries : List Entry) :
    followingEntries view (entry :: entries) =
      ',' :: (entry.text view ++ followingEntries view entries) :=
  List.flatMap_cons

end

/-- The members that the walk begins while no angle bracket is open, of those behind `angles` open ones. -/
def heeded : (angles : Nat) → List Entry → List Entry
  | _, [] => []
  | 0, entry :: entries => entry :: heeded (entry.angles 0) entries
  | angles + 1, entry :: entries => heeded (entry.angles (angles + 1)) entries

theorem length_heeded_le (angles : Nat) (entries : List Entry) :
    (heeded angles entries).length ≤ entries.length := by
  induction entries generalizing angles with
  | nil => simp [heeded]
  | cons entry entries inductionHypothesis =>
    cases angles with
    | zero => exact Nat.succ_le_succ (inductionHypothesis _)
    | succ angles => exact Nat.le_succ_of_le (inductionHypothesis _)

/-- All members are heeded if every one but the last leaves no angle bracket open, and only then. -/
theorem heeded_eq_self_iff (entries : List Entry) :
    heeded 0 entries = entries ↔ ∀ entry ∈ entries.dropLast, entry.angles 0 = 0 := by
  induction entries with
  | nil => simp [heeded]
  | cons entry entries inductionHypothesis =>
    cases entries with
    | nil => simp [heeded]
    | cons second others =>
      rw [heeded, List.cons_eq_cons, List.dropLast_cons_cons, List.forall_mem_cons,
        ← inductionHypothesis]
      cases isOpen : entry.angles 0 with
      | zero => simp
      | succ angles =>
        have shorter : heeded (angles + 1) (second :: others) ≠ second :: others := by
          intro same
          have bound := length_heeded_le (second.angles (angles + 1)) others
          rw [heeded] at same
          rw [same, List.length_cons] at bound
          omega
        simp [shorter]

theorem shows_entryList (entries : List Entry) (lastComma : Bool) (gap : Gap) :
    Shows (entryList id entries lastComma gap) (entryList mask entries lastComma gap) := by
  have blank := shows_blank gap.isGap
  cases entries with
  | nil => exact blank
  | cons entry entries =>
    have following : Shows (followingEntries id entries) (followingEntries mask entries) :=
      shows_flatMap _ _ (fun entry => entry.shows_text.cons (by decide)) entries
    exact entry.shows_text.append (following.append ((shows_optional _ (by decide)).append blank))

theorem keepsBraces_entryList (entries : List Entry) (lastComma : Bool) (gap : Gap) :
    KeepsBraces (entryList mask entries lastComma gap) := by
  have comma : KeepsBraces [','] := keepsBraces_singleton (by decide) (by decide)
  have following : KeepsBraces (followingEntries mask entries.tail) := by
    induction entries.tail with
    | nil => exact .nil
    | cons entry entries inductionHypothesis =>
      rw [followingEntries_cons]
      exact comma.append (entry.keepsBraces_text.append inductionHypothesis)
  have ending : KeepsBraces (endOfEntries lastComma gap) := by
    cases lastComma with
    | true => exact comma.append (keepsBraces_blank gap.isGap)
    | false => exact keepsBraces_blank gap.isGap
  cases entries with
  | nil => exact keepsBraces_blank gap.isGap
  | cons entry entries => exact entry.keepsBraces_text.append (following.append ending)

/-- Where the walk stands behind a member, with `angles` angle brackets open. -/
def behindEntry (angles index begun : Nat) : Walk :=
  ⟨⟨[], angles⟩, none, index, begun, true⟩

/-- The members that the spans of a walk hold. -/
def entriesOf (whole : List Char) (spans : List Span) : List Concord.Field :=
  spans.filterMap fun span => Concord.Member.enumerationMember? (span.slice whole)

section

variable {whole tail rest : List Char} {field : Concord.Field} {angles index begun : Nat}
  {opened : List Char}

/-- Where the text ends the member that is being read ends. -/
theorem entriesOf_end {text : List Char} {after : Nesting} (turns : Turns text ⟨[], angles⟩ after)
    (here : whole.drop begun = opened ++ (text ++ tail)) (isIndex : index = begun + opened.length)
    (read : Concord.Member.enumerationMember? (opened ++ text) = some field) :
    entriesOf whole (membersFrom .list (behindEntry angles index begun) text.length (text ++ rest)) =
      [field] := by
  have walked := turns rest index begun true 0
  have place : begun + (opened ++ text).length = index + text.length := by
    rw [List.length_append, isIndex, Nat.add_assoc]
  rw [Nat.add_zero] at walked
  rw [← List.append_assoc] at here
  rw [behindEntry, walked, membersFrom, Walk.member, if_pos (Bool.true_or _), ← place, entriesOf,
    List.filterMap_cons, slice_of_drop here rfl, read]
  rfl

/-- A comma ends the member that is being read while no angle bracket is open. -/
theorem entriesOf_comma {following : List Char} {count : Nat}
    (here : whole.drop begun = opened ++ tail) (isIndex : index = begun + opened.length)
    (read : Concord.Member.enumerationMember? opened = some field) :
    entriesOf whole (membersFrom .list (behindEntry 0 index begun) (count + 1) (',' :: following)) =
      field :: entriesOf whole (membersFrom .list (.level (index + 1) (index + 1) false) count
        following) := by
  have ends : Ends .list ',' following := ends_mark (by decide) (by decide) following
  have separated := membersFrom_separator marks_list ends begun index count
  have level : behindEntry 0 index begun = .level begun index true := rfl
  rw [level, separated, isIndex, entriesOf, List.filterMap_cons, slice_of_drop here rfl, read]
  rfl

/-- While angle brackets are open a comma is a part of the member that is being read. -/
theorem turns_comma (isOpen : angles ≠ 0) : Turns [','] ⟨[], angles⟩ ⟨[], angles⟩ :=
  turns_plain (by decide) (by decide) fun _ => by simp [Nesting.isFlat, isOpen]

/-- Behind the last member the one that is being read ends. -/
theorem entriesOf_ending (lastComma : Bool) (gap : Gap)
    (here : whole.drop begun = opened ++ (endOfEntries lastComma gap ++ tail))
    (isIndex : index = begun + opened.length)
    (reads : ∀ more, (angles = 0 → isAllBlank more = true) →
      Concord.Member.enumerationMember? (opened ++ more) = some field) :
    entriesOf whole (membersFrom .list (behindEntry angles index begun)
      (endOfEntries lastComma gap).length (endOfEntries lastComma gap ++ rest)) = [field] := by
  have blank : ∀ nesting, Turns gap.text nesting nesting := Expression.turns_gap gap
  cases lastComma with
  | false => exact entriesOf_end (blank _) here isIndex (reads gap.text fun _ => gap.isGap)
  | true =>
    by_cases isOpen : angles = 0
    · subst isOpen
      have read := reads [] fun _ => rfl
      have walked := blank .flat rest (index + 1) (index + 1) false 0
      rw [List.append_nil] at read
      rw [gap.isGap] at walked
      exact (entriesOf_comma here isIndex read).trans
        (congrArg (fun spans => field :: entriesOf whole spans) walked)
    · exact entriesOf_end ((turns_comma isOpen).append (blank _)) here isIndex
        (reads _ fun flat => absurd flat isOpen)

/-- From behind a member on, the walk finds that member and those that are heeded behind it. -/
theorem entriesOf_following (entries : List Entry) (lastComma : Bool) (gap : Gap)
    (here : whole.drop begun =
      opened ++ (followingEntries id entries ++ (endOfEntries lastComma gap ++ tail)))
    (isIndex : index = begun + opened.length)
    (reads : ∀ more, (angles = 0 → isAllBlank more = true) →
      Concord.Member.enumerationMember? (opened ++ more) = some field) :
    entriesOf whole (membersFrom .list (behindEntry angles index begun)
        ((followingEntries mask entries).length + (endOfEntries lastComma gap).length)
        (followingEntries mask entries ++ (endOfEntries lastComma gap ++ rest))) =
      field :: (heeded angles entries).map (·.recorded) := by
  induction entries generalizing angles index begun opened field with
  | nil =>
    rw [show (followingEntries mask []).length = 0 from rfl, Nat.zero_add]
    exact entriesOf_ending lastComma gap here isIndex reads
  | cons entry entries inductionHypothesis =>
    have size : (followingEntries mask (entry :: entries)).length + (endOfEntries lastComma gap).length =
        (entry.text mask).length +
          ((followingEntries mask entries).length + (endOfEntries lastComma gap).length) + 1 := by
      rw [followingEntries_cons, List.length_cons, List.length_append]
      omega
    have sameLength : (entry.text id).length = (entry.text mask).length := by
      rw [← entry.shows_text.isMask, length_mask]
    rw [followingEntries_cons, List.cons_append, List.append_assoc] at here
    rw [size, followingEntries_cons, List.cons_append, List.append_assoc]
    by_cases isOpen : angles = 0
    · subst isOpen
      have read := reads [] fun _ => rfl
      have behind : whole.drop (index + 1) = entry.text id ++
          (followingEntries id entries ++ (endOfEntries lastComma gap ++ tail)) := by
        rw [isIndex, ← List.drop_drop, ← List.drop_drop, here, List.drop_left]
        rfl
      have walked := entry.turns_text 0
        (followingEntries mask entries ++ (endOfEntries lastComma gap ++ rest)) (index + 1) (index + 1)
        false ((followingEntries mask entries).length + (endOfEntries lastComma gap).length)
      rw [List.append_nil] at read
      rw [entry.something] at walked
      refine (entriesOf_comma here isIndex read).trans ?_
      rw [Walk.level, Nesting.flat, walked, heeded, List.map_cons]
      refine congrArg (field :: ·) (inductionHypothesis behind (by rw [sameLength]) fun more joins => ?_)
      exact Entry.enumerationMember?_append fun absent =>
        joins (by_contra fun isOpen => Entry.value_ne_none isOpen absent)
    · obtain ⟨before, rfl⟩ := Nat.exists_eq_succ_of_ne_zero isOpen
      have here : whole.drop begun = (opened ++ ',' :: entry.text id) ++
          (followingEntries id entries ++ (endOfEntries lastComma gap ++ tail)) := by
        rw [here, List.append_assoc]
        rfl
      have walked := ((turns_comma isOpen).append (entry.turns_text (before + 1)))
        (followingEntries mask entries ++ (endOfEntries lastComma gap ++ rest)) index begun true
        ((followingEntries mask entries).length + (endOfEntries lastComma gap).length)
      rw [isAllBlank_append, entry.something, Bool.and_false, Bool.not_false, Bool.or_true,
        List.append_assoc, List.singleton_append, List.singleton_append, List.length_cons,
        Nat.add_right_comm] at walked
      rw [behindEntry, walked, heeded]
      refine inductionHypothesis here ?_ fun more _ => ?_
      · rw [isIndex, List.length_append, List.length_cons, sameLength]
        omega
      · rw [List.append_assoc]
        exact reads _ fun flat => absurd flat (Nat.succ_ne_zero before)

/-- The members of a list are found as the walk heeds them. -/
theorem entriesOf_entryList (entries : List Entry) (lastComma : Bool) (gap : Gap)
    (here : whole.drop begun = entryList id entries lastComma gap ++ tail) :
    entriesOf whole (membersFrom .list (.level begun begun false)
        (entryList mask entries lastComma gap).length (entryList mask entries lastComma gap ++ rest)) =
      (heeded 0 entries).map (·.recorded) := by
  cases entries with
  | nil =>
    have walked := Expression.turns_gap gap .flat rest begun begun false 0
    rw [gap.isGap] at walked
    exact congrArg (entriesOf whole) walked
  | cons entry entries =>
    have walked := entry.turns_text 0
      (followingEntries mask entries ++ (endOfEntries lastComma gap ++ rest)) begun begun false
      ((followingEntries mask entries).length + (endOfEntries lastComma gap).length)
    have sameLength : (entry.text id).length = (entry.text mask).length := by
      rw [← entry.shows_text.isMask, length_mask]
    rw [entry.something] at walked
    rw [entryList, List.append_assoc, List.append_assoc] at here
    rw [entryList, List.append_assoc, List.append_assoc, List.length_append, List.length_append,
      Walk.level, Nesting.flat, walked, heeded, List.map_cons]
    refine entriesOf_following entries lastComma gap here (by rw [sameLength]) fun more joins => ?_
    exact Entry.enumerationMember?_append fun absent =>
      joins (by_contra fun isOpen => Entry.value_ne_none isOpen absent)

end

/-- Between braces the members that are heeded are read. -/
theorem readsAs_entryList (entries : List Entry) (lastComma : Bool) (gap : Gap) :
    ReadsAs Concord.Member.enumerationMembers (entryList id entries lastComma gap)
      ((heeded 0 entries).map (·.recorded)) := by
  have shows := shows_entryList entries lastComma gap
  refine ⟨shows.settled, ?_, fun maskedHere cleanHere => ?_⟩
  · rw [shows.isMask]
    exact keepsBraces_entryList entries lastComma gap
  · rw [shows.isMask] at maskedHere ⊢
    rw [Concord.Member.enumerationMembers, members_of_noArrow _ (noArrow_of_brace maskedHere),
      drop_succ maskedHere, Nat.add_sub_cancel_left]
    exact entriesOf_entryList entries lastComma gap (drop_succ cleanHere)

/-! ### Enumerations -/

/-- An enumeration records the members before which no angle bracket is open. These are all members if the
value of each but the last leaves none open, and only then; without a shift to the left none is left open. -/
theorem declarationsOf_entryList (heading : EnumerationHeading) (entries : List Entry) (lastComma : Bool)
    (gap : Gap) (document : String) (startLine : Nat) :
    declarationsOf ⟨startLine, String.ofList (block heading.text (entryList id entries lastComma gap))⟩
        document =
      [{ name := String.ofList heading.name.text
         kind := .enumeration
         location := ⟨document, startLine⟩
         fields := (heeded 0 entries).map (·.recorded) }] ∧
      (heeded 0 entries = entries ↔ ∀ entry ∈ entries.dropLast, entry.angles 0 = 0) ∧
      ((∀ entry ∈ entries.dropLast, entry.shiftsLeft = false) → heeded 0 entries = entries) :=
  ⟨heading.declarationsOf_block (readsAs_entryList entries lastComma gap) document startLine,
    heeded_eq_self_iff entries, fun none => (heeded_eq_self_iff entries).2 fun entry member =>
      Entry.angles_of_not_shiftsLeft (none entry member)⟩

/-- A member whose value is a one shifted to the left. -/
def bitEntry (name : Name) (places : List Char) (isWord : IsWord places) (something : places ≠ []) :
    Entry where
  lead := .space
  name := name
  value := some ⟨.space, .space,
    .joined (.word ['1'] (by decide) (by decide)) .space .shiftLeft .space (.word places isWord something)⟩
  trail := .none

/-- Two flags, and their union. -/
def flagEntries : List Entry :=
  [bitEntry ⟨"Read".toList, by decide⟩ ['0'] (by decide) (by decide),
    bitEntry ⟨"Write".toList, by decide⟩ ['1'] (by decide) (by decide),
    { lead := .space
      name := ⟨"All".toList, by decide⟩
      value := some ⟨.space, .space,
        .joined (.word "Read".toList (by decide) (by decide)) .space .either .space
          (.word "Write".toList (by decide) (by decide))⟩
      trail := .space }]

/-- The shift in the value of the first flag hides the others. -/
theorem declarationsOf_flagEntries :
    String.ofList (block (EnumerationHeading.mk false false false ⟨"Flag".toList, by decide⟩).text
        (entryList id flagEntries false .none)) =
      "enum Flag \x7b Read = 1 << 0, Write = 1 << 1, All = Read | Write \x7d" ∧
    (declarationsOf ⟨1, "enum Flag \x7b Read = 1 << 0, Write = 1 << 1, All = Read | Write \x7d"⟩
        "doc.ts").map (·.fields) = [[⟨"Read", "", false⟩]] ∧
    flagEntries.map (·.recorded) =
      [⟨"Read", "", false⟩, ⟨"Write", "", false⟩, ⟨"All", "", false⟩] :=
  ⟨by decide +kernel, by decide +kernel, by decide +kernel⟩

end Concord.Printed
