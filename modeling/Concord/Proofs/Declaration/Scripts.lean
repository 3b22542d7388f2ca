/-
The heads of a script are those that were printed, in the same order. Behind a printed head no other
head begins before the declaration is at its end: the lines of a record open with a field, those of an
enumeration with a member that a comma, an equals sign or the closing brace follows, and the other
declarations stand on one line.
-/

import Concord.Proofs.Declaration.Heads
import Mathlib.Data.List.Sort

namespace Concord.Head

open Printed Source Text

/-! ### Texts in which no head begins -/

/-- A line starts behind the text. -/
def startsBehind : (startsLine : Bool) → List Char → Bool
  | startsLine, [] => startsLine
  | _, c :: text => startsBehind (c == '\n') text

theorem startsBehind_append (startsLine : Bool) (first second : List Char) :
    startsBehind startsLine (first ++ second) = startsBehind (startsBehind startsLine first) second := by
  induction first generalizing startsLine with
  | nil => rfl
  | cons c first inductionHypothesis => exact inductionHypothesis (c == '\n')

/-- No line that starts in the text is a head; `rest` stands behind the text. -/
def Silent (kind : DeclarationKind) : (startsLine : Bool) → (text rest : List Char) → Prop
  | _, [], _ => True
  | startsLine, c :: text, rest =>
    (startsLine = true → read? kind (c :: (text ++ rest)) = none) ∧ Silent kind (c == '\n') text rest

section

variable {kind : DeclarationKind}

theorem Silent.append {startsLine : Bool} {first second rest : List Char}
    (silent : Silent kind startsLine first (second ++ rest))
    (silentSecond : Silent kind (startsBehind startsLine first) second rest) :
    Silent kind startsLine (first ++ second) rest := by
  induction first generalizing startsLine with
  | nil => exact silentSecond
  | cons c first inductionHypothesis =>
    refine ⟨fun starts => ?_, inductionHypothesis silent.2 silentSecond⟩
    rw [List.append_eq, List.append_assoc]
    exact silent.1 starts

/-- Where the search may resume matters only as long as it has not been reached. -/
theorem ofKindFrom_resume {index resume : Nat} (reached : resume ≤ index) (startsLine : Bool)
    (text : List Char) :
    ofKindFrom kind index resume startsLine text = ofKindFrom kind index 0 startsLine text := by
  induction text generalizing index startsLine with
  | nil => rfl
  | cons c text inductionHypothesis =>
    have zero : 0 ≤ index := Nat.zero_le index
    rw [ofKindFrom, ofKindFrom, decide_eq_true reached, decide_eq_true zero,
      inductionHypothesis (Nat.le_succ_of_le reached)]

theorem Silent.ofKindFrom_append {startsLine : Bool} {text rest : List Char}
    (silent : Silent kind startsLine text rest) (index resume : Nat) :
    ofKindFrom kind index resume startsLine (text ++ rest) =
      ofKindFrom kind (index + text.length) resume (startsBehind startsLine text) rest := by
  induction text generalizing index startsLine with
  | nil => rfl
  | cons c text inductionHypothesis =>
    have found : (if (startsLine && decide (resume ≤ index)) = true then
        read? kind (c :: (text ++ rest)) else none) = none := by
      split
      · rename_i both
        exact silent.1 (Bool.and_eq_true_iff.1 both).1
      · rfl
    have place : index + (c :: text).length = index + 1 + text.length := by
      rw [List.length_cons]
      omega
    rw [List.cons_append, ofKindFrom, found, place]
    exact inductionHypothesis silent.2 (index + 1)

/-! ### Lines -/

theorem beq_break_of_not_mem {c : Char} {text : List Char} (oneLine : '\n' ∉ c :: text) :
    (c == '\n') = false :=
  beq_false_of_ne fun same => oneLine (by rw [same]; exact List.mem_cons_self)

theorem startsBehind_inline {text : List Char} (oneLine : '\n' ∉ text) :
    startsBehind false text = false := by
  induction text with
  | nil => rfl
  | cons c text inductionHypothesis =>
    rw [startsBehind, beq_break_of_not_mem oneLine]
    exact inductionHypothesis fun member => oneLine (List.mem_cons_of_mem c member)

theorem startsBehind_of_oneLine {text : List Char} (oneLine : '\n' ∉ text) (something : text ≠ [])
    (startsLine : Bool) : startsBehind startsLine text = false := by
  obtain ⟨c, text, rfl⟩ := List.exists_cons_of_ne_nil something
  rw [startsBehind, beq_break_of_not_mem oneLine]
  exact startsBehind_inline fun member => oneLine (List.mem_cons_of_mem c member)

theorem silent_inline {text : List Char} (oneLine : '\n' ∉ text) (rest : List Char) :
    Silent kind false text rest := by
  induction text with
  | nil => trivial
  | cons c text inductionHypothesis =>
    refine ⟨fun starts => absurd starts (by simp), ?_⟩
    rw [beq_break_of_not_mem oneLine]
    exact inductionHypothesis fun member => oneLine (List.mem_cons_of_mem c member)

theorem silent_of_dull {text rest : List Char} (oneLine : '\n' ∉ text)
    (dull : Dull ((text ++ rest).dropWhile isSpaceOrTab)) (startsLine : Bool) :
    Silent kind startsLine text rest := by
  cases text with
  | nil => trivial
  | cons c text =>
    refine ⟨fun _ => read?_of_dull dull kind, ?_⟩
    rw [beq_break_of_not_mem oneLine]
    exact silent_inline (fun member => oneLine (List.mem_cons_of_mem c member)) rest

theorem silent_break (rest : List Char) : Silent kind false ['\n'] rest :=
  ⟨fun starts => absurd starts (by simp), trivial⟩

/-- The rest of a line, with its break. -/
theorem silent_ended {text : List Char} (oneLine : '\n' ∉ text) (rest : List Char) :
    Silent kind false (text ++ ['\n']) rest := by
  refine (silent_inline oneLine _).append ?_
  rw [startsBehind_inline oneLine]
  exact silent_break rest

/-- A line with its break. -/
theorem silent_line {text rest : List Char} (oneLine : '\n' ∉ text) (something : text ≠ [])
    (dull : Dull ((text ++ '\n' :: rest).dropWhile isSpaceOrTab)) (startsLine : Bool) :
    Silent kind startsLine (text ++ ['\n']) rest := by
  refine (silent_of_dull oneLine dull startsLine).append ?_
  rw [startsBehind_of_oneLine oneLine something]
  exact silent_break rest

/-- Blanks with their line breaks, before a text in which no head begins. -/
theorem silent_gap {gap rest : List Char} (isGap : isAllBlank gap = true)
    (dull : Dull (rest.dropWhile isSpaceOrTab)) (startsLine : Bool) :
    Silent kind startsLine gap rest := by
  have dullFrom : ∀ {gap : List Char}, isAllBlank gap = true →
      Dull ((gap ++ rest).dropWhile isSpaceOrTab) := by
    intro gap isGap
    induction gap with
    | nil => exact dull
    | cons c gap inductionHypothesis =>
      rw [isAllBlank_cons, Bool.and_eq_true] at isGap
      cases space : isSpaceOrTab c with
      | true =>
        rw [List.cons_append, List.dropWhile_cons_of_pos space]
        exact inductionHypothesis isGap.2
      | false =>
        rw [List.cons_append, List.dropWhile_cons_of_neg (by simp [space])]
        exact dull_of_no_identifier (identifier?_of_stops
          (by rintro d ⟨⟩; exact continuesIdentifier_of_isBlank isGap.1))
  induction gap generalizing startsLine with
  | nil => trivial
  | cons c gap inductionHypothesis =>
    have isGapRest := (Bool.and_eq_true_iff.1 isGap).2
    exact ⟨fun _ => read?_of_dull (dullFrom isGap) kind, inductionHypothesis isGapRest (c == '\n')⟩

end

/-! ### Bodies of declarations -/

theorem oneLine_of_isWord {word : List Char} (isWord : IsWord word) : '\n' ∉ word :=
  fun member => absurd (isWord _ member) (by decide)

theorem Name.oneLine (name : Name) : '\n' ∉ name.text :=
  oneLine_of_isWord name.isWord

theorem oneLine_optional (condition : Bool) {text : List Char} (oneLine : '\n' ∉ text) :
    '\n' ∉ if condition then text else [] := by
  cases condition with
  | true => exact oneLine
  | false => exact List.not_mem_nil

theorem oneLine_mask {inside braced : Bool} {text : List Char} (nested : Nested inside braced text) :
    '\n' ∉ mask text :=
  nested.settled.2.oneLine

theorem oneLine_annotated (field : Printed.Field) : '\n' ∉ field.annotated mask := by
  simp only [Field.annotated, List.mem_append, List.mem_cons, not_or]
  exact ⟨Name.oneLine field.name, oneLine_optional _ (by decide), by decide, by decide,
    oneLine_mask field.type.nested⟩

/-- A field opens with `readonly`, which opens no head, or with a name that no identifier follows. -/
theorem dull_signature (field : Printed.Field) (following : List Char) :
    Dull ((field.signature mask ++ following).dropWhile isSpaceOrTab) := by
  rw [Field.signature]
  cases field.isReadonly with
  | true =>
    simp only [↓reduceIte, List.append_assoc, List.cons_append, List.nil_append]
    rw [dropWhile_word isWord_readonly (by decide)]
    exact dull_of_not_mem isWord_readonly (by decide) (by decide)
  | false =>
    simp only [Bool.false_eq_true, ↓reduceIte, List.nil_append]
    rw [Field.annotated, List.append_assoc, dropWhile_name]
    cases field.isOptional with
    | true => exact (closes_of_stops (by decide) (by decide)).dull field.name.isWord (by simp)
    | false => exact (closes_of_stops (by decide) (by decide)).dull field.name.isWord (by simp)

theorem silent_field (field : Printed.Field) (kind : DeclarationKind) (startsLine : Bool)
    (rest : List Char) : Silent kind startsLine (field.line mask) rest := by
  have isText : field.line mask =
      (field.indentation ++ (field.signature mask ++ field.ending.text)) ++ ['\n'] := by
    simp only [Field.line, List.append_assoc]
  rw [isText]
  refine silent_line ?_ ?_ ?_ startsLine
  · simp only [Field.signature, List.mem_append, not_or]
    refine ⟨fun member => absurd (field.isIndentation _ member) (by decide),
      ⟨oneLine_optional _ (by decide), oneLine_annotated field⟩, ?_⟩
    cases field.ending <;> decide
  · have annotated : field.annotated mask ≠ [] :=
      List.append_ne_nil_of_left_ne_nil field.name.ne_nil _
    have signature : field.signature mask ≠ [] := List.append_ne_nil_of_right_ne_nil _ annotated
    exact List.append_ne_nil_of_right_ne_nil _ (List.append_ne_nil_of_left_ne_nil signature _)
  · rw [List.append_assoc, List.append_assoc, List.dropWhile_append_of_pos field.isIndentation]
    exact dull_signature field _

theorem startsBehind_ended (text : List Char) (startsLine : Bool) :
    startsBehind startsLine (text ++ ['\n']) = true := by
  rw [startsBehind_append]
  rfl

theorem silent_fields (fields : List Printed.Field) (kind : DeclarationKind) (rest : List Char) :
    Silent kind true (fields.flatMap (·.line mask)) rest ∧
      startsBehind true (fields.flatMap (·.line mask)) = true := by
  induction fields with
  | nil => exact ⟨trivial, rfl⟩
  | cons field fields inductionHypothesis =>
    have behind : startsBehind true (field.line mask) = true := by
      rw [Field.line, ← List.append_assoc, ← List.append_assoc]
      exact startsBehind_ended _ _
    rw [List.flatMap_cons, startsBehind_append, behind]
    refine ⟨(silent_field field kind true _).append ?_, inductionHypothesis.2⟩
    rw [behind]
    exact inductionHypothesis.1

theorem oneLine_initialiser (initialiser : Initialiser) : '\n' ∉ initialiser.text mask := by
  cases initialiser with
  | none => exact List.not_mem_nil
  | integer isNegative digits isNumeral =>
    simp only [Initialiser.text, List.mem_cons, List.mem_append, not_or]
    exact ⟨by decide, by decide, by decide, oneLine_optional _ (by decide),
      fun member => absurd (isNumeral _ member) (by decide)⟩
  | literal quote content quotes contents =>
    have noBreak : '\n' ≠ quote := by
      rintro rfl
      exact absurd quotes (by decide)
    simp only [Initialiser.text, (settled_literal contents quotes).2, List.mem_cons, List.mem_append,
      List.mem_replicate, not_or, List.not_mem_nil, not_and]
    exact ⟨by decide, by decide, by decide, noBreak, fun _ => by decide, noBreak, not_false⟩

/-- Behind the name of a member stands an equals sign, or what follows the member. -/
theorem closes_initialiser (initialiser : Initialiser) {following : List Char}
    (closes : Closes following) : Closes (initialiser.text mask ++ following) := by
  cases initialiser with
  | none => exact closes
  | integer | literal => exact ⟨by rintro c ⟨⟩; decide, rfl⟩

theorem silent_member (member : Printed.Member) (kind : DeclarationKind) {following : List Char}
    (closes : Closes following) (something : following ≠ []) (startsLine : Bool) :
    Silent kind startsLine (member.text mask) following ∧
      startsBehind startsLine (member.text mask) = false := by
  have oneLine : '\n' ∉ member.name.text ++ member.initialiser.text mask := by
    rw [List.mem_append, not_or]
    exact ⟨Name.oneLine member.name, oneLine_initialiser member.initialiser⟩
  have dull : Dull ((member.name.text ++ member.initialiser.text mask ++ following).dropWhile
      isSpaceOrTab) := by
    rw [List.append_assoc, dropWhile_name]
    exact (closes_initialiser _ closes).dull member.name.isWord (by simp [something])
  rw [Member.text, startsBehind_append, startsBehind_of_oneLine oneLine (by simp [member.name.ne_nil])]
  exact ⟨(silent_gap member.isGap dull startsLine).append (silent_of_dull oneLine dull _), rfl⟩

theorem silent_memberList (lastComma : Bool) (members : List Printed.Member) (kind : DeclarationKind)
    {following : List Char} (closes : Closes following) (something : following ≠ []) :
    ∀ startsLine, Silent kind startsLine (memberList mask lastComma members) following := by
  have comma : ∀ rest, Closes (',' :: rest) := fun rest => closes_of_stops (by decide) (by decide)
  induction members with
  | nil => exact fun _ => trivial
  | cons member members inductionHypothesis =>
    intro startsLine
    cases members with
    | nil =>
      rw [memberList]
      cases lastComma with
      | true =>
        have first := silent_member member kind (comma following) (by simp) startsLine
        refine first.1.append ?_
        rw [first.2]
        exact silent_inline (by decide) following
      | false =>
        have first := silent_member member kind closes something startsLine
        rw [if_neg (by simp), List.append_nil]
        exact first.1
    | cons second others =>
      have first := silent_member member kind
        (comma (memberList mask lastComma (second :: others) ++ following)) (by simp) startsLine
      rw [memberList]
      refine first.1.append ?_
      rw [first.2]
      exact ⟨fun starts => absurd starts (by simp), inductionHypothesis false⟩
      · simp

theorem oneLine_supertype (supertype : Supertype) : '\n' ∉ supertype.text := by
  cases supertype with
  | plain name => exact Name.oneLine name
  | applied name arguments nested noLiteral _ =>
    have inside := oneLine_mask nested
    rw [nested.mask_of_no_quote noLiteral] at inside
    simp only [Supertype.text, List.mem_append, List.mem_cons, List.not_mem_nil, or_false, not_or]
    exact ⟨Name.oneLine name, by decide, inside, by decide⟩

theorem oneLine_extension (supertypes : List Supertype) : '\n' ∉ extension supertypes :=
  @extension_induction (fun text => '\n' ∉ text) (by decide)
    (fun oneLine oneLineBehind => by
      rw [List.mem_append, not_or]
      exact ⟨oneLine, oneLineBehind⟩)
    (by decide) (by decide) oneLine_supertype supertypes

theorem closes_gap {gap rest : List Char} (isGap : isAllBlank gap = true) {c : Char}
    (stops : continuesIdentifier c = false) (noSpace : isSpaceOrTab c = false) :
    Closes (gap ++ c :: rest) := by
  induction gap with
  | nil => exact closes_of_stops stops noSpace
  | cons d gap inductionHypothesis =>
    rw [isAllBlank_cons, Bool.and_eq_true] at isGap
    have stopsHere := continuesIdentifier_of_isBlank isGap.1
    cases space : isSpaceOrTab d with
    | false => exact closes_of_stops stopsHere space
    | true =>
      refine ⟨by rintro e ⟨⟩; exact stopsHere, ?_⟩
      rw [List.cons_append, List.dropWhile_cons_of_pos space]
      exact (inductionHypothesis isGap.2).noIdentifier

theorem startsBehind_of_closing (text : List Char) {c : Char} (closing : c ≠ '\n') :
    startsBehind false (text ++ [c]) = false := by
  rw [startsBehind_append, startsBehind, beq_false_of_ne closing]
  rfl

/-- No head begins behind the head of a declaration before its end, and there no line starts. -/
theorem silent_trunk (shape : Shape) (kind : DeclarationKind) (rest : List Char) :
    Silent kind false (shape.trunk mask) rest ∧ startsBehind false (shape.trunk mask) = false := by
  have closing : ∀ startsLine, Silent kind startsLine ['\x7d'] rest := fun startsLine =>
    @silent_of_dull kind ['\x7d'] rest (by decide) (dull_of_no_identifier rfl) startsLine
  cases shape with
  | record supertypes fields distinct =>
    have isText : (Shape.record supertypes fields distinct).trunk mask =
        ((extension supertypes ++ [' ', '\x7b']) ++ ['\n']) ++
          (fields.flatMap (·.line mask) ++ ['\x7d']) := by
      simp only [Shape.trunk, List.append_assoc, List.cons_append, List.nil_append]
    have header : '\n' ∉ extension supertypes ++ [' ', '\x7b'] := by
      rw [List.mem_append, not_or]
      exact ⟨oneLine_extension supertypes, by decide⟩
    have lines := silent_fields fields kind (['\x7d'] ++ rest)
    rw [isText, startsBehind_append, startsBehind_append, startsBehind_ended, lines.2]
    refine ⟨(silent_ended header _).append ?_, rfl⟩
    rw [startsBehind_ended]
    refine lines.1.append ?_
    rw [lines.2]
    exact closing true
  | typeAlias expression =>
    have oneLine : '\n' ∉ ' ' :: (mask expression.text ++ [';']) := by
      rw [List.mem_cons, List.mem_append, not_or, not_or]
      exact ⟨by decide, oneLine_mask expression.nested, by decide⟩
    exact ⟨silent_inline oneLine rest, startsBehind_inline oneLine⟩
  | enumeration isConstant members lastComma gap isGap =>
    have isText : (Shape.enumeration isConstant members lastComma gap isGap).trunk mask =
        memberList mask lastComma members ++ (gap ++ ['\x7d']) := rfl
    rw [isText]
    refine ⟨(silent_memberList lastComma members kind ?_ ?_ false).append ?_, ?_⟩
    · rw [List.append_assoc]
      exact closes_gap isGap (by decide) (by decide)
    · simp
    · exact (silent_gap isGap (dull_of_no_identifier rfl) _).append (closing _)
    · rw [← List.append_assoc]
      exact startsBehind_of_closing _ (by decide)
  | constantGroup inner nested semicolon =>
    have oneLine : '\n' ∉ mask inner ++ '\x7d' :: if semicolon then [';'] else [] := by
      rw [List.mem_append, List.mem_cons, not_or, not_or]
      exact ⟨oneLine_mask nested, by decide, oneLine_optional _ (by decide)⟩
    exact ⟨silent_inline oneLine rest, startsBehind_inline oneLine⟩

/-! ### The heads of a script -/

/-- The head of a declaration that stands at the given position. -/
def headAt (index : Nat) (declaration : Printed.Declaration) : Head :=
  ⟨declaration.shape.kind, declaration.name.text, index, index + declaration.head.length⟩

/-- The heads of declarations of which the first stands at the given position. -/
def headsFrom : Nat → List Printed.Declaration → List Head
  | _, [] => []
  | index, declaration :: declarations =>
    headAt index declaration ::
      headsFrom (index + (declaration.text mask).length) declarations

theorem stops_trunk (shape : Shape) (rest : List Char) (record : shape.kind = .record) :
    ∀ c, (shape.trunk mask ++ rest).head? = some c → continuesIdentifier c = false := by
  cases shape with
  | record supertypes => cases supertypes <;> exact stops_space _
  | typeAlias | enumeration | constantGroup => exact absurd record (by simp [Shape.kind])

theorem head_ne_nil (declaration : Printed.Declaration) : declaration.head ≠ [] := by
  refine List.append_ne_nil_of_right_ne_nil _ (List.append_ne_nil_of_right_ne_nil _ ?_)
  exact List.append_ne_nil_of_right_ne_nil _ (by simp)

theorem oneLine_head (declaration : Printed.Declaration) : '\n' ∉ declaration.head := by
  have keyword : '\n' ∉ keyword declaration.shape.kind := by
    cases declaration.shape.kind <;> decide
  have sign : '\n' ∉ sign declaration.shape.kind := by
    cases declaration.shape.kind <;> decide
  simp only [Declaration.head, Declaration.modifiers, Declaration.naming, List.mem_append, List.mem_cons,
    not_or]
  exact ⟨⟨oneLine_optional _ (by decide), oneLine_optional _ (by decide)⟩,
    oneLine_optional _ (by decide), keyword, by decide, Name.oneLine declaration.name, sign⟩

/-- Behind a head that is read as one of its own kind only, the search goes on at the end of its shape. -/
theorem ofKindFrom_head {head name rest : List Char} {shape : Shape} (something : head ≠ [])
    (oneLine : '\n' ∉ head) {kind : DeclarationKind}
    (reads : read? kind (head ++ (shape.trunk mask ++ rest)) =
      if kind = shape.kind then some (name, shape.trunk mask ++ rest) else none) (index : Nat) :
    ofKindFrom kind index 0 true (head ++ (shape.trunk mask ++ rest)) =
      (if kind = shape.kind then [⟨shape.kind, name, index, index + head.length⟩] else []) ++
        ofKindFrom kind (index + (head.length + (shape.trunk mask).length)) 0 false rest := by
  obtain ⟨c, tail, rfl⟩ := List.exists_cons_of_ne_nil something
  have oneLineTail : '\n' ∉ tail := fun member => oneLine (List.mem_cons_of_mem c member)
  obtain ⟨silentTrunk, starts⟩ := silent_trunk shape kind rest
  have silent : Silent kind false (tail ++ shape.trunk mask) rest := by
    refine (silent_inline oneLineTail _).append ?_
    rw [startsBehind_inline oneLineTail]
    exact silentTrunk
  have behind : startsBehind false (tail ++ shape.trunk mask) = false := by
    rw [startsBehind_append, startsBehind_inline oneLineTail, starts]
  -- Whatever was read at the start of the head, the search goes on behind the shape.
  have goesOn : ∀ resume ≤ index + ((c :: tail).length + (shape.trunk mask).length),
      ofKindFrom kind (index + 1) resume false (tail ++ (shape.trunk mask ++ rest)) =
        ofKindFrom kind (index + ((c :: tail).length + (shape.trunk mask).length)) 0 false rest := by
    intro resume reached
    have place : index + 1 + (tail ++ shape.trunk mask).length =
        index + ((c :: tail).length + (shape.trunk mask).length) := by
      simp only [List.length_append, List.length_cons]
      omega
    rw [← List.append_assoc, silent.ofKindFrom_append, behind, place, ofKindFrom_resume reached]
  rw [List.cons_append] at reads ⊢
  rw [ofKindFrom, if_pos (by simp), reads, beq_break_of_not_mem oneLine]
  by_cases same : kind = shape.kind
  · have stop : index + ((c :: (tail ++ (shape.trunk mask ++ rest))).length -
        (shape.trunk mask ++ rest).length) = index + (c :: tail).length := by
      simp only [List.length_cons, List.length_append]
      omega
    rw [if_pos same, if_pos same, same, List.singleton_append,
      ← same, ← goesOn (index + (c :: tail).length) (by omega), ← stop]
  · rw [if_neg same, if_neg same]
    exact goesOn 0 (Nat.zero_le _)

/-- The only head of a kind in a declaration is its own, if it is of that kind. -/
theorem ofKindFrom_declaration (declaration : Printed.Declaration) (kind : DeclarationKind)
    (index : Nat) (rest : List Char) :
    ofKindFrom kind index 0 true (declaration.text mask ++ rest) =
      (if kind = declaration.shape.kind then [headAt index declaration] else []) ++
        ofKindFrom kind (index + (declaration.text mask).length) 0 true rest := by
  have size : (declaration.text mask).length =
      declaration.head.length + (declaration.shape.trunk mask).length + 1 := by
    rw [Declaration.text, Shape.remainder_eq, List.length_append, List.length_append,
      List.length_singleton, Nat.add_assoc]
  rw [declaration.text_append, size, ofKindFrom_head (head_ne_nil declaration) (oneLine_head declaration)
    (read?_printed declaration _ (stops_trunk declaration.shape _) kind), ofKindFrom]
  rfl

theorem ofKindFrom_script (kind : DeclarationKind) (index : Nat)
    (declarations : List Printed.Declaration) :
    ofKindFrom kind index 0 true (script mask declarations) =
      (headsFrom index declarations).filter (·.kind = kind) := by
  induction declarations generalizing index with
  | nil => rfl
  | cons declaration declarations inductionHypothesis =>
    rw [script, List.flatMap_cons, ← script, ofKindFrom_declaration, inductionHypothesis, headsFrom,
      List.filter_cons]
    by_cases same : kind = declaration.shape.kind
    · subst same
      simp [headAt]
    · simp [headAt, same, Ne.symm same]

theorem start_headsFrom {index : Nat} {declarations : List Printed.Declaration} {head : Head}
    (member : head ∈ headsFrom index declarations) : index ≤ head.start := by
  induction declarations generalizing index with
  | nil => exact absurd member List.not_mem_nil
  | cons declaration declarations inductionHypothesis =>
    rcases List.mem_cons.1 member with rfl | later
    · exact Nat.le_refl index
    · exact Nat.le_trans (Nat.le_add_right ..) (inductionHypothesis later)

theorem pairwise_headsFrom (index : Nat) (declarations : List Printed.Declaration) :
    (headsFrom index declarations).Pairwise fun first second => first.start < second.start := by
  induction declarations generalizing index with
  | nil => exact .nil
  | cons declaration declarations inductionHypothesis =>
    refine .cons (fun head member => ?_) (inductionHypothesis _)
    have something : 0 < (declaration.text mask).length :=
      List.length_pos_iff.2 (List.append_ne_nil_of_left_ne_nil (head_ne_nil declaration) _)
    have later := start_headsFrom member
    exact Nat.lt_of_lt_of_le (Nat.lt_add_of_pos_right something) later

theorem perm_filter_kinds (heads : List Head) :
    (DeclarationKind.all.flatMap fun kind => heads.filter (·.kind = kind)).Perm heads := by
  rw [List.perm_iff_count]
  intro head
  simp only [DeclarationKind.all, List.flatMap_cons, List.flatMap_nil, List.count_append, List.count_nil]
  have absent : ∀ kind, head.kind ≠ kind → (heads.filter (·.kind = kind)).count head = 0 := by
    intro kind different
    refine List.count_eq_zero.2 fun member => different ?_
    simpa using (List.mem_filter.1 member).2
  have present : (heads.filter (·.kind = head.kind)).count head = heads.count head :=
    List.count_filter (by simp)
  cases isKind : head.kind
  all_goals
    rw [isKind] at absent present
    simp [absent, present]

theorem pairwise_all (masked : List Char) :
    (all masked).Pairwise fun first second => first.start ≤ second.start :=
  List.pairwise_mergeSort' (Order.Preimage Head.start (· ≤ ·)) _

/-- Heads that stand in order are all heads when they are those of the kinds. -/
theorem all_eq_of_perm {masked : List Char} {heads : List Head}
    (perm : (DeclarationKind.all.flatMap fun kind => ofKind kind masked).Perm heads)
    (inOrder : heads.Pairwise fun first second => first.start < second.start) :
    all masked = heads := by
  have sortedPerm := (List.mergeSort_perm (DeclarationKind.all.flatMap fun kind => ofKind kind masked)
    fun first second => first.start ≤ second.start).trans perm
  have distinct : (heads.map (·.start)).Nodup :=
    List.pairwise_map.2 (inOrder.imp Nat.ne_of_lt)
  refine @List.Perm.eq_of_pairwise _ (fun first second => first.start ≤ second.start) _ _ ?_
    (pairwise_all masked) (inOrder.imp Nat.le_of_lt) sortedPerm
  intro first second member memberSecond before after
  exact List.inj_on_of_nodup_map distinct (sortedPerm.subset member) memberSecond
    (Nat.le_antisymm before after)

/-- The heads of a script are the printed ones in the order in which they were printed. -/
theorem all_script (declarations : List Printed.Declaration) :
    all (script mask declarations) = headsFrom 0 declarations := by
  refine all_eq_of_perm ?_ (pairwise_headsFrom 0 declarations)
  simp only [ofKind, ofKindFrom_script]
  exact perm_filter_kinds _

end Concord.Head
