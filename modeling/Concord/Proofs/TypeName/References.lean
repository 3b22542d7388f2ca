/-
A type as a tree, and the names in it. The tree is printed as a row of parts with spaces around them. The
search for referenced names knows no trees: it cuts literals out of the text, then keys, and takes what
is left of identifiers. Each of the three passes changes every part for itself, because behind the name of
a type stands a mark that makes no key of it. So what is found are the names of the tree.
-/

import Concord.Proofs.Declaration.Members
import Concord.Proofs.TypeName.Literals

namespace Concord.TypeName

open Source Text

/-! ### Types -/

/-- A string literal that does not hold its own quote. -/
structure TextLiteral where
  quote : Char
  content : List Char
  quotes : Source.isQuote quote = true
  unquoted : quote ∉ content

/-- What stands before the type of a member. -/
structure Key where
  isReadonly : Bool
  name : Printed.Name
  isOptional : Bool

/-- What stands behind a member of an inline object. -/
inductive Separator where
  | semicolon
  | comma
  deriving DecidableEq, Repr

/-- What stands before the type of a parameter. -/
structure Parameter where
  name : Printed.Name
  isOptional : Bool

inductive TypeTree where
  | named (name : Printed.Name)
  | applied (name : Printed.Name) (first : TypeTree) (others : List TypeTree)
  | array (item : TypeTree)
  | tuple (items : List TypeTree)
  | union (first : TypeTree) (others : List TypeTree)
  | intersection (first : TypeTree) (others : List TypeTree)
  | parenthesised (inner : TypeTree)
  | literal (literal : TextLiteral)
  /-- Members with what separates each from the next one, and perhaps a separator behind the last. -/
  | object (members : List (Key × Separator × TypeTree)) (isEnded : Bool)
  | function (parameters : List (Parameter × TypeTree)) (result : TypeTree)

namespace TypeTree

mutual

/-- The identifiers in type position, as they follow one another. -/
def names : TypeTree → List (List Char)
  | named name => [name.text]
  | applied name first others => name.text :: (names first ++ namesOfItems others)
  | array item => names item
  | tuple items => namesOfItems items
  | union first others => names first ++ namesOfItems others
  | intersection first others => names first ++ namesOfItems others
  | parenthesised inner => names inner
  | literal _ => []
  | object members _ => namesOfMembers members
  | function parameters result => namesOfParameters parameters ++ names result

def namesOfItems : List TypeTree → List (List Char)
  | [] => []
  | item :: items => names item ++ namesOfItems items

def namesOfMembers : List (Key × Separator × TypeTree) → List (List Char)
  | [] => []
  | (_, _, type) :: members => names type ++ namesOfMembers members

def namesOfParameters : List (Parameter × TypeTree) → List (List Char)
  | [] => []
  | (_, type) :: parameters => names type ++ namesOfParameters parameters

end

end TypeTree

/-! ### Printing -/

/-- A mark between the parts of a type. -/
inductive Mark where
  | openAngle
  | closeAngle
  | openBracket
  | closeBracket
  | openParenthesis
  | closeParenthesis
  | openBrace
  | closeBrace
  | comma
  | semicolon
  | bar
  | ampersand
  | arrow
  deriving DecidableEq, Repr

def Mark.text : Mark → List Char
  | openAngle => ['<']
  | closeAngle => ['>']
  | openBracket => ['[']
  | closeBracket => [']']
  | openParenthesis => ['(']
  | closeParenthesis => [')']
  | openBrace => ['\x7b']
  | closeBrace => ['\x7d']
  | comma => [',']
  | semicolon => [';']
  | bar => ['|']
  | ampersand => ['&']
  | arrow => ['=', '>']

def Separator.mark : Separator → Mark
  | semicolon => .semicolon
  | comma => .comma

/-- How many spaces stand before and behind the marks of each kind, and behind the colon of a key. -/
structure Spacing where
  before : Mark → Nat
  behind : Mark → Nat
  behindColon : Nat

/-- What a type is printed from. -/
inductive Part where
  | name (name : Printed.Name)
  | key (key : Key)
  | literal (literal : TextLiteral)
  | mark (mark : Mark)

namespace TypeTree

mutual

/-- The parts that a type is printed from. -/
def parts : TypeTree → List Part
  | named name => [.name name]
  | applied name first others =>
    .name name :: .mark .openAngle :: (parts first ++ (partsBehind .comma others ++ [.mark .closeAngle]))
  | array item => parts item ++ [.mark .openBracket, .mark .closeBracket]
  | tuple items => .mark .openBracket :: (partsOfItems items ++ [.mark .closeBracket])
  | union first others => parts first ++ partsBehind .bar others
  | intersection first others => parts first ++ partsBehind .ampersand others
  | parenthesised inner => .mark .openParenthesis :: (parts inner ++ [.mark .closeParenthesis])
  | .literal quoted => [.literal quoted]
  | object members isEnded => .mark .openBrace :: (partsOfMembers isEnded members ++ [.mark .closeBrace])
  | function parameters result =>
    .mark .openParenthesis :: (partsOfParameters parameters ++
      .mark .closeParenthesis :: .mark .arrow :: parts result)

/-- Items that each stand behind a mark. -/
def partsBehind (mark : Mark) : List TypeTree → List Part
  | [] => []
  | item :: items => .mark mark :: (parts item ++ partsBehind mark items)

/-- Items with commas between them. -/
def partsOfItems : List TypeTree → List Part
  | [] => []
  | item :: items => parts item ++ partsBehind .comma items

/-- Members with their separators. -/
def partsOfMembers (isEnded : Bool) : List (Key × Separator × TypeTree) → List Part
  | [] => []
  | (key, separator, type) :: members =>
    .key key :: (parts type ++
      ((if isEnded || !members.isEmpty then [.mark separator.mark] else []) ++
        partsOfMembers isEnded members))

/-- Parameters with commas between them. -/
def partsOfParameters : List (Parameter × TypeTree) → List Part
  | [] => []
  | (parameter, type) :: parameters =>
    .key ⟨false, parameter.name, parameter.isOptional⟩ :: (parts type ++
      ((if parameters.isEmpty then [] else [.mark .comma]) ++ partsOfParameters parameters))

end

end TypeTree

variable (spacing : Spacing)

/-- A key as it is printed, its colon included. -/
def Key.text (key : Key) : List Char :=
  (if key.isReadonly then "readonly".toList ++ [' '] else []) ++
    (key.name.text ++ ((if key.isOptional then ['?'] else []) ++ [':']))

def TextLiteral.text (literal : TextLiteral) : List Char :=
  literal.quote :: (literal.content ++ [literal.quote])

/-- The spaces behind the colon of a key. -/
def Spacing.colonGap : List Char :=
  List.replicate spacing.behindColon ' '

/-- A mark and the spaces around it. -/
def Spacing.around (mark : Mark) : List Char :=
  List.replicate (spacing.before mark) ' ' ++ (mark.text ++ List.replicate (spacing.behind mark) ' ')

namespace Part

def text : Part → List Char
  | .name word => word.text
  | .key entry => entry.text ++ spacing.colonGap
  | .literal quoted => quoted.text
  | .mark sign => spacing.around sign

/-- What the first pass leaves of a part: a space for a literal. -/
def withoutLiteral : Part → List Char
  | .literal _ => [' ']
  | part => part.text spacing

/-- What the second pass leaves of a part: a space for a key as well. -/
def bareText : Part → List Char
  | .key _ => ' ' :: spacing.colonGap
  | part => part.withoutLiteral spacing

/-- The name in type position that a part is. -/
def name? : Part → Option (List Char)
  | .name word => some word.text
  | _ => none

end Part

/-- A type as it is printed. -/
def TypeTree.text (tree : TypeTree) : List Char :=
  tree.parts.flatMap (Part.text spacing)

/-! ### Literals -/

theorem Mark.isQuiet (mark : Mark) : ∀ c ∈ mark.text, isQuiet c = true := by
  cases mark <;> decide

theorem isQuiet_spaces (count : Nat) : ∀ c ∈ List.replicate count ' ', isQuiet c = true :=
  List.forall_mem_replicate.2 (.inr rfl)

theorem Key.isQuiet (key : Key) : ∀ c ∈ key.text, isQuiet c = true := by
  rw [Key.text, List.forall_mem_append, List.forall_mem_append, List.forall_mem_append]
  refine ⟨?_, Printed.isQuiet_of_isWord key.name.isWord, ?_, by decide⟩
  · cases key.isReadonly <;> decide
  · cases key.isOptional <;> decide

theorem without_literals_append (parts : List Part) (rest : List Char) :
    without literalLength? (parts.flatMap (Part.text spacing) ++ rest) =
      parts.flatMap (Part.withoutLiteral spacing) ++ without literalLength? rest := by
  induction parts with
  | nil => rfl
  | cons part parts inductionHypothesis =>
    rw [List.flatMap_cons, List.flatMap_cons, List.append_assoc, List.append_assoc,
      ← inductionHypothesis]
    cases part with
    | name name => exact without_run (Printed.isQuiet_of_isWord name.isWord) _
    | key key =>
      exact without_run (List.forall_mem_append.2 ⟨key.isQuiet, isQuiet_spaces _⟩) _
    | literal literal =>
      rw [Part.text, TextLiteral.text, List.cons_append, List.append_assoc, List.singleton_append,
        without_literal literal.quotes literal.unquoted]
      rfl
    | mark mark =>
      exact without_run (List.forall_mem_append.2 ⟨isQuiet_spaces _,
        List.forall_mem_append.2 ⟨mark.isQuiet, isQuiet_spaces _⟩⟩) _

theorem without_literals (parts : List Part) :
    without literalLength? (parts.flatMap (Part.text spacing)) =
      parts.flatMap (Part.withoutLiteral spacing) := by
  have ended := without_literals_append spacing parts []
  rwa [List.append_nil, show without literalLength? [] = [] from rfl, List.append_nil] at ended

/-! ### Keys -/

theorem keyLength?_eq_none {text : List Char}
    (stops : ∀ c, text.head? = some c → opensIdentifier c = false) : keyLength? text = none := by
  have noKeyword : spacedKeyword? "readonly".toList text = none := by
    cases text with
    | nil => rfl
    | cons c rest =>
      have other : 'r' ≠ c := by
        rintro rfl
        exact absurd (stops 'r' rfl) (by decide)
      rw [spacedKeyword?, show "readonly".toList = 'r' :: "eadonly".toList by decide, after?,
        if_neg other]
  rw [keyLength?, noKeyword, behindKey?, identifier?_eq_none stops]
  rfl

/-- What stands there neither goes on with an identifier nor makes a key of it. -/
structure IsClosing (text : List Char) : Prop where
  stops : ∀ c, text.head? = some c → continuesIdentifier c = false ∧ c ≠ '?'
  noKey : ∀ c, (stripStart text).head? = some c → opensIdentifier c = false ∧ c ≠ ':'

/-- What stands there ends a name before it, and makes no key of the name. -/
structure EndsName (text : List Char) : Prop where
  stops : ∀ c, text.head? = some c → continuesIdentifier c = false
  noColon : behindColon? text = none

theorem behindColon?_eq_none {text : List Char} (noQuestion : text.head? ≠ some '?')
    (noColon : (stripStart text).head? ≠ some ':') : behindColon? text = none := by
  rw [TypeName.behindColon?]
  · split
    · next rest isColon => exact absurd (by rw [isColon]; rfl) noColon
    · rfl
  · rintro rest rfl
    exact noQuestion rfl

theorem IsClosing.endsName {text : List Char} (closing : IsClosing text) : EndsName text where
  stops c head := (closing.stops c head).1
  noColon := behindColon?_eq_none (fun head => (closing.stops '?' head).2 rfl) fun head =>
    (closing.noKey ':' head).2 rfl

theorem IsClosing.behindKey?_eq_none {text : List Char} (closing : IsClosing text) :
    behindKey? (stripStart text) = none := by
  rw [behindKey?, identifier?_eq_none fun c head => (closing.noKey c head).1]
  rfl

/-- A word, or the end of one, is no key where no colon follows, and no key follows the word for keys that
are only read. -/
theorem keyLength?_word {word rest : List Char} (isWord : IsWord word) (ends : EndsName rest)
    (noKey : word = "readonly".toList → behindKey? (stripStart rest) = none) :
    keyLength? (word ++ rest) = none := by
  have noKeyHere : behindKey? (word ++ rest) = none := by
    cases named : isIdentifier word with
    | true =>
      rw [behindKey?, identifier?_word named ends.stops]
      exact ends.noColon
    | false =>
      rw [behindKey?, identifier?_eq_none]
      · rfl
      · intro c head
        cases word with
        | nil => exact not_opensIdentifier (ends.stops c head)
        | cons w word =>
          cases head
          have goesOn : word.all continuesIdentifier = true :=
            List.all_eq_true.2 fun d member => isWord d (List.mem_cons_of_mem c member)
          rwa [isIdentifier, goesOn, Bool.and_true] at named
  have noReadonly : (spacedKeyword? "readonly".toList (word ++ rest)).bind behindKey? = none := by
    cases rest with
    | nil => rw [List.append_nil, spacedKeyword?_of_isWord isWord, Option.bind_none]
    | cons c rest =>
      rw [spacedKeyword?_word Printed.isWord_readonly isWord (ends.stops c rfl)]
      split
      · next both =>
        have isStrip : stripStart (c :: rest) = stripStart rest := List.dropWhile_cons_of_pos both.2
        rw [Option.bind_some, ← isStrip, noKey both.1.symm]
      · rfl
  rw [keyLength?, noReadonly, noKeyHere]
  rfl

theorem without_word {word rest : List Char} (isWord : IsWord word) (ends : EndsName rest)
    (noKey : "readonly".toList <:+ word → behindKey? (stripStart rest) = none) :
    without keyLength? (word ++ rest) = word ++ without keyLength? rest := by
  induction word with
  | nil => rfl
  | cons c word inductionHypothesis =>
    have passed := keyLength?_word isWord ends fun isReadonly => noKey (isReadonly ▸ List.suffix_rfl)
    rw [List.cons_append] at passed ⊢
    rw [without_passed passed, inductionHypothesis (fun d member => isWord d (List.mem_cons_of_mem c member))
      fun ending => noKey (ending.trans (List.suffix_cons c word)), List.cons_append]

theorem without_closed {run : List Char} (closed : ∀ c ∈ run, opensIdentifier c = false)
    (rest : List Char) : without keyLength? (run ++ rest) = run ++ without keyLength? rest := by
  induction run with
  | nil => rfl
  | cons c run inductionHypothesis =>
    rw [List.forall_mem_cons] at closed
    have passed : keyLength? (c :: (run ++ rest)) = none := by
      refine keyLength?_eq_none ?_
      rintro d ⟨⟩
      exact closed.1
    rw [List.cons_append, without_passed passed, inductionHypothesis closed.2, List.cons_append]

theorem behindColon?_colon (isOptional : Bool) {rest : List Char} (single : rest.head? ≠ some ':') :
    behindColon? ((if isOptional then ['?'] else []) ++ ':' :: rest) = some rest := by
  have isColon : stripStart (':' :: rest) = ':' :: rest :=
    stripStart_of_not_isBlank (by rintro c ⟨⟩; decide)
  cases isOptional <;> simp [behindColon?, isColon, single]

theorem behindKey?_name (name : Printed.Name) (isOptional : Bool) {rest : List Char}
    (single : rest.head? ≠ some ':') :
    behindKey? (name.text ++ ((if isOptional then ['?'] else []) ++ ':' :: rest)) = some rest := by
  have stops : ∀ c, ((if isOptional then ['?'] else []) ++ ':' :: rest).head? = some c →
      continuesIdentifier c = false := by
    cases isOptional <;> rintro c ⟨⟩ <;> decide
  rw [behindKey?, identifier?_word name.isIdentifier stops]
  exact behindColon?_colon isOptional single

theorem spacedKeyword?_optional (name : Printed.Name) (isOptional : Bool) (rest : List Char) :
    spacedKeyword? "readonly".toList
      (name.text ++ ((if isOptional then ['?'] else []) ++ ':' :: rest)) = none := by
  cases isOptional <;>
    exact (spacedKeyword?_word Printed.isWord_readonly name.isWord (by decide)).trans
      (if_neg fun both => absurd both.2 (by decide))

theorem Key.text_append (key : Key) (rest : List Char) :
    key.text ++ rest = (if key.isReadonly then "readonly".toList ++ [' '] else []) ++
      (key.name.text ++ ((if key.isOptional then ['?'] else []) ++ ':' :: rest)) := by
  rw [Key.text, List.append_assoc, List.append_assoc, List.append_assoc, List.singleton_append]

theorem Key.something (key : Key) : key.text ≠ [] := fun absent =>
  key.name.ne_nil (List.append_eq_nil_iff.1 (List.append_eq_nil_iff.1 absent).2).1

/-- A key is measured up to its colon. -/
theorem Key.keyLength?_text (key : Key) {rest : List Char} (single : rest.head? ≠ some ':') :
    keyLength? (key.text ++ rest) = some key.text.length := by
  have read : ((spacedKeyword? "readonly".toList (key.text ++ rest)).bind behindKey?).or
      (behindKey? (key.text ++ rest)) = some rest := by
    have named := behindKey?_name key.name key.isOptional single
    have head := fun c found => isBlank_of_continuesIdentifier (key.name.head
      ((if key.isOptional then ['?'] else []) ++ ':' :: rest) c found)
    rw [key.text_append]
    cases key.isReadonly with
    | true =>
      rw [if_pos rfl, List.append_assoc, List.singleton_append,
        spacedKeyword?_space Printed.isWord_readonly head, Option.bind_some, named, Option.some_or]
    | false =>
      rw [if_neg Bool.false_ne_true, List.nil_append, spacedKeyword?_optional, Option.bind_none,
        Option.none_or, named]
  rw [keyLength?, read, Option.map_some, List.length_append, Nat.add_sub_cancel]

/-! ### Parts in a row -/

def OpensWithMark : List Part → Prop
  | [] => True
  | .mark _ :: _ => True
  | _ => False

/-- Behind each name in type position stands a mark, or nothing. -/
def IsSpaced : List Part → Prop
  | [] => True
  | .name _ :: parts => OpensWithMark parts ∧ IsSpaced parts
  | _ :: parts => IsSpaced parts

theorem Mark.exists_head (mark : Mark) : ∃ c rest, mark.text = c :: rest ∧ opensIdentifier c = false ∧
    continuesIdentifier c = false ∧ isBlank c = false ∧ c ≠ '?' ∧ c ≠ ':' := by
  cases mark <;> exact ⟨_, _, rfl, by decide⟩

/-- Spaces and a mark behind them. -/
theorem isClosing_mark (count : Nat) (mark : Mark) (rest : List Char) :
    IsClosing (List.replicate count ' ' ++ (mark.text ++ rest)) := by
  obtain ⟨c, tail, isMark, noName, stops, noBlank, noQuestion, noColon⟩ := mark.exists_head
  rw [isMark]
  constructor
  · cases count with
    | zero =>
      rintro d ⟨⟩
      exact ⟨stops, noQuestion⟩
    | succ count =>
      rintro d ⟨⟩
      decide
  · have spaces : ∀ d ∈ List.replicate count ' ', isBlank d = true :=
      List.forall_mem_replicate.2 (.inr (by decide))
    rw [stripStart, dropWhile_append_of_stops spaces (by rintro d ⟨⟩; exact noBlank)]
    rintro d ⟨⟩
    exact ⟨noName, noColon⟩

/-- Behind a name stands a mark, or what follows the parts. -/
theorem OpensWithMark.endsName (print : Part → List Char) {parts : List Part} {rest : List Char}
    (marks : ∀ mark, print (.mark mark) = spacing.around mark) (opens : OpensWithMark parts)
    (ended : parts = [] → EndsName rest ∧ behindKey? (stripStart rest) = none) :
    EndsName (parts.flatMap print ++ rest) ∧
      behindKey? (stripStart (parts.flatMap print ++ rest)) = none := by
  cases parts with
  | nil => exact ended rfl
  | cons part parts =>
    cases part with
    | mark mark =>
      have closing : IsClosing ((Part.mark mark :: parts).flatMap print ++ rest) := by
        rw [List.flatMap_cons, marks, Spacing.around, List.append_assoc, List.append_assoc,
          List.append_assoc]
        exact isClosing_mark _ mark _
      exact ⟨closing.endsName, closing.behindKey?_eq_none⟩
    | _ => exact absurd opens id

/-- A key opens with its name, or with a word. -/
theorem Key.head (key : Key) (rest : List Char) :
    ∀ c, (key.text ++ rest).head? = some c → continuesIdentifier c = true := by
  rw [key.text_append]
  cases key.isReadonly with
  | true =>
    rintro c ⟨⟩
    decide
  | false => exact key.name.head _

/-- No part opens with a colon, so a colon that ends a key stands alone. -/
theorem head_ne_colon (parts : List Part) {rest : List Char} (ended : rest.head? ≠ some ':') :
    (parts.flatMap (Part.withoutLiteral spacing) ++ rest).head? ≠ some ':' := by
  intro head
  cases parts with
  | nil => exact ended head
  | cons part parts =>
    rw [List.flatMap_cons, List.append_assoc] at head
    cases part with
    | name name => exact absurd (name.head _ ':' head) (by decide)
    | key key =>
      have text : Part.withoutLiteral spacing (.key key) = key.text ++ spacing.colonGap := rfl
      rw [text, List.append_assoc] at head
      exact absurd (key.head _ ':' head) (by decide)
    | literal literal => exact absurd (Option.some.inj head) (by decide)
    | mark mark =>
      have isText : Part.withoutLiteral spacing (.mark mark) = spacing.around mark := rfl
      rw [isText, Spacing.around, List.append_assoc, List.append_assoc] at head
      have closing := isClosing_mark (spacing.before mark) mark
        (List.replicate (spacing.behind mark) ' ' ++
          (parts.flatMap (Part.withoutLiteral spacing) ++ rest))
      have same := stripStart_of_not_isBlank (by rw [head]; rintro c ⟨⟩; decide)
      exact (closing.noKey ':' (same.symm ▸ head)).2 rfl

theorem closed_spaces (count : Nat) : ∀ c ∈ List.replicate count ' ', opensIdentifier c = false :=
  List.forall_mem_replicate.2 (.inr (by decide))

theorem Mark.closed (mark : Mark) : ∀ c ∈ mark.text, opensIdentifier c = false := by
  cases mark <;> decide

theorem Spacing.closed_around (mark : Mark) : ∀ c ∈ spacing.around mark, opensIdentifier c = false :=
  List.forall_mem_append.2 ⟨closed_spaces _, List.forall_mem_append.2 ⟨mark.closed, closed_spaces _⟩⟩

theorem getLast?_cons_of_some {Value : Type} {values : List Value} {last : Value} (value : Value)
    (isLast : values.getLast? = some last) : (value :: values).getLast? = some last := by
  rw [List.getLast?_cons, isLast, Option.getD_some]

theorem without_keys_append {parts : List Part} (spaced : IsSpaced parts) {rest : List Char}
    (single : rest.head? ≠ some ':')
    (ended : ∀ name, parts.getLast? = some (.name name) →
      EndsName rest ∧ behindKey? (stripStart rest) = none) :
    without keyLength? (parts.flatMap (Part.withoutLiteral spacing) ++ rest) =
      parts.flatMap (Part.bareText spacing) ++ without keyLength? rest := by
  induction parts with
  | nil => rfl
  | cons part parts inductionHypothesis =>
    have endedBehind := fun name isLast => ended name (getLast?_cons_of_some part isLast)
    rw [List.flatMap_cons, List.flatMap_cons, List.append_assoc, List.append_assoc]
    cases part with
    | name name =>
      obtain ⟨ends, noKey⟩ := spaced.1.endsName spacing (Part.withoutLiteral spacing) (fun _ => rfl)
        fun isLast => ended name (by rw [isLast]; rfl)
      rw [← inductionHypothesis spaced.2 endedBehind]
      exact without_word name.isWord ends fun _ => noKey
    | key key =>
      have alone : (spacing.colonGap ++ (parts.flatMap (Part.withoutLiteral spacing) ++ rest)).head? ≠
          some ':' := by
        rw [Spacing.colonGap]
        cases spacing.behindColon with
        | zero => exact head_ne_colon spacing parts single
        | succ count => exact fun head => absurd (Option.some.inj head) (by decide)
      have isText : Part.withoutLiteral spacing (.key key) ++
          (parts.flatMap (Part.withoutLiteral spacing) ++ rest) =
          key.text ++ (spacing.colonGap ++ (parts.flatMap (Part.withoutLiteral spacing) ++ rest)) :=
        List.append_assoc ..
      have passed := without_closed (closed_spaces spacing.behindColon)
        (parts.flatMap (Part.withoutLiteral spacing) ++ rest)
      rw [isText, without_measured key.something (key.keyLength?_text alone), Spacing.colonGap, passed,
        inductionHypothesis spaced endedBehind]
      rfl
    | literal literal =>
      rw [← inductionHypothesis spaced endedBehind]
      exact without_closed (by decide : ∀ c ∈ [' '], opensIdentifier c = false) _
    | mark mark =>
      rw [← inductionHypothesis spaced endedBehind]
      exact without_closed (spacing.closed_around mark) _

theorem isClosing_nil : IsClosing [] :=
  ⟨by simp, by simp [stripStart]⟩

theorem without_keys {parts : List Part} (spaced : IsSpaced parts) :
    without keyLength? (parts.flatMap (Part.withoutLiteral spacing)) =
      parts.flatMap (Part.bareText spacing) := by
  have noName : EndsName [] ∧ behindKey? (stripStart []) = none :=
    ⟨isClosing_nil.endsName, isClosing_nil.behindKey?_eq_none⟩
  have ended := without_keys_append spacing spaced (by simp) fun _ _ => noName
  rwa [List.append_nil, show without keyLength? [] = [] from rfl, List.append_nil] at ended

/-! ### Names -/

theorem identifiersFrom_closed {run : List Char} (closed : ∀ c ∈ run, opensIdentifier c = false)
    (rest : List Char) : identifiersFrom false (run ++ rest) = identifiersFrom false rest := by
  induction run with
  | nil => rfl
  | cons c run inductionHypothesis =>
    rw [List.forall_mem_cons] at closed
    rw [List.cons_append, identifiersFrom, identifier?_eq_none (by rintro d ⟨⟩; exact closed.1)]
    exact inductionHypothesis closed.2

theorem identifiersFrom_inside {word rest : List Char} (isWord : IsWord word)
    (stops : ∀ c, rest.head? = some c → continuesIdentifier c = false) :
    identifiersFrom true (word ++ rest) = identifiersFrom false rest := by
  induction word with
  | nil =>
    cases rest with
    | nil => rfl
    | cons c rest =>
      rw [List.nil_append, identifiersFrom, identifiersFrom, stops c rfl]
      rfl
  | cons c word inductionHypothesis =>
    rw [List.cons_append, identifiersFrom, isWord c List.mem_cons_self]
    exact inductionHypothesis fun d member => isWord d (List.mem_cons_of_mem c member)

theorem identifiersFrom_name (name : Printed.Name) {rest : List Char}
    (stops : ∀ c, rest.head? = some c → continuesIdentifier c = false) :
    identifiersFrom false (name.text ++ rest) = name.text :: identifiersFrom false rest := by
  have found := identifier?_word name.isIdentifier stops
  obtain ⟨c, word, isName⟩ := List.exists_cons_of_ne_nil name.ne_nil
  have inside := identifiersFrom_inside
    (fun d member => name.isWord d (by rw [isName]; exact List.mem_cons_of_mem c member)) stops
  rw [isName, List.cons_append] at found ⊢
  rw [identifiersFrom, found]
  exact congrArg (_ :: ·) inside

theorem identifiers_append {parts : List Part} (spaced : IsSpaced parts) {rest : List Char}
    (ended : ∀ name, parts.getLast? = some (.name name) →
      ∀ c, rest.head? = some c → continuesIdentifier c = false) :
    identifiersFrom false (parts.flatMap (Part.bareText spacing) ++ rest) =
      parts.filterMap Part.name? ++ identifiersFrom false rest := by
  induction parts with
  | nil => rfl
  | cons part parts inductionHypothesis =>
    have endedBehind := fun name isLast => ended name (getLast?_cons_of_some part isLast)
    rw [List.flatMap_cons, List.append_assoc]
    cases part with
    | name name =>
      have stops : ∀ c, (parts.flatMap (Part.bareText spacing) ++ rest).head? = some c →
          continuesIdentifier c = false := by
        cases parts with
        | nil => exact ended name rfl
        | cons next parts =>
          exact (spaced.1.endsName spacing (Part.bareText spacing) (fun _ => rfl)
            fun absent => absurd absent (List.cons_ne_nil _ _)).1.stops
      rw [List.filterMap_cons_some (f := Part.name?) rfl, List.cons_append,
        ← inductionHypothesis spaced.2 endedBehind]
      exact identifiersFrom_name name stops
    | key key =>
      rw [List.filterMap_cons_none rfl, ← inductionHypothesis spaced endedBehind]
      exact identifiersFrom_closed (List.forall_mem_cons.2 ⟨by decide, closed_spaces _⟩) _
    | literal literal =>
      rw [List.filterMap_cons_none rfl, ← inductionHypothesis spaced endedBehind]
      exact identifiersFrom_closed (by decide : ∀ c ∈ [' '], opensIdentifier c = false) _
    | mark mark =>
      rw [List.filterMap_cons_none rfl, ← inductionHypothesis spaced endedBehind]
      exact identifiersFrom_closed (spacing.closed_around mark) _

theorem identifiers_parts {parts : List Part} (spaced : IsSpaced parts) :
    identifiersFrom false (parts.flatMap (Part.bareText spacing)) = parts.filterMap Part.name? := by
  have stops : ∀ c, ([] : List Char).head? = some c → continuesIdentifier c = false := by simp
  have ended := identifiers_append spacing spaced fun _ _ => stops
  rwa [List.append_nil, show identifiersFrom false [] = [] from rfl, List.append_nil] at ended

/-! ### Trees -/

namespace TypeTree

theorem opens_partsBehind {mark : Mark} {items : List TypeTree} {rest : List Part}
    (opens : OpensWithMark rest) : OpensWithMark (partsBehind mark items ++ rest) := by
  cases items with
  | nil => exact opens
  | cons item items => trivial

mutual

theorem isSpaced_parts (tree : TypeTree) {rest : List Part} (opens : OpensWithMark rest)
    (spaced : IsSpaced rest) : IsSpaced (tree.parts ++ rest) := by
  cases tree with
  | named name => exact ⟨opens, spaced⟩
  | applied name first others =>
    rw [parts, List.cons_append, List.cons_append, List.append_assoc, List.append_assoc]
    exact ⟨trivial, isSpaced_parts first (opens_partsBehind trivial)
      (isSpaced_partsBehind others trivial spaced)⟩
  | array item =>
    rw [parts, List.append_assoc]
    exact isSpaced_parts item trivial spaced
  | tuple items =>
    rw [parts, List.cons_append, List.append_assoc]
    exact isSpaced_partsOfItems items trivial spaced
  | union first others =>
    rw [parts, List.append_assoc]
    exact isSpaced_parts first (opens_partsBehind opens) (isSpaced_partsBehind others opens spaced)
  | intersection first others =>
    rw [parts, List.append_assoc]
    exact isSpaced_parts first (opens_partsBehind opens) (isSpaced_partsBehind others opens spaced)
  | parenthesised inner =>
    rw [parts, List.cons_append, List.append_assoc]
    exact isSpaced_parts inner trivial spaced
  | literal quoted => exact spaced
  | object members isEnded =>
    rw [parts, List.cons_append, List.append_assoc]
    exact isSpaced_partsOfMembers isEnded members trivial spaced
  | function parameters result =>
    rw [parts, List.cons_append, List.append_assoc]
    exact isSpaced_partsOfParameters parameters trivial (isSpaced_parts result opens spaced)

theorem isSpaced_partsBehind {mark : Mark} (items : List TypeTree) {rest : List Part}
    (opens : OpensWithMark rest) (spaced : IsSpaced rest) :
    IsSpaced (partsBehind mark items ++ rest) := by
  cases items with
  | nil => exact spaced
  | cons item items =>
    rw [partsBehind, List.cons_append, List.append_assoc]
    exact isSpaced_parts item (opens_partsBehind opens) (isSpaced_partsBehind items opens spaced)

theorem isSpaced_partsOfItems (items : List TypeTree) {rest : List Part}
    (opens : OpensWithMark rest) (spaced : IsSpaced rest) : IsSpaced (partsOfItems items ++ rest) := by
  cases items with
  | nil => exact spaced
  | cons item items =>
    rw [partsOfItems, List.append_assoc]
    exact isSpaced_parts item (opens_partsBehind opens) (isSpaced_partsBehind items opens spaced)

theorem isSpaced_partsOfMembers (isEnded : Bool) (members : List (Key × Separator × TypeTree))
    {rest : List Part} (opens : OpensWithMark rest) (spaced : IsSpaced rest) :
    IsSpaced (partsOfMembers isEnded members ++ rest) := by
  match members with
  | [] => exact spaced
  | (key, separator, type) :: members =>
    have behind := isSpaced_partsOfMembers isEnded members opens spaced
    rw [partsOfMembers, List.cons_append, List.append_assoc, List.append_assoc]
    cases members with
    | nil =>
      cases isEnded with
      | true => exact isSpaced_parts type trivial behind
      | false => exact isSpaced_parts type opens spaced
    | cons next members =>
      rw [List.isEmpty_cons, Bool.not_false, Bool.or_true, if_pos rfl]
      exact isSpaced_parts type trivial behind

theorem isSpaced_partsOfParameters (parameters : List (Parameter × TypeTree)) {rest : List Part}
    (opens : OpensWithMark rest) (spaced : IsSpaced rest) :
    IsSpaced (partsOfParameters parameters ++ rest) := by
  match parameters with
  | [] => exact spaced
  | (parameter, type) :: parameters =>
    have behind := isSpaced_partsOfParameters parameters opens spaced
    rw [partsOfParameters, List.cons_append, List.append_assoc, List.append_assoc]
    cases parameters with
    | nil => exact isSpaced_parts type opens spaced
    | cons next parameters => exact isSpaced_parts type trivial behind

end

theorem filterMap_mark (mark : Mark) (parts : List Part) :
    (Part.mark mark :: parts).filterMap Part.name? = parts.filterMap Part.name? :=
  rfl

mutual

theorem filterMap_parts (tree : TypeTree) : tree.parts.filterMap Part.name? = tree.names := by
  cases tree with
  | named name => rfl
  | applied name first others =>
    simp [parts, names, Part.name?, filterMap_mark, filterMap_parts first, filterMap_partsBehind others]
  | array item => simp [parts, names, filterMap_mark, filterMap_parts item]
  | tuple items => simp [parts, names, filterMap_mark, filterMap_partsOfItems items]
  | union first others => simp [parts, names, filterMap_parts first, filterMap_partsBehind others]
  | intersection first others =>
    simp [parts, names, filterMap_parts first, filterMap_partsBehind others]
  | parenthesised inner => simp [parts, names, filterMap_mark, filterMap_parts inner]
  | literal quoted => rfl
  | object members isEnded =>
    simp [parts, names, filterMap_mark, filterMap_partsOfMembers isEnded members]
  | function parameters result =>
    simp [parts, names, filterMap_mark, filterMap_partsOfParameters parameters, filterMap_parts result]

theorem filterMap_partsBehind {mark : Mark} (items : List TypeTree) :
    (partsBehind mark items).filterMap Part.name? = namesOfItems items := by
  cases items with
  | nil => rfl
  | cons item items =>
    simp [partsBehind, namesOfItems, filterMap_mark, filterMap_parts item, filterMap_partsBehind items]

theorem filterMap_partsOfItems (items : List TypeTree) :
    (partsOfItems items).filterMap Part.name? = namesOfItems items := by
  cases items with
  | nil => rfl
  | cons item items =>
    simp [partsOfItems, namesOfItems, filterMap_parts item, filterMap_partsBehind items]

theorem filterMap_partsOfMembers (isEnded : Bool) (members : List (Key × Separator × TypeTree)) :
    (partsOfMembers isEnded members).filterMap Part.name? = namesOfMembers members := by
  match members with
  | [] => rfl
  | (key, separator, type) :: members =>
    rw [partsOfMembers, namesOfMembers, List.filterMap_cons_none rfl, List.filterMap_append,
      List.filterMap_append, filterMap_parts type, filterMap_partsOfMembers isEnded members]
    split <;> rfl

theorem filterMap_partsOfParameters (parameters : List (Parameter × TypeTree)) :
    (partsOfParameters parameters).filterMap Part.name? = namesOfParameters parameters := by
  match parameters with
  | [] => rfl
  | (parameter, type) :: parameters =>
    rw [partsOfParameters, namesOfParameters, List.filterMap_cons_none rfl, List.filterMap_append,
      List.filterMap_append, filterMap_parts type, filterMap_partsOfParameters parameters]
    split <;> rfl

end

end TypeTree

/-- However it is spaced, a printed type refers to the names in type position, each where it occurs
first. -/
theorem references_text (tree : TypeTree) :
    references (String.ofList (tree.text spacing)) =
      firstOccurrences (tree.names.map String.ofList) := by
  have spaced : IsSpaced tree.parts := by
    have ended : IsSpaced (tree.parts ++ []) := tree.isSpaced_parts trivial trivial
    rwa [List.append_nil] at ended
  rw [references, String.toList_ofList, bare, TypeTree.text, without_literals, without_keys spacing spaced,
    identifiers_parts spacing spaced, tree.filterMap_parts]

example : references ("\x7breadonly id: Id; state?: \x27open: Door\x27 | State\x7d" ++
    " | (readonly?: [Map<Id, State>], at: Id) => Id[]") = ["Id", "State", "Map"] := by
  decide +kernel

end Concord.TypeName
