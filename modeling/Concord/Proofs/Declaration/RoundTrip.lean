/-
Extraction undoes printing. Every printed head finds the body behind it, what the body holds is recorded
as it was printed, and the body ends before the next head begins, so the declarations of a script are
read back one for one, each on the line on which its head stands.
-/

import Concord.Proofs.Declaration.Members
import Concord.Proofs.Declaration.Scripts

namespace Concord.Printed

open Source Text

/-! ### The body of one declaration -/

/-- Behind the head stands a body that ends within so many characters, and what is recorded of the body
is what the shape was printed from. -/
def IsRead (views : Views) (head : Head) (shape : Shape) (size : Nat) : Prop :=
  ∃ body, head.body? views = some body ∧ body.behind ≤ head.stop + size ∧
    (Placed.mk head body).fields views = shape.fields ∧
    (Placed.mk head body).supertypes views = shape.supertypes ∧
    (Placed.mk head body).typeExpression views = shape.typeExpression

section

variable {views : Views} {name : List Char} {start stop : Nat} {rest tail : List Char}

theorem body?_of_braces {head : Head} (block : head.kind ≠ .typeAlias) {opening closing : Nat}
    (opens : head.opening? views.masked = some opening)
    (closes : closingBrace? views.masked opening = some closing) :
    head.body? views = some (.block opening closing) := by
  unfold Head.body?
  cases kind : head.kind with
  | typeAlias => exact absurd kind block
  | record | enumeration | constantGroup => simp [opens, closes]

theorem keepsBraces_fields (fields : List Field) : KeepsBraces (fields.flatMap (·.line mask)) := by
  induction fields with
  | nil => exact .nil
  | cons field fields inductionHypothesis =>
    have indentation : KeepsBraces field.indentation := keepsBraces_of_forall fun c member => by
      have space := field.isIndentation c member
      refine ⟨?_, ?_⟩ <;> rintro rfl <;> exact absurd space (by decide)
    have ending : KeepsBraces (field.ending.text ++ ['\n']) :=
      keepsBraces_of_forall (by cases field.ending <;> decide)
    rw [List.flatMap_cons]
    exact (indentation.append (field.balanced_signature.keepsBraces.append ending)).append
      inductionHypothesis

theorem record_isRead {supertypes : List Supertype} {fields : List Field}
    {distinct : (fields.map (·.name.text)).Nodup}
    (maskedHere : views.masked.drop stop =
      (Shape.record supertypes fields distinct).trunk mask ++ rest)
    (cleanHere : views.clean.drop stop =
      (Shape.record supertypes fields distinct).trunk id ++ tail) :
    IsRead views ⟨.record, name, start, stop⟩ (.record supertypes fields distinct)
      ((Shape.record supertypes fields distinct).trunk mask).length := by
  have keeps : KeepsHeader (extension supertypes ++ [' ']) :=
    (keepsHeader_extension supertypes).append (keepsHeader_of_forall (by decide))
  have isText : ∀ view rest, (Shape.record supertypes fields distinct).trunk view ++ rest =
      (extension supertypes ++ [' ']) ++
        '\x7b' :: ('\n' :: fields.flatMap (·.line view) ++ '\x7d' :: rest) := by
    intro view rest
    simp only [Shape.trunk, List.append_assoc, List.cons_append, List.nil_append]
  rw [isText] at maskedHere cleanHere
  have opens := body?_of_keepsHeader keeps maskedHere
  generalize isOpening : stop + (extension supertypes ++ [' ']).length = opening at opens
  have behind : ∀ {text : List Char} {more}, text.drop stop = (extension supertypes ++ [' ']) ++ more →
      text.drop opening = more := by
    intro text more here
    rw [← isOpening]
    exact drop_behind here
  have braces : KeepsBraces ('\n' :: fields.flatMap (·.line mask)) :=
    (keepsBraces_singleton (by decide) (by decide)).append (keepsBraces_fields fields)
  have closes := closingBrace?_of_keepsBraces braces (behind maskedHere)
  refine ⟨_, body?_of_braces (by simp) opens closes, ?_, ?_, ?_, rfl⟩
  · have size := congrArg List.length (isText mask [])
    simp only [List.append_nil, List.length_append, List.length_cons, List.length_nil] at size isOpening
    simp only [Body.behind, List.length_cons]
    omega
  · exact fields_printed distinct (behind maskedHere) (behind cleanHere)
  · have header : Span.slice ⟨stop, opening⟩ views.clean = extension supertypes ++ [' '] := by
      rw [← isOpening]
      exact slice_of_drop cleanHere rfl
    exact (congrArg Header.supertypes header).trans (supertypes_printed supertypes)

theorem typeAlias_isRead {expression : TypeText}
    (maskedHere : views.masked.drop stop = (Shape.typeAlias expression).trunk mask ++ rest)
    (cleanHere : views.clean.drop stop = (Shape.typeAlias expression).trunk id ++ tail) :
    IsRead views ⟨.typeAlias, name, start, stop⟩ (.typeAlias expression)
      ((Shape.typeAlias expression).trunk mask).length := by
  have balanced : Balanced false false (' ' :: mask expression.text) :=
    .passed (isPassed_of_not_mem (by decide) false false) expression.nested.settled.2
  have isText : ∀ view rest, (Shape.typeAlias expression).trunk view ++ rest =
      (' ' :: view expression.text) ++ ';' :: rest := by
    intro view rest
    simp only [Shape.trunk, List.append_assoc, List.cons_append, List.nil_append]
  rw [isText] at maskedHere cleanHere
  have size : expressionLength 0 (views.masked.drop stop) = (' ' :: mask expression.text).length := by
    have ends : expressionLength 0 (';' :: rest) = 0 := rfl
    rw [maskedHere, balanced.expressionLength_append (by simp), ends, Nat.zero_add]
  have same : (' ' :: expression.text).length = (' ' :: mask expression.text).length := by
    rw [List.length_cons, List.length_cons, length_mask]
  have slice : Span.slice ⟨stop, stop + expressionLength 0 (views.masked.drop stop)⟩ views.clean =
      ' ' :: expression.text := by
    rw [size]
    exact slice_of_drop cleanHere same
  have recorded := typeText_printed expression
  have something : String.ofList expression.text ≠ "" := fun absent =>
    expression.something (String.ofList_injective absent)
  refine ⟨.expression ⟨stop, stop + expressionLength 0 (views.masked.drop stop)⟩, ?_, ?_, rfl, rfl, ?_⟩
  · simp only [Head.body?, slice, recorded, something, ↓reduceIte]
  · have total := congrArg List.length (isText mask [])
    simp only [List.append_nil, List.length_append, List.length_cons] at total
    simp only [Body.behind, size, List.length_cons]
    omega
  · exact (congrArg Member.typeText slice).trans recorded

theorem keepsBraces_blank {text : List Char} (blank : isAllBlank text = true) : KeepsBraces text :=
  keepsBraces_of_forall fun c member => by
    have isBlank := List.all_eq_true.1 blank c member
    refine ⟨?_, ?_⟩ <;> rintro rfl <;> exact absurd isBlank (by decide)

theorem keepsBraces_member (member : Member) : KeepsBraces (member.text mask) := by
  have name : KeepsBraces member.name.text := keepsBraces_of_forall fun c inside => by
    have isWord := member.name.isWord c inside
    refine ⟨?_, ?_⟩ <;> rintro rfl <;> exact absurd isWord (by decide)
  have initialiser : KeepsBraces (member.initialiser.text mask) := by
    rcases member.initialiser.text_mask with absent | ⟨value, balanced, isText⟩
    · rw [absent]
      exact .nil
    · rw [isText]
      have assignment : KeepsBraces [' ', '=', ' '] := keepsBraces_of_forall (by decide)
      exact assignment.append balanced.keepsBraces
  exact (keepsBraces_blank member.isGap).append (name.append initialiser)

theorem keepsBraces_memberList (lastComma : Bool) (members : List Member) :
    KeepsBraces (memberList mask lastComma members) := by
  have comma : KeepsBraces [','] := keepsBraces_singleton (by decide) (by decide)
  induction members with
  | nil => exact .nil
  | cons member members inductionHypothesis =>
    cases members with
    | nil =>
      cases lastComma with
      | true => exact (keepsBraces_member member).append comma
      | false => exact (keepsBraces_member member).append .nil
    | cons second others =>
      exact (keepsBraces_member member).append (comma.append inductionHypothesis)

theorem enumeration_isRead {isConstant lastComma : Bool} {members : List Member} {gap : List Char}
    {isGap : isAllBlank gap = true} {opening : Nat} (isOpening : stop = opening + 1)
    (maskedHere : views.masked.drop opening =
      '\x7b' :: ((Shape.enumeration isConstant members lastComma gap isGap).trunk mask ++ rest))
    (cleanHere : views.clean.drop opening =
      '\x7b' :: ((Shape.enumeration isConstant members lastComma gap isGap).trunk id ++ tail)) :
    IsRead views ⟨.enumeration, name, start, stop⟩
      (.enumeration isConstant members lastComma gap isGap)
      ((Shape.enumeration isConstant members lastComma gap isGap).trunk mask).length := by
  have isText : ∀ view rest,
      (Shape.enumeration isConstant members lastComma gap isGap).trunk view ++ rest =
        memberList view lastComma members ++ gap ++ '\x7d' :: rest := by
    intro view rest
    simp only [Shape.trunk, List.append_assoc, List.cons_append, List.nil_append]
  rw [isText] at maskedHere cleanHere
  have braces : KeepsBraces (memberList mask lastComma members ++ gap) :=
    (keepsBraces_memberList lastComma members).append (keepsBraces_blank isGap)
  have closes := closingBrace?_of_keepsBraces braces maskedHere
  have opens : (Head.mk .enumeration name start stop).opening? views.masked = some opening := by
    rw [Head.opening?, isOpening, Nat.add_sub_cancel]
  refine ⟨_, body?_of_braces (by simp) opens closes, ?_, ?_, rfl, rfl⟩
  · have size := congrArg List.length (isText mask [])
    simp only [List.append_nil, List.length_append, List.length_cons, List.length_nil] at size
    simp only [Body.behind, List.length_append]
    omega
  · exact enumerationMembers_printed isGap maskedHere cleanHere

theorem constantGroup_isRead {inner : List Char} {nested : Nested true true inner} {semicolon : Bool}
    {opening : Nat} (isOpening : stop = opening + 1)
    (maskedHere : views.masked.drop opening =
      '\x7b' :: ((Shape.constantGroup inner nested semicolon).trunk mask ++ rest)) :
    IsRead views ⟨.constantGroup, name, start, stop⟩ (.constantGroup inner nested semicolon)
      ((Shape.constantGroup inner nested semicolon).trunk mask).length := by
  have isText : ∀ rest, (Shape.constantGroup inner nested semicolon).trunk mask ++ rest =
      mask inner ++ '\x7d' :: ((if semicolon then [';'] else []) ++ rest) := by
    intro rest
    simp only [Shape.trunk, List.append_assoc, List.cons_append]
  rw [isText] at maskedHere
  have closes := closingBrace?_of_keepsBraces nested.settled.2.keepsBraces maskedHere
  have opens : (Head.mk .constantGroup name start stop).opening? views.masked = some opening := by
    rw [Head.opening?, isOpening, Nat.add_sub_cancel]
  refine ⟨_, body?_of_braces (by simp) opens closes, ?_, rfl, rfl, rfl⟩
  have size := congrArg List.length (isText [])
  simp only [List.append_nil, List.length_append, List.length_cons] at size
  simp only [Body.behind]
  omega

end

/-! ### Scripts -/

/-- The heads of enumerations and of constant groups end with a brace. -/
theorem head_brace (declaration : Declaration) (braced : '\x7b' ∈ sign declaration.shape.kind) :
    ∃ front, declaration.head = front ++ ['\x7b'] := by
  have ends : ∃ front, sign declaration.shape.kind = front ++ ['\x7b'] := by
    cases kind : declaration.shape.kind with
    | record | typeAlias =>
      rw [kind] at braced
      exact absurd braced (by decide)
    | enumeration => exact ⟨[' '], rfl⟩
    | constantGroup => exact ⟨[' ', '=', ' '], rfl⟩
  obtain ⟨front, isSign⟩ := ends
  refine ⟨declaration.modifiers ++
    ((if declaration.shape.isConstant then "const".toList ++ [' '] else []) ++
    (keyword declaration.shape.kind ++ ' ' :: (declaration.name.text ++ front))), ?_⟩
  simp only [Declaration.head, Declaration.naming, isSign, List.append_assoc, List.cons_append]

theorem drop_brace {front text rest : List Char} {index : Nat}
    (here : text.drop index = (front ++ ['\x7b']) ++ rest) :
    text.drop (index + front.length) = '\x7b' :: rest :=
  drop_behind (here.trans (List.append_assoc ..))

/-- Behind any head that ends as the heads of its kind do, the shape is read as it was printed. -/
theorem shape_isRead (shape : Shape) {head : List Char}
    (braced : '\x7b' ∈ sign shape.kind → ∃ front, head = front ++ ['\x7b']) {views : Views}
    {name : List Char} {index : Nat} {rest tail : List Char}
    (maskedHere : views.masked.drop index = head ++ (shape.trunk mask ++ rest))
    (cleanHere : views.clean.drop index = head ++ (shape.trunk id ++ tail)) :
    IsRead views ⟨shape.kind, name, index, index + head.length⟩ shape (shape.trunk mask).length := by
  have maskedBehind := drop_behind maskedHere
  have cleanBehind := drop_behind cleanHere
  cases shape with
  | record => exact record_isRead maskedBehind cleanBehind
  | typeAlias => exact typeAlias_isRead maskedBehind cleanBehind
  | enumeration =>
    obtain ⟨front, rfl⟩ := braced (by simp [Shape.kind, sign])
    refine enumeration_isRead ?_ (drop_brace maskedHere) (drop_brace cleanHere)
    rw [List.length_append, List.length_singleton, Nat.add_assoc]
  | constantGroup =>
    obtain ⟨front, rfl⟩ := braced (by simp [Shape.kind, sign])
    refine constantGroup_isRead ?_ (drop_brace maskedHere)
    rw [List.length_append, List.length_singleton, Nat.add_assoc]

theorem declaration_isRead (declaration : Declaration) {views : Views} {index : Nat}
    {rest tail : List Char} (maskedHere : views.masked.drop index = declaration.text mask ++ rest)
    (cleanHere : views.clean.drop index = declaration.text id ++ tail) :
    IsRead views (Head.headAt index declaration) declaration.shape
      (declaration.shape.trunk mask).length :=
  shape_isRead declaration.shape (head_brace declaration)
    (maskedHere.trans (declaration.text_append mask rest))
    (cleanHere.trans (declaration.text_append id tail))

/-- The declarations of a script, as they are recorded at their places. -/
theorem among_script (passage : Passage) (declarations : List Declaration) {index consumed : Nat}
    (isFree : consumed ≤ index)
    (maskedHere : passage.views.masked.drop index = script mask declarations)
    (cleanHere : passage.views.clean.drop index = script id declarations) :
    (Placed.among passage.views consumed (Head.headsFrom index declarations)).map
        (·.declaration passage) =
      recordedFrom passage.document (passage.startLine + passage.views.lineOf index) declarations := by
  induction declarations generalizing index consumed with
  | nil => rfl
  | cons declaration declarations inductionHypothesis =>
    rw [script, List.flatMap_cons, ← script] at maskedHere cleanHere
    obtain ⟨body, found, ends, fields, supertypes, typeExpression⟩ :=
      declaration_isRead declaration maskedHere cleanHere
    have size : (declaration.text id).length = (declaration.text mask).length := by
      rw [← declaration.shows_text.isMask, length_mask]
    have isFreeBehind : body.behind ≤ index + (declaration.text mask).length := by
      rw [Declaration.text, Shape.remainder_eq, List.length_append, List.length_append,
        ← Nat.add_assoc, ← Nat.add_assoc]
      exact Nat.le_succ_of_le ends
    have maskedBehind : passage.views.masked.drop (index + (declaration.text mask).length) =
        script mask declarations :=
      drop_behind maskedHere
    have cleanBehind : passage.views.clean.drop (index + (declaration.text mask).length) =
        script id declarations := by
      rw [← size]
      exact drop_behind cleanHere
    have line : passage.views.lineOf (index + (declaration.text mask).length) =
        passage.views.lineOf index + (declaration.text id).count '\n' := by
      rw [Views.lineOf, Views.lineOf, lineOf_behind maskedHere, ← declaration.shows_text.isMask,
        count_mask]
    have here : ¬ (Head.headAt index declaration).start < consumed := Nat.not_lt.2 isFree
    have recorded : (Placed.mk (Head.headAt index declaration) body).declaration passage =
        declaration.recorded ⟨passage.document, passage.startLine + passage.views.lineOf index⟩ := by
      rw [Placed.declaration, fields, supertypes, typeExpression]
      rfl
    rw [Head.headsFrom, Placed.among, if_neg here, found, List.map_cons, recorded, recordedFrom,
      inductionHypothesis isFreeBehind maskedBehind cleanBehind, line, Nat.add_assoc]

/-- Extraction undoes printing: a script holds the declarations it was printed from. -/
theorem declarationsOf_script (declarations : List Declaration) (document : String) (startLine : Nat) :
    declarationsOf ⟨startLine, String.ofList (script id declarations)⟩ document =
      recordedFrom document startLine declarations := by
  have shows := shows_script declarations
  generalize isPassage :
    Region.passage ⟨startLine, String.ofList (script id declarations)⟩ document = passage
  have isViews : passage.views = Views.of (script id declarations) := by
    rw [← isPassage, Region.passage, String.toList_ofList]
  have masked : passage.views.masked = script mask declarations := by
    rw [isViews]
    exact shows.isMask
  have clean : passage.views.clean = script id declarations := by
    rw [isViews]
    exact shows.settled.isClean
  have read := among_script passage declarations (Nat.le_refl 0) masked clean
  rw [declarationsOf, isPassage, Placed.all, masked, Head.all_script, read, Views.lineOf, lineOf_zero,
    ← isPassage]
  rfl

theorem nested_rowArguments : Nested true false "Key, Row[]".toList :=
  .run "Key".toList (by decide) (.mark (by decide) (.run " Row".toList (by decide)
    (@Nested.group _ _ [] [] .square .nil .nil)))

/-- The type of the rows of a table. -/
def rowsType : TypeText where
  text := "Map<Key, Row[]>".toList
  nested := .run "Map".toList (by decide) (@Nested.group _ false _ [] .angle nested_rowArguments .nil)
  collapsed := by decide
  something := by decide

/-- A table with rows that it may lack. -/
def tableScript : List Declaration :=
  [⟨true, false, ⟨"Table".toList, by decide⟩,
    .record [.plain ⟨"Base".toList, by decide⟩]
      [⟨[' ', ' '], by decide, false, ⟨"rows".toList, by decide⟩, true, rowsType, .semicolon⟩]
      (by decide)⟩]

example :
    String.ofList (script id tableScript) =
        "export interface Table extends Base \x7b\n  rows?: Map<Key, Row[]>;\n\x7d\n" ∧
      recordedFrom "tables.md" 1 tableScript =
        [{ name := "Table"
           kind := .record
           location := ⟨"tables.md", 1⟩
           fields := [⟨"rows", "Map<Key, Row[]>", true⟩]
           supertypes := ["Base"] }] := by
  decide

end Concord.Printed
