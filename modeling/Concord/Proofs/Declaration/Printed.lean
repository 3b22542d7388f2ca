/-
Declarations as an author prints them: records with supertypes and fields, aliases, enumerations and
constant groups, written one after another with each head at the start of a line. Every part carries the
proof that it is well formed, so whatever can be built here can be printed. A text is printed through a
view, which is what becomes of types, literals and bodies of constants; with no change it is the source,
and with each of them masked it is the masked view of that source.
-/

import Concord.Declaration
import Concord.Proofs.Source.Nested

namespace Concord.Printed

open Source Text

/-! ### Names and types -/

structure Name where
  text : List Char
  isIdentifier : isIdentifier text = true

theorem Name.isWord (name : Name) : IsWord name.text :=
  isWord_of_isIdentifier name.isIdentifier

theorem Name.ne_nil (name : Name) : name.text ≠ [] := by
  intro absent
  have named := name.isIdentifier
  rw [absent] at named
  exact absurd named (by simp [Text.isIdentifier])

/-- A type on one line, with no blank at its ends and single spaces between its words. -/
structure TypeText where
  text : List Char
  nested : Nested false false text
  collapsed : collapse text = text
  something : text ≠ []

inductive Supertype where
  | plain (name : Name)
  /-- A name with arguments between angle brackets. -/
  | applied (name : Name) (arguments : List Char) (nested : Nested true false arguments)
    (noLiteral : ∀ c ∈ arguments, isQuote c = false) (collapsed : collapse arguments = arguments)

def Supertype.text : Supertype → List Char
  | .plain name => name.text
  | .applied name arguments _ _ _ => name.text ++ '<' :: (arguments ++ ['>'])

/-! ### Fields of records -/

/-- What ends a field, before the line does. -/
inductive Ending where
  | semicolon
  | comma
  | lineBreak
  deriving DecidableEq, Repr

def Ending.text : Ending → List Char
  | .semicolon => [';']
  | .comma => [',']
  | .lineBreak => []

structure Field where
  indentation : List Char
  isIndentation : ∀ c ∈ indentation, isSpaceOrTab c = true
  isReadonly : Bool
  name : Name
  isOptional : Bool
  type : TypeText
  ending : Ending

theorem isWord_readonly : IsWord "readonly".toList := by
  decide

theorem Field.isAllBlank_indentation (field : Field) : isAllBlank field.indentation = true :=
  List.all_eq_true.2 fun c member => isBlank_of_isSpaceOrTab (field.isIndentation c member)

variable (view : List Char → List Char)

/-- The field from its name on, without what ends it. -/
def Field.annotated (field : Field) : List Char :=
  field.name.text ++ ((if field.isOptional then ['?'] else []) ++ ':' :: ' ' :: view field.type.text)

/-- The field without what ends it. -/
def Field.signature (field : Field) : List Char :=
  (if field.isReadonly then "readonly".toList ++ [' '] else []) ++ field.annotated view

/-- The line that a field stands on. -/
def Field.line (field : Field) : List Char :=
  field.indentation ++ (field.signature view ++ (field.ending.text ++ ['\n']))

/-- The field as it is recorded. -/
def Field.recorded (field : Field) : Concord.Field :=
  ⟨String.ofList field.name.text, String.ofList field.type.text, field.isOptional⟩

/-! ### Members of enumerations -/

inductive Initialiser where
  | none
  | integer (isNegative : Bool) (digits : List Char) (isNumeral : ∀ c ∈ digits, c.isDigit = true)
  | literal (quote : Char) (content : List Char) (quotes : isQuote quote = true)
    (contents : ∀ c ∈ content, IsLiteralCharacter c)

def Initialiser.text : Initialiser → List Char
  | .none => []
  | .integer isNegative digits _ => ' ' :: '=' :: ' ' :: ((if isNegative then ['-'] else []) ++ digits)
  | .literal quote content _ _ => ' ' :: '=' :: ' ' :: view (quote :: (content ++ [quote]))

structure Member where
  /-- The blanks before the member. -/
  gap : List Char
  isGap : isAllBlank gap = true
  name : Name
  initialiser : Initialiser

def Member.text (member : Member) : List Char :=
  member.gap ++ (member.name.text ++ member.initialiser.text view)

/-- Members with commas between them, and perhaps one behind the last. -/
def memberList (lastComma : Bool) : List Member → List Char
  | [] => []
  | [member] => member.text view ++ if lastComma then [','] else []
  | member :: members => member.text view ++ ',' :: memberList lastComma members

/-- A member as it is recorded. -/
def Member.recorded (member : Member) : Concord.Field :=
  ⟨String.ofList member.name.text, "", false⟩

/-! ### Declarations -/

inductive Shape where
  | record (supertypes : List Supertype) (fields : List Field)
    (distinct : (fields.map (·.name.text)).Nodup)
  | typeAlias (expression : TypeText)
  | enumeration (isConstant : Bool) (members : List Member) (lastComma : Bool) (gap : List Char)
    (isGap : isAllBlank gap = true)
  | constantGroup (inner : List Char) (nested : Nested true true inner) (semicolon : Bool)

structure Declaration where
  isExported : Bool
  isAmbient : Bool
  name : Name
  shape : Shape

def Shape.kind : Shape → DeclarationKind
  | .record .. => .record
  | .typeAlias .. => .typeAlias
  | .enumeration .. => .enumeration
  | .constantGroup .. => .constantGroup

/-- The word before the name in a head of the given kind. -/
def keyword : DeclarationKind → List Char
  | .record => "interface".toList
  | .typeAlias => "type".toList
  | .enumeration => "enum".toList
  | .constantGroup => "const".toList

/-- The rest of a head of the given kind, behind the name. -/
def sign : DeclarationKind → List Char
  | .record => []
  | .typeAlias => [' ', '=']
  | .enumeration => [' ', '\x7b']
  | .constantGroup => [' ', '=', ' ', '\x7b']

/-- An enumeration may be called constant before its keyword. -/
def Shape.isConstant : Shape → Bool
  | .enumeration isConstant .. => isConstant
  | _ => false

/-- What a record extends, behind its name. -/
def extension (supertypes : List Supertype) : List Char :=
  match supertypes with
  | [] => []
  | _ :: _ => ' ' :: ("extends".toList ++ ' ' :: [',', ' '].intercalate (supertypes.map (·.text)))

/-- What holds of the supertypes and of what stands between them holds of the extension. -/
theorem extension_induction {holds : List Char → Prop} (nil : holds [])
    (append : ∀ {first second}, holds first → holds second → holds (first ++ second))
    (word : holds (' ' :: ("extends".toList ++ [' ']))) (comma : holds [',', ' '])
    (each : ∀ supertype : Supertype, holds supertype.text) (supertypes : List Supertype) :
    holds (extension supertypes) := by
  have listed : ∀ supertypes : List Supertype,
      holds ([',', ' '].intercalate (supertypes.map (·.text))) := by
    intro supertypes
    induction supertypes with
    | nil => exact nil
    | cons supertype supertypes inductionHypothesis =>
      cases supertypes with
      | nil =>
        rw [List.map_singleton, List.intercalate_singleton]
        exact each supertype
      | cons second others =>
        rw [List.map_cons, List.map_cons, List.intercalate_cons_cons]
        exact append (append (each supertype) comma) inductionHypothesis
  cases supertypes with
  | nil => exact nil
  | cons supertype supertypes =>
    have both := append word (listed (supertype :: supertypes))
    rwa [List.cons_append, List.append_assoc] at both

/-- What is printed behind the head. -/
def Shape.remainder : Shape → List Char
  | .record supertypes fields _ =>
    extension supertypes ++ ' ' :: '\x7b' :: '\n' :: (fields.flatMap (·.line view) ++ ['\x7d', '\n'])
  | .typeAlias expression => ' ' :: (view expression.text ++ [';', '\n'])
  | .enumeration _ members lastComma gap _ => memberList view lastComma members ++ (gap ++ ['\x7d', '\n'])
  | .constantGroup inner _ semicolon =>
    view inner ++ '\x7d' :: ((if semicolon then [';'] else []) ++ ['\n'])

/-- What is printed behind the head on the lines of the declaration, without the last line break. -/
def Shape.trunk : Shape → List Char
  | .record supertypes fields _ =>
    extension supertypes ++ ' ' :: '\x7b' :: '\n' :: (fields.flatMap (·.line view) ++ ['\x7d'])
  | .typeAlias expression => ' ' :: (view expression.text ++ [';'])
  | .enumeration _ members lastComma gap _ => memberList view lastComma members ++ (gap ++ ['\x7d'])
  | .constantGroup inner _ semicolon => view inner ++ '\x7d' :: if semicolon then [';'] else []

theorem Shape.remainder_eq (shape : Shape) : shape.remainder view = shape.trunk view ++ ['\n'] := by
  cases shape <;> simp only [remainder, trunk, List.append_assoc, List.cons_append, List.nil_append]

/-- The words `export` and `declare` before a declaration. -/
def Declaration.modifiers (declaration : Declaration) : List Char :=
  (if declaration.isExported then "export".toList ++ [' '] else []) ++
    if declaration.isAmbient then "declare".toList ++ [' '] else []

/-- The head behind these words. -/
def Declaration.naming (declaration : Declaration) : List Char :=
  (if declaration.shape.isConstant then "const".toList ++ [' '] else []) ++
    (keyword declaration.shape.kind ++ ' ' :: (declaration.name.text ++ sign declaration.shape.kind))

/-- The head of a declaration. -/
def Declaration.head (declaration : Declaration) : List Char :=
  declaration.modifiers ++ declaration.naming

/-- A declaration, with the line break behind it. -/
def Declaration.text (declaration : Declaration) : List Char :=
  declaration.head ++ declaration.shape.remainder view

theorem Declaration.text_append (declaration : Declaration) (rest : List Char) :
    declaration.text view ++ rest =
      declaration.head ++ (declaration.shape.trunk view ++ '\n' :: rest) := by
  rw [text, Shape.remainder_eq, List.append_assoc, List.append_assoc, List.singleton_append]

/-- Declarations one after another. -/
def script (declarations : List Declaration) : List Char :=
  declarations.flatMap (·.text view)

/-! ### What is recorded -/

def Shape.fields : Shape → List Concord.Field
  | .record _ fields _ => fields.map (·.recorded)
  | .enumeration _ members _ _ _ => members.map (·.recorded)
  | _ => []

def Shape.supertypes : Shape → List String
  | .record supertypes _ _ => supertypes.map (String.ofList ·.text)
  | _ => []

def Shape.typeExpression : Shape → String
  | .typeAlias expression => String.ofList expression.text
  | _ => ""

/-- The declaration as it is recorded where it stands. -/
def Declaration.recorded (declaration : Declaration) (location : Location) : Concord.Declaration :=
  { name := String.ofList declaration.name.text
    kind := declaration.shape.kind
    location := location
    fields := declaration.shape.fields
    supertypes := declaration.shape.supertypes
    typeExpression := declaration.shape.typeExpression }

/-- The declarations as they are recorded when the first of them stands on the given line. -/
def recordedFrom (document : String) (line : Nat) : List Declaration → List Concord.Declaration
  | [] => []
  | declaration :: declarations =>
    declaration.recorded ⟨document, line⟩ ::
      recordedFrom document (line + (declaration.text id).count '\n') declarations

/-! ### The masked view of what is printed -/

omit view

/-- Behind the source the walk over it is back in code, and the masked view shows it as `masked`. -/
structure Shows (source masked : List Char) : Prop where
  settled : Settled source
  isMask : mask source = masked

theorem Shows.append {source masked sourceBehind maskedBehind : List Char}
    (shows : Shows source masked) (behind : Shows sourceBehind maskedBehind) :
    Shows (source ++ sourceBehind) (masked ++ maskedBehind) :=
  ⟨shows.settled.append behind.settled,
    by rw [mask_append shows.settled, shows.isMask, behind.isMask]⟩

theorem shows_quiet {text : List Char} (quiet : ∀ c ∈ text, isQuiet c = true) : Shows text text :=
  ⟨(settled_quiet quiet).1, (settled_quiet quiet).2⟩

theorem Shows.cons {source masked : List Char} {c : Char} (shows : Shows source masked)
    (quiet : isQuiet c = true) : Shows (c :: source) (c :: masked) :=
  (shows_quiet (List.forall_mem_singleton.2 quiet)).append shows

theorem shows_nested {inside braced : Bool} {text : List Char} (nested : Nested inside braced text) :
    Shows text (mask text) :=
  ⟨nested.settled.1, rfl⟩

theorem shows_optional (condition : Bool) {text : List Char} (quiet : ∀ c ∈ text, isQuiet c = true) :
    Shows (if condition then text else []) (if condition then text else []) := by
  cases condition with
  | true => exact shows_quiet quiet
  | false => exact shows_quiet (by simp)

theorem shows_flatMap {parts : Type} (texts masks : parts → List Char)
    (shows : ∀ part, Shows (texts part) (masks part)) (list : List parts) :
    Shows (list.flatMap texts) (list.flatMap masks) := by
  induction list with
  | nil => exact shows_quiet (by simp)
  | cons part list inductionHypothesis => exact (shows part).append inductionHypothesis

theorem isPlain_of_isWord {text : List Char} (isWord : IsWord text) : ∀ c ∈ text, isPlain c = true :=
  fun c member => by
    rw [isPlain, isWord c member]
    rfl

theorem isQuiet_of_isWord {text : List Char} (isWord : IsWord text) : ∀ c ∈ text, isQuiet c = true :=
  fun c member => isQuiet_of_isPlain (isPlain_of_isWord isWord c member)

theorem Name.shows (name : Name) : Shows name.text name.text :=
  shows_quiet (isQuiet_of_isWord name.isWord)

theorem isQuiet_of_isBlank {c : Char} (blank : isBlank c = true) : isQuiet c = true :=
  isQuiet_of_class blank (by decide)

theorem shows_blank {text : List Char} (blank : isAllBlank text = true) : Shows text text :=
  shows_quiet fun c member => isQuiet_of_isBlank (List.all_eq_true.1 blank c member)

theorem Field.shows_annotated (field : Field) :
    Shows (field.annotated id) (field.annotated mask) :=
  field.name.shows.append ((shows_optional _ (by decide)).append
    (((shows_nested field.type.nested).cons (by decide)).cons (by decide)))

theorem Field.shows_signature (field : Field) :
    Shows (field.signature id) (field.signature mask) :=
  (shows_optional _ (by decide)).append field.shows_annotated

theorem Field.shows_line (field : Field) : Shows (field.line id) (field.line mask) := by
  have indentation := shows_blank field.isAllBlank_indentation
  have ending : Shows field.ending.text field.ending.text :=
    shows_quiet (by cases field.ending <;> decide)
  exact indentation.append (field.shows_signature.append (ending.append (shows_quiet (by decide))))

theorem Initialiser.shows (initialiser : Initialiser) :
    Shows (initialiser.text id) (initialiser.text mask) := by
  cases initialiser with
  | none => exact shows_quiet (by simp [Initialiser.text])
  | integer isNegative digits isNumeral =>
    have quietDigits : ∀ c ∈ digits, isQuiet c = true :=
      fun c member => isQuiet_of_class (isNumeral c member) (by decide)
    exact ((((shows_optional _ (by decide)).append (shows_quiet quietDigits)).cons (by decide)).cons
      (by decide)).cons (by decide)
  | literal quote content quotes contents =>
    have literal : Shows (quote :: (content ++ [quote])) (mask (quote :: (content ++ [quote]))) :=
      ⟨(settled_literal contents quotes).1, rfl⟩
    exact ((literal.cons (by decide)).cons (by decide)).cons (by decide)

theorem Member.shows (member : Member) : Shows (member.text id) (member.text mask) :=
  (shows_blank member.isGap).append (member.name.shows.append member.initialiser.shows)

theorem shows_memberList (lastComma : Bool) (members : List Member) :
    Shows (memberList id lastComma members) (memberList mask lastComma members) := by
  induction members with
  | nil => exact shows_quiet (by simp [memberList])
  | cons member members inductionHypothesis =>
    cases members with
    | nil => exact member.shows.append (shows_optional _ (by decide))
    | cons second others => exact member.shows.append (inductionHypothesis.cons (by decide))

theorem Supertype.isQuiet (supertype : Supertype) : ∀ c ∈ supertype.text, isQuiet c = true := by
  cases supertype with
  | plain name => exact isQuiet_of_isWord name.isWord
  | applied name arguments nested noLiteral _ =>
    rw [Supertype.text, List.forall_mem_append, List.forall_mem_cons, List.forall_mem_append]
    exact ⟨isQuiet_of_isWord name.isWord, by decide,
      nested.isQuiet noLiteral, by decide⟩

theorem isQuiet_extension (supertypes : List Supertype) :
    ∀ c ∈ extension supertypes, isQuiet c = true :=
  @extension_induction (fun text => ∀ c ∈ text, isQuiet c = true) (by decide)
    (fun quiet quietBehind => List.forall_mem_append.2 ⟨quiet, quietBehind⟩) (by decide) (by decide)
    Supertype.isQuiet supertypes

theorem Shape.shows_trunk (shape : Shape) : Shows (shape.trunk id) (shape.trunk mask) := by
  cases shape with
  | record supertypes fields _ =>
    have lines := shows_flatMap (Field.line id) (Field.line mask) Field.shows_line fields
    exact (shows_quiet (isQuiet_extension supertypes)).append ((((lines.append
      (shows_quiet (by decide))).cons (by decide)).cons (by decide)).cons (by decide))
  | typeAlias expression =>
    exact ((shows_nested expression.nested).append (shows_quiet (by decide))).cons (by decide)
  | enumeration isConstant members lastComma gap isGap =>
    exact (shows_memberList lastComma members).append
      ((shows_blank isGap).append (shows_quiet (by decide)))
  | constantGroup inner nested semicolon =>
    exact (shows_nested nested).append ((shows_optional _ (by decide)).cons (by decide))

theorem Shape.shows_remainder (shape : Shape) : Shows (shape.remainder id) (shape.remainder mask) := by
  rw [remainder_eq, remainder_eq]
  exact shape.shows_trunk.append (shows_quiet (by decide))

theorem isQuiet_keyword (kind : DeclarationKind) : ∀ c ∈ keyword kind, isQuiet c = true := by
  cases kind <;> decide

theorem isQuiet_sign (kind : DeclarationKind) : ∀ c ∈ sign kind, isQuiet c = true := by
  cases kind <;> decide

theorem Declaration.shows_head (declaration : Declaration) :
    Shows declaration.head declaration.head := by
  have modifiers : Shows declaration.modifiers declaration.modifiers :=
    (shows_optional _ (by decide)).append (shows_optional _ (by decide))
  have named := declaration.name.shows.append (shows_quiet (isQuiet_sign declaration.shape.kind))
  have keyword := shows_quiet (isQuiet_keyword declaration.shape.kind)
  exact modifiers.append ((shows_optional _ (by decide)).append (keyword.append (named.cons (by decide))))

theorem Declaration.shows_text (declaration : Declaration) :
    Shows (declaration.text id) (declaration.text mask) :=
  declaration.shows_head.append declaration.shape.shows_remainder

/-- In the masked view of a script the types, literals and bodies of constants are masked and nothing
else. -/
theorem shows_script (declarations : List Declaration) :
    Shows (script id declarations) (script mask declarations) :=
  shows_flatMap _ _ Declaration.shows_text declarations

end Concord.Printed
