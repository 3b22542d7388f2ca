/-
Texts that one declaration fills. The head at the start of the text is read as one of its own kind and of no
other, and whatever else looks like a head begins inside what the declaration consumes, where it is passed
over. So the text declares that declaration alone, however its body is laid out: a record or an enumeration
is known from what its braces hold, an alias from the expression behind its head.
-/

import Concord.Proofs.Declaration.Headers
import Concord.Proofs.Declaration.RoundTrip

namespace Concord

open Source Text

/-! ### Heads at the start of a text -/

namespace Head

/-- The head stands at the start of the text, and nothing else is read there. -/
structure Opens (head : Head) (masked : List Char) : Prop where
  start : head.start = 0
  within : head.stop ≤ masked.length
  reads : ∀ kind, read? kind masked =
    if kind = head.kind then some (head.name, masked.drop head.stop) else none

theorem read?_nil (kind : DeclarationKind) : read? kind [] = none := by
  cases kind <;> rfl

variable {head : Head} {masked : List Char}

theorem Opens.mem_all (opens : head.Opens masked) : head ∈ all masked := by
  rw [all, List.mem_mergeSort, List.mem_flatMap]
  refine ⟨head.kind, by cases head.kind <;> decide, ?_⟩
  have read := (opens.reads head.kind).trans (if_pos rfl)
  have start := opens.start
  have within := opens.within
  cases masked with
  | nil => exact absurd ((read?_nil head.kind).symm.trans read) (by simp)
  | cons c rest =>
    have stop : 0 + ((c :: rest).length - ((c :: rest).drop head.stop).length) = head.stop := by
      rw [List.length_drop]
      omega
    have isHead : (⟨head.kind, head.name, 0, head.stop⟩ : Head) = head := by
      rw [← start]
    rw [ofKind, ofKindFrom, if_pos (by simp), read]
    simp only [stop, isHead]
    exact List.mem_cons_self

theorem Opens.eq_of_start (opens : head.Opens masked) {other : Head} (member : other ∈ all masked)
    (start : other.start = 0) : other = head := by
  obtain ⟨left, read, stop⟩ := (standsIn_of_mem_all member).read
  rw [start, List.drop_zero] at read stop
  obtain ⟨sameKind, sameRead⟩ :=
    Option.ite_none_right_eq_some.1 ((opens.reads other.kind).symm.trans read)
  obtain ⟨sameName, sameRest⟩ := Prod.mk.inj (Option.some.inj sameRead)
  rw [← sameRest, List.length_drop, Nat.zero_add, Nat.sub_sub_self opens.within] at stop
  have ownStart := opens.start
  cases other
  cases head
  simp only at sameKind sameName start stop ownStart
  rw [sameKind, ← sameName, start, stop, ownStart]

theorem lt_length_of_mem_all {other : Head} (member : other ∈ all masked) :
    other.start < masked.length := by
  obtain ⟨left, read, -⟩ := (standsIn_of_mem_all member).read
  refine Nat.lt_of_not_le fun behind => ?_
  rw [List.drop_eq_nil_of_le behind, read?_nil] at read
  exact absurd read (by simp)

end Head

/-! ### The only declaration of a text -/

namespace Placed

theorem among_consumed {views : Views} {consumed : Nat} {heads : List Head}
    (covered : ∀ head ∈ heads, head.start < consumed) : among views consumed heads = [] := by
  induction heads with
  | nil => rfl
  | cons head heads inductionHypothesis =>
    rw [List.forall_mem_cons] at covered
    rw [among, if_pos covered.1, inductionHypothesis covered.2]

/-- A declaration at the start of the text is the only one if it consumes all that looks like a head. -/
theorem all_of_opens {views : Views} {head : Head} {body : Body} (opens : head.Opens views.masked)
    (found : head.body? views = some body)
    (covers : ∀ other ∈ Head.all views.masked, other.start < body.behind) :
    all views = [⟨head, body⟩] := by
  have inOrder := Head.pairwise_all views.masked
  have isHead : ∀ other ∈ Head.all views.masked, other.start = 0 → other = head :=
    fun other member start => opens.eq_of_start member start
  have isMember := opens.mem_all
  rw [all]
  cases listed : Head.all views.masked with
  | nil =>
    rw [listed] at isMember
    exact absurd isMember List.not_mem_nil
  | cons first others =>
    rw [listed] at inOrder isHead isMember covers
    have isFirst : first = head := by
      rcases List.mem_cons.1 isMember with same | later
      · exact same.symm
      · refine isHead first List.mem_cons_self ?_
        have before := List.rel_of_pairwise_cons inOrder later
        rw [opens.start] at before
        exact Nat.le_zero.1 before
    have covered := @among_consumed views _ _ fun other member =>
      covers other (List.mem_cons_of_mem first member)
    have here : ¬ head.start < 0 := Nat.not_lt_zero _
    simp only [isFirst, among, if_neg here, found, covered]

/-- Braces that reach to the end of the text close its only declaration. -/
theorem all_of_braces {views : Views} {head : Head} (opens : head.Opens views.masked)
    (block : head.kind ≠ .typeAlias) {opening : Nat}
    (isOpening : head.opening? views.masked = some opening) {body : List Char}
    (keeps : KeepsBraces body)
    (here : views.masked.drop opening = '\x7b' :: (body ++ ['\x7d'])) :
    all views = [⟨head, .block opening (opening + 1 + body.length)⟩] := by
  refine all_of_opens opens
    (Printed.body?_of_braces block isOpening (closingBrace?_of_keepsBraces keeps here)) ?_
  intro other member
  have within := Head.lt_length_of_mem_all member
  have size := congrArg List.length here
  simp only [List.length_drop, List.length_cons, List.length_append, List.length_nil] at size
  simp only [Body.behind]
  omega

/-- The only declaration of a region stands on the first line of it. -/
theorem declarationsOf_of_all {text : List Char} {placed : Placed} (only : all (Views.of text) = [placed])
    (start : placed.head.start = 0) (document : String) (startLine : Nat) :
    declarationsOf ⟨startLine, String.ofList text⟩ document =
      [{ name := String.ofList placed.head.name
         kind := placed.head.kind
         location := ⟨document, startLine⟩
         fields := placed.fields (Views.of text)
         supertypes := placed.supertypes (Views.of text)
         typeExpression := placed.typeExpression (Views.of text) }] := by
  rw [declarationsOf, Region.passage, String.toList_ofList]
  simp only [only, List.map_singleton, declaration, Passage.locate, start, Views.lineOf, lineOf_zero,
    Nat.add_zero]

end Placed

namespace Printed

/-! ### Bodies between braces -/

/-- Blank text between what is printed. -/
structure Gap where
  text : List Char
  isGap : isAllBlank text = true

def Gap.none : Gap :=
  ⟨[], isAllBlank_nil⟩

def Gap.space : Gap :=
  ⟨[' '], by decide⟩

/-- Wherever the body stands between braces, the reader finds the fields in it. -/
structure ReadsAs (reader : Views → Nat → Nat → List Concord.Field) (body : List Char)
    (fields : List Concord.Field) : Prop where
  settled : Settled body
  keepsBraces : KeepsBraces (mask body)
  reads : ∀ {views : Views} {opening : Nat} {rest tail : List Char},
    views.masked.drop opening = '\x7b' :: (mask body ++ '\x7d' :: rest) →
    views.clean.drop opening = '\x7b' :: (body ++ tail) →
    reader views opening (opening + 1 + (mask body).length) = fields

/-- What stands before the braces of a text that holds one block. -/
def block (front body : List Char) : List Char :=
  front ++ '\x7b' :: (body ++ ['\x7d'])

theorem Shows.block {front body : List Char} (shows : Shows front front) (settled : Settled body) :
    Shows (block front body) (block front (mask body)) :=
  shows.append (((Shows.mk settled rfl).append (shows_quiet (by decide))).cons (by decide))

theorem drop_block (front body : List Char) :
    (block front body).drop front.length = '\x7b' :: (body ++ ['\x7d']) :=
  List.drop_left

/-- A head that opens a block declares what is read between the braces, and nothing else is declared. -/
theorem declarationsOf_block {reader : Views → Nat → Nat → List Concord.Field} {front body : List Char}
    {fields : List Concord.Field} {head : Head} (shows : Shows front front)
    (readsAs : ReadsAs reader body fields) (opens : head.Opens (block front (mask body)))
    (kind : head.kind ≠ .typeAlias)
    (isOpening : head.opening? (block front (mask body)) = some front.length)
    (isReader : ∀ views opening closing,
      (Placed.mk head (.block opening closing)).fields views = reader views opening closing)
    (document : String) (startLine : Nat) :
    declarationsOf ⟨startLine, String.ofList (block front body)⟩ document =
      [{ name := String.ofList head.name
         kind := head.kind
         location := ⟨document, startLine⟩
         fields := fields
         supertypes := if head.kind = .record then Header.supertypes (front.drop head.stop) else []
         typeExpression := "" }] := by
  have whole := shows.block readsAs.settled
  have masked : (Views.of (block front body)).masked = block front (mask body) := whole.isMask
  have clean : (Views.of (block front body)).clean = block front body := whole.settled.isClean
  have maskedHere := masked ▸ drop_block front (mask body)
  have cleanHere := clean ▸ drop_block front body
  rw [← masked] at opens isOpening
  rw [Placed.declarationsOf_of_all
    (Placed.all_of_braces opens kind isOpening readsAs.keepsBraces maskedHere) opens.start]
  have header : Span.slice ⟨head.stop, front.length⟩ (Views.of (block front body)).clean =
      front.drop head.stop := by
    rw [clean, Span.slice, block, List.drop_append, List.take_append_of_le_length (by simp),
      List.take_of_length_le (by simp)]
  have supertypes : ∀ closing, (Placed.mk head (.block front.length closing)).supertypes
      (Views.of (block front body)) =
        if head.kind = .record then Header.supertypes (front.drop head.stop) else [] := by
    intro closing
    rw [← header]
    cases named : head.kind <;> simp [Placed.supertypes, named]
  rw [isReader, supertypes, readsAs.reads maskedHere cleanHere]
  rfl

/-- The pieces that a body splits into are read as fields; of one name the first counts. -/
theorem readsAs_splits {body : List Char} {pieces : List (List Char)} (settled : Settled body)
    (keepsBraces : KeepsBraces (mask body))
    (splits : ∀ rest, Splits .body ('\x7d' :: rest) (mask body) body pieces) :
    ReadsAs Concord.Member.fields body (Concord.Member.firstOfName []
      (pieces.filterMap fun piece => Concord.Member.field? (strip piece))) := by
  refine ⟨settled, keepsBraces, fun {views opening rest tail} maskedHere cleanHere => ?_⟩
  have slices := (splits rest).slices_members marks_body views (drop_succ maskedHere)
    (drop_succ cleanHere) (noArrow_of_brace maskedHere)
  rw [Concord.Member.fields, ← slices, List.filterMap_map]
  rfl

/-! ### Records -/

/-- What stands before the body of a record: its head, and what follows the name. -/
structure Heading where
  isExported : Bool
  isAmbient : Bool
  name : Name
  header : List Char
  shows : Shows header header
  keeps : KeepsHeader header
  stops : ∀ c, header.head? = some c → continuesIdentifier c = false

namespace Heading

variable (heading : Heading)

/-- A declaration with the head of the record. -/
def declaration : Declaration :=
  ⟨heading.isExported, heading.isAmbient, heading.name, .record [] [] List.nodup_nil⟩

/-- The heading as it is printed. -/
def text : List Char :=
  heading.declaration.head ++ heading.header

/-- The head of the record. -/
def head : Head :=
  ⟨.record, heading.name.text, 0, heading.declaration.head.length⟩

theorem block_text (body : List Char) :
    block heading.text body =
      heading.declaration.head ++ (heading.header ++ '\x7b' :: (body ++ ['\x7d'])) :=
  List.append_assoc ..

theorem opens (body : List Char) : heading.head.Opens (block heading.text body) := by
  have stops : ∀ c, (heading.header ++ '\x7b' :: (body ++ ['\x7d'])).head? = some c →
      continuesIdentifier c = false := by
    intro c first
    cases header : heading.header with
    | nil =>
      rw [header] at first
      rw [← Option.some.inj first]
      decide
    | cons d rest =>
      rw [header] at first
      exact heading.stops c (header ▸ first)
  rw [block_text]
  refine ⟨rfl, by simp [head], fun kind => ?_⟩
  rw [Head.read?_printed heading.declaration _ (fun _ => stops) kind, head, List.drop_left]
  rfl

theorem shows_text : Shows heading.text heading.text :=
  heading.declaration.shows_head.append heading.shows

/-- The body of a record opens behind its heading. -/
theorem opening?_block (body : List Char) :
    heading.head.opening? (block heading.text body) = some heading.text.length := by
  have here : (block heading.text body).drop heading.head.stop =
      heading.header ++ '\x7b' :: (body ++ ['\x7d']) := by
    rw [block_text, head, List.drop_left]
  refine (body?_of_keepsHeader heading.keeps here).trans ?_
  rw [text, List.length_append, head]

/-- A record alone in a text is all that the text declares. -/
theorem declarationsOf_block {body : List Char} {fields : List Concord.Field}
    (readsAs : ReadsAs Concord.Member.fields body fields) (document : String) (startLine : Nat) :
    declarationsOf ⟨startLine, String.ofList (block heading.text body)⟩ document =
      [{ name := String.ofList heading.name.text
         kind := .record
         location := ⟨document, startLine⟩
         fields := fields
         supertypes := Header.supertypes heading.header }] := by
  have declared := Printed.declarationsOf_block heading.shows_text readsAs (heading.opens (mask body))
    (by simp [head]) (heading.opening?_block (mask body)) (fun _ _ _ => rfl) document startLine
  rw [declared, if_pos (show heading.head.kind = .record from rfl)]
  simp only [text, head, List.drop_left]

/-- The methods of a record alone in a text are those that are read between its braces, if the end of its
name marks it as a service. -/
theorem methodsOf_block {body : List Char} (settled : Settled body) (keeps : KeepsBraces (mask body))
    (document : String) (startLine : Nat) (serviceSuffixes : List String) :
    methodsOf ⟨startLine, String.ofList (block heading.text body)⟩ document serviceSuffixes =
      if serviceSuffixes.any fun suffix => endsWith heading.name.text suffix.toList then
        Concord.Member.methods ⟨document, startLine, Views.of (block heading.text body)⟩
          (String.ofList heading.name.text) heading.text.length
          (heading.text.length + 1 + (mask body).length)
      else [] := by
  have masked : (Views.of (block heading.text body)).masked = block heading.text (mask body) :=
    (heading.shows_text.block settled).isMask
  have opens := heading.opens (mask body)
  have isOpening := heading.opening?_block (mask body)
  rw [← masked] at opens isOpening
  have only := Placed.all_of_braces opens (by simp [head]) isOpening keeps (masked ▸ drop_block _ _)
  rw [methodsOf, Region.passage, String.toList_ofList]
  simp only [only, List.flatMap_singleton]
  rfl

end Heading

/-! ### Enumerations -/

/-- What stands before the body of an enumeration. -/
structure EnumerationHeading where
  isExported : Bool
  isAmbient : Bool
  isConstant : Bool
  name : Name

namespace EnumerationHeading

variable (heading : EnumerationHeading)

/-- A declaration with the head of the enumeration. -/
def declaration : Declaration :=
  ⟨heading.isExported, heading.isAmbient, heading.name,
    .enumeration heading.isConstant [] false [] isAllBlank_nil⟩

/-- The heading as it is printed. -/
def text : List Char :=
  heading.declaration.modifiers ++
    ((if heading.isConstant then "const".toList ++ [' '] else []) ++
      ("enum".toList ++ ' ' :: (heading.name.text ++ [' '])))

/-- The head of the enumeration. -/
def head : Head :=
  ⟨.enumeration, heading.name.text, 0, heading.declaration.head.length⟩

theorem head_declaration : heading.declaration.head = heading.text ++ ['\x7b'] := by
  have naming : heading.declaration.naming =
      (if heading.isConstant then "const".toList ++ [' '] else []) ++
        ("enum".toList ++ ' ' :: (heading.name.text ++ [' ', '\x7b'])) := rfl
  rw [Declaration.head, naming, text]
  generalize "enum".toList = word
  generalize (if heading.isConstant then "const".toList ++ [' '] else []) = constant
  simp only [List.append_assoc, List.cons_append, List.nil_append]

theorem block_text (body : List Char) :
    block heading.text body = heading.declaration.head ++ (body ++ ['\x7d']) := by
  rw [head_declaration, List.append_assoc]
  rfl

theorem opens (body : List Char) : heading.head.Opens (block heading.text body) := by
  have noRecord : heading.declaration.shape.kind ≠ .record := by
    simp [EnumerationHeading.declaration, Shape.kind]
  rw [block_text]
  refine ⟨rfl, by simp [head], fun kind => ?_⟩
  rw [Head.read?_printed heading.declaration _ (fun isRecord => absurd isRecord noRecord) kind, head,
    List.drop_left]
  rfl

/-- An enumeration alone in a text is all that the text declares. -/
theorem declarationsOf_block {body : List Char} {fields : List Concord.Field}
    (readsAs : ReadsAs Concord.Member.enumerationMembers body fields) (document : String)
    (startLine : Nat) :
    declarationsOf ⟨startLine, String.ofList (block heading.text body)⟩ document =
      [{ name := String.ofList heading.name.text
         kind := .enumeration
         location := ⟨document, startLine⟩
         fields := fields }] := by
  have shows : Shows heading.text heading.text := by
    have modifiers : Shows heading.declaration.modifiers heading.declaration.modifiers :=
      (shows_optional _ (by decide)).append (shows_optional _ (by decide))
    have isKeyword : ∀ c ∈ "enum".toList, isQuiet c = true := by decide
    have named := heading.name.shows.append (@shows_quiet [' '] (by decide))
    exact modifiers.append ((shows_optional _ (by decide)).append
      ((shows_quiet isKeyword).append (named.cons (by decide))))
  have isOpening : heading.head.opening? (block heading.text (mask body)) =
      some heading.text.length := by
    simp only [Head.opening?, head, head_declaration, List.length_append, List.length_singleton,
      Nat.add_sub_cancel]
  have declared := Printed.declarationsOf_block shows readsAs (heading.opens (mask body)) (by simp [head])
    isOpening (fun _ _ _ => rfl) document startLine
  rw [declared, if_neg (by simp [head])]
  rfl

end EnumerationHeading

end Printed

end Concord
