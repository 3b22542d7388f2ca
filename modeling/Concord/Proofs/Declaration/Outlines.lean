/-
Declarations joined by line breaks, with no break behind the last. An outline is a head, however it is
written, with a shape printed behind it; besides the heads that authors print there are those of aliases
with a type parameter. A text of joined outlines declares the outlines, one for one and in order.
-/

import Concord.Proofs.Declaration.RoundTrip

namespace Concord.Printed

open Source Text

/-! ### Outlines -/

/-- A head and the shape that is printed behind it. -/
structure Outline where
  head : List Char
  name : List Char
  shape : Shape
  something : head ≠ []
  oneLine : '\n' ∉ head
  shows : Shows head head
  braced : '\x7b' ∈ sign shape.kind → ∃ front, head = front ++ ['\x7b']
  reads : ∀ kind rest, Head.read? kind (head ++ (shape.trunk mask ++ rest)) =
    if kind = shape.kind then some (name, shape.trunk mask ++ rest) else none

namespace Outline

variable (view : List Char → List Char)

/-- The outline as it is printed. -/
def text (outline : Outline) : List Char :=
  outline.head ++ outline.shape.trunk view

/-- Outlines as they are printed behind something, each on a line of its own. -/
def following (outlines : List Outline) : List Char :=
  outlines.flatMap fun outline => '\n' :: outline.text view

/-- Outlines with line breaks between them. -/
def joined (outlines : List Outline) : List Char :=
  ['\n'].intercalate (outlines.map (·.text view))

theorem joined_cons (outline : Outline) (outlines : List Outline) :
    joined view (outline :: outlines) = outline.text view ++ following view outlines := by
  induction outlines generalizing outline with
  | nil => simp [joined, following]
  | cons second others inductionHypothesis =>
    have tail := inductionHypothesis second
    rw [joined, List.map_cons] at tail
    rw [joined, List.map_cons, List.map_cons, List.intercalate_cons_cons, tail, List.append_assoc]
    rfl

theorem following_cons (outline : Outline) (outlines : List Outline) :
    following view (outline :: outlines) =
      '\n' :: (outline.head ++ (outline.shape.trunk view ++ following view outlines)) := by
  simp only [following, text, List.flatMap_cons, List.cons_append, List.append_assoc]

/-! ### The masked view -/

omit view

theorem shows_text (outline : Outline) : Shows (outline.text id) (outline.text mask) :=
  outline.shows.append outline.shape.shows_trunk

theorem shows_joined (outlines : List Outline) : Shows (joined id outlines) (joined mask outlines) := by
  cases outlines with
  | nil => exact shows_quiet (by simp [joined])
  | cons outline outlines =>
    rw [joined_cons, joined_cons]
    refine outline.shows_text.append (shows_flatMap _ _ (fun other => ?_) outlines)
    exact other.shows_text.cons (by decide)

/-! ### Heads -/

/-- How many characters the outline has. -/
def size (outline : Outline) : Nat :=
  outline.head.length + (outline.shape.trunk mask).length

/-- The head of an outline that stands at the given position. -/
def headAt (index : Nat) (outline : Outline) : Head :=
  ⟨outline.shape.kind, outline.name, index, index + outline.head.length⟩

/-- The heads of outlines that are printed behind the given position. -/
def headsBehind : Nat → List Outline → List Head
  | _, [] => []
  | index, outline :: outlines =>
    headAt (index + 1) outline :: headsBehind (index + 1 + outline.size) outlines

/-- The heads of joined outlines. -/
def headsOf : List Outline → List Head
  | [] => []
  | outline :: outlines => headAt 0 outline :: headsBehind outline.size outlines

theorem ofKindFrom_following (kind : DeclarationKind) (index : Nat) (outlines : List Outline) :
    Head.ofKindFrom kind index 0 false (following mask outlines) =
      (headsBehind index outlines).filter (·.kind = kind) := by
  induction outlines generalizing index with
  | nil => rfl
  | cons outline outlines inductionHypothesis =>
    have own := Head.ofKindFrom_head outline.something outline.oneLine
      (outline.reads kind (following mask outlines)) (index + 1)
    have behindBreak : Head.ofKindFrom kind index 0 false (following mask (outline :: outlines)) =
        Head.ofKindFrom kind (index + 1) 0 true
          (outline.head ++ (outline.shape.trunk mask ++ following mask outlines)) := by
      rw [following_cons]
      rfl
    rw [behindBreak, own, headsBehind, List.filter_cons, ← size, inductionHypothesis]
    by_cases same : kind = outline.shape.kind
    · simp [headAt, same]
    · simp [headAt, same, Ne.symm same]

theorem ofKind_joined (kind : DeclarationKind) (outlines : List Outline) :
    Head.ofKind kind (joined mask outlines) = (headsOf outlines).filter (·.kind = kind) := by
  cases outlines with
  | nil => rfl
  | cons outline outlines =>
    have own := Head.ofKindFrom_head outline.something outline.oneLine
      (outline.reads kind (following mask outlines)) 0
    rw [Nat.zero_add, Nat.zero_add, ← size, ofKindFrom_following] at own
    rw [Head.ofKind, joined_cons, text, List.append_assoc, own, headsOf, List.filter_cons]
    by_cases same : kind = outline.shape.kind
    · simp [headAt, same]
    · simp [headAt, same, Ne.symm same]

theorem start_headsBehind {index : Nat} {outlines : List Outline} {head : Head}
    (member : head ∈ headsBehind index outlines) : index < head.start := by
  induction outlines generalizing index with
  | nil => exact absurd member List.not_mem_nil
  | cons outline outlines inductionHypothesis =>
    rcases List.mem_cons.1 member with rfl | later
    · exact Nat.lt_succ_self index
    · have := inductionHypothesis later
      omega

theorem pairwise_headsBehind (index : Nat) (outlines : List Outline) :
    (headsBehind index outlines).Pairwise fun first second => first.start < second.start := by
  induction outlines generalizing index with
  | nil => exact .nil
  | cons outline outlines inductionHypothesis =>
    refine .cons (fun head member => ?_) (inductionHypothesis _)
    exact Nat.lt_of_le_of_lt (Nat.le_add_right ..) (start_headsBehind member)

/-- The heads of joined outlines are those of the outlines in order. -/
theorem all_joined (outlines : List Outline) :
    Head.all (joined mask outlines) = headsOf outlines := by
  refine Head.all_eq_of_perm ?_ ?_
  · simp only [ofKind_joined]
    exact Head.perm_filter_kinds _
  · cases outlines with
    | nil => exact .nil
    | cons outline outlines =>
      refine .cons (fun head member => ?_) (pairwise_headsBehind _ outlines)
      exact Nat.lt_of_le_of_lt (Nat.zero_le _) (start_headsBehind member)

/-! ### Declarations -/

/-- The head of an outline finds its body before the outline ends. -/
theorem exists_body (outline : Outline) {views : Views} {index : Nat} {rest tail : List Char}
    (maskedHere : views.masked.drop index = outline.text mask ++ rest)
    (cleanHere : views.clean.drop index = outline.text id ++ tail) :
    ∃ body, (headAt index outline).body? views = some body ∧ body.behind ≤ index + outline.size := by
  rw [text, List.append_assoc] at maskedHere cleanHere
  obtain ⟨body, found, ends, -⟩ := @shape_isRead outline.shape outline.head outline.braced views
    outline.name index rest tail maskedHere cleanHere
  exact ⟨body, found, ends.trans_eq (Nat.add_assoc ..)⟩

theorem length_text (outline : Outline) :
    (outline.text id).length = outline.size ∧ (outline.text mask).length = outline.size := by
  have same : (outline.text mask).length = (outline.text id).length := by
    rw [← outline.shows_text.isMask, length_mask]
  exact ⟨same ▸ List.length_append, List.length_append⟩

theorem heads_among_following (views : Views) (outlines : List Outline) {index consumed : Nat}
    (isFree : consumed ≤ index) (maskedHere : views.masked.drop index = following mask outlines)
    (cleanHere : views.clean.drop index = following id outlines) :
    (Placed.among views consumed (headsBehind index outlines)).map (·.head) =
      headsBehind index outlines := by
  induction outlines generalizing index consumed with
  | nil => rfl
  | cons outline outlines inductionHypothesis =>
    have masked : views.masked.drop (index + 1) = outline.text mask ++ following mask outlines := by
      rw [← List.drop_drop, maskedHere]
      rfl
    have clean : views.clean.drop (index + 1) = outline.text id ++ following id outlines := by
      rw [← List.drop_drop, cleanHere]
      rfl
    obtain ⟨body, found, ends⟩ := outline.exists_body masked clean
    have here : ¬ (headAt (index + 1) outline).start < consumed :=
      Nat.not_lt.2 (Nat.le_succ_of_le isFree)
    have maskedBehind : views.masked.drop (index + 1 + outline.size) = following mask outlines := by
      rw [← outline.length_text.2]
      exact drop_behind masked
    have cleanBehind : views.clean.drop (index + 1 + outline.size) = following id outlines := by
      rw [← outline.length_text.1]
      exact drop_behind clean
    rw [headsBehind, Placed.among, if_neg here, found, List.map_cons,
      inductionHypothesis ends maskedBehind cleanBehind]

theorem heads_among_joined {views : Views} {outlines : List Outline}
    (masked : views.masked = joined mask outlines) (clean : views.clean = joined id outlines) :
    (Placed.all views).map (·.head) = headsOf outlines := by
  rw [Placed.all, masked, all_joined]
  cases outlines with
  | nil => rfl
  | cons outline outlines =>
    rw [joined_cons] at masked clean
    obtain ⟨body, found, ends⟩ := @exists_body outline views 0 _ _ masked clean
    rw [Nat.zero_add] at ends
    have maskedBehind : views.masked.drop outline.size = following mask outlines := by
      rw [masked, ← outline.length_text.2, List.drop_left]
    have cleanBehind : views.clean.drop outline.size = following id outlines := by
      rw [clean, ← outline.length_text.1, List.drop_left]
    rw [headsOf, Placed.among, if_neg (Nat.not_lt_zero _), found, List.map_cons,
      heads_among_following views outlines ends maskedBehind cleanBehind]

theorem named_headsBehind (index : Nat) (outlines : List Outline) :
    (headsBehind index outlines).map (fun head => (head.name, head.kind)) =
      outlines.map fun outline => (outline.name, outline.shape.kind) := by
  induction outlines generalizing index with
  | nil => rfl
  | cons outline outlines inductionHypothesis =>
    rw [headsBehind, List.map_cons, List.map_cons, inductionHypothesis]
    rfl

/-- Joined outlines declare the outlines and nothing else, each by its name and kind. -/
theorem declared_joined (outlines : List Outline) (document : String) (startLine : Nat) :
    (declarationsOf ⟨startLine, String.ofList (joined id outlines)⟩ document).map
        (fun declaration => (declaration.name, declaration.kind)) =
      outlines.map fun outline => (String.ofList outline.name, outline.shape.kind) := by
  have shows := shows_joined outlines
  have heads := @heads_among_joined (Views.of (joined id outlines)) outlines shows.isMask
    shows.settled.isClean
  have named : (headsOf outlines).map (fun head => (head.name, head.kind)) =
      outlines.map fun outline => (outline.name, outline.shape.kind) := by
    cases outlines with
    | nil => rfl
    | cons outline outlines =>
      rw [headsOf, List.map_cons, List.map_cons, named_headsBehind]
      rfl
  have texts := congrArg (List.map fun pair => (String.ofList pair.1, pair.2)) named
  rw [← heads, List.map_map, List.map_map, List.map_map] at texts
  rw [declarationsOf, Region.passage, String.toList_ofList, List.map_map]
  exact texts

/-! ### Printed declarations -/

/-- A printed declaration. -/
def ofDeclaration (declaration : Declaration) : Outline where
  head := declaration.head
  name := declaration.name.text
  shape := declaration.shape
  something := Head.head_ne_nil declaration
  oneLine := Head.oneLine_head declaration
  shows := declaration.shows_head
  braced := head_brace declaration
  reads := fun kind rest => Head.read?_printed declaration _ (Head.stops_trunk declaration.shape rest) kind

/-! ### Aliases with a type parameter -/

theorem behindTypeParameters_word {word : List Char} (isWord : IsWord word) (rest : List Char) :
    Head.behindTypeParameters false (word ++ '>' :: rest) = some rest := by
  induction word with
  | nil => rfl
  | cons c word inductionHypothesis =>
    have here : continuesIdentifier c = true := isWord c List.mem_cons_self
    have noClosing : c ≠ '>' := by
      rintro rfl
      exact absurd here (by decide)
    have noOpening : c ≠ '<' := by
      rintro rfl
      exact absurd here (by decide)
    rw [List.cons_append, Head.behindTypeParameters, if_neg noClosing, if_neg noOpening]
    exact inductionHypothesis fun d member => isWord d (List.mem_cons_of_mem c member)

/-- The head of an alias with a type parameter. -/
def parameterHead (name parameter : Name) : List Char :=
  "type".toList ++ ' ' :: (name.text ++ '<' :: (parameter.text ++ ['>', ' ', '=']))

theorem typeAlias?_parameter (name parameter : Name) (rest : List Char) :
    Head.typeAlias? ("type".toList ++
        ' ' :: (name.text ++ '<' :: (parameter.text ++ '>' :: ' ' :: '=' :: rest))) =
      some (name.text, rest) := by
  have stops : ∀ c, ('<' :: (parameter.text ++ '>' :: ' ' :: '=' :: rest)).head? = some c →
      continuesIdentifier c = false := by
    rintro c ⟨⟩
    decide
  have opened : ('<' :: (parameter.text ++ '>' :: ' ' :: '=' :: rest)).dropWhile isSpaceOrTab =
      '<' :: (parameter.text ++ '>' :: ' ' :: '=' :: rest) := rfl
  have sign : Head.behind? '=' (stripStart (' ' :: '=' :: rest)) = some rest := rfl
  rw [Head.typeAlias?, Head.bind_identifier?_same (by decide) name stops]
  simp only [bind, Option.bind_some, opened, Head.behindOptionalParameters,
    behindTypeParameters_word parameter.isWord, sign]
  rfl

/-- A line that begins with the keyword of an alias is the head of an alias or none. -/
theorem read?_type (kind : DeclarationKind) (rest : List Char) :
    Head.read? kind ("type".toList ++ ' ' :: rest) =
      if kind = .typeAlias then Head.typeAlias? ("type".toList ++ ' ' :: rest) else none := by
  have isWord : IsWord "type".toList := by decide
  have kept : ∀ word ∈ Head.headWords, word ≠ "type".toList → ∀ behind,
      skipInline word ("type".toList ++ ' ' :: behind) = "type".toList ++ ' ' :: behind :=
    fun word member differs behind => by rw [Head.skipInline_space isWord member, if_neg differs]
  have other : ∀ word ∈ Head.headWords, word ≠ "type".toList → ∀ behind,
      (inlineKeyword? word ("type".toList ++ ' ' :: behind)).bind identifier? = none :=
    fun word member differs behind => Head.bind_identifier?_other member isWord differs behind
  have bare : ∀ behind, Head.behindModifiers ("type".toList ++ ' ' :: behind) =
      "type".toList ++ ' ' :: behind := fun behind => by
    rw [Head.behindModifiers, Head.dropWhile_word isWord (by decide),
      kept _ (by decide) (by decide), kept _ (by decide) (by decide)]
  unfold Head.read?
  rw [bare]
  cases kind with
  | record => exact other "interface".toList (by decide) (by decide) _
  | typeAlias => rfl
  | enumeration =>
    simp only [Head.enumeration?, kept "const".toList (by decide) (by decide),
      other "enum".toList (by decide) (by decide)]
    rfl
  | constantGroup =>
    simp only [Head.constantGroup?, other "const".toList (by decide) (by decide)]
    rfl

theorem read?_parameterHead (name parameter : Name) (kind : DeclarationKind) (rest : List Char) :
    Head.read? kind (parameterHead name parameter ++ rest) =
      if kind = .typeAlias then some (name.text, rest) else none := by
  have isText : parameterHead name parameter ++ rest =
      "type".toList ++ ' ' :: (name.text ++ '<' :: (parameter.text ++ '>' :: ' ' :: '=' :: rest)) := by
    simp only [parameterHead, List.append_assoc, List.cons_append, List.nil_append]
  rw [isText, read?_type, typeAlias?_parameter]

/-- An alias with a type parameter. -/
def ofParameterised (name parameter : Name) (expression : TypeText) : Outline where
  head := parameterHead name parameter
  name := name.text
  shape := .typeAlias expression
  something := by simp [parameterHead]
  oneLine := by
    simp only [parameterHead, List.mem_append, List.mem_cons, not_or]
    exact ⟨by decide, by decide, Head.Name.oneLine name, by decide, Head.Name.oneLine parameter, by decide⟩
  shows := by
    have behind := (parameter.shows.append (@shows_quiet ['>', ' ', '='] (by decide))).cons
      (show Source.isQuiet '<' = true by decide)
    exact (@shows_quiet "type".toList (by decide)).append ((name.shows.append behind).cons (by decide))
  braced := fun braced => absurd braced (by simp [Shape.kind, sign])
  reads := fun kind rest => read?_parameterHead name parameter kind _

end Outline

end Concord.Printed
