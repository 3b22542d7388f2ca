/-
What stands between the head of a declaration and its body. A head begins a line, and the line begins a
statement, so a header whose later lines begin none holds no other head; the header of an enumeration has
nothing but blanks on its later lines. Without that condition the other kinds do reach over the
declaration that follows, and take its block for their own or swallow it.
-/

import Concord.Declaration.Body
import Concord.Proofs.Declaration.Scripts
import Mathlib.Data.List.TakeWhile

namespace Concord

open Source Text

namespace Head

/-! ### Lines that heads begin -/

theorem before_break_append {text : List Char} (oneLine : '\n' ∉ text) (rest : List Char) :
    before (· == '\n') (text ++ rest) = text ++ before (· == '\n') rest := by
  refine List.takeWhile_append_of_pos fun c inside => ?_
  rw [Bool.not_eq_true', beq_eq_false_iff_ne]
  exact fun same => oneLine (same ▸ inside)

theorem oneLine_of_isSpaceOrTab {text : List Char} (inline : ∀ c ∈ text, isSpaceOrTab c = true) :
    '\n' ∉ text :=
  fun inside => absurd (inline '\n' inside) (by decide)

theorem opensStatement_of_keyword {word indent behind : List Char} {c : Char}
    (member : word ∈ headWords) (indented : ∀ d ∈ indent, isSpaceOrTab d = true)
    (space : isSpaceOrTab c = true) :
    opensStatement (before (· == '\n') (indent ++ (word ++ c :: behind))) = true := by
  obtain ⟨isWord, first, tail, isCons, opens⟩ := headWords_spec member
  have cut : before (· == '\n') (indent ++ (word ++ c :: behind)) =
      indent ++ (word ++ c :: before (· == '\n') behind) := by
    have single : '\n' ∉ [c] := oneLine_of_isSpaceOrTab (List.forall_mem_singleton.2 space)
    rw [before_break_append (oneLine_of_isSpaceOrTab indented),
      before_break_append (oneLine_of_isWord isWord), ← List.singleton_append,
      before_break_append single, List.singleton_append]
  have stripped : stripStart (indent ++ (word ++ c :: before (· == '\n') behind)) =
      word ++ c :: before (· == '\n') behind := by
    refine dropWhile_append_of_stops (fun d inside => isBlank_of_isSpaceOrTab (indented d inside)) ?_
    rintro d same
    rw [isCons, List.cons_append, List.head?_cons, Option.some.injEq] at same
    exact same ▸ isBlank_of_continuesIdentifier (continuesIdentifier_of_opensIdentifier opens)
  have listed : ∀ word ∈ headWords, ∃ statement ∈ statementWords, statement.toList = word := by decide
  obtain ⟨statement, inside, rfl⟩ := listed word member
  have ends : isWordCharacter c = false :=
    (Bool.or_eq_false_iff.1 (continuesIdentifier_of_isBlank (isBlank_of_isSpaceOrTab space))).1
  refine List.any_eq_true.2 ⟨statement, inside, ?_⟩
  rw [cut, stripped, after?_append]
  simp [Header.isWordAt, ends]

/-- The line that a head begins begins a statement. -/
theorem opensStatement_of_read? {kind : DeclarationKind} {text : List Char}
    {found : List Char × List Char} (isHead : read? kind text = some found) :
    opensStatement (before (· == '\n') text) = true := by
  have lively : ¬ Dull (text.dropWhile isSpaceOrTab) := fun dull => by
    rw [read?_of_dull dull kind] at isHead
    exact absurd isHead (by simp)
  simp only [Dull, not_forall] at lively
  obtain ⟨word, member, rest, keyword, -⟩ := lively
  unfold inlineKeyword? at keyword
  split at keyword
  · rename_i c behind after
    split at keyword
    · rename_i space
      rw [← List.takeWhile_append_dropWhile (p := isSpaceOrTab) (l := text), eq_append_of_after? after]
      exact opensStatement_of_keyword member (fun d inside => List.mem_takeWhile_imp inside) space
    · exact absurd keyword (by simp)
  · exact absurd keyword (by simp)

/-- The head stands in the text: it begins a line, and what it says of itself is read there. -/
structure StandsIn (head : Head) (masked : List Char) : Prop where
  startsLine : head.start = 0 ∨ masked[head.start - 1]? = some '\n'
  read : ∃ left, read? head.kind (masked.drop head.start) = some (head.name, left) ∧
    head.stop = head.start + ((masked.drop head.start).length - left.length)

theorem standsIn_of_mem_ofKindFrom {kind : DeclarationKind} {seen text : List Char} {resume : Nat}
    {startsLine : Bool} (starts : startsLine = true → seen = [] ∨ seen.getLast? = some '\n')
    {head : Head} (member : head ∈ ofKindFrom kind seen.length resume startsLine text) :
    head.StandsIn (seen ++ text) := by
  induction text generalizing seen resume startsLine with
  | nil => exact absurd member List.not_mem_nil
  | cons c text inductionHypothesis =>
    have later : ∀ resume, head ∈ ofKindFrom kind (seen.length + 1) resume (c == '\n') text →
        head.StandsIn (seen ++ c :: text) := fun resume inside => by
      rw [List.append_cons]
      refine @inductionHypothesis (seen ++ [c]) resume (c == '\n') (fun isBreak => .inr ?_) ?_
      · rw [List.getLast?_concat, beq_iff_eq.1 isBreak]
      · rwa [List.length_append, List.length_singleton]
    rw [ofKindFrom] at member
    simp only at member
    split at member
    · rename_i name left found
      rcases List.mem_cons.1 member with rfl | inside
      · obtain ⟨here, isHead⟩ := Option.ite_none_right_eq_some.1 found
        refine ⟨?_, left, ?_, ?_⟩
        · rcases starts (Bool.and_eq_true_iff.1 here).1 with rfl | isBreak
          · exact .inl rfl
          · have something : seen ≠ [] := by
              rintro rfl
              exact absurd isBreak (by simp)
            have bound : seen.length - 1 < seen.length :=
              Nat.sub_one_lt (List.length_eq_zero_iff.not.2 something)
            rw [List.getElem?_append_left bound, ← List.getLast?_eq_getElem?]
            exact .inr isBreak
        · rwa [List.drop_left]
        · rw [List.drop_left]
      · exact later _ inside
    · exact later _ member

theorem standsIn_of_mem_all {masked : List Char} {head : Head} (member : head ∈ all masked) :
    head.StandsIn masked := by
  rw [all, List.mem_mergeSort, List.mem_flatMap] at member
  obtain ⟨kind, -, found⟩ := member
  exact @standsIn_of_mem_ofKindFrom kind [] masked 0 true (fun _ => .inl rfl) head found

/-! ### The header of an enumeration -/

/-- The text goes on within its line as far as the rest. -/
def Reaches (text rest : List Char) : Prop :=
  ∃ opening, '\n' ∉ opening ∧ text = opening ++ rest

theorem Reaches.refl (text : List Char) : Reaches text text :=
  ⟨[], List.not_mem_nil, rfl⟩

theorem Reaches.trans {text middle rest : List Char} (first : Reaches text middle)
    (second : Reaches middle rest) : Reaches text rest := by
  obtain ⟨opening, oneLine, rfl⟩ := first
  obtain ⟨further, inLine, rfl⟩ := second
  exact ⟨opening ++ further, fun inside => (List.mem_append.1 inside).elim oneLine inLine,
    (List.append_assoc ..).symm⟩

theorem reaches_dropWhile (text : List Char) : Reaches text (text.dropWhile isSpaceOrTab) :=
  ⟨text.takeWhile isSpaceOrTab, oneLine_of_isSpaceOrTab fun _ inside => List.mem_takeWhile_imp inside,
    List.takeWhile_append_dropWhile.symm⟩

theorem reaches_of_inlineKeyword? {keyword text rest : List Char} (isWord : IsWord keyword)
    (found : inlineKeyword? keyword text = some rest) : Reaches text rest := by
  unfold inlineKeyword? at found
  split at found
  · rename_i c behind after
    obtain ⟨space, same⟩ := Option.ite_none_right_eq_some.1 found
    rw [eq_append_of_after? after]
    have single : '\n' ∉ [c] := oneLine_of_isSpaceOrTab (List.forall_mem_singleton.2 space)
    refine .trans ⟨keyword, oneLine_of_isWord isWord, rfl⟩ (.trans ⟨[c], single, rfl⟩ ?_)
    exact Option.some.inj same ▸ reaches_dropWhile behind
  · exact absurd found (by simp)

theorem reaches_skipInline {keyword : List Char} (isWord : IsWord keyword) (text : List Char) :
    Reaches text (skipInline keyword text) := by
  unfold skipInline
  cases found : inlineKeyword? keyword text with
  | none => exact .refl text
  | some rest => exact reaches_of_inlineKeyword? isWord found

theorem reaches_behindModifiers (line : List Char) : Reaches line (behindModifiers line) :=
  (reaches_dropWhile line).trans <| (reaches_skipInline (by decide) _).trans <|
    reaches_skipInline (by decide) _

theorem reaches_of_identifier? {text name rest : List Char}
    (found : identifier? text = some (name, rest)) : Reaches text rest :=
  ⟨name, oneLine_of_isWord (isWord_of_isIdentifier (isIdentifier_of_identifier? found)),
    identifier?_append found⟩

theorem eq_cons_of_behind? {expected : Char} {text rest : List Char}
    (found : behind? expected text = some rest) : text = expected :: rest := by
  cases text with
  | nil => exact absurd found (by simp [behind?])
  | cons c text =>
    obtain ⟨rfl, same⟩ := Option.ite_none_right_eq_some.1 found
    rw [Option.some.inj same]

/-- Between the name of an enumeration and its brace stand blanks only. -/
theorem exists_gap_of_enumeration? {line name left : List Char}
    (found : read? .enumeration line = some (name, left)) :
    ∃ gap, Reaches line (gap ++ '\x7b' :: left) ∧ ∀ c ∈ gap, isBlank c = true := by
  simp only [read?, enumeration?, bind, Option.bind_eq_some_iff] at found
  obtain ⟨⟨named, rest⟩, ⟨behind, keyword, isName⟩, left', brace, same⟩ := found
  have isLeft : left' = left := (Prod.mk.inj (Option.some.inj same)).2
  have opened : stripStart rest = '\x7b' :: left := isLeft ▸ eq_cons_of_behind? brace
  have reached : Reaches line rest :=
    (reaches_behindModifiers line).trans <| (reaches_skipInline (by decide) _).trans <|
      (reaches_of_inlineKeyword? (by decide) keyword).trans (reaches_of_identifier? isName)
  refine ⟨rest.takeWhile isBlank, ?_, fun c inside => List.mem_takeWhile_imp inside⟩
  rwa [← opened, stripStart, List.takeWhile_append_dropWhile]

/-- A line that opens with blanks and a brace is no head. -/
theorem read?_brace {gap : List Char} (blank : ∀ c ∈ gap, isBlank c = true) (left : List Char)
    (kind : DeclarationKind) : read? kind (gap ++ '\x7b' :: left) = none := by
  refine read?_of_dull (dull_of_no_identifier (identifier?_of_stops fun c first => ?_)) kind
  induction gap with
  | nil =>
    rw [List.nil_append, List.dropWhile_cons_of_neg (by decide)] at first
    obtain rfl := Option.some.inj first
    decide
  | cons d gap inductionHypothesis =>
    obtain ⟨here, later⟩ := List.forall_mem_cons.1 blank
    rw [List.cons_append, List.dropWhile_cons] at first
    split at first
    · exact inductionHypothesis later first
    · obtain rfl := Option.some.inj first
      exact continuesIdentifier_of_isBlank here

/-- What stands behind a line break before the rest is the end of what stands behind the first line. -/
theorem exists_drop_of_break {opening gap rest : List Char} (oneLine : '\n' ∉ opening) {position : Nat}
    (isBreak : (opening ++ (gap ++ rest))[position]? = some '\n')
    (inside : position < opening.length + gap.length) :
    ∃ later, later <:+ gap ∧ (opening ++ (gap ++ rest)).drop (position + 1) = later ++ rest := by
  have behind : opening.length ≤ position := by
    by_contra early
    rw [List.getElem?_append_left (Nat.lt_of_not_le early)] at isBreak
    exact oneLine (List.mem_of_getElem? isBreak)
  refine ⟨gap.drop (position + 1 - opening.length), List.drop_suffix _ _, ?_⟩
  rw [List.drop_append, List.drop_eq_nil_of_le (by omega), List.nil_append,
    List.drop_append_of_le_length (by omega)]

theorem StandsIn.breaks {head : Head} {masked : List Char} (stands : head.StandsIn masked) {own : Nat}
    (behind : own < head.start) : (masked.drop own)[head.start - 1 - own]? = some '\n' := by
  rw [List.getElem?_drop, Nat.add_sub_cancel' (Nat.le_sub_one_of_lt behind)]
  exact stands.startsLine.resolve_left (Nat.ne_of_gt (Nat.zero_lt_of_lt behind))

/-- No head stands between the head of an enumeration and its brace. -/
theorem StandsIn.not_inside_enumeration {own head : Head} {masked : List Char}
    (isOwn : own.StandsIn masked) (isEnumeration : own.kind = .enumeration)
    (stands : head.StandsIn masked) : ¬ (own.start < head.start ∧ head.start < own.stop - 1) := by
  rintro ⟨behind, inside⟩
  obtain ⟨left, read, isStop⟩ := isOwn.read
  rw [isEnumeration] at read
  obtain ⟨gap, ⟨opening, oneLine, isText⟩, blank⟩ := exists_gap_of_enumeration? read
  have breaks := stands.breaks behind
  rw [isText] at breaks isStop
  rw [List.length_append, List.length_append, List.length_cons] at isStop
  obtain ⟨later, isSuffix, isRest⟩ := exists_drop_of_break oneLine breaks (by omega)
  obtain ⟨other, isHead, -⟩ := stands.read
  have place : head.start = own.start + (head.start - 1 - own.start + 1) := by omega
  rw [place, ← List.drop_drop, isText, isRest,
    read?_brace (fun c inside => blank c (isSuffix.subset inside))] at isHead
  exact absurd isHead (by simp)

end Head

/-! ### Declarations and the headers before their bodies -/

namespace Placed

theorem of_mem_among {views : Views} {consumed : Nat} {heads : List Head} {placed : Placed}
    (member : placed ∈ among views consumed heads) :
    placed.head ∈ heads ∧ placed.head.body? views = some placed.body := by
  induction heads generalizing consumed with
  | nil => exact absurd member List.not_mem_nil
  | cons head heads inductionHypothesis =>
    have later : ∀ consumed, placed ∈ among views consumed heads →
        placed.head ∈ head :: heads ∧ placed.head.body? views = some placed.body :=
      fun consumed inside =>
        ⟨List.mem_cons_of_mem _ (inductionHypothesis inside).1, (inductionHypothesis inside).2⟩
    rw [among] at member
    split at member
    · exact later _ member
    · split at member
      · exact later _ member
      · rename_i body found
        rcases List.mem_cons.1 member with rfl | inside
        · exact ⟨List.mem_cons_self, found⟩
        · exact later _ inside

theorem start_eq_of_enumeration {views : Views} {placed : Placed}
    (isEnumeration : placed.head.kind = .enumeration)
    (hasBody : placed.head.body? views = some placed.body) :
    placed.body.start = placed.head.stop - 1 := by
  simp only [Head.body?, Head.opening?, isEnumeration, Option.bind_some, bind,
    Option.bind_eq_some_iff, pure, Option.some.injEq] at hasBody
  obtain ⟨closing, -, same⟩ := hasBody
  exact same ▸ rfl

/-- No line that begins between the head and the body begins a statement. -/
def HeaderGoesOn (placed : Placed) (masked : List Char) : Prop :=
  ∀ position < placed.body.start, placed.head.start < position →
    masked[position - 1]? = some '\n' →
      opensStatement (before (· == '\n') (masked.drop position)) = false

instance (placed : Placed) (masked : List Char) : Decidable (placed.HeaderGoesOn masked) :=
  inferInstanceAs (Decidable (∀ position < placed.body.start, placed.head.start < position →
    masked[position - 1]? = some '\n' →
      opensStatement (before (· == '\n') (masked.drop position)) = false))

/-- No other head stands between the head of a declaration and its body, as long as no line in between
begins a statement. Between the head of an enumeration and its body none stands in any case. -/
theorem header_isOwn {views : Views} {placed : Placed} (emitted : placed ∈ all views)
    (goesOn : placed.head.kind = .enumeration ∨ placed.HeaderGoesOn views.masked) :
    ∀ head ∈ Head.all views.masked,
      ¬ (placed.head.start < head.start ∧ head.start < placed.body.start) := by
  rintro head found ⟨behind, inside⟩
  obtain ⟨isHead, hasBody⟩ := of_mem_among emitted
  have stands := Head.standsIn_of_mem_all found
  rcases goesOn with isEnumeration | goesOn
  · rw [start_eq_of_enumeration isEnumeration hasBody] at inside
    exact (Head.standsIn_of_mem_all isHead).not_inside_enumeration isEnumeration stands
      ⟨behind, inside⟩
  · obtain ⟨left, read, -⟩ := stands.read
    have quiet := goesOn head.start inside behind
      (stands.startsLine.resolve_left (Nat.ne_of_gt (Nat.zero_lt_of_lt behind)))
    rw [Head.opensStatement_of_read? read] at quiet
    exact Bool.noConfusion quiet

/-! ### Headers of more than one line -/

theorem all_eq_among {views : Views} {heads : List Head}
    (perm : (DeclarationKind.all.flatMap fun kind => Head.ofKind kind views.masked).Perm heads)
    (inOrder : heads.Pairwise fun first second => first.start < second.start) :
    all views = among views 0 heads := by
  rw [all, Head.all_eq_of_perm perm inOrder]

/-- A record and an enumeration whose headers go on over several lines. -/
def spacedText : List Char :=
  "interface Order\n  extends Base,\n    Named \x7b id: string \x7d\nenum Kind\n\x7b A \x7d\n".toList

theorem header_isOwn_spaced :
    (all (Views.of spacedText)).map (·.head.name) = ["Order".toList, "Kind".toList] ∧
      ∀ placed ∈ all (Views.of spacedText), (placed.head.kind = .enumeration ∨
          placed.HeaderGoesOn (Views.of spacedText).masked) ∧
        ∀ head ∈ Head.all (Views.of spacedText).masked,
          ¬ (placed.head.start < head.start ∧ head.start < placed.body.start) := by
  have isAll : all (Views.of spacedText) = among (Views.of spacedText) 0
      [⟨.record, "Order".toList, 0, 15⟩, ⟨.enumeration, "Kind".toList, 57, 68⟩] :=
    all_eq_among (by decide +kernel) (by decide)
  have emitted : (all (Views.of spacedText)).map (·.head.name) = ["Order".toList, "Kind".toList] := by
    rw [isAll]
    decide +kernel
  have goesOn : ∀ placed ∈ all (Views.of spacedText), placed.head.kind = .enumeration ∨
      placed.HeaderGoesOn (Views.of spacedText).masked := by
    rw [isAll]
    decide +kernel
  exact ⟨emitted, fun placed member =>
    ⟨goesOn placed member, header_isOwn member (goesOn placed member)⟩⟩

/-- The header of a declaration of the text reaches over the head of another one. -/
def ReachesOver (text : List Char) : Prop :=
  ∃ placed ∈ all (Views.of text), ∃ head ∈ Head.all (Views.of text).masked,
    placed.head.start < head.start ∧ head.start < placed.body.start

theorem reachesOver_of_heads {text : List Char} {heads : List Head}
    (perm : (DeclarationKind.all.flatMap fun kind =>
      Head.ofKind kind (Views.of text).masked).Perm heads)
    (inOrder : heads.Pairwise fun first second => first.start < second.start)
    (reaches : ∃ placed ∈ among (Views.of text) 0 heads, ∃ head ∈ heads,
      placed.head.start < head.start ∧ head.start < placed.body.start) : ReachesOver text := by
  rw [ReachesOver, all_eq_among perm inOrder, Head.all_eq_of_perm perm inOrder]
  exact reaches

/-- A record without a body borrows the block of the next record, the annotation of a constant that of the
next alias, and the type parameters of an alias may hold a whole record. -/
theorem reachesOver_next :
    ReachesOver "interface Pending extends Base\ninterface Next \x7b a: string \x7d\n".toList ∧
      ReachesOver "declare const pending: Base\nexport type Next = \x7b a: string \x7d;\n".toList ∧
      ReachesOver "type Wide<\ninterface Next \x7b a: string \x7d\n> = string;\n".toList := by
  refine ⟨?_, ?_, ?_⟩
  · exact @reachesOver_of_heads _
      [⟨.record, "Pending".toList, 0, 17⟩, ⟨.record, "Next".toList, 31, 45⟩]
      (by decide +kernel) (by decide) (by decide +kernel)
  · exact @reachesOver_of_heads _
      [⟨.constantGroup, "pending".toList, 0, 48⟩, ⟨.typeAlias, "Next".toList, 28, 46⟩]
      (by decide +kernel) (by decide) (by decide +kernel)
  · exact @reachesOver_of_heads _
      [⟨.typeAlias, "Wide".toList, 0, 43⟩, ⟨.record, "Next".toList, 11, 25⟩]
      (by decide +kernel) (by decide) (by decide +kernel)

end Placed

end Concord
