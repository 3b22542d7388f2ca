/-
What string literals hold does not decide what is declared. Heads, braces and members are found in the
masked view. The clean view is asked only whether the expression of an alias holds anything, and for the
names of enumeration members; both questions are put to a stretch that begins behind a character of code,
and there the two views are the same up to a quote. A quote makes an expression hold something and keeps a
name from being an identifier, whatever stands behind it.
-/

import Concord.Proofs.Declaration.Headers
import Concord.Proofs.Source.Depth
import Concord.Proofs.Source.Masking
import Concord.Proofs.Text.Collapse

namespace Concord

open Source Text

/-! ### Readings that a quote decides -/

namespace Member

theorem typeText_ne_empty {text : List Char} {c : Char} (member : c ∈ text)
    (notBlank : isBlank c = false) (noSeparator : (c == ';' || c == ',') = false) :
    typeText text ≠ "" := by
  intro isEmpty
  have inside : c ∈ (typeText text).toList := by
    rw [typeText, String.toList_ofList]
    exact mem_strip (mem_trimEnd (mem_collapse member notBlank) noSeparator) notBlank
  rw [isEmpty] at inside
  exact absurd inside (by simp)

theorem typeText_eq_empty_iff {first second : List Char} (alike : LookAlike first second) :
    typeText first = "" ↔ typeText second = "" := by
  rcases alike.eq_or_quotes with rfl | ⟨⟨quote, inside, quotes⟩, ⟨other, insideOther, alsoQuotes⟩⟩
  · rfl
  · refine iff_of_false (typeText_ne_empty inside ?_ ?_) (typeText_ne_empty insideOther ?_ ?_)
    · exact not_isBlank_of_isQuote quotes
    · exact @isIn_of_isQuote (fun c => c == ';' || c == ',') _ _ quotes (by decide)
    · exact not_isBlank_of_isQuote alsoQuotes
    · exact @isIn_of_isQuote (fun c => c == ';' || c == ',') _ _ alsoQuotes (by decide)

theorem not_isIdentifier_of_quote {text : List Char} {quote : Char} (inside : quote ∈ text)
    (quotes : isQuote quote = true) : isIdentifier text = false := by
  by_contra named
  have inWord := isWord_of_isIdentifier (Bool.not_eq_false _ ▸ named) quote inside
  rw [not_continuesIdentifier_of_isQuote quotes] at inWord
  exact absurd inWord (by simp)

theorem enumerationMember?_eq {first second : List Char} (alike : LookAlike first second) :
    enumerationMember? first = enumerationMember? second := by
  have stripped : LookAlike (strip (before (· == '=') first)) (strip (before (· == '=') second)) :=
    (alike.takeWhile _).strip
  rw [enumerationMember?, enumerationMember?]
  rcases stripped.eq_or_quotes with same | ⟨⟨_, inside, quotes⟩, ⟨_, insideOther, alsoQuotes⟩⟩
  · rw [same]
  · simp only [not_isIdentifier_of_quote inside quotes,
      not_isIdentifier_of_quote insideOther alsoQuotes]
    rfl

end Member

/-! ### The character before a body -/

theorem Source.getElem?_of_suffix {text left : List Char} {c : Char} (ends : c :: left <:+ text) :
    text[text.length - (left.length + 1)]? = some c := by
  obtain ⟨opening, rfl⟩ := ends
  rw [List.length_append, List.length_cons, Nat.add_sub_cancel,
    List.getElem?_append_right (Nat.le_refl _), Nat.sub_self]
  rfl

theorem Source.Span.getElem?_of_slice {span : Span} {text : List Char} {index : Nat} {c : Char}
    (found : (span.slice text)[index]? = some c) : text[span.start + index]? = some c := by
  rw [slice, List.getElem?_take] at found
  rw [← List.getElem?_drop]
  exact (Option.ite_none_right_eq_some.1 found).2

namespace Head

theorem Reaches.isSuffix {text rest : List Char} (reaches : Reaches text rest) : rest <:+ text := by
  obtain ⟨opening, -, rfl⟩ := reaches
  exact List.suffix_append opening rest

theorem isSuffix_of_behindTypeParameters {inner : Bool} {text rest : List Char}
    (found : behindTypeParameters inner text = some rest) : rest <:+ text := by
  induction text generalizing inner with
  | nil => exact absurd found (by simp [behindTypeParameters])
  | cons c text inductionHypothesis =>
    have further : ∀ {inner}, behindTypeParameters inner text = some rest → rest <:+ c :: text :=
      fun later => (inductionHypothesis later).trans (List.suffix_cons c text)
    rw [behindTypeParameters] at found
    split at found
    · split at found
      · exact further found
      · exact Option.some.inj found ▸ List.suffix_cons c text
    · split at found
      · split at found
        · exact absurd found (by simp)
        · exact further found
      · exact further found

theorem isSuffix_of_behindOptionalParameters {text rest : List Char}
    (found : behindOptionalParameters text = some rest) : rest <:+ text := by
  unfold behindOptionalParameters at found
  split at found
  · exact (isSuffix_of_behindTypeParameters found).trans (List.suffix_cons _ _)
  · exact Option.some.inj found ▸ List.suffix_refl _

/-- The head of an alias ends with an equals sign. -/
theorem isSuffix_of_typeAlias? {line name left : List Char}
    (found : read? .typeAlias line = some (name, left)) : '=' :: left <:+ line := by
  simp only [read?, typeAlias?, bind, Option.bind_eq_some_iff] at found
  obtain ⟨⟨named, rest⟩, ⟨behind, keyword, isName⟩, behindParameters, parameters, left', equals, same⟩ :=
    found
  have isLeft : left' = left := (Prod.mk.inj (Option.some.inj same)).2
  have reached : Reaches line rest :=
    (reaches_behindModifiers line).trans <|
      (reaches_of_inlineKeyword? (by decide) keyword).trans (reaches_of_identifier? isName)
  have opened : stripStart behindParameters = '=' :: left := isLeft ▸ eq_cons_of_behind? equals
  rw [← opened]
  exact (List.dropWhile_suffix _).trans <| (isSuffix_of_behindOptionalParameters parameters).trans <|
    (List.dropWhile_suffix _).trans reached.isSuffix

/-- The head of an enumeration ends with a brace. -/
theorem isSuffix_of_enumeration? {line name left : List Char}
    (found : read? .enumeration line = some (name, left)) : '\x7b' :: left <:+ line := by
  obtain ⟨gap, reaches, -⟩ := exists_gap_of_enumeration? found
  exact (List.suffix_append gap _).trans reaches.isSuffix

/-- The head of a record ends with the last character of its name. -/
theorem exists_isSuffix_of_record? {line name left : List Char}
    (found : read? .record line = some (name, left)) :
    ∃ c, continuesIdentifier c = true ∧ c :: left <:+ line := by
  simp only [read?, record?, Option.bind_eq_some_iff] at found
  obtain ⟨behind, keyword, isName⟩ := found
  have reached : Reaches line behind :=
    (reaches_behindModifiers line).trans (reaches_of_inlineKeyword? (by decide) keyword)
  have named := isIdentifier_of_identifier? isName
  rcases List.eq_nil_or_concat name with rfl | ⟨opening, c, rfl⟩
  · exact absurd named (by simp [isIdentifier])
  · rw [List.concat_eq_append] at named isName
    have inName : c ∈ opening ++ [c] := by simp
    refine ⟨c, isWord_of_isIdentifier named c inName, List.IsSuffix.trans ?_ reached.isSuffix⟩
    rw [identifier?_append isName, List.append_assoc]
    exact List.suffix_append opening _

/-- A head stops behind the character with which it ends. -/
theorem getElem?_of_isSuffix {head : Head} {masked left : List Char} {c : Char}
    (isStop : head.stop = head.start + ((masked.drop head.start).length - left.length))
    (ends : c :: left <:+ masked.drop head.start) :
    0 < head.stop ∧ masked[head.stop - 1]? = some c := by
  have size := ends.length_le
  rw [List.length_cons] at size
  have place : head.stop - 1 =
      head.start + ((masked.drop head.start).length - (left.length + 1)) := by omega
  refine ⟨by omega, ?_⟩
  rw [place, ← List.getElem?_drop]
  exact Source.getElem?_of_suffix ends

end Head

/-! ### The character before an entry of a list -/

namespace Source

theorem start_of_mem_membersFrom_list {count : Nat} {text : List Char} {walk : Walk} {span : Span}
    (member : span ∈ membersFrom .list walk count text) :
    span.start = walk.begun ∨
      ∃ read, text[read]? = some ',' ∧ span.start = walk.index + read + 1 := by
  fun_induction membersFrom .list walk count text with
  | case1 => exact .inl (congrArg Span.start (eq_of_mem_member member))
  | case2 => exact .inl (congrArg Span.start (eq_of_mem_member member))
  | case3 walk count c rest separates inductionHypothesis =>
    rcases List.mem_append.1 member with isOwn | later
    · exact .inl (congrArg Span.start (eq_of_mem_member isOwn))
    · right
      rcases inductionHypothesis later with begins | ⟨read, isComma, place⟩
      · refine ⟨0, ?_, begins⟩
        simp only [Separation.separates, Separation.list, Bool.and_false, Bool.false_and, Bool.or_false,
          Bool.and_eq_true, List.contains_cons, List.contains_nil, beq_iff_eq] at separates
        rw [separates.2]
        rfl
      · refine ⟨read + 1, isComma, place.trans ?_⟩
        simp only [Walk.restart]
        omega
  | case4 walk count c rest goesOn inductionHypothesis =>
    rcases inductionHypothesis member with begins | ⟨read, isComma, place⟩
    · exact .inl begins
    · refine .inr ⟨read + 1, isComma, place.trans ?_⟩
      simp only [Walk.advance]
      omega

/-- An entry of a list begins where the list begins, or behind a comma. -/
theorem start_of_mem_list {text : List Char} {start stop : Nat} {span : Span}
    (member : span ∈ members .list text start stop) :
    span.start = start ∨ 0 < span.start ∧ text[span.start - 1]? = some ',' := by
  refine (start_of_mem_membersFrom_list member).imp_right ?_
  rintro ⟨read, isComma, place⟩
  rw [List.getElem?_drop] at isComma
  rw [place, Nat.add_sub_cancel]
  exact ⟨Nat.succ_pos _, isComma⟩

end Source

/-! ### Declarations as the masked view has them -/

/-- The views of a source of which only the masked one is known. -/
def Source.Views.veiled (views : Views) : Views :=
  ⟨views.masked, views.masked⟩

variable {source : List Char}

theorem Head.body?_veiled {head : Head} (stands : head.StandsIn (Views.of source).masked) :
    head.body? (Views.of source).veiled = head.body? (Views.of source) := by
  cases isKind : head.kind with
  | record | enumeration | constantGroup =>
    simp only [Head.body?, isKind]
    rfl
  | typeAlias =>
    obtain ⟨left, read, isStop⟩ := stands.read
    rw [isKind] at read
    obtain ⟨behind, equals⟩ := getElem?_of_isSuffix isStop (isSuffix_of_typeAlias? read)
    have veils (stop : Nat) :=
      Views.veils_slice source ⟨head.stop, stop⟩ behind equals (by decide)
    simp only [Head.body?, isKind]
    exact if_congr (Member.typeText_eq_empty_iff (veils _).sameToQuote.lookAlike).symm rfl rfl

namespace Placed

theorem among_veiled {heads : List Head}
    (stand : ∀ head ∈ heads, head.StandsIn (Views.of source).masked) (consumed : Nat) :
    among (Views.of source).veiled consumed heads = among (Views.of source) consumed heads := by
  induction heads generalizing consumed with
  | nil => rfl
  | cons head heads inductionHypothesis =>
    obtain ⟨here, later⟩ := List.forall_mem_cons.1 stand
    rw [among, among, Head.body?_veiled here, inductionHypothesis later]
    split
    · rfl
    · split
      · rfl
      · rw [inductionHypothesis later]

/-- The masked view alone says which heads have a body, and where. -/
theorem all_veiled (source : List Char) : all (Views.of source).veiled = all (Views.of source) :=
  among_veiled (fun _ => Head.standsIn_of_mem_all) 0

/-- The body of an enumeration opens with the brace that ends its head. -/
theorem exists_block_of_enumeration {views : Views} {placed : Placed} (emitted : placed ∈ all views)
    (isEnumeration : placed.head.kind = .enumeration) :
    ∃ closing, placed.body = .block (placed.head.stop - 1) closing ∧
      0 < placed.head.stop ∧ views.masked[placed.head.stop - 1]? = some '\x7b' := by
  obtain ⟨isHead, hasBody⟩ := of_mem_among emitted
  simp only [Head.body?, Head.opening?, isEnumeration, Option.bind_some, bind,
    Option.bind_eq_some_iff, pure, Option.some.injEq] at hasBody
  obtain ⟨closing, -, isBody⟩ := hasBody
  obtain ⟨left, read, isStop⟩ := (Head.standsIn_of_mem_all isHead).read
  rw [isEnumeration] at read
  exact ⟨closing, isBody.symm, Head.getElem?_of_isSuffix isStop (Head.isSuffix_of_enumeration? read)⟩

/-- The masked view alone says what the members of an enumeration are. -/
theorem fields_veiled {placed : Placed} (emitted : placed ∈ all (Views.of source))
    (isEnumeration : placed.head.kind = .enumeration) :
    placed.fields (Views.of source).veiled = placed.fields (Views.of source) := by
  obtain ⟨closing, isBody, behind, brace⟩ := exists_block_of_enumeration emitted isEnumeration
  simp only [Placed.fields, isEnumeration, isBody, Member.enumerationMembers]
  refine List.filterMap_congr fun span isMember => (Member.enumerationMember?_eq ?_).symm
  rcases start_of_mem_list isMember with begins | ⟨later, comma⟩
  · rw [Nat.sub_add_cancel behind] at begins
    rw [← begins] at behind brace
    exact (Views.veils_slice source _ behind brace (by decide)).sameToQuote.lookAlike
  · exact (Views.veils_slice source _ later comma (by decide)).sameToQuote.lookAlike

end Placed

end Concord
