/-
Methods by place. Where a method and its parts stand is decided in the masked view; the clean view is read
for its parameters and for the type that it returns, and asked whether a colon stands before that type,
which it answers as the masked view does. So two regions that the masked view cannot tell apart declare the
same things in the same places: declarations of the same kind and name, enumerations with the same members,
and the same methods.
-/

import Concord.Proofs.Declaration.Masked
import Concord.Proofs.Source.Matching
import Mathlib.Data.List.Forall2

namespace Concord

open Source Text

/-! ### Where methods stand -/

namespace Member

/-- A method by place: where it begins, what stands listed between its parentheses, and what stands behind
them. -/
structure Signature where
  owner : String
  name : String
  start : Nat
  listed : Span
  behind : Span
  deriving DecidableEq, Repr

/-- The signature of the method that a member declares, as the masked view has it. -/
def signature? (owner : String) (masked : List Char) (span : Span) : Option Signature := do
  let member := span.slice masked
  let text := stripStart member
  let start := span.start + (member.length - text.length)
  let (name, rest) ← methodHead? text
  let opening := start + (text.length - rest.length)
  let closing ← closingParenthesis? masked opening
  if closing < span.stop ∧ (strip (Span.slice ⟨closing + 1, span.stop⟩ masked)).head? = some ':' then
    return ⟨owner, String.ofList name, start, ⟨opening + 1, closing⟩, ⟨closing + 1, span.stop⟩⟩
  else none

/-- The method with a signature, as it is read in a passage. -/
def Signature.method (signature : Signature) (passage : Passage) : ServiceMethod :=
  { owner := signature.owner
    name := signature.name
    parameters := parameters (signature.listed.slice passage.views.clean)
    returnType := typeText (strip (signature.behind.slice passage.views.clean)).tail
    location := passage.locate signature.start }

theorem isSuffix_of_spacedKeyword? {keyword text rest : List Char}
    (found : spacedKeyword? keyword text = some rest) : rest <:+ text := by
  unfold spacedKeyword? at found
  split at found
  · rename_i c behind after
    obtain ⟨-, same⟩ := Option.ite_none_right_eq_some.1 found
    rw [← Option.some.inj same, eq_append_of_after? after]
    exact (List.dropWhile_suffix _).trans <| (List.suffix_cons c behind).trans <|
      List.suffix_append keyword _
  · exact absurd found (by simp)

theorem isSuffix_behindMethodParameters (text : List Char) : behindMethodParameters text <:+ text := by
  unfold behindMethodParameters
  split
  · split
    · exact (List.dropWhile_suffix _).trans (List.suffix_cons _ _)
    · exact List.suffix_refl _
  · exact List.suffix_refl _

theorem isSuffix_of_parenthesis {behind left : List Char}
    (opens : stripStart (behindMethodParameters (stripStart behind)) = '(' :: left) :
    '(' :: left <:+ behind := by
  rw [← opens]
  exact (List.dropWhile_suffix _).trans <| (isSuffix_behindMethodParameters _).trans <|
    List.dropWhile_suffix _

/-- Behind the name of a method its parameters open with a parenthesis. -/
theorem exists_parenthesis_of_methodName? {text name rest : List Char}
    (found : methodName? text = some (name, rest)) : ∃ left, rest = '(' :: left ∧ rest <:+ text := by
  simp only [methodName?, bind, Option.bind_eq_some_iff] at found
  obtain ⟨⟨named, behind⟩, isName, found⟩ := found
  split at found
  · rename_i left isParenthesis
    obtain ⟨-, rfl⟩ := Prod.mk.inj (Option.some.inj found)
    refine ⟨left, rfl, ?_⟩
    rw [identifier?_append isName]
    refine List.IsSuffix.trans ?_ (List.suffix_append named behind)
    -- A question mark may stand behind the name.
    split at isParenthesis
    · rename_i behindMark isMarked
      obtain rfl : behind = '?' :: behindMark := isMarked
      exact (isSuffix_of_parenthesis isParenthesis).trans (List.suffix_cons _ _)
    · exact isSuffix_of_parenthesis isParenthesis
  · exact absurd found (by simp)

theorem exists_parenthesis_of_methodHead? {text name rest : List Char}
    (found : methodHead? text = some (name, rest)) : ∃ left, rest = '(' :: left ∧ rest <:+ text := by
  have asynchronous : ∀ text, ((spacedKeyword? "async".toList text).bind methodName?).or
      (methodName? text) = some (name, rest) → ∃ left, rest = '(' :: left ∧ rest <:+ text := by
    intro text found
    rcases Option.or_eq_some_iff.1 found with isAsync | ⟨-, isName⟩
    · obtain ⟨behind, keyword, isName⟩ := Option.bind_eq_some_iff.1 isAsync
      obtain ⟨left, opens, isSuffix⟩ := exists_parenthesis_of_methodName? isName
      exact ⟨left, opens, isSuffix.trans (isSuffix_of_spacedKeyword? keyword)⟩
    · exact exists_parenthesis_of_methodName? isName
  rcases Option.or_eq_some_iff.1 found with isReadonly | ⟨-, direct⟩
  · obtain ⟨behind, keyword, isHead⟩ := Option.bind_eq_some_iff.1 isReadonly
    obtain ⟨left, opens, isSuffix⟩ := asynchronous behind isHead
    exact ⟨left, opens, isSuffix.trans (isSuffix_of_spacedKeyword? keyword)⟩
  · exact asynchronous text direct

/-- What a signature lists stands behind a parenthesis. -/
theorem getElem?_of_signature? {owner : String} {masked : List Char} {span : Span}
    {signature : Signature} (found : signature? owner masked span = some signature) :
    0 < signature.listed.start ∧ masked[signature.listed.start - 1]? = some '(' := by
  simp only [signature?, bind, Option.bind_eq_some_iff, Option.ite_none_right_eq_some, pure] at found
  obtain ⟨⟨name, rest⟩, isHead, closing, -, -, same⟩ := found
  obtain ⟨left, rfl, isSuffix⟩ := exists_parenthesis_of_methodHead? isHead
  have inMember : '(' :: left <:+ span.slice masked := isSuffix.trans (List.dropWhile_suffix _)
  have shorter := isSuffix.length_le
  have within : (stripStart (span.slice masked)).length ≤ (span.slice masked).length :=
    (List.dropWhile_suffix _).length_le
  rw [List.length_cons] at shorter
  have place : signature.listed.start - 1 =
      span.start + ((span.slice masked).length - (left.length + 1)) := by
    rw [← Option.some.inj same, List.length_cons]
    simp only
    omega
  refine ⟨?_, ?_⟩
  · rw [← Option.some.inj same]
    exact Nat.succ_pos _
  · rw [place]
    exact Span.getElem?_of_slice (getElem?_of_suffix inMember)

variable (region : Region) (document : String)

/-- A method is read where its signature says. -/
theorem method?_eq (owner : String) (span : Span) :
    ((method? (region.passage document).views span).map fun (start, name, parameters, returnType) =>
        (⟨owner, name, parameters, returnType, (region.passage document).locate start⟩ :
          ServiceMethod)) =
      (signature? owner (region.passage document).views.masked span).map
        (·.method (region.passage document)) := by
  simp only [method?, signature?, bind, pure]
  cases methodHead? (stripStart (span.slice (region.passage document).views.masked)) with
  | none => rfl
  | some found =>
    obtain ⟨name, rest⟩ := found
    simp only [Option.bind_some]
    generalize span.start + _ + _ = opening
    cases closes : closingParenthesis? (region.passage document).views.masked opening with
    | none => rfl
    | some closing =>
      have veils := Views.veils_slice region.text.toList ⟨closing + 1, span.stop⟩
        (Nat.succ_pos closing) (getElem?_of_closing? closes) (by decide)
      have sameHead : (strip (Span.slice ⟨closing + 1, span.stop⟩
          (region.passage document).views.clean)).head? =
            (strip (Span.slice ⟨closing + 1, span.stop⟩ (region.passage document).views.masked)).head? :=
        veils.sameToQuote.lookAlike.strip.head?_eq
      simp only [Option.bind_some]
      rw [← sameHead]
      by_cases within : closing < span.stop
      · rw [if_pos within]
        split
        · rename_i returnType isBehind
          rw [if_pos ⟨within, by rw [isBehind]; rfl⟩]
          simp only [Option.map_some, Signature.method, isBehind, List.tail_cons]
        · rename_i noColon
          rw [if_neg]
          · rfl
          · rintro ⟨-, colon⟩
            obtain ⟨returnType, isBehind⟩ := List.head?_eq_some_iff.1 colon
            exact noColon returnType isBehind
      · rw [if_neg within, if_neg fun both => within both.1]
        rfl

theorem methods_eq (owner : String) (opening closing : Nat) :
    methods (region.passage document) owner opening closing =
      ((members .body (region.passage document).views.masked (opening + 1) closing).filterMap
        (signature? owner (region.passage document).views.masked)).map
          (·.method (region.passage document)) := by
  rw [List.map_filterMap]
  exact List.filterMap_congr fun span _ => method?_eq region document owner span

end Member

/-- The signatures of the methods of a record that is a service. -/
def Placed.signatures (placed : Placed) (masked : List Char) (serviceSuffixes : List String) :
    List Member.Signature :=
  match placed.head.kind, placed.body with
  | .record, .block opening closing =>
    if serviceSuffixes.any fun suffix => Text.endsWith placed.head.name suffix.toList then
      (members .body masked (opening + 1) closing).filterMap
        (Member.signature? (String.ofList placed.head.name) masked)
    else []
  | _, _ => []

theorem Placed.methods_eq (placed : Placed) (region : Region) (document : String)
    (serviceSuffixes : List String) :
    placed.methods (region.passage document) serviceSuffixes =
      (placed.signatures (region.passage document).views.masked serviceSuffixes).map
        (·.method (region.passage document)) := by
  simp only [Placed.methods, Placed.signatures]
  cases placed.head.kind with
  | record =>
    cases placed.body with
    | expression span => rfl
    | block opening closing =>
      simp only
      split
      · exact Member.methods_eq region document _ _ _
      · rfl
  | typeAlias | enumeration | constantGroup => rfl

/-- The signatures of all methods in a source, of which the masked view is all that is known. -/
def signaturesOf (masked : List Char) (serviceSuffixes : List String) : List Member.Signature :=
  (Placed.all ⟨masked, masked⟩).flatMap (·.signatures masked serviceSuffixes)

/-- The methods of a region are those with the signatures that the masked view has. -/
theorem methodsOf_eq (region : Region) (document : String) (serviceSuffixes : List String) :
    methodsOf region document serviceSuffixes =
      (signaturesOf (Views.of region.text.toList).masked serviceSuffixes).map
        (·.method (region.passage document)) := by
  have sameHeads : Placed.all ⟨(Views.of region.text.toList).masked, (Views.of region.text.toList).masked⟩ =
      Placed.all (region.passage document).views := Placed.all_veiled region.text.toList
  rw [methodsOf, signaturesOf, sameHeads, List.map_flatMap]
  exact List.flatMap_congr fun placed _ => placed.methods_eq region document serviceSuffixes

/-! ### Regions that look the same -/

/-- What of a declaration string literals leave alone: everything but its types and supertypes and the
fields of a record. -/
structure Declaration.SameOutline (first second : Declaration) : Prop where
  kind : first.kind = second.kind
  name : first.name = second.name
  location : first.location = second.location
  members : first.kind = .enumeration → first.fields = second.fields

/-- What of a method string literals leave alone. -/
structure ServiceMethod.SameOutline (first second : ServiceMethod) : Prop where
  owner : first.owner = second.owner
  name : first.name = second.name
  location : first.location = second.location

section

variable {first second : Region} (sameLine : first.startLine = second.startLine)
  (sameMask : (Views.of first.text.toList).masked = (Views.of second.text.toList).masked)

include sameMask

/-- Two regions with the same masked view have their declarations in the same places. -/
theorem all_of_sameMask :
    Placed.all (Views.of first.text.toList) = Placed.all (Views.of second.text.toList) := by
  rw [← Placed.all_veiled, ← Placed.all_veiled, Views.veiled, Views.veiled, sameMask]

include sameLine

theorem locate_of_sameMask (document : String) (offset : Nat) :
    (first.passage document).locate offset = (second.passage document).locate offset := by
  simp only [Passage.locate, Region.passage, Views.lineOf, sameLine, sameMask]

theorem sameOutline_of_sameMask (document : String) {placed : Placed}
    (emitted : placed ∈ Placed.all (Views.of first.text.toList)) :
    (placed.declaration (first.passage document)).SameOutline
      (placed.declaration (second.passage document)) := by
  have emittedAgain := emitted
  rw [all_of_sameMask sameMask] at emittedAgain
  refine ⟨rfl, rfl, locate_of_sameMask sameLine sameMask document placed.head.start, fun kind => ?_⟩
  calc placed.fields (Views.of first.text.toList)
      = placed.fields (Views.of first.text.toList).veiled := (Placed.fields_veiled emitted kind).symm
    _ = placed.fields (Views.of second.text.toList).veiled := by rw [Views.veiled, Views.veiled, sameMask]
    _ = placed.fields (Views.of second.text.toList) := Placed.fields_veiled emittedAgain kind

/-- Two regions with the same masked view declare the same in the same places, and their enumerations have
the same members and their services the same methods. -/
theorem outlines_of_sameMask (document : String) (serviceSuffixes : List String) :
    List.Forall₂ Declaration.SameOutline (declarationsOf first document)
        (declarationsOf second document) ∧
      List.Forall₂ ServiceMethod.SameOutline (methodsOf first document serviceSuffixes)
        (methodsOf second document serviceSuffixes) := by
  constructor
  · have samePlaces : Placed.all (second.passage document).views =
        Placed.all (first.passage document).views := (all_of_sameMask sameMask).symm
    rw [declarationsOf, declarationsOf, samePlaces, List.forall₂_map_left_iff, List.forall₂_map_right_iff,
      List.forall₂_same]
    exact fun placed emitted => sameOutline_of_sameMask sameLine sameMask document emitted
  · rw [methodsOf_eq, methodsOf_eq, ← sameMask, List.forall₂_map_left_iff, List.forall₂_map_right_iff,
      List.forall₂_same]
    exact fun signature _ =>
      ⟨rfl, rfl, locate_of_sameMask sameLine sameMask document signature.start⟩

end

/-- An enumeration and a service whose literals hold separators and brackets. -/
def bracketedRegion : Region :=
  { startLine := 1
    text := "enum Kind \x7b Open = 'a,\x7d' \x7d\ninterface AService \x7b place(note: '(,)'): '\x7b' \x7d\n" }

/-- The same with literals of the same length that hold words. -/
def wordyRegion : Region :=
  { startLine := 1
    text := "enum Kind \x7b Open = 'all' \x7d\ninterface AService \x7b place(note: 'any'): 'x' \x7d\n" }

theorem outlines_of_sameMask_literals :
    (declarationsOf bracketedRegion "orders.ts").map (·.name) = ["Kind", "AService"] ∧
      (methodsOf bracketedRegion "orders.ts" ["Service"]).map (·.name) = ["place"] ∧
      bracketedRegion.startLine = wordyRegion.startLine ∧
      (Views.of bracketedRegion.text.toList).masked = (Views.of wordyRegion.text.toList).masked ∧
      List.Forall₂ Declaration.SameOutline (declarationsOf bracketedRegion "orders.ts")
        (declarationsOf wordyRegion "orders.ts") ∧
      List.Forall₂ ServiceMethod.SameOutline (methodsOf bracketedRegion "orders.ts" ["Service"])
        (methodsOf wordyRegion "orders.ts" ["Service"]) := by
  have isAll : Placed.all (bracketedRegion.passage "orders.ts").views =
      Placed.among (bracketedRegion.passage "orders.ts").views 0
        [⟨.enumeration, "Kind".toList, 0, 11⟩, ⟨.record, "AService".toList, 27, 45⟩] :=
    Placed.all_eq_among (by decide +kernel) (by decide)
  have sameMask : (Views.of bracketedRegion.text.toList).masked =
      (Views.of wordyRegion.text.toList).masked := by
    decide +kernel
  refine ⟨?_, ?_, rfl, sameMask,
    @outlines_of_sameMask bracketedRegion wordyRegion rfl sameMask "orders.ts" ["Service"]⟩
  · rw [declarationsOf, isAll]
    decide +kernel
  · rw [methodsOf, isAll]
    decide +kernel

end Concord
