/-
What a convention explains does not depend on how its tables are written. The rules are asked one after another,
and what all of them say together is whether one of them fits; the suffix that is taken off is the longest that
leaves something, and a name has one ending of a given length only. So for both tables it matters what is listed,
and neither in which order nor how often.
-/

import Concord.Proofs.Naming.Audit
import Mathlib.Data.List.Sort

namespace Concord.Naming

open Text

/-! ### Suffixes -/

/-- The name is the base with the suffix behind it, and neither of the two is empty. -/
structure IsTakenOff (suffix name base : String) : Prop where
  something : suffix ≠ ""
  isLeft : base ≠ ""
  isName : name = base ++ suffix

/-- What a name is without the longest of the listed suffixes that leave something; the name itself if there is
none. -/
inductive IsStripped (suffixes : List String) (name : String) : (base : String) → Prop
  | longest {suffix base : String} (listed : suffix ∈ suffixes) (takenOff : IsTakenOff suffix name base)
      (longest : ∀ other ∈ suffixes, ∀ rest, IsTakenOff other name rest → other.length ≤ suffix.length) :
      IsStripped suffixes name base
  | whole (none : ∀ suffix ∈ suffixes, ∀ rest, ¬ IsTakenOff suffix name rest) :
      IsStripped suffixes name name

theorem entityOf?_eq_some_iff_isTakenOff {suffix name base : String} :
    entityOf? suffix name = some base ↔ IsTakenOff suffix name base :=
  entityOf?_eq_some_iff.trans
    ⟨fun all => ⟨all.1, all.2.1, all.2.2⟩, fun off => ⟨off.something, off.isLeft, off.isName⟩⟩

theorem stripSuffix_eq (suffixes : List String) (name : String) :
    stripSuffix suffixes name =
      ((longestFirst suffixes).findSome? fun suffix => entityOf? suffix name).getD name := by
  have mapped : ((longestFirst suffixes).findSome? fun suffix => entityOf? suffix name) =
      ((longestFirst suffixes).findSome? fun suffix =>
        withoutSuffix? name.toList suffix.toList).map String.ofList :=
    List.map_findSome?.symm
  rw [mapped, stripSuffix]
  cases (longestFirst suffixes).findSome? fun suffix => withoutSuffix? name.toList suffix.toList <;> rfl

theorem pairwise_longestFirst (suffixes : List String) :
    (longestFirst suffixes).Pairwise fun first second => second.length ≤ first.length :=
  List.pairwise_mergeSort' (Order.Preimage String.length (· ≥ ·)) suffixes

theorem mem_longestFirst {suffixes : List String} {suffix : String} :
    suffix ∈ longestFirst suffixes ↔ suffix ∈ suffixes :=
  List.mem_mergeSort

theorem isStripped_stripSuffix (suffixes : List String) (name : String) :
    IsStripped suffixes name (stripSuffix suffixes name) := by
  rw [stripSuffix_eq]
  cases found : (longestFirst suffixes).findSome? fun suffix => entityOf? suffix name with
  | none =>
    refine .whole fun suffix listed rest takenOff => ?_
    have nothing := List.findSome?_eq_none_iff.1 found suffix (mem_longestFirst.2 listed)
    rw [entityOf?_eq_some_iff_isTakenOff.2 takenOff] at nothing
    exact absurd nothing (by simp)
  | some base =>
    obtain ⟨longer, suffix, shorter, isList, takenOff, passedOver⟩ := List.findSome?_eq_some_iff.1 found
    have inOrder := pairwise_longestFirst suffixes
    rw [isList, List.pairwise_append, List.pairwise_cons] at inOrder
    have listed : suffix ∈ longestFirst suffixes := by simp [isList]
    refine .longest (mem_longestFirst.1 listed) (entityOf?_eq_some_iff_isTakenOff.1 takenOff) ?_
    intro other otherListed rest otherTakenOff
    have place := mem_longestFirst.2 otherListed
    rw [isList, List.mem_append, List.mem_cons] at place
    -- What stands before the suffix is passed over, and nothing longer stands behind it.
    rcases place with before | rfl | behind
    · have nothing := passedOver other before
      rw [entityOf?_eq_some_iff_isTakenOff.2 otherTakenOff] at nothing
      exact absurd nothing (by simp)
    · exact Nat.le_refl _
    · exact inOrder.2.1.1 other behind

/-- A name has one ending of a given length. -/
theorem IsTakenOff.base_eq {suffix other name base rest : String} (takenOff : IsTakenOff suffix name base)
    (otherTakenOff : IsTakenOff other name rest) (same : suffix.length = other.length) : base = rest := by
  have isName := congrArg String.toList (takenOff.isName.symm.trans otherTakenOff.isName)
  rw [String.toList_append, String.toList_append] at isName
  rw [← String.length_toList, ← String.length_toList] at same
  exact String.toList_inj.1 (List.append_inj_left' isName same)

theorem IsStripped.unique {suffixes : List String} {name base rest : String}
    (stripped : IsStripped suffixes name base) (also : IsStripped suffixes name rest) : base = rest := by
  cases stripped with
  | longest listed takenOff longest =>
    cases also with
    | longest otherListed otherTakenOff otherLongest =>
      exact takenOff.base_eq otherTakenOff <|
        Nat.le_antisymm (otherLongest _ listed _ takenOff) (longest _ otherListed _ otherTakenOff)
    | whole none => exact absurd takenOff (none _ listed _)
  | whole none =>
    cases also with
    | longest otherListed otherTakenOff _ => exact absurd otherTakenOff (none _ otherListed _)
    | whole _ => rfl

theorem stripSuffix_eq_iff {suffixes : List String} {name base : String} :
    stripSuffix suffixes name = base ↔ IsStripped suffixes name base :=
  ⟨fun same => same ▸ isStripped_stripSuffix suffixes name,
    fun stripped => (isStripped_stripSuffix suffixes name).unique stripped⟩

section

variable {suffixes others : List String} (same : ∀ suffix, suffix ∈ others ↔ suffix ∈ suffixes)

include same

theorem IsStripped.of_sameTable {name base : String} (stripped : IsStripped suffixes name base) :
    IsStripped others name base := by
  cases stripped with
  | longest listed takenOff longest =>
    exact .longest ((same _).2 listed) takenOff fun other member => longest other ((same other).1 member)
  | whole none => exact .whole fun suffix member => none suffix ((same suffix).1 member)

theorem stripSuffix_of_sameTable (name : String) : stripSuffix others name = stripSuffix suffixes name :=
  stripSuffix_eq_iff.2 ((isStripped_stripSuffix suffixes name).of_sameTable same)

theorem haveOneBase_of_sameTable (first second : String) :
    haveOneBase others first second = haveOneBase suffixes first second := by
  rw [haveOneBase, haveOneBase, stripSuffix_of_sameTable same, stripSuffix_of_sameTable same]

end

/-! ### Rules -/

section

variable (reading : Pattern.Reading) (isFound : String → String → Bool)

/-- The form can be read, and searching a name for it answers as `isFound` says. -/
def Answers (form : String) : Prop :=
  ∃ pattern, readPattern reading form = .ok pattern ∧
    ∀ name : String, pattern.isFoundIn name.toList = isFound form name

/-- The search does not fail on the rules, and answers as `isFound` says. -/
def AnswersAll (rules : List NamingRule) : Prop :=
  ∀ rule ∈ rules, Answers reading isFound rule.left ∧ Answers reading isFound rule.right

/-- One name has the left form of the rule and the other the right one. -/
def explains (first second : String) (rule : NamingRule) : Bool :=
  (isFound rule.left first && isFound rule.right second) ||
    (isFound rule.right first && isFound rule.left second)

variable {reading isFound}

/-- A pair is expected if one of the rules explains it, or else if both names have one base. -/
theorem isExpectedPair_eq_ok {rules : List NamingRule} (answers : AnswersAll reading isFound rules)
    (suffixes : List String) (first second : String) :
    isExpectedPair reading suffixes first second rules =
      .ok (rules.any (explains isFound first second) || haveOneBase suffixes first second) := by
  induction rules with
  | nil => rfl
  | cons rule rules inductionHypothesis =>
    obtain ⟨⟨⟨left, readLeft, leftFound⟩, right, readRight, rightFound⟩, others⟩ :=
      List.forall_mem_cons.1 answers
    have read : readRule reading rule = .ok ⟨left, right⟩ := by
      rw [readRule, readLeft, readRight]
      rfl
    have fits : PatternPair.matches ⟨left, right⟩ first second = explains isFound first second rule := by
      rw [PatternPair.matches, explains, leftFound, leftFound, rightFound, rightFound]
    rw [isExpectedPair, read, List.any_cons, ← fits]
    simp only [bind, Except.bind]
    cases PatternPair.matches ⟨left, right⟩ first second with
    | true => rfl
    | false => exact inductionHypothesis others

end

/-- What the search answers; a form that cannot be read is found nowhere. -/
def search (reading : Pattern.Reading) (form name : String) : Bool :=
  match readPattern reading form with
  | .ok pattern => pattern.isFoundIn name.toList
  | .error _ => false

variable {reading : Pattern.Reading}

theorem answers_search {form : String} {pattern : Pattern}
    (read : readPattern reading form = .ok pattern) : Answers reading (search reading) form := by
  refine ⟨pattern, read, fun name => ?_⟩
  rw [search, read]

/-- On rules that can be read the search does not fail. -/
theorem AreReadable.answersAll {rules : List NamingRule} (readable : AreReadable reading rules) :
    AnswersAll reading (search reading) rules := by
  intro rule member
  obtain ⟨pair, read⟩ := readable rule member
  unfold readRule at read
  cases readLeft : readPattern reading rule.left with
  | error bad =>
    rw [readLeft] at read
    exact absurd read (by simp [bind, Except.bind])
  | ok left =>
    cases readRight : readPattern reading rule.right with
    | error bad =>
      rw [readLeft, readRight] at read
      exact absurd read (by simp [bind, Except.bind])
    | ok right => exact ⟨answers_search readLeft, answers_search readRight⟩

/-! ### Tables in any order -/

/-- What a convention says of two names is the same whichever comes first and however the tables list their
entries, whatever the search answers as long as it does not fail; and what is left of a name is what the longest
of the suffixes leaves. -/
theorem isExpectedPair_anyTables (reading : Pattern.Reading) (suffixes : List String) :
    (∀ (isFound : String → String → Bool) (rules : List NamingRule) (first second : String),
      AnswersAll reading isFound rules →
        isExpectedPair reading suffixes first second rules =
            .ok (rules.any (explains isFound first second) ||
              lower (stripSuffix suffixes first).toList == lower (stripSuffix suffixes second).toList) ∧
          isExpectedPair reading suffixes second first rules =
            isExpectedPair reading suffixes first second rules ∧
          ∀ (otherSuffixes : List String) (otherRules : List NamingRule),
            (∀ suffix, suffix ∈ otherSuffixes ↔ suffix ∈ suffixes) →
            (∀ rule, rule ∈ otherRules ↔ rule ∈ rules) →
            isExpectedPair reading otherSuffixes first second otherRules =
              isExpectedPair reading suffixes first second rules) ∧
      ∀ name : String,
        (∀ base, stripSuffix suffixes name = base ↔ IsStripped suffixes name base) ∧
          ∀ otherSuffixes : List String, (∀ suffix, suffix ∈ otherSuffixes ↔ suffix ∈ suffixes) →
            stripSuffix otherSuffixes name = stripSuffix suffixes name := by
  refine ⟨fun isFound rules first second answers => ⟨?_, ?_, ?_⟩, fun name => ⟨?_, ?_⟩⟩
  · exact isExpectedPair_eq_ok answers suffixes first second
  · exact isExpectedPair_comm suffixes second first rules
  · intro otherSuffixes otherRules sameSuffixes sameRules
    have otherAnswers : AnswersAll reading isFound otherRules := fun rule member =>
      answers rule ((sameRules rule).1 member)
    have sameExplained : otherRules.any (explains isFound first second) =
        rules.any (explains isFound first second) := by
      rw [Bool.eq_iff_iff, List.any_eq_true, List.any_eq_true]
      simp only [sameRules]
    rw [isExpectedPair_eq_ok answers, isExpectedPair_eq_ok otherAnswers, sameExplained,
      haveOneBase_of_sameTable sameSuffixes]
  · exact fun base => stripSuffix_eq_iff
  · exact fun otherSuffixes same => stripSuffix_of_sameTable same name

/-- The longer of two suffixes that leave something. -/
theorem isStripped_orderIds : IsStripped ["Ids", "s"] "OrderIds" "Order" := by
  have shorter : ∀ other ∈ ["Ids", "s"], other.length ≤ "Ids".length := by decide
  exact .longest (by decide) ⟨by decide, by decide, by decide⟩ fun other listed _ _ => shorter other listed

/-- The rules that hold by default explain a pair of inputs, either way round, from behind and twice over. -/
theorem isExpectedPair_anyTables_orders :
    let reading := Pattern.read Pattern.noNames
    AnswersAll reading (search reading) Settings.defaultNamingRules ∧
      isExpectedPair reading ["Ids", "s"] "CreateOrderInput" "UpdateOrderInput"
        Settings.defaultNamingRules = .ok true ∧
      isExpectedPair reading ["Ids", "s"] "UpdateOrderInput" "CreateOrderInput"
        Settings.defaultNamingRules = .ok true ∧
      isExpectedPair reading ["s", "Ids", "s"] "CreateOrderInput" "UpdateOrderInput"
        (Settings.defaultNamingRules.reverse ++ Settings.defaultNamingRules) = .ok true ∧
      stripSuffix ["Ids", "s"] "OrderIds" = "Order" ∧
      stripSuffix ["s", "Ids", "s"] "OrderIds" = "Order" := by
  intro reading
  have sameSuffixes : ∀ suffix : String, suffix ∈ ["s", "Ids", "s"] ↔ suffix ∈ ["Ids", "s"] := by
    intro suffix
    simp only [List.mem_cons, List.not_mem_nil, or_false]
    tauto
  have answers : AnswersAll reading (search reading) Settings.defaultNamingRules :=
    (Settings.areReadable_defaultNamingRules _).answersAll
  have expected : isExpectedPair reading ["Ids", "s"] "CreateOrderInput" "UpdateOrderInput"
      Settings.defaultNamingRules = .ok true := by decide +kernel
  have sameRules : ∀ rule : NamingRule,
      rule ∈ Settings.defaultNamingRules.reverse ++ Settings.defaultNamingRules ↔
        rule ∈ Settings.defaultNamingRules := by
    intro rule
    rw [List.mem_append, List.mem_reverse, or_self]
  obtain ⟨ofPairs, ofNames⟩ := isExpectedPair_anyTables reading ["Ids", "s"]
  obtain ⟨-, eitherWay, anyTables⟩ := ofPairs (search reading) _ "CreateOrderInput" "UpdateOrderInput" answers
  obtain ⟨isLongest, anyOrder⟩ := ofNames "OrderIds"
  have stripped := (isLongest "Order").2 isStripped_orderIds
  exact ⟨answers, expected, eitherWay.trans expected, (anyTables _ _ sameSuffixes sameRules).trans expected,
    stripped, (anyOrder _ sameSuffixes).trans stripped⟩

end Concord.Naming
