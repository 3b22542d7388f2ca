/-
Lists under another order. The first occurrences of a list are its values, each once, so for two lists
with the same values they are the same up to order. A part that only one entry of a list contributes to
is the same whatever order the entries come in, and an entry that alone has its key is the one found by it.
-/

import Concord.Document
import Mathlib.Data.List.Forall2
import Mathlib.Data.List.Induction
import Mathlib.Data.List.Nodup
import Mathlib.Data.List.Perm.Basic

namespace Concord

/-! ### First occurrences -/

theorem mem_firstOccurrences {Value : Type} [BEq Value] [LawfulBEq Value] {value : Value}
    {values : List Value} : value ∈ firstOccurrences values ↔ value ∈ values :=
  List.mem_eraseDups

theorem nodup_firstOccurrences {Value : Type} [BEq Value] [LawfulBEq Value] (values : List Value) :
    (firstOccurrences values).Nodup := by
  unfold firstOccurrences
  match values with
  | [] => exact List.nodup_nil
  | value :: others =>
    rw [List.eraseDups_cons, List.nodup_cons]
    refine ⟨fun member => ?_, nodup_firstOccurrences (others.filter fun other => !other == value)⟩
    simpa using (List.mem_filter.1 (List.mem_eraseDups.1 member)).2
termination_by values.length
decreasing_by exact Nat.lt_succ_of_le (List.length_filter_le _ _)

theorem firstOccurrences_of_nodup {Value : Type} [BEq Value] [LawfulBEq Value] {values : List Value}
    (distinct : values.Nodup) : firstOccurrences values = values := by
  unfold firstOccurrences
  induction values with
  | nil => rfl
  | cons value others inductionHypothesis =>
    obtain ⟨fresh, distinct⟩ := List.nodup_cons.1 distinct
    have kept : others.filter (fun other => !other == value) = others := by
      refine List.filter_eq_self.2 fun other member => ?_
      simpa using fun same : other = value => fresh (same ▸ member)
    rw [List.eraseDups_cons, kept, inductionHypothesis distinct]

/-- The first occurrences of two lists with the same values differ in order at most. -/
theorem perm_firstOccurrences {Value : Type} [BEq Value] [LawfulBEq Value]
    {first second : List Value} (same : ∀ value, value ∈ first ↔ value ∈ second) :
    (firstOccurrences first).Perm (firstOccurrences second) := by
  refine (List.perm_ext_iff_of_nodup (nodup_firstOccurrences _) (nodup_firstOccurrences _)).2 ?_
  intro value
  rw [mem_firstOccurrences, mem_firstOccurrences, same]

theorem firstOccurrences_append {Value : Type} [BEq Value] [LawfulBEq Value]
    {values further : List Value} (apart : ∀ value ∈ further, value ∉ values) :
    firstOccurrences (values ++ further) = firstOccurrences values ++ firstOccurrences further := by
  have fresh : further.removeAll values = further :=
    List.filter_eq_self.2 fun value member => by simpa using apart value member
  rw [firstOccurrences, List.eraseDups_append, fresh]
  rfl

/-- A value that has occurred is left out. -/
theorem firstOccurrences_concat {Value : Type} [BEq Value] [LawfulBEq Value] (values : List Value)
    (value : Value) [Decidable (value ∈ values)] :
    firstOccurrences (values ++ [value]) =
      if value ∈ values then firstOccurrences values else firstOccurrences values ++ [value] := by
  split
  · next occurred =>
    have nothing : [value].removeAll values = [] :=
      List.filter_eq_nil_iff.2 <| List.forall_mem_singleton.2 <| by simpa using occurred
    rw [firstOccurrences, List.eraseDups_append, nothing, List.eraseDups_nil, List.append_nil]
    rfl
  · next fresh =>
    rw [firstOccurrences_append (List.forall_mem_singleton.2 fresh),
      firstOccurrences_of_nodup (List.nodup_singleton value)]

/-- Values left out before they are mapped would be left out behind. -/
theorem firstOccurrences_map {Value Key : Type} [BEq Value] [LawfulBEq Value] [BEq Key] [LawfulBEq Key]
    (key : Value → Key) (values : List Value) :
    firstOccurrences ((firstOccurrences values).map key) = firstOccurrences (values.map key) := by
  classical
  induction values using List.reverseRecOn with
  | nil => rfl
  | append_singleton values value inductionHypothesis =>
    have known : key value ∈ (firstOccurrences values).map key ↔ key value ∈ values.map key := by
      simp only [List.mem_map, mem_firstOccurrences]
    rw [firstOccurrences_concat, List.map_append, List.map_singleton, firstOccurrences_concat,
      ← inductionHypothesis]
    by_cases occurred : value ∈ values
    · rw [if_pos occurred, if_pos (List.mem_map_of_mem occurred)]
    · rw [if_neg occurred, List.map_append, List.map_singleton, firstOccurrences_concat]
      simp only [known]

/-! ### Parts with a single source -/

theorem flatMap_eq_of_single {Source Value : Type} {part : Source → List Value} {source : Source}
    {sources : List Source} (distinct : sources.Nodup) (member : source ∈ sources)
    (others : ∀ other ∈ sources, other ≠ source → part other = []) :
    sources.flatMap part = part source := by
  obtain ⟨before, after, rfl⟩ := List.append_of_mem member
  have nothing : ∀ part' : List Source, (∀ other ∈ part', other ∈ before ++ source :: after ∧
      other ≠ source) → part'.flatMap part = [] := fun part' apart =>
    List.flatMap_eq_nil_iff.2 fun other inside =>
      others other (apart other inside).1 (apart other inside).2
  rw [List.nodup_append, List.nodup_cons] at distinct
  rw [List.flatMap_append, List.flatMap_cons, nothing before, nothing after, List.nil_append,
    List.append_nil]
  · refine fun other inside => ⟨by simp [inside], fun same => ?_⟩
    exact distinct.2.1.1 (same ▸ inside)
  · refine fun other inside => ⟨by simp [inside], fun same => ?_⟩
    exact distinct.2.2 other inside source List.mem_cons_self same

/-- Where at most one of the sources contributes, their order does not matter. -/
theorem flatMap_eq_of_perm {Source Value : Type} {part : Source → List Value}
    {first second : List Source} (reordered : first.Perm second) (distinct : first.Nodup)
    (single : ∀ source ∈ first, ∀ other ∈ first, part source ≠ [] → part other ≠ [] →
      other = source) : first.flatMap part = second.flatMap part := by
  by_cases nothing : ∀ source ∈ first, part source = []
  · rw [List.flatMap_eq_nil_iff.2 nothing,
      List.flatMap_eq_nil_iff.2 fun source member => nothing source (reordered.mem_iff.2 member)]
  · push Not at nothing
    obtain ⟨source, member, contributes⟩ := nothing
    have others : ∀ other ∈ first, other ≠ source → part other = [] := by
      intro other otherMember different
      by_contra also
      exact different (single source member other otherMember contributes also)
    rw [flatMap_eq_of_single distinct member others,
      flatMap_eq_of_single (reordered.nodup_iff.1 distinct) (reordered.mem_iff.1 member)
        fun other otherMember => others other (reordered.mem_iff.2 otherMember)]

/-! ### Entries with keys of their own -/

/-- If no two entries have one key, a search for a key finds whichever entry has it. -/
theorem find?_eq_some_iff_of_nodup {Entry Key : Type} [BEq Key] [LawfulBEq Key] {key : Entry → Key}
    {entries : List Entry} (distinct : (entries.map key).Nodup) {sought : Key} {entry : Entry} :
    (entries.find? fun other => key other == sought) = some entry ↔
      entry ∈ entries ∧ key entry = sought := by
  constructor
  · intro found
    exact ⟨List.mem_of_find?_eq_some found, by simpa using List.find?_some found⟩
  · rintro ⟨member, rfl⟩
    cases found : entries.find? fun other => key other == key entry with
    | none => exact absurd (List.find?_eq_none.1 found entry member) (by simp)
    | some other =>
      have same : key other = key entry := by simpa using List.find?_some found
      rw [List.inj_on_of_nodup_map distinct (List.mem_of_find?_eq_some found) member same]

/-! ### What is made of a list -/

/-- What is made of a list stands in the order of what it is made of. -/
theorem forall₂_filterMap {Value Made Key : Type} {make : Value → Option Made} {key : Value → Key}
    {Relates : Key → Made → Prop} {values : List Value}
    (relates : ∀ value ∈ values, ∀ made, make value = some made → Relates (key value) made) :
    List.Forall₂ Relates ((values.filter fun value => (make value).isSome).map key)
      (values.filterMap make) := by
  induction values with
  | nil => exact .nil
  | cons value values inductionHypothesis =>
    rw [List.forall_mem_cons] at relates
    have rest := inductionHypothesis relates.2
    cases made : make value with
    | none =>
      rw [List.filter_cons_of_neg (by simp [made]), List.filterMap_cons_none made]
      exact rest
    | some result =>
      rw [List.filter_cons_of_pos (by simp [made]), List.filterMap_cons_some made]
      exact .cons (relates.1 result made) rest

end Concord
