/-
Entries of a mapping by name. An entry that is put in is found under its name, and what stands under every
other name is left as it was; its key is the only one that may be new. Entries laid over others therefore
come before them where both have a name.
-/

import Concord.Value
import Mathlib.Data.List.Basic

namespace Concord.Value

/-! ### One entry -/

theorem sameKey_text_iff {key : Scalar} {name : String} :
    key.sameKey (.text name) = true ↔ key = .text name := by
  cases key <;> simp [Scalar.sameKey, Scalar.numeric?]

theorem text_sameKey_iff {key : Scalar} {name : String} :
    (Scalar.text name).sameKey key = true ↔ key = .text name := by
  cases key with
  | text other => simpa [Scalar.sameKey, Scalar.numeric?] using eq_comm
  | _ => simp [Scalar.sameKey, Scalar.numeric?]

theorem atName?_cons (entry : Scalar × Value) (entries : List (Scalar × Value)) (name : String) :
    atName? (entry :: entries) name =
      if entry.1 = .text name then some entry.2 else atName? entries name := by
  rw [atName?, List.find?_cons]
  by_cases same : entry.1 = .text name
  · simp [same]
  · rw [beq_false_of_ne same, if_neg same]
    rfl

theorem atName?_putEntry_self (name : String) (value : Value) (entries : List (Scalar × Value)) :
    atName? (putEntry (.text name) value entries) name = some value := by
  induction entries with
  | nil => rw [putEntry, atName?_cons, if_pos rfl]
  | cons entry entries inductionHypothesis =>
    rw [putEntry]
    split
    · rename_i same
      rw [atName?_cons, if_pos (sameKey_text_iff.1 same)]
    · rename_i other
      rw [atName?_cons, if_neg fun same => other (sameKey_text_iff.2 same), inductionHypothesis]

theorem atName?_putEntry_other {key : Scalar} {name : String} (isOther : key ≠ .text name)
    (value : Value) (entries : List (Scalar × Value)) :
    atName? (putEntry key value entries) name = atName? entries name := by
  induction entries with
  | nil => rw [putEntry, atName?_cons, if_neg isOther]
  | cons entry entries inductionHypothesis =>
    rw [putEntry, atName?_cons]
    split
    · rename_i same
      have apart : entry.1 ≠ .text name := fun isName =>
        isOther (text_sameKey_iff.1 (isName ▸ same))
      rw [atName?_cons, if_neg apart, if_neg apart]
    · rw [atName?_cons, inductionHypothesis]

/-- An entry with a key of its own comes last. -/
theorem putEntry_of_fresh {key : Scalar} {value : Value} {entries : List (Scalar × Value)}
    (fresh : ∀ entry ∈ entries, entry.1.sameKey key = false) :
    putEntry key value entries = entries ++ [(key, value)] := by
  induction entries with
  | nil => rfl
  | cons entry entries inductionHypothesis =>
    obtain ⟨here, later⟩ := List.forall_mem_cons.1 fresh
    rw [putEntry, here, inductionHypothesis later]
    rfl

theorem forall_mem_putEntry {property : Value → Prop} {key : Scalar} {value : Value}
    {entries : List (Scalar × Value)} (holds : property value)
    (known : ∀ entry ∈ entries, property entry.2) :
    ∀ entry ∈ putEntry key value entries, property entry.2 := by
  induction entries with
  | nil => exact List.forall_mem_singleton.2 holds
  | cons first entries inductionHypothesis =>
    obtain ⟨here, later⟩ := List.forall_mem_cons.1 known
    rw [putEntry]
    split
    · exact List.forall_mem_cons.2 ⟨holds, later⟩
    · exact List.forall_mem_cons.2 ⟨here, inductionHypothesis later⟩

theorem forall_mem_ofEntries {property : Value → Prop} {entries : List (Scalar × Value)}
    (all : ∀ entry ∈ entries, property entry.2) : ∀ entry ∈ ofEntries entries, property entry.2 := by
  unfold ofEntries
  refine List.foldlRecOn
    (motive := fun known : List (Scalar × Value) => ∀ entry ∈ known, property entry.2) entries _ ?_ ?_
  · exact fun _ absent => absurd absent List.not_mem_nil
  · exact fun known isKnown entry member => forall_mem_putEntry (all entry member) isKnown

/-- The keys behind an entry that is put in are those from before and its own. -/
theorem mem_keys_putEntry {key other : Scalar} {value : Value} {entries : List (Scalar × Value)}
    (member : other ∈ (putEntry key value entries).map (·.1)) :
    other ∈ entries.map (·.1) ∨ other = key := by
  induction entries with
  | nil => exact .inr (List.mem_singleton.1 member)
  | cons entry entries inductionHypothesis =>
    rw [putEntry] at member
    split at member
    · exact .inl member
    · rcases List.mem_cons.1 member with rfl | later
      · exact .inl List.mem_cons_self
      · exact (inductionHypothesis later).imp (List.mem_cons_of_mem _) id

/-! ### Entries over entries -/

/-- No key stands twice. -/
def IsDictionary (entries : List (Scalar × Value)) : Prop :=
  (entries.map (·.1)).Pairwise fun first second => first.sameKey second = false

/-- The first entries with the second ones put in one after another. -/
def merged (first second : List (Scalar × Value)) : List (Scalar × Value) :=
  second.foldl (fun known entry => putEntry entry.1 entry.2 known) first

/-- Where both have a name, the second entries count. -/
theorem atName?_merged {second : List (Scalar × Value)} (isDictionary : IsDictionary second)
    (first : List (Scalar × Value)) (name : String) :
    atName? (merged first second) name = (atName? second name).or (atName? first name) := by
  induction second generalizing first with
  | nil => rfl
  | cons entry second inductionHypothesis =>
    obtain ⟨apart, isDictionary⟩ := List.pairwise_cons.1 isDictionary
    rw [merged, List.foldl_cons, ← merged, inductionHypothesis isDictionary, atName?_cons]
    split
    · rename_i same
      have absent : atName? second name = none := by
        rw [atName?, Option.map_eq_none_iff, List.find?_eq_none]
        intro other member isName
        have differ : entry.1.sameKey other.1 = false := apart _ (List.mem_map_of_mem member)
        rw [same, text_sameKey_iff.2 (beq_iff_eq.1 isName)] at differ
        exact Bool.noConfusion differ
      rw [absent, same, atName?_putEntry_self]
      rfl
    · rename_i other
      rw [atName?_putEntry_other other]

theorem mem_keys_merged {first second : List (Scalar × Value)} {key : Scalar}
    (member : key ∈ (merged first second).map (·.1)) :
    key ∈ first.map (·.1) ∨ key ∈ second.map (·.1) := by
  induction second generalizing first with
  | nil => exact .inl member
  | cons entry second inductionHypothesis =>
    rcases inductionHypothesis member with before | later
    · rcases mem_keys_putEntry before with known | same
      · exact .inl known
      · exact .inr (same ▸ List.mem_cons_self)
    · exact .inr (List.mem_cons_of_mem _ later)

end Concord.Value
