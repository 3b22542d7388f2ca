/-
Settings laid over settings. Whether a mapping is accepted is a question to the mapping alone: it has to meet
the schema, and its patterns have to be readable. A value that meets the schema of its property is one that
the setting can be read from, so an accepted entry always takes the place of what held before. Hence laying
two accepted mappings over settings, one after the other, comes to laying the merged mapping over them, and
what neither of them names stays as it was.
-/

import Concord.Fault
import Concord.Proofs.Schema
import Concord.Proofs.Settings
import Concord.Proofs.Value.Entries

namespace Concord

/-! ### Values that settings can be read from -/

namespace Settings

open Schema

/-- Whatever meets the schema can be read. -/
def Reads {Entry : Type} (schema : Schema) (read : Value → Option Entry) : Prop :=
  ∀ path value, schema.MeetsAt path value → (read value).isSome = true

theorem holds_string (value : Value) : DataType.string.holds value = (textOf? value).isSome := by
  cases value with
  | scalar scalar => cases scalar <;> rfl
  | _ => rfl

theorem holds_boolean (value : Value) : DataType.boolean.holds value = (booleanOf? value).isSome := by
  cases value with
  | scalar scalar => cases scalar <;> rfl
  | _ => rfl

theorem holds_number (value : Value) : DataType.number.holds value = (numberOf? value).isSome := by
  cases value with
  | scalar scalar => cases scalar <;> rfl
  | _ => rfl

/-- What is read from every value of a type is read from whatever meets a schema that demands the type. -/
theorem reads_of_holds {Entry : Type} {expected : DataType} {read : Value → Option Entry}
    (isRead : ∀ value, expected.holds value = (read value).isSome) {schema : Schema}
    (demanded : .types [expected] ∈ schema) : Reads schema read := by
  intro path value meets
  simpa [isRead] using meets.holds demanded

theorem reads_someText : Reads someText textOf? :=
  reads_of_holds holds_string List.mem_cons_self

theorem reads_truthValue : Reads truthValue booleanOf? :=
  reads_of_holds holds_boolean List.mem_cons_self

theorem reads_share : Reads share numberOf? :=
  reads_of_holds holds_number List.mem_cons_self

theorem isSome_mapM {Entry : Type} {read : Value → Option Entry} {items : List Value}
    (each : ∀ item ∈ items, (read item).isSome = true) : (items.mapM read).isSome = true := by
  induction items with
  | nil => rfl
  | cons item items inductionHypothesis =>
    obtain ⟨here, later⟩ := List.forall_mem_cons.1 each
    obtain ⟨entry, isEntry⟩ := Option.isSome_iff_exists.1 here
    obtain ⟨entries, areEntries⟩ := Option.isSome_iff_exists.1 (inductionHypothesis later)
    rw [List.mapM_cons, isEntry, areEntries]
    rfl

/-- Lists are read item by item. -/
theorem Reads.list {Entry : Type} {item : Schema} {read : Value → Option Entry}
    {readAll : Value → Option (List Entry)} (reads : Reads item read)
    (isEach : ∀ items, readAll (.list items) = items.mapM read) : Reads (listOf item) readAll := by
  intro path value meets
  obtain ⟨items, rfl⟩ := meets.isList List.mem_cons_self
  rw [isEach]
  refine isSome_mapM fun member found => ?_
  obtain ⟨place, isItem⟩ := meets.items (List.mem_cons_of_mem _ List.mem_cons_self) found
  exact reads place member isItem

theorem isText_of_meetsAt {path : List Step} {value : Value} (meets : someText.MeetsAt path value) :
    ∃ text, value = .text text := by
  obtain ⟨text, isText⟩ := Option.isSome_iff_exists.1 (reads_someText path value meets)
  unfold textOf? at isText
  split at isText
  · exact ⟨_, rfl⟩
  · exact absurd isText (by simp)

theorem reads_namePair : Reads namePair pairOf? := by
  intro path value meets
  obtain ⟨items, rfl⟩ := meets.isList List.mem_cons_self
  have least := (meetsAt_iff.1 meets (.leastItems 2) (by simp [namePair])).1
  have most := (meetsAt_iff.1 meets (.mostItems 2) (by simp [namePair])).1
  have notLess := of_decide_eq_false (complaint_eq_nil_iff.1 least)
  have notMore := of_decide_eq_false (complaint_eq_nil_iff.1 most)
  -- The bounds on the length leave two items, and both are texts.
  obtain ⟨first, second, rfl⟩ := List.length_eq_two.1 (by omega : items.length = 2)
  have areTexts {member : Value} (found : member ∈ [first, second]) : ∃ text, member = .text text := by
    obtain ⟨place, isItem⟩ := meets.items (List.mem_cons_of_mem _ List.mem_cons_self) found
    exact isText_of_meetsAt isItem
  obtain ⟨text, rfl⟩ := areTexts List.mem_cons_self
  obtain ⟨other, rfl⟩ := areTexts (List.mem_cons_of_mem _ List.mem_cons_self)
  rfl

theorem reads_rule :
    Reads (closedObject [("left", someText), ("right", someText)]) ruleOf? := by
  intro path value meets
  obtain ⟨left, leftPlace, isLeft, leftMeets⟩ := meets.property List.mem_cons_self
  obtain ⟨right, rightPlace, isRight, rightMeets⟩ :=
    meets.property (List.mem_cons_of_mem _ List.mem_cons_self)
  obtain ⟨text, rfl⟩ := isText_of_meetsAt leftMeets
  obtain ⟨other, rfl⟩ := isText_of_meetsAt rightMeets
  rw [ruleOf?, isLeft, isRight]
  rfl

/-! ### Accepted mappings -/

/-- The properties of settings, each with its schema. -/
def properties : List (String × Schema) :=
  [("fence_languages", nameList), ("external_modules", nameList),
    ("scoped_modules_are_external", truthValue), ("shared_markers", nameList),
    ("type_equivalences", listOf namePair), ("naming_threshold", share),
    ("naming_pairs", listOf (closedObject [("left", someText), ("right", someText)])),
    ("strippable_suffixes", nameList), ("reference_suffix", someText),
    ("service_suffixes", nameList), ("markdown_suffixes", nameList)]

theorem settings_eq : Schema.settings = openObject properties := rfl

variable {reading : Pattern.Reading} {base : Settings} {raw : Value}
  {first second : List (Scalar × Value)}

/-- Whether a mapping is accepted: it meets the schema, and its patterns can be read. -/
def acceptance (reading : Pattern.Reading) (raw : Value) : Except OverlayRefusal Unit := do
  (Schema.settings.check raw).mapError .notMet
  (checkRules reading (broughtRules raw)).mapError .badPattern

/-- The settings below have no part in whether a mapping is accepted. -/
theorem overlay_eq (reading : Pattern.Reading) (base : Settings) (raw : Value) :
    base.overlay reading raw = (acceptance reading raw).map fun _ => base.put raw := by
  unfold overlay acceptance
  cases Schema.settings.check raw with
  | error violation => rfl
  | ok met =>
    cases checkRules reading (broughtRules raw) with
    | error bad => rfl
    | ok tried => rfl

theorem acceptance_eq_ok_iff : acceptance reading raw = .ok () ↔
    Schema.settings.check raw = .ok () ∧ checkRules reading (broughtRules raw) = .ok () := by
  unfold acceptance
  cases Schema.settings.check raw with
  | error violation => simp [Except.mapError, bind, Except.bind]
  | ok met =>
    cases checkRules reading (broughtRules raw) with
    | error bad => simp [Except.mapError, bind, Except.bind]
    | ok tried => simp [Except.mapError, bind, Except.bind]

theorem overlay_eq_ok_iff {settings : Settings} :
    base.overlay reading raw = .ok settings ↔
      acceptance reading raw = .ok () ∧ settings = base.put raw := by
  rw [overlay_eq]
  cases acceptance reading raw with
  | error refusal => simp [Except.map]
  | ok done => simp [Except.map, eq_comm]

theorem overlay_eq_of_isOk (isOk : (acceptance reading raw).isOk = true) (base : Settings) :
    base.overlay reading raw = .ok (base.put raw) := by
  refine overlay_eq_ok_iff.2 ⟨?_, rfl⟩
  cases taken : acceptance reading raw with
  | ok done => rfl
  | error refusal => simp [taken, Except.isOk, Except.toBool] at isOk

theorem check_mapping_iff :
    Schema.settings.check (.mapping first) = .ok () ↔
      (∀ key ∈ first.map (·.1), ∃ name ∈ properties.map (·.1), key = .text name) ∧
        ∀ property ∈ properties, ∀ member, Value.atName? first property.1 = some member →
          property.2.MeetsAt [.key (.text property.1)] member := by
  rw [check_eq_ok_iff, settings_eq, meetsAt_openObject_iff]
  rfl

/-! ### Merged mappings -/

open Value (IsDictionary merged atName?_merged mem_keys_merged)

theorem check_merged (isDictionary : IsDictionary second)
    (firstMet : Schema.settings.check (.mapping first) = .ok ())
    (secondMet : Schema.settings.check (.mapping second) = .ok ()) :
    Schema.settings.check (.mapping (merged first second)) = .ok () := by
  rw [check_mapping_iff] at *
  refine ⟨fun key member => (mem_keys_merged member).elim (firstMet.1 key) (secondMet.1 key), ?_⟩
  intro property listed member found
  rw [atName?_merged isDictionary, Option.or_eq_some_iff] at found
  rcases found with inSecond | ⟨-, inFirst⟩
  · exact secondMet.2 property listed member inSecond
  · exact firstMet.2 property listed member inFirst

/-- An entry of a merged mapping is read from the second mapping, then from the first, and otherwise it is
what held before. -/
theorem entryOr_merged {Entry : Type} {name : String} {schema : Schema} {read : Value → Option Entry}
    (isDictionary : IsDictionary second)
    (secondMet : Schema.settings.check (.mapping second) = .ok ())
    (listed : (name, schema) ∈ properties) (reads : Reads schema read) (before : Entry) :
    entryOr (.mapping (merged first second)) name read before =
      entryOr (.mapping second) name read (entryOr (.mapping first) name read before) := by
  simp only [entryOr, Value.field?, atName?_merged isDictionary]
  cases found : Value.atName? second name with
  | none => rfl
  | some member =>
    -- What the second mapping has can be read, so it is not passed over for what held before.
    have isMet := (check_mapping_iff.1 secondMet).2 _ listed member found
    obtain ⟨entry, isEntry⟩ := Option.isSome_iff_exists.1 (reads _ member isMet)
    simp only [Option.some_or, Option.bind_some, isEntry, Option.getD_some]

/-- The merged mapping puts in what the two mappings put in one after the other. -/
theorem put_merged (isDictionary : IsDictionary second)
    (secondMet : Schema.settings.check (.mapping second) = .ok ()) (base : Settings) :
    base.put (.mapping (merged first second)) = (base.put (.mapping first)).put (.mapping second) := by
  have names {name : String} (listed : (name, nameList) ∈ properties) (before : List String) :=
    @entryOr_merged first second _ name _ textsOf? isDictionary secondMet listed
      (reads_someText.list fun _ => rfl) before
  simp only [put, Settings.mk.injEq]
  refine ⟨names (by simp [properties]) _, names (by simp [properties]) _, ?_,
    names (by simp [properties]) _, ?_, ?_, ?_, names (by simp [properties]) _, ?_,
    names (by simp [properties]) _, names (by simp [properties]) _⟩
  · exact entryOr_merged isDictionary secondMet (by simp [properties]) reads_truthValue _
  · exact entryOr_merged isDictionary secondMet (by simp [properties])
      (reads_namePair.list fun _ => rfl) _
  · exact entryOr_merged isDictionary secondMet (by simp [properties]) reads_share _
  · exact entryOr_merged isDictionary secondMet (by simp [properties])
      (reads_rule.list fun _ => rfl) _
  · exact entryOr_merged isDictionary secondMet (by simp [properties]) reads_someText _

theorem broughtRules_merged (isDictionary : IsDictionary second)
    (secondMet : Schema.settings.check (.mapping second) = .ok ()) :
    broughtRules (.mapping (merged first second)) = broughtRules (.mapping second) ∨
      broughtRules (.mapping (merged first second)) = broughtRules (.mapping first) := by
  rw [broughtRules, entryOr_merged isDictionary secondMet (by simp [properties])
    (reads_rule.list fun _ => rfl)]
  cases brought : ((Value.mapping second).field? "naming_pairs").bind rulesOf? with
  | some rules => exact .inl (by simp only [broughtRules, entryOr, brought, Option.getD_some])
  | none => exact .inr (by simp only [broughtRules, entryOr, brought, Option.getD_none])

theorem acceptance_merged (isDictionary : IsDictionary second)
    (firstAccepted : acceptance reading (.mapping first) = .ok ())
    (secondAccepted : acceptance reading (.mapping second) = .ok ()) :
    acceptance reading (.mapping (merged first second)) = .ok () := by
  rw [acceptance_eq_ok_iff] at *
  refine ⟨check_merged isDictionary firstAccepted.1 secondAccepted.1, ?_⟩
  rcases @broughtRules_merged first second isDictionary secondAccepted.1 with same | same
  · exact same ▸ secondAccepted.2
  · exact same ▸ firstAccepted.2

/-! ### What is named nowhere -/

theorem entryOr_of_missing {Entry : Type} {name : String} {read : Value → Option Entry}
    {before : Entry} (missing : raw.field? name = none) : entryOr raw name read before = before := by
  rw [entryOr, missing]
  rfl

theorem lookup_congr {name : String} {entries others : List (String × Value)}
    (alike : List.Forall₂ (fun entry other => entry.1 = other.1 ∧ (name = entry.1 → entry.2 = other.2))
      entries others) : entries.lookup name = others.lookup name := by
  induction alike with
  | nil => rfl
  | @cons entry other entries others here _ inductionHypothesis =>
    rw [List.lookup_cons, List.lookup_cons, ← here.1, inductionHypothesis]
    by_cases same : name = entry.1
    · rw [here.2 same]
    · rw [beq_false_of_ne same]

/-- An entry that a mapping does not have stays as it was. -/
theorem value_put_of_missing {name : String} (missing : raw.field? name = none) (base : Settings) :
    (base.put raw).value.field? name = base.value.field? name := by
  have kept {key : String} (same : name = key) : raw.field? key = none := same ▸ missing
  rw [value, value, Value.field?_record, Value.field?_record]
  refine lookup_congr ?_
  repeat' refine List.Forall₂.cons ⟨rfl, fun same => ?_⟩ ?_
  all_goals first
    | exact .nil
    | simp only [put, entryOr_of_missing (kept same)]

/-! ### Refusals -/

/-- The mapping is refused for a pattern, though not for its form: the pattern asks for too much, or reading it
is stopped. -/
def OverlayRefusal.IsUnforeseen (refusal : OverlayRefusal) : Prop :=
  ∃ pattern, refusal = .badPattern pattern ∧ pattern.isForeseen = false

theorem isForeseen_overlay_iff {refusal : OverlayRefusal} :
    (Refusal.overlay refusal).isForeseen = true ↔ ¬ refusal.IsUnforeseen := by
  cases refusal with
  | notMet violation => simp [Refusal.isForeseen, OverlayRefusal.IsUnforeseen]
  | badPattern pattern => simp [Refusal.isForeseen, OverlayRefusal.IsUnforeseen]

/-- A refused mapping is a fault of settings, unless it asks for a pattern that cannot be put together: then
the fault is an internal one. -/
theorem fault_overlay (refusal : OverlayRefusal) :
    (¬ refusal.IsUnforeseen → (Fault.settings (.overlay refusal)).kind.name = "config_error" ∧
        (Fault.settings (.overlay refusal)).exitCode = 4) ∧
      (refusal.IsUnforeseen → (Fault.settings (.overlay refusal)).exitCode = 99) := by
  have same := @isForeseen_overlay_iff refusal
  rw [Fault.exitCode, Fault.kind]
  cases isForeseen : (Refusal.overlay refusal).isForeseen with
  | true => exact ⟨fun _ => ⟨rfl, rfl⟩, fun unforeseen => absurd unforeseen (same.1 isForeseen)⟩
  | false => exact ⟨fun foreseen => absurd (same.2 foreseen) (by simp [isForeseen]), fun _ => rfl⟩

/-- Overlays compose. Laying a mapping over settings and another over the outcome comes to laying the merged
mapping over them, in which the entries of the second count; what neither of the two has stays as it was.
Whether a mapping is refused, and why, is the same whatever the settings below. A refusal is a fault of
settings, unless it is for a pattern whose form is not at fault. -/
theorem overlay_composes (reading : Pattern.Reading) (base : Settings) :
    (∀ first second : List (Scalar × Value), IsDictionary second → ∀ middle last : Settings,
      base.overlay reading (.mapping first) = .ok middle →
        middle.overlay reading (.mapping second) = .ok last →
        base.overlay reading (.mapping (merged first second)) = .ok last ∧
        (∀ name, Value.atName? (merged first second) name =
          (Value.atName? second name).or (Value.atName? first name)) ∧
        ∀ name, Value.atName? first name = none → Value.atName? second name = none →
          last.value.field? name = base.value.field? name) ∧
    (∀ (other : Settings) (raw : Value),
      ((∃ settings, base.overlay reading raw = .ok settings) ↔
        ∃ settings, other.overlay reading raw = .ok settings) ∧
      ∀ refusal, base.overlay reading raw = .error refusal ↔ other.overlay reading raw = .error refusal) ∧
    ∀ (raw : Value) (refusal : OverlayRefusal), base.overlay reading raw = .error refusal →
      (¬ refusal.IsUnforeseen → (Fault.settings (.overlay refusal)).kind.name = "config_error" ∧
        (Fault.settings (.overlay refusal)).exitCode = 4) ∧
      (refusal.IsUnforeseen → (Fault.settings (.overlay refusal)).exitCode = 99) := by
  refine ⟨fun first second isDictionary middle last firstLaid secondLaid => ?_,
    fun other raw => ?_, fun _ refusal _ => fault_overlay refusal⟩
  · obtain ⟨firstAccepted, rfl⟩ := overlay_eq_ok_iff.1 firstLaid
    obtain ⟨secondAccepted, rfl⟩ := overlay_eq_ok_iff.1 secondLaid
    have secondMet := (acceptance_eq_ok_iff.1 secondAccepted).1
    have same := @put_merged first second isDictionary secondMet base
    refine ⟨overlay_eq_ok_iff.2 ⟨acceptance_merged isDictionary firstAccepted secondAccepted, same.symm⟩,
      atName?_merged isDictionary first, fun name inFirst inSecond => ?_⟩
    have kept := @value_put_of_missing (.mapping second) name inSecond
    exact (kept _).trans (@value_put_of_missing (.mapping first) name inFirst base)
  · rw [overlay_eq, overlay_eq]
    cases acceptance reading raw with
    | error refusal => simp [Except.map]
    | ok done => simp [Except.map]

/-- A mapping that names the languages of blocks and the suffix of references. -/
def languagesAndSuffix : List (Scalar × Value) :=
  [(.text "fence_languages", .texts ["ts"]), (.text "reference_suffix", .text "Id")]

/-- A mapping that names the suffix of references alone. -/
def suffixAlone : List (Scalar × Value) :=
  [(.text "reference_suffix", .text "Key")]

/-- The suffix of the second mapping counts, and the languages of the first one are kept. -/
theorem overlay_composes_suffix :
    let reading := Pattern.read Pattern.noNames
    IsDictionary suffixAlone ∧
      ∃ middle last, overlay reading {} (.mapping languagesAndSuffix) = .ok middle ∧
        middle.overlay reading (.mapping suffixAlone) = .ok last ∧
        overlay reading {} (.mapping (merged languagesAndSuffix suffixAlone)) = .ok last ∧
        last.fenceLanguages = ["ts"] ∧ last.referenceSuffix = "Key" := by
  intro reading
  have isDictionary : IsDictionary suffixAlone := List.pairwise_singleton ..
  have accepted : (acceptance reading (.mapping languagesAndSuffix)).isOk ∧
      (acceptance reading (.mapping suffixAlone)).isOk := by decide +kernel
  have first := overlay_eq_of_isOk accepted.1 {}
  have second := overlay_eq_of_isOk accepted.2 (put {} (.mapping languagesAndSuffix))
  have both := (overlay_composes reading {}).1 languagesAndSuffix suffixAlone isDictionary _ _
    first second
  exact ⟨isDictionary, _, _, first, second, both.1, by decide +kernel, by decide +kernel⟩

/-- A naming rule whose left pattern asks for more repetitions than a pattern can have. -/
def hugeRepetition : Value :=
  .record [("naming_pairs", .list [.record
    [("left", .text "a\x7b4294967296\x7d"), ("right", .text "b")]])]

/-- The mapping meets the schema, and is refused for its pattern, but not as a fault of settings. -/
theorem exitCode_hugeRepetition :
    (Schema.settings.check hugeRepetition).isOk = true ∧
      ∃ refusal, overlay (Pattern.read Pattern.noNames) {} hugeRepetition = .error refusal ∧
        (Fault.settings (.overlay refusal)).kind.name = "generic_error" ∧
        (Fault.settings (.overlay refusal)).exitCode = 99 := by
  have kinds : (match overlay (Pattern.read Pattern.noNames) {} hugeRepetition with
      | .error refusal => some (Fault.settings (.overlay refusal)).kind
      | .ok _ => none) = some .internal := by decide +kernel
  refine ⟨by decide +kernel, ?_⟩
  cases laid : overlay (Pattern.read Pattern.noNames) {} hugeRepetition with
  | ok settings => exact absurd kinds (by simp [laid])
  | error refusal =>
    rw [laid] at kinds
    have isInternal := Option.some.inj kinds
    exact ⟨refusal, rfl, by rw [isInternal]; rfl, by rw [Fault.exitCode, isInternal]; rfl⟩

end Settings

end Concord
