/-
Settings as data and back. A setting has one name, one schema and one form: it is read from what it is
written as, and what is read from an entry that meets the schema is written as one that does. So settings
that mappings have been laid over never leave the schema, and their entries, laid over any others, are these
settings again, whatever held before.
-/

import Concord.Proofs.Settings.Composition

namespace Concord.Settings

open Schema

/-! ### Reading what is written -/

/-- What is written is read back, and what is read from a value that meets the schema is written as a value
that meets it. -/
structure IsKept {Entry : Type} (schema : Schema) (read : Value → Option Entry)
    (write : Entry → Value) : Prop where
  read_write : ∀ entry, read (write entry) = some entry
  meets : ∀ value entry, schema.Meets value → read value = some entry → schema.Meets (write entry)

/-- Where nothing is read but what is written, every schema is kept. -/
theorem isKept_of_written {Entry : Type} (schema : Schema) (read : Value → Option Entry)
    (write : Entry → Value) (read_write : ∀ entry, read (write entry) = some entry)
    (written : ∀ value entry, read value = some entry → value = write entry) :
    IsKept schema read write where
  read_write := read_write
  meets value entry meets isRead := written value entry isRead ▸ meets

theorem eq_text_of_textOf? (value : Value) (text : String) (isText : textOf? value = some text) :
    value = .text text := by
  unfold textOf? at isText
  split at isText
  · exact congrArg Value.text (Option.some.inj isText)
  · cases isText

theorem isKept_text (schema : Schema) : IsKept schema textOf? .text :=
  isKept_of_written schema textOf? .text (fun _ => rfl) eq_text_of_textOf?

theorem isKept_boolean (schema : Schema) : IsKept schema booleanOf? .boolean := by
  refine isKept_of_written schema booleanOf? .boolean (fun _ => rfl) fun value entry isRead => ?_
  unfold booleanOf? at isRead
  split at isRead
  · exact congrArg Value.boolean (Option.some.inj isRead)
  · cases isRead

theorem isKept_number (schema : Schema) : IsKept schema numberOf? .number := by
  refine isKept_of_written schema numberOf? .number (fun _ => rfl) fun value entry isRead => ?_
  unfold numberOf? at isRead
  split at isRead
  · exact congrArg Value.number (Option.some.inj isRead)
  · cases isRead

/-! ### Lists, pairs and rules -/

section

variable {Entry : Type} {item : Schema} {read : Value → Option Entry} {write : Entry → Value}

theorem mapM_eq_some_iff {items : List Value} {entries : List Entry} :
    items.mapM read = some entries ↔
      List.Forall₂ (fun item entry => read item = some entry) items entries := by
  induction items generalizing entries with
  | nil => cases entries <;> simp
  | cons item items inductionHypothesis =>
    rw [List.mapM_cons, List.forall₂_cons_left_iff]
    simp only [← inductionHypothesis, Option.bind_eq_bind, Option.bind_eq_some_iff, Option.pure_def,
      Option.some.injEq]
    grind

theorem IsKept.mapM_write (kept : IsKept item read write) (entries : List Entry) :
    (entries.map write).mapM read = some entries :=
  mapM_eq_some_iff.2 <| List.forall₂_map_left_iff.2 <|
    List.forall₂_same.2 fun entry _ => kept.read_write entry

theorem IsKept.meets_write (kept : IsKept item read write) {items : List Value} {entries : List Entry}
    (areRead : List.Forall₂ (fun value entry => read value = some entry) items entries)
    (meets : ∀ value ∈ items, item.Meets value) : ∀ entry ∈ entries, item.Meets (write entry) := by
  induction areRead with
  | nil => exact fun _ absent => absurd absent List.not_mem_nil
  | @cons value entry _ _ isRead _ inductionHypothesis =>
    obtain ⟨here, later⟩ := List.forall_mem_cons.1 meets
    exact List.forall_mem_cons.2 ⟨kept.meets value entry here isRead, inductionHypothesis later⟩

/-- What is kept item by item is kept as a list. -/
theorem IsKept.list {readAll : Value → Option (List Entry)} (kept : IsKept item read write)
    (isEach : ∀ items, readAll (.list items) = items.mapM read) :
    IsKept (listOf item) readAll fun entries => .list (entries.map write) where
  read_write entries := (isEach _).trans (kept.mapM_write entries)
  meets value entries meets isRead := by
    have meetsHere : (listOf item).MeetsAt [] value := meets []
    obtain ⟨items, rfl⟩ := meetsHere.isList List.mem_cons_self
    rw [isEach, mapM_eq_some_iff] at isRead
    refine meets_listOf (List.forall_mem_map.2 (kept.meets_write isRead fun member listed => ?_))
    obtain ⟨place, meetsThere⟩ := meetsHere.items (List.mem_cons_of_mem _ List.mem_cons_self) listed
    exact meetsAt_iff_meets.1 meetsThere

end

theorem eq_texts_of_textsOf? {value : Value} {items : List String} (areTexts : textsOf? value = some items) :
    value = .texts items := by
  unfold textsOf? at areTexts
  split at areTexts
  · next values =>
    have same := (mapM_eq_some_iff.1 areTexts).imp eq_text_of_textOf?
    rw [← List.forall₂_map_right_iff, List.forall₂_eq_eq_eq] at same
    exact congrArg Value.list same
  · cases areTexts

theorem isKept_names : IsKept nameList textsOf? .texts :=
  (isKept_text someText).list fun _ => rfl

theorem isKept_pair : IsKept namePair pairOf? fun pair => .texts [pair.1, pair.2] := by
  refine isKept_of_written namePair pairOf? _ (fun _ => rfl) fun value pair isPair => ?_
  unfold pairOf? at isPair
  split at isPair
  · next first second areTexts =>
    obtain rfl := Option.some.inj isPair
    exact eq_texts_of_textsOf? areTexts
  · cases isPair

/-- A rule is read from its two entries in either order, so it may be written otherwise than it was read. -/
theorem isKept_rule :
    IsKept (closedObject [("left", someText), ("right", someText)]) ruleOf? (·.value) where
  read_write _ := rfl
  meets value rule meets isRule := by
    obtain ⟨left, leftPlace, isLeft, leftMeets⟩ := MeetsAt.property (meets []) List.mem_cons_self
    obtain ⟨right, rightPlace, isRight, rightMeets⟩ :=
      MeetsAt.property (meets []) (List.mem_cons_of_mem _ List.mem_cons_self)
    obtain ⟨text, rfl⟩ := isText_of_meetsAt leftMeets
    obtain ⟨other, rfl⟩ := isText_of_meetsAt rightMeets
    rw [ruleOf?, isLeft, isRight] at isRule
    obtain rfl := Option.some.inj isRule
    exact meets_closedObject (by decide) (.cons ⟨rfl, meetsAt_iff_meets.1 leftMeets⟩
      (.cons ⟨rfl, meetsAt_iff_meets.1 rightMeets⟩ .nil))

/-! ### Settings, one by one -/

/-- A setting has one name in the schema, in the entries that settings are written as and in what is put into
settings, and it is kept. -/
structure IsSetting {Entry : Type} (name : String) (schema : Schema) (read : Value → Option Entry)
    (write : Entry → Value) (held : Settings → Entry) : Prop where
  listed : (name, schema) ∈ properties
  kept : IsKept schema read write
  field?_value : ∀ settings : Settings, settings.value.field? name = some (write (held settings))
  held_put : ∀ (base : Settings) (raw : Value), held (base.put raw) = entryOr raw name read (held base)

theorem isSetting_fenceLanguages :
    IsSetting "fence_languages" nameList textsOf? .texts (·.fenceLanguages) :=
  ⟨by simp [properties], isKept_names, fun _ => rfl, fun _ _ => rfl⟩

theorem isSetting_externalModules :
    IsSetting "external_modules" nameList textsOf? .texts (·.externalModules) :=
  ⟨by simp [properties], isKept_names, fun _ => rfl, fun _ _ => rfl⟩

theorem isSetting_scopedModulesAreExternal :
    IsSetting "scoped_modules_are_external" truthValue booleanOf? .boolean
      (·.scopedModulesAreExternal) :=
  ⟨by simp [properties], isKept_boolean _, fun _ => rfl, fun _ _ => rfl⟩

theorem isSetting_sharedMarkers :
    IsSetting "shared_markers" nameList textsOf? .texts (·.sharedMarkers) :=
  ⟨by simp [properties], isKept_names, fun _ => rfl, fun _ _ => rfl⟩

theorem isSetting_typeEquivalences :
    IsSetting "type_equivalences" (listOf namePair) pairsOf?
      (fun pairs => .list (pairs.map fun pair => .texts [pair.1, pair.2])) (·.typeEquivalences) :=
  ⟨by simp [properties], isKept_pair.list fun _ => rfl, fun _ => rfl, fun _ _ => rfl⟩

theorem isSetting_namingThreshold :
    IsSetting "naming_threshold" share numberOf? .number (·.namingThreshold) :=
  ⟨by simp [properties], isKept_number _, fun _ => rfl, fun _ _ => rfl⟩

theorem isSetting_namingRules :
    IsSetting "naming_pairs" (listOf (closedObject [("left", someText), ("right", someText)])) rulesOf?
      (fun rules => .list (rules.map (·.value))) (·.namingRules) :=
  ⟨by simp [properties], isKept_rule.list fun _ => rfl, fun _ => rfl, fun _ _ => rfl⟩

theorem isSetting_strippableSuffixes :
    IsSetting "strippable_suffixes" nameList textsOf? .texts (·.strippableSuffixes) :=
  ⟨by simp [properties], isKept_names, fun _ => rfl, fun _ _ => rfl⟩

theorem isSetting_referenceSuffix :
    IsSetting "reference_suffix" someText textOf? .text (·.referenceSuffix) :=
  ⟨by simp [properties], isKept_text _, fun _ => rfl, fun _ _ => rfl⟩

theorem isSetting_serviceSuffixes :
    IsSetting "service_suffixes" nameList textsOf? .texts (·.serviceSuffixes) :=
  ⟨by simp [properties], isKept_names, fun _ => rfl, fun _ _ => rfl⟩

theorem isSetting_proseSuffixes :
    IsSetting "markdown_suffixes" nameList textsOf? .texts (·.proseSuffixes) :=
  ⟨by simp [properties], isKept_names, fun _ => rfl, fun _ _ => rfl⟩

/-- Every entry that the settings are written as meets the schema of its property. -/
def AreWithin (settings : Settings) : Prop :=
  ∀ property ∈ properties, ∀ member, settings.value.field? property.1 = some member →
    property.2.Meets member

section

variable {Entry : Type} {name : String} {schema : Schema} {read : Value → Option Entry}
  {write : Entry → Value} {held : Settings → Entry}

/-- A setting that is written and put into other settings is what it was. -/
theorem IsSetting.held_put_value (isSetting : IsSetting name schema read write held)
    (base settings : Settings) : held (base.put settings.value) = held settings := by
  rw [isSetting.held_put, entryOr, isSetting.field?_value, Option.bind_some, isSetting.kept.read_write,
    Option.getD_some]

/-- Behind a mapping that meets the schema a setting is within its schema: it is read from an entry of the
mapping, or what held before stays. -/
theorem IsSetting.meets_put (isSetting : IsSetting name schema read write held) {base : Settings}
    {entries : List (Scalar × Value)} (within : base.AreWithin)
    (met : Schema.settings.check (.mapping entries) = .ok ()) (member : Value)
    (found : (base.put (.mapping entries)).value.field? name = some member) : schema.Meets member := by
  rw [isSetting.field?_value, isSetting.held_put, entryOr] at found
  obtain rfl := Option.some.inj found
  cases brought : (Value.field? (.mapping entries) name).bind read with
  | none => exact within _ isSetting.listed _ (isSetting.field?_value base)
  | some entry =>
    obtain ⟨source, hasSource, isRead⟩ := Option.bind_eq_some_iff.1 brought
    have meets := (check_mapping_iff.1 met).2 _ isSetting.listed source hasSource
    exact isSetting.kept.meets source entry (meetsAt_iff_meets.1 meets) isRead

end

/-! ### Settings within their schema -/

theorem keys_value (settings : Settings) :
    ∃ entries, settings.value = .mapping entries ∧ entries.map (·.1) = properties.map (.text ·.1) :=
  ⟨_, rfl, rfl⟩

theorem areWithin_iff {settings : Settings} :
    settings.AreWithin ↔ Schema.settings.check settings.value = .ok () := by
  obtain ⟨entries, isValue, keys⟩ := keys_value settings
  simp only [AreWithin, isValue, check_mapping_iff, meetsAt_iff_meets]
  refine ⟨fun within => ⟨fun key member => ?_, within⟩, fun met => met.2⟩
  rw [keys, List.mem_map] at member
  obtain ⟨property, listed, rfl⟩ := member
  exact ⟨property.1, List.mem_map_of_mem listed, rfl⟩

theorem areWithin_default : AreWithin {} := by
  have isOk : (Schema.settings.check (value {})).isOk = true := by decide +kernel
  refine areWithin_iff.2 ?_
  cases checked : Schema.settings.check (value {}) with
  | ok done => rfl
  | error violation => simp [checked, Except.isOk, Except.toBool] at isOk

theorem areWithin_put {base : Settings} {raw : Value} (within : base.AreWithin)
    (met : Schema.settings.check raw = .ok ()) : (base.put raw).AreWithin := by
  obtain ⟨entries, rfl⟩ := (check_eq_ok_iff.1 met).isMapping List.mem_cons_self
  unfold AreWithin
  simp only [properties, List.forall_mem_cons]
  exact ⟨isSetting_fenceLanguages.meets_put within met, isSetting_externalModules.meets_put within met,
    isSetting_scopedModulesAreExternal.meets_put within met, isSetting_sharedMarkers.meets_put within met,
    isSetting_typeEquivalences.meets_put within met, isSetting_namingThreshold.meets_put within met,
    isSetting_namingRules.meets_put within met, isSetting_strippableSuffixes.meets_put within met,
    isSetting_referenceSuffix.meets_put within met, isSetting_serviceSuffixes.meets_put within met,
    isSetting_proseSuffixes.meets_put within met, fun _ absent => absurd absent List.not_mem_nil⟩

theorem IsAccepted.areWithin {reading : Pattern.Reading} {settings : Settings}
    (accepted : settings.IsAccepted reading) :
    settings.AreWithin := by
  induction accepted with
  | default => exact areWithin_default
  | overlay _ success inductionHypothesis =>
    obtain ⟨accepted, rfl⟩ := overlay_eq_ok_iff.1 success
    exact areWithin_put inductionHypothesis (acceptance_eq_ok_iff.1 accepted).1

/-! ### Back from data -/

attribute [ext] Settings

/-- Put into any settings, the entries of settings leave nothing of what held before. -/
theorem put_value (base settings : Settings) : base.put settings.value = settings :=
  Settings.ext (isSetting_fenceLanguages.held_put_value ..)
    (isSetting_externalModules.held_put_value ..) (isSetting_scopedModulesAreExternal.held_put_value ..)
    (isSetting_sharedMarkers.held_put_value ..) (isSetting_typeEquivalences.held_put_value ..)
    (isSetting_namingThreshold.held_put_value ..) (isSetting_namingRules.held_put_value ..)
    (isSetting_strippableSuffixes.held_put_value ..) (isSetting_referenceSuffix.held_put_value ..)
    (isSetting_serviceSuffixes.held_put_value ..) (isSetting_proseSuffixes.held_put_value ..)

theorem broughtRules_value (settings : Settings) : broughtRules settings.value = settings.namingRules := by
  rw [broughtRules, entryOr, isSetting_namingRules.field?_value, Option.bind_some,
    isSetting_namingRules.kept.read_write, Option.getD_some]

theorem checkRules_eq_ok {reading : Pattern.Reading} {rules : List NamingRule}
    (readable : Naming.AreReadable reading rules) : checkRules reading rules = .ok () := by
  induction rules with
  | nil => rfl
  | cons rule rules inductionHypothesis =>
    obtain ⟨⟨pair, read⟩, readableLater⟩ := List.forall_mem_cons.1 readable
    rw [checkRules, List.forM, read]
    exact inductionHypothesis readableLater

/-- Settings that mappings have been laid over, written as data and laid over any settings, are accepted and
are what they were. -/
theorem overlay_value {names : Pattern.CharacterNames} {settings : Settings}
    (accepted : settings.IsAccepted (Pattern.read names)) (base : Settings) :
    base.overlay (Pattern.read names) settings.value = .ok settings := by
  have met : Schema.settings.check settings.value = .ok () := areWithin_iff.1 accepted.areWithin
  have tried : checkRules (Pattern.read names) (broughtRules settings.value) = .ok () := by
    rw [broughtRules_value]
    exact checkRules_eq_ok (accepted.areReadable (areReadable_defaultNamingRules names))
  exact overlay_eq_ok_iff.2 ⟨acceptance_eq_ok_iff.2 ⟨met, tried⟩, (put_value base settings).symm⟩

/-- A mapping with a threshold that has no fraction, two pairs of types and a rule whose right pattern stands
first. -/
def draftsAndFinals : Value :=
  .record [
    ("naming_threshold", .integer 1),
    ("type_equivalences", .list [.texts ["Date", "string"], .texts ["bigint", "number"]]),
    ("naming_pairs", .list [.record [("right", .text "^\\w+Final$"), ("left", .text "^\\w+Draft$")]]),
    ("scoped_modules_are_external", .boolean false)]

/-- A mapping that leaves no language of blocks. -/
def noLanguages : Value :=
  .record [("fence_languages", .list [])]

/-- Behind two mappings nothing of the defaults is left in the rules and the languages, and what is written is
laid over the defaults. -/
theorem overlay_value_drafts :
    let reading := Pattern.read Pattern.noNames
    ∃ middle settings, overlay reading {} draftsAndFinals = .ok middle ∧
      middle.overlay reading noLanguages = .ok settings ∧ settings.IsAccepted reading ∧
      settings.namingRules = [⟨"^\\w+Draft$", "^\\w+Final$"⟩] ∧ settings.fenceLanguages = [] ∧
      settings.namingThreshold = .integer 1 ∧ overlay reading {} settings.value = .ok settings := by
  intro reading
  have drafts := @overlay_eq_of_isOk reading draftsAndFinals (by decide +kernel) {}
  have languages := @overlay_eq_of_isOk reading noLanguages (by decide +kernel) (put {} draftsAndFinals)
  have accepted := (IsAccepted.default.overlay drafts).overlay languages
  exact ⟨_, _, drafts, languages, accepted, by decide +kernel, by decide +kernel, by decide +kernel,
    overlay_value accepted {}⟩

end Concord.Settings
