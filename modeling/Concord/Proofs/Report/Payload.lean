/-
The payload of a verification. It is plain data, so its text in either layout stands for it; and the
views that it gives of the verdict agree with one another and with the verification.
-/

import Concord.DataFile
import Concord.Proofs.Report
import Concord.Proofs.Report.Text
import Concord.Proofs.Text.Utf8
import Concord.Proofs.Value.Json.Reader

namespace Concord

/-! ### Plain values -/

namespace Value

theorem IsPlain.optionalText (text : Option String) : (Value.optionalText text).IsPlain := by
  cases text with
  | none => exact .null
  | some text => exact .text text

theorem IsPlain.texts (items : List String) : (Value.texts items).IsPlain :=
  .list (List.forall_mem_map.2 fun item _ => .text item)

theorem IsPlain.record {entries : List (String × Value)} (distinct : (entries.map (·.1)).Nodup)
    (plain : ∀ entry ∈ entries, entry.2.IsPlain) : (Value.record entries).IsPlain := by
  refine .mapping (List.forall_mem_map.2 fun entry _ => ⟨entry.1, rfl⟩) ?_
    (List.forall_mem_map.2 plain)
  rw [List.map_map]
  have keys := distinct.map fun _ _ same => Scalar.text.inj same
  rw [List.map_map] at keys
  exact keys

/-- Every key is a text, and no key stands twice. -/
structure HasTextKeys (entries : List (Scalar × Value)) : Prop where
  named : ∀ entry ∈ entries, ∃ name, entry.1 = .text name
  distinct : (entries.map (·.1)).Nodup

theorem HasTextKeys.putEntry {entries : List (Scalar × Value)} (keys : HasTextKeys entries)
    (name : String) (value : Value) : HasTextKeys (putEntry (.text name) value entries) := by
  induction entries with
  | nil => exact ⟨List.forall_mem_singleton.2 ⟨name, rfl⟩, List.nodup_singleton _⟩
  | cons entry entries inductionHypothesis =>
    obtain ⟨⟨known, old⟩, rfl⟩ : ∃ pair, entry = pair := ⟨entry, rfl⟩
    obtain ⟨here, later⟩ := List.forall_mem_cons.1 keys.named
    obtain ⟨fresh, distinct⟩ := List.nodup_cons.1 keys.distinct
    rw [Value.putEntry]
    split
    · exact ⟨List.forall_mem_cons.2 ⟨here, later⟩, keys.distinct⟩
    · next isOther =>
      have put := inductionHypothesis ⟨later, distinct⟩
      refine ⟨List.forall_mem_cons.2 ⟨here, put.named⟩,
        List.nodup_cons.2 ⟨fun taken => ?_, put.distinct⟩⟩
      rcases mem_keys_putEntry taken with before | same
      · exact fresh before
      · subst same
        exact isOther (by simp [Scalar.sameKey, Scalar.numeric?])

theorem HasTextKeys.ofEntries {entries : List (Scalar × Value)}
    (named : ∀ entry ∈ entries, ∃ name, entry.1 = .text name) : HasTextKeys (ofEntries entries) := by
  unfold Value.ofEntries
  refine List.foldlRecOn (motive := HasTextKeys) entries _ ?_ fun known keys entry member => ?_
  · exact ⟨fun _ absent => absurd absent List.not_mem_nil, List.nodup_nil⟩
  · obtain ⟨name, same⟩ := named entry member
    rw [same]
    exact keys.putEntry name entry.2

end Value

/-! ### The payload as plain data -/

open Value (IsPlain)

theorem Issue.isPlain_reported (issue : Issue) : issue.reported.value.IsPlain := by
  refine .record (by simp) ?_
  simp only [List.forall_mem_cons, Issue.reported]
  refine ⟨.text _, .text _, .text _, .text _, ?_, .optionalText _, fun _ absent => ?_⟩
  · cases issue.line with
    | none => exact .null
    | some line => exact .natural line
  · cases absent

theorem Statistics.isPlain_tally (statistics : Statistics) : statistics.tally.value.IsPlain := by
  refine .record (by simp) ?_
  simp only [List.forall_mem_cons, Statistics.tally]
  exact ⟨.natural _, .natural _, .natural _, .natural _, .natural _, .natural _,
    fun _ absent => absurd absent List.not_mem_nil⟩

theorem Draft.isPlain_summary (draft : Draft) : draft.summary.IsPlain := by
  have counted : (Value.record draft.byCategory).IsPlain := by
    refine .record ?_ fun entry member => ?_
    · have names : (IssueCategory.all.map IssueCategory.name).Nodup := by decide
      rw [List.nodup_iff_pairwise_ne, List.pairwise_map] at names
      rw [List.nodup_iff_pairwise_ne, List.pairwise_map, Draft.byCategory, List.pairwise_filterMap,
        List.pairwise_map]
      refine names.imp fun {first second} other entry made entryToo madeToo => ?_
      obtain ⟨-, same⟩ := Option.ite_none_left_eq_some.1 made
      obtain ⟨-, sameToo⟩ := Option.ite_none_left_eq_some.1 madeToo
      rw [← Option.some.inj same, ← Option.some.inj sameToo]
      exact other
    · obtain ⟨⟨name, number⟩, -, made⟩ := List.mem_filterMap.1 member
      obtain ⟨-, same⟩ := Option.ite_none_left_eq_some.1 made
      exact Option.some.inj same ▸ .natural number
  refine .record (by simp) ?_
  simp only [List.forall_mem_cons]
  exact ⟨.natural _, .natural _, .natural _, counted, fun _ absent => absurd absent List.not_mem_nil⟩

namespace Verification

theorem isPlain_titles (verification : Verification) :
    (Value.mapping verification.draft.contractTitles).IsPlain := by
  have keys : Value.HasTextKeys verification.draft.contractTitles :=
    .ofEntries (List.forall_mem_map.2 fun name member => by
      obtain ⟨contract, -, same⟩ := List.mem_map.1 member
      exact ⟨contract, same.symm⟩)
  refine .mapping keys.named keys.distinct ?_
  refine Value.forall_mem_ofEntries (List.forall_mem_map.2 fun name _ => ?_)
  cases found : verification.draft.titles.find? fun entry => entry.1.sameKey name with
  | none => exact .text ""
  | some entry =>
    obtain ⟨title, -, same⟩ := List.mem_map.1 (List.mem_of_find?_eq_some found)
    exact same ▸ .text title.2

theorem isPlain_graph (graph : DependencyGraph) :
    (Value.list (graph.entries.map fun (name, targets) =>
      .record [("name", .text name), ("dependencies", .texts targets)])).IsPlain := by
  refine .list (List.forall_mem_map.2 fun entry _ => .record (by simp) ?_)
  simp only [List.forall_mem_cons]
  exact ⟨.text _, .texts _, fun _ absent => absurd absent List.not_mem_nil⟩

/-- The report of a verification is plain data. -/
theorem isPlain_payload (verification : Verification) (runId : String) (now : Instant) :
    (verification.draft.payload runId now).IsPlain := by
  refine .record (by simp) ?_
  simp only [List.forall_mem_cons]
  refine ⟨.text _, .natural 1, .text _, .text _, .text _, .text _, .text _, .boolean _, .text _,
    .list ?_, verification.isPlain_titles, verification.draft.isPlain_summary,
    verification.statistics.isPlain_tally, isPlain_graph _, .list ?_, .list ?_,
    fun _ absent => absurd absent List.not_mem_nil⟩
  · refine List.forall_mem_map.2 (List.forall_mem_map.2 fun name _ => .text name)
  · exact List.forall_mem_map.2 fun cycle _ => .texts cycle
  · exact List.forall_mem_map.2 (List.forall_mem_map.2 fun issue _ => issue.isPlain_reported)

/-! ### The verdict -/

theorem passed_draft (verification : Verification) :
    verification.draft.passed = verification.passed := by
  have count : verification.draft.countOf .error = verification.errors.length := by
    rw [Draft.countOf, draft, List.filter_map, List.length_map, errors]
    rfl
  rw [Draft.passed, count, passed]
  cases verification.errors <;> rfl

end Verification

namespace Report

/-- The number of errors that the summary of a report gives. -/
def errorsOf? (payload : Value) : Option Value :=
  (payload.field? "summary").bind (·.field? "errors")

/-- Every view of the verdict says pass: the summary counts no error, the status is that of a report
that passes, and so is the last line of the text. -/
structure ShowsPass (payload : Value) (shown : String) : Prop where
  summary : errorsOf? payload = some (.natural 0)
  status : payload.field? "status" = some (.text "pass")
  ending : EndsWith shown "RESULT: PASS"

/-- No view of the verdict says pass. -/
structure ShowsFail (payload : Value) (shown : String) : Prop where
  summary : errorsOf? payload ≠ some (.natural 0)
  status : payload.field? "status" ≠ some (.text "pass")
  ending : ¬ EndsWith shown "RESULT: PASS"

variable {verification : Verification} {runId : String} {now : Instant} {isVerbose : Bool}
  {shown : String}

theorem errorsOf?_payload (draft : Draft) :
    errorsOf? (draft.payload runId now) = some (.natural (draft.countOf .error)) := by
  have summary : (draft.payload runId now).field? "summary" = some draft.summary :=
    Value.field?_record _ _
  rw [errorsOf?, summary]
  exact Value.field?_record _ _

theorem status_payload (draft : Draft) :
    (draft.payload runId now).field? "status" = some (.text (statusName draft.passed)) :=
  Value.field?_record _ _

/-- The views of a verification that passes say pass. -/
theorem showsPass (made : text (verification.draft.payload runId now) isVerbose = .ok shown)
    (passed : verification.passed = true) : ShowsPass (verification.draft.payload runId now) shown := by
  rw [← verification.passed_draft] at passed
  refine ⟨?_, ?_, (endsWith_pass_iff made).2 passed⟩
  · rw [errorsOf?_payload, beq_iff_eq.1 passed]
  · rw [status_payload, passed]
    rfl

/-- The views of a verification that does not pass do not say pass. -/
theorem showsFail (made : text (verification.draft.payload runId now) isVerbose = .ok shown)
    (failed : verification.passed = false) : ShowsFail (verification.draft.payload runId now) shown := by
  rw [← verification.passed_draft] at failed
  refine ⟨fun none => ?_, fun same => ?_, fun ending => ?_⟩
  · rw [errorsOf?_payload, Option.some.injEq, Value.natural, Value.natural] at none
    injection none with none
    injection none with none
    injection none with none
    have isZero := Int.ofNat.inj none
    rw [Draft.passed, isZero] at failed
    cases failed
  · rw [status_payload, failed] at same
    exact absurd (Option.some.inj same) (by simp [statusName])
  · rw [(endsWith_pass_iff made).1 ending] at failed
    cases failed

end Report

/-! ### The payload in a file -/

theorem Json.read_compact {value : Value} (plain : value.IsPlain) :
    (read (compact value)).toOption = if value.isReadable then some value.ordered else none := by
  have noEnding : ([] : List Char) = [] ∨ [] = ['\n'] := .inl rfl
  have written := read_written plain false noEnding
  rwa [List.append_nil] at written

/-- A file that a plain value is written to, with a line for every item, is read as the value in order,
unless a number of it has too many digits. -/
theorem DataFile.load_indented {storage : Storage} {path : Path} {value : Value}
    (plain : value.IsPlain)
    (standing : storage.bytes path = .ok (Utf8.encode (Json.indented value ++ "\n"))) :
    (load Json.read storage path).toOption = if value.isReadable then some value.ordered else none := by
  have text : Json.indented value ++ "\n" = String.ofList (Json.written true 0 value ++ ['\n']) := by
    rw [String.ofList_append]
    rfl
  have arePrinted : ∀ c ∈ Json.written true 0 value ++ ['\n'], Json.IsPrinted c :=
    List.forall_mem_append.2 ⟨Json.isPrinted_written plain true 0, by decide⟩
  have noReturn : '\r' ∉ Json.written true 0 value ++ ['\n'] := fun member =>
    absurd (arePrinted _ member) (by decide)
  have decoded := Storage.textOfBytes_encode (Json.indented value ++ "\n")
  rw [text, Text.inUnixLines, String.toList_ofList, Text.unixLines_eq_self noReturn, ← text] at decoded
  have ending : ['\n'] = [] ∨ ['\n'] = ['\n'] := .inr rfl
  have read := Json.read_written plain true ending
  rw [← text] at read
  rw [load, Storage.text, standing]
  simp only [bind, Except.bind, decoded, Except.mapError]
  rw [← read]
  cases Json.read (Json.indented value ++ "\n") <;> rfl

end Concord
