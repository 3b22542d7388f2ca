/-
The text of a report. Every draft has one, for its payload has each entry that the text looks for. The
last line is the verdict of the draft, so a reader who looks there sees what the data says.
-/

import Concord.Proofs.Naming.Findings
import Concord.Proofs.Schema
import Concord.Proofs.Text.Lines
import Concord.Report
import Concord.Report.Text

namespace Concord

/-! ### Results -/

theorem exists_bind_eq_ok {Error Input Result : Type} {first : Except Error Input}
    {next : Input → Except Error Result} (former : ∃ input, first = .ok input)
    (latter : ∀ input, first = .ok input → ∃ result, next input = .ok result) :
    ∃ result, first >>= next = .ok result := by
  obtain ⟨input, found⟩ := former
  rw [found]
  exact latter input found

theorem exists_mapM_eq_ok {Error Input Result : Type} {act : Input → Except Error Result}
    {inputs : List Input} (succeeds : ∀ input ∈ inputs, ∃ result, act input = .ok result) :
    ∃ results, inputs.mapM act = .ok results := by
  obtain ⟨results, related⟩ := Naming.exists_forall₂_iff.2 succeeds
  exact ⟨results, Naming.mapM_eq_ok_iff.2 related⟩

/-- Filtering what is made of inputs by a test on the inputs. -/
theorem filterM_map_eq_ok {Error Input Made : Type} {make : Input → Made}
    {act : Made → Except Error Bool} {test : Input → Bool}
    (tests : ∀ input, act (make input) = .ok (test input)) (inputs : List Input) :
    (inputs.map make).filterM act = .ok ((inputs.filter test).map make) := by
  have kept (reversed : List Made) : List.filterAuxM act (inputs.map make) reversed =
      .ok (((inputs.filter test).map make).reverse ++ reversed) := by
    induction inputs generalizing reversed with
    | nil => rfl
    | cons input inputs inductionHypothesis =>
      have step : List.filterAuxM act ((input :: inputs).map make) reversed =
          List.filterAuxM act (inputs.map make)
            (cond (test input) (make input :: reversed) reversed) := by
        rw [List.map_cons, List.filterAuxM, tests]
        rfl
      rw [step, inductionHypothesis, List.filter_cons]
      cases test input <;> simp
  rw [List.filterM, kept, List.append_nil]
  exact congrArg Except.ok (List.reverse_reverse _)

namespace Report

/-! ### Entries of records -/

theorem entry_record {entries : List (String × Value)} {key : String} {value : Value}
    (found : entries.lookup key = some value) : entry (.record entries) key = .ok value := by
  rw [entry, Value.field?_record, found]

theorem shownEntry_record {entries : List (String × Value)} {key : String} {value : Value}
    (found : entries.lookup key = some value) :
    shownEntry (.record entries) key = .ok value.shown := by
  rw [shownEntry, entry_record found]
  rfl

/-! ### Parts of the text -/

theorem exists_statisticsLines (tally : Tally) :
    ∃ lines, statisticsLines tally.value = .ok lines := by
  refine exists_mapM_eq_ok fun row member => ?_
  simp only [statisticsRows, List.mem_cons, List.not_mem_nil, or_false] at member
  rcases member with rfl | rfl | rfl | rfl | rfl | rfl <;>
    exact exists_bind_eq_ok ⟨_, shownEntry_record rfl⟩ fun _ _ => ⟨_, rfl⟩

theorem exists_nodeLine (name : String) (targets : List String) :
    ∃ line, nodeLine (.record [("name", .text name), ("dependencies", .texts targets)]) =
      .ok line := by
  refine exists_bind_eq_ok ⟨_, entry_record rfl⟩ fun dependencies _ => ?_
  refine exists_bind_eq_ok ⟨_, shownEntry_record rfl⟩ fun name _ => ?_
  dsimp only
  split <;> exact ⟨_, rfl⟩

theorem exists_categoryLines (draft : Draft) :
    ∃ lines, categoryLines draft.summary = .ok lines := by
  refine exists_bind_eq_ok ⟨_, entry_record rfl⟩ fun counts _ => ?_
  split <;> exact ⟨_, rfl⟩

theorem exists_issueLines (issue : ReportedIssue) : ∃ lines, issueLines issue.value = .ok lines := by
  refine exists_bind_eq_ok ⟨_, shownEntry_record rfl⟩ fun document _ => ?_
  refine exists_bind_eq_ok ⟨_, shownEntry_record rfl⟩ fun category _ => ?_
  exact exists_bind_eq_ok ⟨_, shownEntry_record rfl⟩ fun message _ => ⟨_, rfl⟩

theorem issuesOf_map (severity : String) (issues : List ReportedIssue) :
    issuesOf severity (issues.map (·.value)) =
      .ok ((issues.filter (·.severity.name == severity)).map (·.value)) := by
  refine filterM_map_eq_ok (fun issue => ?_) issues
  have isSeverity : entry issue.value "severity" = .ok (.text issue.severity.name) :=
    entry_record rfl
  rw [isSeverity]
  rfl

theorem exists_sectionLines (title : String) (issues : List ReportedIssue) :
    ∃ lines, sectionLines title (issues.map (·.value)) = .ok lines := by
  unfold sectionLines
  split
  · exact ⟨_, rfl⟩
  · refine exists_bind_eq_ok (exists_mapM_eq_ok ?_) fun lines _ => ⟨_, rfl⟩
    exact List.forall_mem_map.2 fun issue _ => exists_issueLines issue

variable (draft : Draft) (runId : String) (now : Instant)

theorem exists_openingLines : ∃ lines, openingLines (draft.payload runId now) = .ok lines := by
  refine exists_bind_eq_ok ⟨_, shownEntry_record rfl⟩ fun timestamp _ => ?_
  refine exists_bind_eq_ok ⟨_, shownEntry_record rfl⟩ fun vocabulary _ => ?_
  refine exists_bind_eq_ok ⟨_, entry_record rfl⟩ fun contracts _ => ?_
  exact exists_bind_eq_ok ⟨_, entry_record rfl⟩ fun titles _ => ⟨_, rfl⟩

theorem exists_issueSection :
    ∃ lines, issueSection (draft.payload runId now) draft.summary = .ok lines := by
  refine exists_bind_eq_ok ⟨_, shownEntry_record rfl⟩ fun errors _ => ?_
  refine exists_bind_eq_ok ⟨_, shownEntry_record rfl⟩ fun warnings _ => ?_
  have found : entry (draft.payload runId now) "issues" = .ok (.list (draft.issues.map (·.value))) :=
    entry_record rfl
  refine exists_bind_eq_ok ⟨_, found⟩ fun issues same => ?_
  obtain rfl := Except.ok.inj (found.symm.trans same)
  simp only [elements]
  refine exists_bind_eq_ok ⟨_, issuesOf_map _ _⟩ fun errorIssues same => ?_
  obtain rfl := Except.ok.inj ((issuesOf_map _ _).symm.trans same)
  refine exists_bind_eq_ok ⟨_, issuesOf_map _ _⟩ fun warningIssues same => ?_
  obtain rfl := Except.ok.inj ((issuesOf_map _ _).symm.trans same)
  refine exists_bind_eq_ok (exists_sectionLines _ _) fun errorLines _ => ?_
  exact exists_bind_eq_ok (exists_sectionLines _ _) fun warningLines _ => ⟨_, rfl⟩

theorem verdictLine_payload :
    verdictLine (draft.payload runId now) =
      .ok (if draft.passed then "RESULT: PASS" else "RESULT: FAIL") := by
  have found : entry (draft.payload runId now) "passed" = .ok (.boolean draft.passed) :=
    entry_record rfl
  rw [verdictLine, found]
  rfl

/-! ### The whole text -/

theorem text_payload (isVerbose : Bool) :
    ∃ lines, text (draft.payload runId now) isVerbose =
      .ok ("\n".intercalate
        (lines ++ [rule, if draft.passed then "RESULT: PASS" else "RESULT: FAIL"])) := by
  have statistics : entry (draft.payload runId now) "stats" = .ok draft.tally.value := entry_record rfl
  have summary : entry (draft.payload runId now) "summary" = .ok draft.summary := entry_record rfl
  have graph : entry (draft.payload runId now) "dependency_graph" = .ok (.list
      (draft.graph.entries.map fun node =>
        .record [("name", .text node.1), ("dependencies", .texts node.2)])) := entry_record rfl
  obtain ⟨opening, isOpening⟩ := exists_openingLines draft runId now
  obtain ⟨counts, areCounts⟩ := exists_statisticsLines draft.tally
  obtain ⟨nodes, areNodes⟩ : ∃ nodes, (elements (.list (draft.graph.entries.map
      fun node => .record [("name", .text node.1), ("dependencies", .texts node.2)]))).mapM
        nodeLine = .ok nodes :=
    exists_mapM_eq_ok (List.forall_mem_map.2 fun node _ => exists_nodeLine node.1 node.2)
  obtain ⟨categories, areCategories⟩ := exists_categoryLines draft
  obtain ⟨issues, areIssues⟩ := exists_issueSection draft runId now
  simp only [text, statistics, summary, graph, isOpening, areCounts, areNodes, areCategories, areIssues,
    verdictLine_payload, bind, Except.bind, pure, Except.pure]
  cases isVerbose <;> exact ⟨_, rfl⟩

/-! ### The last line -/

/-- The text ends with an ending. -/
def EndsWith (text ending : String) : Prop :=
  ending.toList <:+ text.toList

theorem endsWith_intercalate (separator : String) (texts : List String) (last : String) :
    EndsWith (separator.intercalate (texts ++ [last])) last := by
  rw [EndsWith, String.toList_intercalate, List.map_append, List.map_singleton,
    Text.intercalate_concat]
  exact List.suffix_append _ _

/-- The text of a draft ends as one that passes does just when the draft passes. -/
theorem endsWith_pass_iff {draft : Draft} {runId : String} {now : Instant} {isVerbose : Bool}
    {shown : String} (made : text (draft.payload runId now) isVerbose = .ok shown) :
    EndsWith shown "RESULT: PASS" ↔ draft.passed = true := by
  obtain ⟨lines, same⟩ := text_payload draft runId now isVerbose
  obtain rfl := Except.ok.inj (made.symm.trans same)
  have ending := endsWith_intercalate "\n" (lines ++ [rule])
    (if draft.passed then "RESULT: PASS" else "RESULT: FAIL")
  rw [List.append_assoc, List.singleton_append] at ending
  cases passed : draft.passed with
  | true => simpa [passed] using ending
  | false =>
    -- Both endings are of one length, so a text cannot have both.
    simp only [passed, Bool.false_eq_true, if_false, iff_false] at ending ⊢
    intro other
    have same := (List.suffix_of_suffix_length_le other ending (by decide)).eq_of_length (by decide)
    exact absurd same (by decide)

end Report

end Concord
