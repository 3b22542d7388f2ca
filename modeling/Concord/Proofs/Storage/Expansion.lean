/-
The paths that a list of patterns stands for. Each text is kept where it first occurs, so nothing that a
pattern stands for is lost, and the order of the documents is the order of first occurrence. But texts are
compared as they are written and documents are known by the path that a text names: a document occurs
once exactly when no two of the texts name one path.
-/

import Concord.Document.File
import Concord.Proofs.Naming.Findings
import Concord.Proofs.Occurrence
import Concord.Storage.Expansion

namespace Concord.Storage

/-! ### What patterns stand for -/

/-- The path named by a text, as a document at it is known. -/
def identifierOf (text : String) : String :=
  (Path.ofText text).text

/-- What a pattern stands for: a text without magic for itself, any other for what is found. -/
def standsFor (storage : Storage) (pattern : String) : List String :=
  if NamePattern.hasMagic pattern.toList then storage.glob pattern else [pattern]

section Expanded

variable {storage : Storage}

theorem matchesOf_eq {pattern : String} {found : List String}
    (success : storage.matchesOf pattern = .ok found) : found = storage.standsFor pattern := by
  unfold matchesOf at success
  unfold standsFor
  cases magic : NamePattern.hasMagic pattern.toList with
  | false =>
    rw [magic] at success
    exact (Except.ok.inj success).symm
  | true =>
    simp only [magic, Bool.not_true, Bool.false_eq_true, if_false] at success
    split at success
    · cases success
    · split at success
      · cases success
      · exact (Except.ok.inj success).symm

variable {patterns paths : List String}

theorem expand_eq (expanded : storage.expand patterns = .ok paths) :
    paths = firstOccurrences (patterns.flatMap storage.standsFor) := by
  rw [expand] at expanded
  cases success : patterns.mapM storage.matchesOf with
  | error refusal => rw [success] at expanded; cases expanded
  | ok found =>
    rw [success] at expanded
    have each : found = patterns.map storage.standsFor := by
      rw [← List.forall₂_eq_eq_eq, List.forall₂_map_right_iff]
      exact (Naming.mapM_eq_ok_iff.1 success).flip.imp fun _ _ => matchesOf_eq
    rw [← Except.ok.inj expanded, each, List.flatMap]

/-! ### Documents -/

/-- No two of the texts name one path. -/
def AreApart (texts : List String) : Prop :=
  ∀ first ∈ texts, ∀ second ∈ texts, identifierOf first = identifierOf second → first = second

instance (texts : List String) : Decidable (AreApart texts) :=
  inferInstanceAs (Decidable (∀ first ∈ texts, ∀ second ∈ texts, _ → first = second))

theorem nodup_identifiers_iff {texts : List String} (distinct : texts.Nodup) :
    (texts.map identifierOf).Nodup ↔ AreApart texts :=
  ⟨fun apart _ first _ second => List.inj_on_of_nodup_map apart first second,
    fun apart => distinct.map_on apart⟩

/-- A document that is read is known by the path that was given. -/
theorem identifiers_ofFiles {settings : Settings} {documents : List Document}
    (read : Document.ofFiles settings storage (paths.map .ofText) = .ok documents) :
    documents.map (·.identifier) = paths.map identifierOf := by
  rw [← List.forall₂_eq_eq_eq, List.forall₂_map_left_iff, List.forall₂_map_right_iff]
  have each := List.forall₂_map_left_iff.1 (Naming.mapM_eq_ok_iff.1 read)
  refine each.flip.imp fun document path success => ?_
  rw [Document.ofFile] at success
  split at success
  · rw [← Except.ok.inj success]
    rfl
  · cases success

/-- What patterns stand for is there under its path, in order of first occurrence, and once exactly when
it has one spelling. -/
theorem identifiers_expand (expanded : storage.expand patterns = .ok paths) :
    (∀ pattern ∈ patterns, NamePattern.hasMagic pattern.toList = false →
        identifierOf pattern ∈ paths.map identifierOf) ∧
      (∀ pattern ∈ patterns, NamePattern.hasMagic pattern.toList = true →
        ∀ found ∈ storage.glob pattern, identifierOf found ∈ paths.map identifierOf) ∧
      firstOccurrences (paths.map identifierOf) =
        firstOccurrences ((patterns.flatMap storage.standsFor).map identifierOf) ∧
      ((paths.map identifierOf).Nodup ↔ AreApart (patterns.flatMap storage.standsFor)) ∧
      (AreApart (patterns.flatMap storage.standsFor) → paths.map identifierOf =
        firstOccurrences ((patterns.flatMap storage.standsFor).map identifierOf)) ∧
      ∀ settings documents, Document.ofFiles settings storage (paths.map .ofText) = .ok documents →
        documents.map (·.identifier) = paths.map identifierOf := by
  have isExpansion := expand_eq expanded
  have listed : ∀ pattern ∈ patterns, ∀ text ∈ storage.standsFor pattern,
      identifierOf text ∈ paths.map identifierOf := by
    intro pattern given text stands
    rw [isExpansion]
    exact List.mem_map_of_mem (mem_firstOccurrences.2 (List.mem_flatMap.2 ⟨pattern, given, stands⟩))
  have order : firstOccurrences (paths.map identifierOf) =
      firstOccurrences ((patterns.flatMap storage.standsFor).map identifierOf) := by
    rw [isExpansion, firstOccurrences_map]
  have distinct : (paths.map identifierOf).Nodup ↔ AreApart (patterns.flatMap storage.standsFor) := by
    rw [isExpansion, nodup_identifiers_iff (nodup_firstOccurrences _)]
    simp only [AreApart, mem_firstOccurrences]
  refine ⟨?_, ?_, order, distinct, ?_, fun settings documents read => identifiers_ofFiles read⟩
  · intro pattern given plain
    exact listed pattern given pattern (by simp [standsFor, plain])
  · intro pattern given magic found member
    exact listed pattern given found (by simpa [standsFor, magic] using member)
  · intro apart
    rw [← order, firstOccurrences_of_nodup (distinct.2 apart)]

end Expanded

/-- Two contracts in the working directory. -/
def twoContracts : Storage :=
  ⟨.directory [("bills.md", .file []), ("orders.md", .file [])], []⟩

theorem glob_twoContracts : twoContracts.glob "*.md" = ["bills.md", "orders.md"] := by
  have found : ((twoContracts.pathsOf ("*.md".toList.length + 1) false "*.md".toList).filter
      (!·.isEmpty)).map String.ofList = ["bills.md", "orders.md"] := by decide +kernel
  rw [glob, found]
  exact List.mergeSort_of_pairwise (by decide)

/-- A pattern that overlaps a name, and a name that is no file. -/
theorem identifiers_expand_overlapping :
    twoContracts.expand ["orders.md", "*.md", "./drafts.md"] =
        .ok ["orders.md", "bills.md", "./drafts.md"] ∧
      AreApart (["orders.md", "*.md", "./drafts.md"].flatMap twoContracts.standsFor) ∧
      ["orders.md", "bills.md", "./drafts.md"].map identifierOf =
        ["orders.md", "bills.md", "drafts.md"] ∧
      (["orders.md", "bills.md", "./drafts.md"].map identifierOf).Nodup := by
  have expanded : twoContracts.expand ["orders.md", "*.md", "./drafts.md"] =
      .ok ["orders.md", "bills.md", "./drafts.md"] := by
    have all : ["orders.md", "*.md", "./drafts.md"].mapM twoContracts.matchesOf =
        .ok [["orders.md"], ["bills.md", "orders.md"], ["./drafts.md"]] := by
      refine Naming.mapM_eq_ok_iff.2 <| .cons (by decide +kernel) <| .cons ?_ <|
        .cons (by decide +kernel) .nil
      rw [matchesOf, glob_twoContracts]
      decide +kernel
    rw [expand, all]
    decide +kernel
  have apart : AreApart (["orders.md", "*.md", "./drafts.md"].flatMap twoContracts.standsFor) := by
    have stands : twoContracts.standsFor "*.md" = ["bills.md", "orders.md"] := by
      rw [standsFor, if_pos (by decide +kernel), glob_twoContracts]
    rw [List.flatMap_cons, List.flatMap_cons, stands]
    decide +kernel
  obtain ⟨-, -, -, distinct, -⟩ := identifiers_expand expanded
  exact ⟨expanded, apart, by decide +kernel, distinct.2 apart⟩

/-- A document that is named in two spellings is verified twice. -/
theorem expand_respelled :
    ∃ documents,
      twoContracts.expand ["orders.md", "./orders.md"] = .ok ["orders.md", "./orders.md"] ∧
      Document.ofFiles {} twoContracts (["orders.md", "./orders.md"].map .ofText) = .ok documents ∧
      documents.map (·.identifier) = ["orders.md", "orders.md"] ∧
      ¬ (documents.map (·.identifier)).Nodup := by
  refine ⟨[.ofText {} "orders.md" "", .ofText {} "orders.md" ""], ?_, ?_, ?_, ?_⟩
  · decide +kernel
  · decide +kernel
  · decide +kernel
  · decide +kernel

end Concord.Storage
