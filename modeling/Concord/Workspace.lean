/-
A workspace: settings, a shared vocabulary and contracts that come and go. A document is read under the
settings that hold at the time and is not read again when they change.
-/

import Concord.Coverage.Expected
import Concord.Document.Reading
import Concord.Settings.Overlay
import Concord.Verification

namespace Concord

structure Workspace where
  settings : Settings
  vocabulary : Document
  /-- The contracts, in the order in which they first came. -/
  contracts : List Document

namespace Workspace

/-! ### Documents -/

/-- The workspace without contracts, with an empty vocabulary and the default settings. -/
def start : Workspace :=
  { settings := {}, vocabulary := .ofText {} "primitives.ts" "", contracts := [] }

/-- A contract among contracts: it takes the place of the one with its identifier, or comes last. -/
def putContract (contract : Document) : List Document → List Document
  | [] => [contract]
  | known :: contracts =>
    if known.identifier = contract.identifier then contract :: contracts
    else known :: putContract contract contracts

/-- The document that a text is under the settings of the workspace. -/
def read (workspace : Workspace) (identifier text : String) : Document :=
  .ofText workspace.settings identifier text

/-- The workspace with another vocabulary. -/
def withVocabulary (workspace : Workspace) (vocabulary : Document) : Workspace :=
  { workspace with vocabulary }

/-- The workspace with one contract more, or another in its place. -/
def withContract (workspace : Workspace) (contract : Document) : Workspace :=
  { workspace with contracts := putContract contract workspace.contracts }

/-- A contract has the identifier. -/
def hasContract (workspace : Workspace) (identifier : String) : Bool :=
  workspace.contracts.any (·.identifier == identifier)

/-- The workspace without the contract that has the identifier. -/
def withoutContract (workspace : Workspace) (identifier : String) : Workspace :=
  { workspace with contracts := workspace.contracts.filter (·.identifier != identifier) }

/-- The workspace with a mapping laid over its settings. -/
def configured (workspace : Workspace) (reading : Pattern.Reading) (raw : Value) :
    Except Settings.OverlayRefusal Workspace :=
  (workspace.settings.overlay reading raw).map fun settings => { workspace with settings }

/-! ### Checks -/

/-- The verification of the contracts. -/
def verify (workspace : Workspace) (reading : Pattern.Reading) :
    Except Naming.BadPattern Verification :=
  Verification.of reading workspace.settings workspace.vocabulary workspace.contracts

/-- The coverage of what is expected by default. -/
def coverage (workspace : Workspace) (domains : List String) : Except Coverage.Refusal Coverage :=
  Coverage.of Coverage.defaultExpectations workspace.vocabulary domains

theorem hasContract_withContract (workspace : Workspace) (contract : Document) :
    (workspace.withContract contract).hasContract contract.identifier = true := by
  unfold hasContract withContract
  induction workspace.contracts with
  | nil => simp [putContract]
  | cons known contracts inductionHypothesis =>
    unfold putContract
    split
    · simp
    · simp only [List.any_cons, inductionHypothesis, Bool.or_true]

end Workspace

end Concord
