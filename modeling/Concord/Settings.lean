/-
Settings of a verification run: every table that the checks consult, as plain data, with the values
that hold when a project says nothing else.
-/

import Concord.Number.Binary64

namespace Concord

/-- Two search patterns for names that belong together by convention. -/
structure NamingRule where
  left : String
  right : String
  deriving DecidableEq, Repr

namespace Settings

/-! ### Default tables -/

def defaultFenceLanguages : List String :=
  ["typescript", "ts", "tsx"]

def defaultExternalModules : List String :=
  ["zod", "express", "prisma", "@prisma/client", "date-fns", "lodash"]

def defaultSharedMarkers : List String :=
  ["shared"]

def defaultTypeEquivalences : List (String × String) :=
  [("Date", "string")]

def defaultNamingRules : List NamingRule :=
  [⟨"^Create\\w+Input$", "^Update\\w+Input$"⟩,
    ⟨"^Create\\w+Request$", "^Update\\w+Request$"⟩,
    ⟨"^Create\\w+Response$", "^Update\\w+Response$"⟩,
    ⟨"^\\w+Request$", "^\\w+Response$"⟩,
    ⟨"^\\w+Input$", "^\\w+Output$"⟩,
    ⟨"^\\w+Id$", "^\\w+Ref$"⟩,
    ⟨"^\\w+Id$", "^\\w+Id$"⟩,
    ⟨"^\\w+Ref$", "^\\w+Ref$"⟩,
    ⟨"^\\w+Score$", "^\\w+Scores$"⟩,
    ⟨"^I\\w+Service$", "^I\\w+Repository$"⟩]

def defaultStrippableSuffixes : List String :=
  ["Id", "Ids", "Ref", "Refs", "Input", "Inputs", "Output", "Outputs", "Request", "Requests",
    "Response", "Responses", "Type", "Types", "Status", "Statuses", "Score", "Scores"]

def defaultServiceSuffixes : List String :=
  ["Service", "Repository"]

def defaultProseSuffixes : List String :=
  [".md", ".markdown"]

/-- `0.85`. -/
def defaultThreshold : Number :=
  .double (.ofDecimal false 85 (-2))

end Settings

/-! ### The settings -/

structure Settings where
  /-- Languages whose fenced blocks are read. -/
  fenceLanguages : List String := Settings.defaultFenceLanguages
  /-- Modules whose imports need no declaration. -/
  externalModules : List String := Settings.defaultExternalModules
  /-- A module that begins with an at sign is external too. -/
  scopedModulesAreExternal : Bool := true
  /-- Parts of a relative path that mark the shared vocabulary. -/
  sharedMarkers : List String := Settings.defaultSharedMarkers
  /-- Types that may stand for one another. -/
  typeEquivalences : List (String × String) := Settings.defaultTypeEquivalences
  /-- The least ratio at which two names count as similar. -/
  namingThreshold : Number := Settings.defaultThreshold
  namingRules : List NamingRule := Settings.defaultNamingRules
  strippableSuffixes : List String := Settings.defaultStrippableSuffixes
  /-- The end of a name that refers to an entity. -/
  referenceSuffix : String := "Ref"
  /-- Ends of the names of records that describe services. -/
  serviceSuffixes : List String := Settings.defaultServiceSuffixes
  /-- Ends of the paths of prose documents. -/
  proseSuffixes : List String := Settings.defaultProseSuffixes
  deriving DecidableEq, Repr

end Concord
