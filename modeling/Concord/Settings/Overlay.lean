/-
Settings as data. Every setting has an entry of its own; a mapping that has some of the entries can be
laid over settings, and the entries that it lacks stay as they are. The mapping has to meet the schema
of settings, and every pattern of a naming rule has to be one that can be read.
-/

import Concord.Naming
import Concord.Schema.Published

namespace Concord

/-! ### Settings as entries -/

/-- The entries of a naming rule. -/
def NamingRule.value (rule : NamingRule) : Value :=
  .record [("left", .text rule.left), ("right", .text rule.right)]

namespace Settings

/-- The entries of settings. -/
def value (settings : Settings) : Value :=
  .record [
    ("fence_languages", .texts settings.fenceLanguages),
    ("external_modules", .texts settings.externalModules),
    ("scoped_modules_are_external", .boolean settings.scopedModulesAreExternal),
    ("shared_markers", .texts settings.sharedMarkers),
    ("type_equivalences", .list (settings.typeEquivalences.map fun (first, second) =>
      .texts [first, second])),
    ("naming_threshold", .number settings.namingThreshold),
    ("naming_pairs", .list (settings.namingRules.map (·.value))),
    ("strippable_suffixes", .texts settings.strippableSuffixes),
    ("reference_suffix", .text settings.referenceSuffix),
    ("service_suffixes", .texts settings.serviceSuffixes),
    ("markdown_suffixes", .texts settings.proseSuffixes)]

/-! ### Entries put into settings -/

/-- The text of a value. -/
def textOf? : Value → Option String
  | .text text => some text
  | _ => none

/-- The texts of a list. -/
def textsOf? : Value → Option (List String)
  | .list items => items.mapM textOf?
  | _ => none

/-- The two texts of a list. -/
def pairOf? (value : Value) : Option (String × String) :=
  match textsOf? value with
  | some [first, second] => some (first, second)
  | _ => none

/-- The pairs of a list. -/
def pairsOf? : Value → Option (List (String × String))
  | .list items => items.mapM pairOf?
  | _ => none

/-- The naming rule of a mapping. -/
def ruleOf? (value : Value) : Option NamingRule :=
  match value.field? "left", value.field? "right" with
  | some (.text left), some (.text right) => some ⟨left, right⟩
  | _, _ => none

/-- The naming rules of a list. -/
def rulesOf? : Value → Option (List NamingRule)
  | .list items => items.mapM ruleOf?
  | _ => none

/-- The number of a value. -/
def numberOf? : Value → Option Number
  | .number number => some number
  | _ => none

/-- The truth value of a value. -/
def booleanOf? : Value → Option Bool
  | .boolean value => some value
  | _ => none

/-- What a mapping has at a key, if it is of the wanted form; otherwise what held before. -/
def entryOr {Entry : Type} (raw : Value) (key : String) (read : Value → Option Entry)
    (before : Entry) : Entry :=
  ((raw.field? key).bind read).getD before

/-- The settings with the entries of a mapping. -/
def put (settings : Settings) (raw : Value) : Settings :=
  { fenceLanguages := entryOr raw "fence_languages" textsOf? settings.fenceLanguages
    externalModules := entryOr raw "external_modules" textsOf? settings.externalModules
    scopedModulesAreExternal :=
      entryOr raw "scoped_modules_are_external" booleanOf? settings.scopedModulesAreExternal
    sharedMarkers := entryOr raw "shared_markers" textsOf? settings.sharedMarkers
    typeEquivalences := entryOr raw "type_equivalences" pairsOf? settings.typeEquivalences
    namingThreshold := entryOr raw "naming_threshold" numberOf? settings.namingThreshold
    namingRules := entryOr raw "naming_pairs" rulesOf? settings.namingRules
    strippableSuffixes := entryOr raw "strippable_suffixes" textsOf? settings.strippableSuffixes
    referenceSuffix := entryOr raw "reference_suffix" textOf? settings.referenceSuffix
    serviceSuffixes := entryOr raw "service_suffixes" textsOf? settings.serviceSuffixes
    proseSuffixes := entryOr raw "markdown_suffixes" textsOf? settings.proseSuffixes }

/-! ### Laying a mapping over settings -/

/-- Why a mapping cannot be laid over settings. -/
inductive OverlayRefusal where
  | notMet (violation : Schema.Violation)
  | badPattern (pattern : Naming.BadPattern)
  deriving Repr

/-- Every pattern of the naming rules can be read. The first that cannot is reported, the left one of
a rule before the right one. -/
def checkRules (reading : Pattern.Reading) (rules : List NamingRule) :
    Except Naming.BadPattern Unit :=
  rules.forM fun rule => (Naming.readRule reading rule).map fun _ => ()

/-- The naming rules that a mapping brings. -/
def broughtRules (raw : Value) : List NamingRule :=
  entryOr raw "naming_pairs" rulesOf? []

/-- The settings with a mapping laid over them. -/
def overlay (reading : Pattern.Reading) (settings : Settings) (raw : Value) :
    Except OverlayRefusal Settings := do
  (Schema.settings.check raw).mapError .notMet
  (checkRules reading (broughtRules raw)).mapError .badPattern
  return settings.put raw

end Settings

end Concord
