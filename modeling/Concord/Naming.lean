/-
The audit of names. Two declared names that are nearly the same are suspicious unless a convention
explains them: a pair of patterns that one name and the other fit, or a common base once a known suffix
is taken off. A name that ends like a reference should have an entity to refer to.
-/

import Concord.Document
import Concord.Issue
import Concord.Naming.Similarity
import Concord.Pattern.Refusal
import Concord.Pattern.Search
import Concord.Settings

namespace Concord.Naming

open Text

/-! ### Conventions -/

/-- Two patterns for names that belong together. -/
structure PatternPair where
  left : Pattern
  right : Pattern
  deriving DecidableEq, Repr

/-- One name fits one pattern and the other name the other. -/
def PatternPair.matches (pair : PatternPair) (first second : String) : Bool :=
  (pair.left.isFoundIn first.toList && pair.right.isFoundIn second.toList) ||
    (pair.right.isFoundIn first.toList && pair.left.isFoundIn second.toList)

/-- A pattern that cannot be read: its form and why. -/
structure BadPattern where
  form : String
  refusal : Pattern.Refusal
  deriving DecidableEq, Repr

/-- Why the pattern cannot be read, in words. -/
def BadPattern.message (pattern : BadPattern) : String :=
  pattern.refusal.message pattern.form

/-- The form is at fault, and not what it asks for. -/
def BadPattern.isForeseen (pattern : BadPattern) : Bool :=
  pattern.refusal.fault.isForeseen

/-- The pattern of a form. -/
def readPattern (reading : Pattern.Reading) (form : String) : Except BadPattern Pattern :=
  (reading form).mapError fun refusal => ⟨form, refusal⟩

/-- The patterns of a rule. -/
def readRule (reading : Pattern.Reading) (rule : NamingRule) : Except BadPattern PatternPair := do
  let left ← readPattern reading rule.left
  let right ← readPattern reading rule.right
  return ⟨left, right⟩

/-- The suffixes, longest first; those of one length keep their order. -/
def longestFirst (suffixes : List String) : List String :=
  suffixes.mergeSort fun first second => second.length ≤ first.length

/-- A name without a suffix, if something is left. -/
def withoutSuffix? (name suffix : List Char) : Option (List Char) :=
  if suffix.isEmpty then none
  else (upTo? name suffix).filter fun base => !base.isEmpty

/-- A name without the longest suffix that leaves something. -/
def stripSuffix (suffixes : List String) (name : String) : String :=
  match (longestFirst suffixes).findSome? fun suffix => withoutSuffix? name.toList suffix.toList with
  | some base => String.ofList base
  | none => name

/-- Two names have one base once suffixes are taken off, letter case aside. -/
def haveOneBase (suffixes : List String) (first second : String) : Bool :=
  lower (stripSuffix suffixes first).toList == lower (stripSuffix suffixes second).toList

/-- A convention explains the pair. Rules are read one after another, and only until one fits. -/
def isExpectedPair (reading : Pattern.Reading) (suffixes : List String) (first second : String) :
    List NamingRule → Except BadPattern Bool
  | [] => .ok (haveOneBase suffixes first second)
  | rule :: rules => do
    let pair ← readRule reading rule
    if pair.matches first second then return true
    else isExpectedPair reading suffixes first second rules

/-! ### Declared names -/

/-- The declarations of all documents, the first of each name. -/
def firstDeclarations (documents : List Document) : List Declaration :=
  firstOfEachName [] (documents.flatMap (·.declarations))
where
  /-- The declarations whose names have not occurred before. -/
  firstOfEachName (seen : List String) : List Declaration → List Declaration
    | [] => []
    | declaration :: declarations =>
      if seen.contains declaration.name then firstOfEachName seen declarations
      else declaration :: firstOfEachName (declaration.name :: seen) declarations

/-- The declaration of a name in a list. -/
def declarationOf? (declarations : List Declaration) (name : String) : Option Declaration :=
  declarations.find? (·.name == name)

/-! ### Issues -/

/-- The issue of two similar names, declared at the given places. -/
def similarityIssue (pair : SimilarPair) (left right : Declaration) : Issue :=
  let share := (percent pair.ratio).toNat
  .warning .namingSimilarity
    s!"Similar names detected: '{pair.first}' and '{pair.second}' ({share}% similar)"
    left.document (some left.line)
    s!"Consider standardizing to one name. Found in: {left.document} and {right.document}"

/-- The issue of one pair, unless it is expected. -/
def pairIssues (reading : Pattern.Reading) (settings : Settings) (declarations : List Declaration)
    (pair : SimilarPair) : Except BadPattern (List Issue) := do
  let isExpected ←
    isExpectedPair reading settings.strippableSuffixes pair.first pair.second settings.namingRules
  match declarationOf? declarations pair.first, declarationOf? declarations pair.second with
  | some left, some right => return if isExpected then [] else [similarityIssue pair left right]
  | _, _ => return []

/-- The name that a reference is left with once its suffix is taken off. -/
def entityOf? (suffix name : String) : Option String :=
  (withoutSuffix? name.toList suffix.toList).map String.ofList

/-- The issue of a reference to an entity. -/
def orphanIssue (declaration : Declaration) (entity : String) : Issue :=
  .warning .namingSimilarity
    s!"Reference type '{declaration.name}' has no corresponding full entity '{entity}'"
    declaration.document (some declaration.line)
    s!"Consider defining '{entity}' or renaming if this is not a reference type"

/-- The issue of a reference whose entity is declared nowhere. -/
def orphanIssue? (settings : Settings) (declarations : List Declaration) (declaration : Declaration) :
    Option Issue :=
  match entityOf? settings.referenceSuffix declaration.name with
  | some entity =>
    if (declarationOf? declarations entity).isSome then none
    else some (orphanIssue declaration entity)
  | none => none

/-- The issues of similar names, then those of references without an entity. -/
def issues (reading : Pattern.Reading) (settings : Settings) (vocabulary : Document)
    (contracts : List Document) : Except BadPattern (List Issue) := do
  let declarations := firstDeclarations (vocabulary :: contracts)
  let pairs := similarPairs settings.namingThreshold (declarations.map (·.name))
  let similar ← pairs.mapM (pairIssues reading settings declarations)
  return similar.flatten ++ declarations.filterMap (orphanIssue? settings declarations)

end Concord.Naming
