/-
The words of a command line. A word is an option, by its full name or by the start of it if that is enough
to tell, it is the mark behind which there are no options any more, or it stands for itself. Words are told
apart before any of them takes effect.
-/

import Concord.Text.DecimalDigit
import Concord.Text.Pieces
import Concord.Text.Quoted

namespace Concord.CommandLine

open Text

/-! ### Options -/

/-- How many words an option takes. -/
inductive Arity where
  | none
  | one
  | several
  deriving DecidableEq, Repr

structure OptionForm where
  /-- The names of the option, the full one last. -/
  names : List String
  arity : Arity := .none
  isRequired : Bool := false
  /-- The words that it may take; any when there are none. -/
  choices : List String := []
  takesInteger : Bool := false
  /-- The options that may not stand beside it, by their full names. -/
  excluded : List String := []
  deriving DecidableEq, Repr

/-- All names of an option. -/
def OptionForm.title (form : OptionForm) : String :=
  "/".intercalate form.names

/-- The full name of an option. -/
def OptionForm.name (form : OptionForm) : String :=
  form.names.getLast?.getD ""

/-- What may stand on a command line: options, and a command if there are any. -/
structure Form where
  program : String
  options : List OptionForm
  commands : List String := []
  deriving DecidableEq, Repr

/-- How an option is written on a command line. -/
def OptionForm.sketch (form : OptionForm) : String :=
  let words := match form.arity with
    | .none => ""
    | .one => " WORD"
    | .several => " WORD ..."
  let sketch := form.title ++ words
  if form.isRequired then sketch else "[" ++ sketch ++ "]"

/-- The line that tells how a command line is written. -/
def Form.usageLine (form : Form) : String :=
  let command := if form.commands.isEmpty then [] else ["\x7b" ++ ",".intercalate form.commands ++ "\x7d ..."]
  "usage: " ++ " ".intercalate (form.program :: form.options.map (·.sketch) ++ command)

/-! ### Misuse -/

/-- What is wrong with a command line. -/
inductive Misuse where
  | ambiguous (word : String) (names : List String)
  /-- An option that takes no word has one. -/
  | ignoredWord (title word : String)
  | expectedOne (title : String)
  | expectedSeveral (title : String)
  | invalidChoice (title word : String) (choices : List String)
  | invalidInteger (title word : String)
  | excluded (title other : String)
  | missing (titles : List String)
  | unrecognized (words : List String)
  deriving DecidableEq, Repr

/-- What is wrong, in words. -/
def Misuse.message : Misuse → String
  | .ambiguous word names =>
    "ambiguous option: " ++ word ++ " could match " ++ ", ".intercalate names
  | .ignoredWord title word =>
    "argument " ++ title ++ ": ignored explicit argument " ++ quote word
  | .expectedOne title => "argument " ++ title ++ ": expected one argument"
  | .expectedSeveral title => "argument " ++ title ++ ": expected at least one argument"
  | .invalidChoice title word choices =>
    "argument " ++ title ++ ": invalid choice: " ++ quote word ++ " (choose from " ++
      ", ".intercalate (choices.map quote) ++ ")"
  | .invalidInteger title word =>
    "argument " ++ title ++ ": invalid int value: " ++ quote word
  | .excluded title other => "argument " ++ title ++ ": not allowed with argument " ++ other
  | .missing titles => "the following arguments are required: " ++ ", ".intercalate titles
  | .unrecognized words => "unrecognized arguments: " ++ " ".intercalate words

/-! ### Words -/

/-- A word that is joined to an option in one word of the command line. -/
structure Joined where
  /-- An equals sign stands between them. -/
  byEqualsSign : Bool
  word : String
  deriving DecidableEq, Repr

inductive WordKind where
  /-- It stands for itself. -/
  | plain
  /-- No options stand behind it. -/
  | mark
  | option (form : OptionForm) (joined : Option Joined)
  /-- It looks like an option, and there is none of that name. -/
  | unknownOption
  deriving DecidableEq, Repr

/-- A word of the command line and what it is. -/
structure Word where
  text : String
  kind : WordKind
  deriving DecidableEq, Repr

/-- The names of options with their options. -/
def namesOf (options : List OptionForm) : List (String × OptionForm) :=
  options.flatMap fun form => form.names.map fun name => (name, form)

/-- What stands before the first equals sign, and what stands behind it. -/
def splitAtEquals (word : List Char) : List Char × Option (List Char) :=
  cutAt (· == '=') word

/-- What is joined to an option by an equals sign. -/
def joinedByEquals (text : List Char) : Joined :=
  ⟨true, String.ofList text⟩

/-- The options that the start of a word in the long form may mean, by name. -/
def longCandidates (options : List OptionForm) (word : List Char) : List (String × WordKind) :=
  let (start, value?) := splitAtEquals word
  ((namesOf options).filter fun (name, _) => (after? start name.toList).isSome).map
    fun (name, form) => (name, .option form (value?.map joinedByEquals))

/-- The options that a word in the short form may mean, by name: the one that its letter names, with the
rest joined to it, and those that begin with the word. -/
def shortCandidates (options : List OptionForm) (word : List Char) : List (String × WordKind) :=
  (namesOf options).filterMap fun (name, form) =>
    if name.toList = word.take 2 then
      some (name, .option form (some ⟨false, String.ofList (word.drop 2)⟩))
    else if (after? word name.toList).isSome then some (name, .option form none)
    else none

/-- The options that a word may mean when it is no full name. -/
def candidates (options : List OptionForm) (word : List Char) : List (String × WordKind) :=
  match word with
  | '-' :: '-' :: _ => longCandidates options word
  | _ => shortCandidates options word

/-- The word is a negative number. -/
def isNegativeNumber (word : List Char) : Bool :=
  match word with
  | '-' :: rest =>
    let digits := if rest.getLast? = some '\n' then rest.dropLast else rest
    match cutAt (· == '.') digits with
    | (whole, none) => !whole.isEmpty && whole.all isDecimalDigit
    | (whole, some fraction) =>
      whole.all isDecimalDigit && !fraction.isEmpty && fraction.all isDecimalDigit
  | _ => false

/-- What a word is that begins with a dash and has more than one character, and is no full name. -/
def kindByStart (options : List OptionForm) (word : String) : Except Misuse WordKind :=
  match candidates options word.toList with
  | [(_, kind)] => .ok kind
  | [] =>
    if isNegativeNumber word.toList || word.toList.contains ' ' then .ok .plain
    else .ok .unknownOption
  | several => .error (.ambiguous word (several.map (·.1)))

/-- What a word is, as long as there may be options. -/
def kindOf (options : List OptionForm) (word : String) : Except Misuse WordKind :=
  let names := namesOf options
  if word.toList.head? ≠ some '-' ∨ word = "-" then .ok .plain
  else match names.lookup word with
    | some form => .ok (.option form none)
    | none =>
      match splitAtEquals word.toList with
      | (start, some value) =>
        match names.lookup (String.ofList start) with
        | some form => .ok (.option form (some (joinedByEquals value)))
        | none => kindByStart options word
      | (_, none) => kindByStart options word

/-- The words of a command line and what they are. -/
def wordsOf (options : List OptionForm) : List String → Except Misuse (List Word)
  | [] => .ok []
  | word :: words =>
    if word = "--" then
      .ok (⟨word, .mark⟩ :: words.map fun plain => ⟨plain, .plain⟩)
    else do
      let kind ← kindOf options word
      let others ← wordsOf options words
      return ⟨word, kind⟩ :: others

end Concord.CommandLine
