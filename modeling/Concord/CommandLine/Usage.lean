/-
What the words of a command line come to: the options that are set, with the words they take, the command
with everything behind it, and the words that nothing takes. Options take effect one after another, and
the first that cannot ends the reading.
-/

import Concord.CommandLine.Word
import Concord.Text.Integer

namespace Concord.CommandLine

open Text

/-! ### Results -/

/-- What words have come to so far. -/
structure Usage where
  /-- The options that are set, by their full names, in order. -/
  settings : List (String × List String) := []
  command : Option (String × List String) := none
  unrecognized : List String := []
  deriving DecidableEq, Repr

/-- Why reading ends early. -/
inductive Stop where
  /-- The option asks for something that is shown instead of running a command. -/
  | shown (form : Form) (option : String)
  | notUsable (form : Form) (misuse : Misuse)
  deriving DecidableEq, Repr

namespace Usage

/-- The option is set. -/
def has (usage : Usage) (name : String) : Bool :=
  usage.settings.any (·.1 == name)

/-- The words of an option that is set; those of its last occurrence count. -/
def words (usage : Usage) (name : String) : List String :=
  (usage.settings.reverse.lookup name).getD []

/-- The word of an option that is set. -/
def word? (usage : Usage) (name : String) : Option String :=
  (usage.words name).head?

end Usage

/-! ### One option -/

/-- The option may take the word. -/
def checkWord (form : OptionForm) (word : String) : Except Misuse Unit :=
  if form.takesInteger && (integer? word.toList).isNone then
    .error (.invalidInteger form.title word)
  else if !form.choices.isEmpty && !form.choices.contains word then
    .error (.invalidChoice form.title word form.choices)
  else .ok ()

/-- The option that is set already and may not stand beside another. -/
def conflict? (usage : Usage) (form : OptionForm) : Option String :=
  form.excluded.find? usage.has

/-- The option is set with words. -/
def set (usage : Usage) (form : OptionForm) (words : List String) : Except Misuse Usage := do
  words.forM (checkWord form)
  match conflict? usage form with
  | some other => .error (.excluded form.title other)
  | none => return { usage with settings := usage.settings ++ [(form.name, words)] }

/-- What is joined to an option cannot be letters of further options. -/
def isNoLetters (joined : Joined) : Bool :=
  joined.byEqualsSign || joined.word = "" || joined.word.toList.head? == some '-'

/-- The words that an option takes that has a word joined to it. An option that takes no words passes over
letters that are joined to it. -/
def wordsJoined (form : OptionForm) (joined : Joined) : Except Misuse (List String) :=
  match form.arity with
  | .none =>
    if isNoLetters joined then .error (.ignoredWord form.title joined.word) else .ok []
  | .one | .several => .ok [joined.word]

/-- The plain words that open a command line, and the rest. -/
def plainWords : List Word → List String × List Word
  | word :: words =>
    if word.kind = .plain then
      let (taken, rest) := plainWords words
      (word.text :: taken, rest)
    else ([], word :: words)
  | [] => ([], [])

/-- The words that an option takes of those behind it, and the rest. -/
def wordsBehind (form : OptionForm) (words : List Word) : Except Misuse (List String × List Word) :=
  match form.arity with
  | .none => .ok ([], words)
  | .one =>
    match words with
    | word :: rest =>
      if word.kind = .plain then .ok ([word.text], rest) else .error (.expectedOne form.title)
    | [] => .error (.expectedOne form.title)
  | .several =>
    match plainWords words with
    | ([], _) => .error (.expectedSeveral form.title)
    | found => .ok found

/-- The words of an option and the words behind them. -/
def wordsFor (form : OptionForm) (joined : Option Joined) (words : List Word) :
    Except Misuse (List String × List Word) :=
  match joined with
  | some joined => (wordsJoined form joined).map fun taken => (taken, words)
  | none => wordsBehind form words

/-! ### All words -/

/-- The options that show something instead of running a command. -/
def showing : List String := ["--help", "--version"]

/-- A command with the words behind it, or the refusal of a word that is none. -/
def takeCommand (form : Form) (usage : Usage) (word : Word) (words : List Word) : Except Misuse Usage :=
  if word.kind = .mark ∧ words.isEmpty then
    .ok { usage with unrecognized := usage.unrecognized ++ [word.text] }
  else if form.commands.contains word.text then
    .ok { usage with command := some (word.text, words.map (·.text)) }
  else .error (.invalidChoice "cmd" word.text form.commands)

/-- What words come to. Every step reads at least one of them. -/
def usageFrom (form : Form) : (steps : Nat) → Usage → List Word → Except Stop Usage
  | 0, usage, _ => .ok usage
  | _ + 1, usage, [] => .ok usage
  | steps + 1, usage, word :: words =>
    match word.kind with
    | .unknownOption =>
      usageFrom form steps { usage with unrecognized := usage.unrecognized ++ [word.text] } words
    | .option option joined => do
      let (taken, rest) ← (wordsFor option joined words).mapError (.notUsable form)
      let next ← (set usage option taken).mapError (.notUsable form)
      if showing.contains option.name then .error (.shown form option.name)
      else usageFrom form steps next rest
    | .plain | .mark =>
      if form.commands.isEmpty then
        usageFrom form steps { usage with unrecognized := usage.unrecognized ++ [word.text] } words
      else (takeCommand form usage word words).mapError (.notUsable form)

/-- The options that are required and are not set. -/
def missing (form : Form) (usage : Usage) : List String :=
  (form.options.filter fun option => option.isRequired && !usage.has option.name).map (·.title)

/-- What the words of a command line come to under a form. -/
def usageOf (form : Form) (words : List String) : Except Stop Usage := do
  let known ← (wordsOf form.options words).mapError (.notUsable form)
  usageFrom form known.length {} known

/-- Every option that is required is set. -/
def checkComplete (form : Form) (usage : Usage) : Except Stop Unit :=
  match missing form usage with
  | [] => .ok ()
  | titles => .error (.notUsable form (.missing titles))

end Concord.CommandLine
