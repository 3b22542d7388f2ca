/-
Why a written form is no pattern. Nearly every refusal names the place in the form that it is about.
-/

import Concord.Pattern
import Concord.Text.Quoted

namespace Concord.Pattern

open Text

/-! ### Faults -/

inductive Fault where
  | unterminatedGroup
  | unterminatedComment
  | unbalancedParenthesis
  | unterminatedSet
  | multipleRepeat
  | nothingToRepeat
  | repeatBoundsReversed
  | danglingEscape
  | unexpectedEnd
  | badRange (text : String)
  | badEscape (text : String)
  | incompleteEscape (text : String)
  | octalTooLarge (text : String)
  | unknownCharacterName (name : String)
  | unknownExtension (text : String)
  /-- Something that has to stand here does not. -/
  | missing (what : String)
  /-- The mark that ends a name does not come. -/
  | unterminatedName (mark : Char)
  | badGroupName (name : String)
  | groupNameTaken (name : String) (number former : Nat)
  | unknownGroupName (name : String)
  | badGroupNumber
  | unknownGroup (number : Nat)
  | openGroup
  | groupInSameLookBehind
  | threeBranches
  | unknownFlag
  | localeFlag
  | incompatibleFlags
  | alphabetTurnedOff
  | globalFlagTurned (isOn : Bool)
  | flagOnAndOff
  | lateGlobalFlags
  | lookBehindTooFar
  | lookBehindOfSeveralWidths
  /-- A pattern that is a template repeats nothing. -/
  | repetitionInTemplate (name : String)
  /-- A repetition has a bound that is too large to be counted up to. -/
  | tooManyRepetitions
  /-- The whole pattern is to be read by two alphabets. -/
  | twoAlphabets
  /-- Reading is stopped by something that has nothing to do with patterns. -/
  | stopped (message : String)
  deriving DecidableEq, Repr

namespace Fault

/-- What a fault is called. -/
def text : Fault → String
  | .unterminatedGroup => "missing ), unterminated subpattern"
  | .unterminatedComment => "missing ), unterminated comment"
  | .unbalancedParenthesis => "unbalanced parenthesis"
  | .unterminatedSet => "unterminated character set"
  | .multipleRepeat => "multiple repeat"
  | .nothingToRepeat => "nothing to repeat"
  | .repeatBoundsReversed => "min repeat greater than max repeat"
  | .danglingEscape => "bad escape (end of pattern)"
  | .unexpectedEnd => "unexpected end of pattern"
  | .badRange text => s!"bad character range {text}"
  | .badEscape text => s!"bad escape {text}"
  | .incompleteEscape text => s!"incomplete escape {text}"
  | .octalTooLarge text => s!"octal escape value {text} outside of range 0-0o377"
  | .unknownCharacterName name => s!"undefined character name {quote name}"
  | .unknownExtension text => s!"unknown extension {text}"
  | .missing what => s!"missing {what}"
  | .unterminatedName mark => s!"missing {mark}, unterminated name"
  | .badGroupName name => s!"bad character in group name {quote name}"
  | .groupNameTaken name number former =>
    s!"redefinition of group name {quote name} as group {number}; was group {former}"
  | .unknownGroupName name => s!"unknown group name {quote name}"
  | .badGroupNumber => "bad group number"
  | .unknownGroup number => s!"invalid group reference {number}"
  | .openGroup => "cannot refer to an open group"
  | .groupInSameLookBehind => "cannot refer to group defined in the same lookbehind subpattern"
  | .threeBranches => "conditional backref with more than two branches"
  | .unknownFlag => "unknown flag"
  | .localeFlag => "bad inline flags: cannot use 'L' flag with a str pattern"
  | .incompatibleFlags => "bad inline flags: flags 'a', 'u' and 'L' are incompatible"
  | .alphabetTurnedOff => "bad inline flags: cannot turn off flags 'a', 'u' and 'L'"
  | .globalFlagTurned isOn =>
    "bad inline flags: cannot turn " ++ (if isOn then "on" else "off") ++ " global flag"
  | .flagOnAndOff => "bad inline flags: flag turned on and off"
  | .lateGlobalFlags => "global flags not at the start of the expression"
  | .lookBehindTooFar => "looks too much behind"
  | .lookBehindOfSeveralWidths => "look-behind requires fixed-width pattern"
  | .repetitionInTemplate name => s!"internal: unsupported template operator {name}"
  | .tooManyRepetitions => "the repetition number is too large"
  | .twoAlphabets => "ASCII and UNICODE flags are incompatible"
  | .stopped message => message

/-- The fault is one of form; of the others two only show when the pattern is put together. -/
def isForeseen : Fault → Bool
  | .tooManyRepetitions | .twoAlphabets | .stopped _ => false
  | _ => true

end Fault

/-! ### Refusals -/

/-- A fault and, if it has one, the position in the form that it is about. -/
structure Refusal where
  fault : Fault
  position? : Option Nat
  deriving DecidableEq, Repr

/-- The refusal of a form, in words. A form of several lines has the line and the column named too. -/
def Refusal.message (refusal : Refusal) (form : String) : String :=
  match refusal.position? with
  | none => refusal.fault.text
  | some position =>
    let placed := s!"{refusal.fault.text} at position {position}"
    let before := form.toList.take position
    if form.toList.contains '\n' then
      let line := before.count '\n' + 1
      let column := (before.reverse.takeWhile (· != '\n')).length + 1
      s!"{placed} (line {line}, column {column})"
    else placed

/-- A way to read written forms. -/
abbrev Reading := String → Except Refusal Pattern

end Concord.Pattern
