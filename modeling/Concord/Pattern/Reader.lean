/-
Patterns from their written form. A form is read from left to right: alternatives are made of sequences,
sequences of items, and an item may be a set, a group with a form inside it, or something before it
repeated. What only the finished pattern shows is looked at in the end.
-/

import Concord.Pattern.Escape
import Concord.Text.Blank
import Concord.Text.Integer
import Concord.Text.Name

namespace Concord.Pattern

open Text

/-! ### Sets -/

/-- The range between two entries, if both are characters in order. -/
def rangeOf? : SetItem → SetItem → Option SetItem
  | .range first _, .range last _ => if first ≤ last then some (.range first last) else none
  | _, _ => none

/-- The entry that a lexeme inside a set begins. -/
def setEntry (alphabet : Alphabet) (lexeme : Lexeme) : Reader SetItem :=
  match lexeme.kind with
  | .plain c => return .ofCharacter c
  | .escape c => setEscape alphabet c

/-- The entries up to and including the bracket that closes a set, behind those already read. The set was
opened at `start`; a closing bracket right at the beginning stands for itself. -/
def setEntries (alphabet : Alphabet) (start : Nat) :
    (steps : Nat) → (before : List SetItem) → Reader (List SetItem)
  | 0, _ => Reader.failAt .unterminatedSet start
  | steps + 1, before => do
    match ← Reader.take with
    | none => Reader.failAt .unterminatedSet start
    | some lexeme =>
      if lexeme.kind = .plain ']' ∧ !before.isEmpty then return before
      else
        let entry ← setEntry alphabet lexeme
        if ← Reader.accept '-' then
          match ← Reader.take with
          | none => Reader.failAt .unterminatedSet start
          | some last =>
            if last.kind = .plain ']' then return before ++ [entry, .ofCharacter '-']
            else
              match rangeOf? entry (← setEntry alphabet last) with
              | some range => setEntries alphabet start steps (before ++ [range])
              | none =>
                let text := lexeme.characters ++ '-' :: last.characters
                Reader.failBack (.badRange (String.ofList text)) text.length
        else setEntries alphabet start steps (before ++ [entry])

/-- The set whose opening bracket has been taken at `start`. -/
def setPattern (flags : List Flag) (start : Nat) : Reader Pattern := do
  let isNegated ← Reader.accept '^'
  let steps := (← get).rest.length + 1
  let entries ← setEntries (Flag.alphabet flags) start steps []
  return .set isNegated (Flag.likeness flags) entries

/-! ### Repetition -/

/-- How often something is repeated. -/
structure Bounds where
  least : Nat
  most? : Option Nat
  deriving DecidableEq, Repr

/-- The least number that is too large to be counted up to. -/
def countLimit : Nat := 0xffffffff

/-- The bounds behind an opening brace, or nothing when the brace stands for itself. -/
def bracedBounds? : Reader (Option Bounds) := do
  if (← Reader.peek) = some (.plain '\x7d') then return none
  let before ← get
  let start ← Reader.here
  let low ← Reader.run Char.isDigit before.rest.length
  let high ← if ← Reader.accept ',' then Reader.run Char.isDigit before.rest.length else pure low
  if ← Reader.accept '\x7d' then
    let least := baseNumber 10 low
    let most? := if high.isEmpty then none else some (baseNumber 10 high)
    if countLimit ≤ least ∨ most?.any (countLimit ≤ ·) then
      throw ⟨.tooManyRepetitions, none⟩
    if most?.any (· < least) then Reader.failAt .repeatBoundsReversed start
    return some ⟨least, most?⟩
  else
    modify fun _ => before
    return none

/-- The bounds that a character begins, if it begins any. -/
def bounds? (c : Char) : Reader (Option Bounds) :=
  if c = '*' then return some ⟨0, none⟩
  else if c = '+' then return some ⟨1, none⟩
  else if c = '?' then return some ⟨0, some 1⟩
  else if c = '\x7b' then bracedBounds?
  else return none

/-- Which end a repetition prefers, by the mark behind it. -/
def manner : Reader Manner := do
  if ← Reader.accept '?' then return .lazy
  if ← Reader.accept '+' then return .possessive
  return .greedy

/-! ### Items -/

/-- What a repetition makes of the item before it. -/
inductive ItemKind where
  | repeatable
  | anchor
  | alreadyRepeated
  deriving DecidableEq, Repr

structure Item where
  pattern : Pattern
  kind : ItemKind
  deriving DecidableEq, Repr

/-- What items make that follow one another; the last one comes first. -/
def joined (items : List Item) : Pattern :=
  items.foldl (fun behind item => .sequence item.pattern behind) .empty

/-- The items with the last one repeated; the repetition was begun at `position`. -/
def repeatLast (items : List Item) (bounds : Bounds) (position : Nat) : Reader (List Item) := do
  match items with
  | [] => Reader.failAt .nothingToRepeat position
  | item :: others =>
    match item.kind with
    | .anchor => Reader.failAt .nothingToRepeat position
    | .alreadyRepeated => Reader.failAt .multipleRepeat position
    | .repeatable =>
      let manner ← manner
      return ⟨.repeated manner item.pattern bounds.least bounds.most?, .alreadyRepeated⟩ :: others

/-- The item that an escape makes. -/
def escapeItem (flags : List Flag) (c : Char) : Reader Item := do
  let alphabet := Flag.alphabet flags
  match anchorEscape? alphabet c, kindEscape? alphabet c with
  | some condition, _ => return ⟨.anchor condition, .anchor⟩
  | none, some item => return ⟨.ofItems (Flag.likeness flags) [item], .repeatable⟩
  | none, none =>
    if c = '0' then
      let code ← octalEscape (c :: (← Reader.run (isBaseDigit 8) 2))
      return ⟨.ofItems (Flag.likeness flags) [.range code code], .repeatable⟩
    else if c.isDigit then return ⟨← digitEscape flags c, .repeatable⟩
    else
      let code ← characterEscape c
      return ⟨.ofItems (Flag.likeness flags) [.range code code], .repeatable⟩

/-- The item of a plain character that opens no group and repeats nothing. -/
def plainItem (flags : List Flag) (c : Char) (position : Nat) : Reader Item := do
  let isMultiline := flags.contains .multiline
  if c = '[' then return ⟨← setPattern flags position, .repeatable⟩
  else if c = '.' then
    let items := if flags.contains .dotAll then [] else [.ofCharacter '\n']
    return ⟨.set true .exact items, .repeatable⟩
  else if c = '^' then return ⟨.anchor (if isMultiline then .lineStart else .start), .anchor⟩
  else if c = '$' then return ⟨.anchor (if isMultiline then .lineStop else .stop), .anchor⟩
  else return ⟨.ofItems (Flag.likeness flags) [.ofCharacter c], .repeatable⟩

/-! ### Inline flags -/

/-- The fault of a character that is no flag where one or a mark is expected. -/
def noFlag (c : Char) (expected : String) : Fault :=
  if isLetter c then .unknownFlag else .missing expected

/-- The next lexeme as a flag, or as one of some marks. -/
def flagOrMark (marks : List Char) (expected : String) : Reader (Flag ⊕ Char) := do
  match ← Reader.take with
  | none => Reader.failBack (.missing expected) 0
  | some lexeme =>
    match lexeme.kind with
    | .escape _ => Reader.failBack (.missing expected) 2
    | .plain c =>
      if marks.contains c then return .inr c
      else match Flag.ofLetter? c with
        | some flag => return .inl flag
        | none => Reader.failBack (noFlag c expected) 1

/-- The flags that are turned on, from one that has been taken, and the mark that ends them. -/
def addedFlags : (steps : Nat) → Flag → (before : List Flag) → Reader (List Flag × Char)
  | 0, _, _ => Reader.failBack .unexpectedEnd 0
  | steps + 1, flag, before => do
    if flag = .locale then Reader.failBack .localeFlag 0
    let added := flag :: before
    if flag.isAlphabet ∧ before.any fun other => other.isAlphabet && other != flag then
      Reader.failBack .incompatibleFlags 0
    match ← flagOrMark [')', '-', ':'] "-, : or )" with
    | .inr mark => return (added, mark)
    | .inl next => addedFlags steps next added

/-- The flags that are turned off, from one that has been taken. -/
def removedFlags : (steps : Nat) → Flag → (before : List Flag) → Reader (List Flag)
  | 0, _, _ => Reader.failBack .unexpectedEnd 0
  | steps + 1, flag, before => do
    if flag.isAlphabet then Reader.failBack .alphabetTurnedOff 0
    match ← flagOrMark [':'] ":" with
    | .inr _ => return flag :: before
    | .inl next => removedFlags steps next (flag :: before)

/-! ### How groups open -/

/-- What the beginning of a group says about it. -/
inductive GroupHead where
  /-- Nothing more is to be read. -/
  | comment
  | globalFlags (added : List Flag)
  | reference (number : Nat)
  | capture (name? : Option String)
  | plain (added removed : List Flag)
  | atomic
  | look (isBehind isNegated : Bool)
  | condition (number : Nat)
  deriving DecidableEq, Repr

/-- The head of a group that flags open, the first of them or a minus sign being taken. -/
def flagHead (flag? : Option Flag) : Reader GroupHead := do
  let steps := (← get).rest.length + 1
  let (added, mark) ← match flag? with
    | some flag => addedFlags steps flag []
    | none => pure ([], '-')
  if mark = ')' then return .globalFlags added
  if added.contains .template then Reader.failBack (.globalFlagTurned true) 1
  if mark = ':' then return .plain added []
  match ← flagOrMark [] "flag" with
  | .inr _ => return .plain added []
  | .inl flag =>
    let removed ← removedFlags steps flag []
    if removed.contains .template then Reader.failBack (.globalFlagTurned false) 1
    if added.any removed.contains then Reader.failBack .flagOnAndOff 1
    return .plain added removed

/-- Refuses a name of a group that is no name. -/
def checkName (name : List Char) : Reader Unit := do
  if !isName name then Reader.failBack (.badGroupName (String.ofList name)) (name.length + 1)

/-- The number of the group of a name. -/
def numberOf (name : List Char) : Reader Nat := do
  let text := String.ofList name
  match (← get).groups.findIdx? fun group => group.name? == some text with
  | some index => return index + 1
  | none => Reader.failBack (.unknownGroupName text) (name.length + 1)

/-- How many groups there may be. -/
def groupLimit : Nat := 1073741823

/-- The number of the group that a condition names by a number. -/
def awaitedNumber (name : List Char) : Reader Nat := do
  let back := name.length + 1
  match integer? name with
  | some (.ofNat 0) => Reader.failBack .badGroupNumber back
  | some (.ofNat number) =>
    if groupLimit ≤ number then Reader.failBack (.unknownGroup number) back
    else
      let position := (← Reader.here) - back
      modify fun state => { state with awaited := state.awaited ++ [(number, position)] }
      return number
  | _ => Reader.failBack (.badGroupName (String.ofList name)) back

/-- The head of a group that asks whether another one keeps something. -/
def conditionHead : Reader GroupHead := do
  let name ← Reader.nameUntil ')' "group name"
  let number ← if isName name then numberOf name else awaitedNumber name
  checkLookBehind number
  return .condition number

/-- The head of a group with a name, or of one that is to be met again by its name. -/
def namedHead (position : Nat) : Reader GroupHead := do
  if ← Reader.accept '<' then
    let name ← Reader.nameUntil '>' "group name"
    checkName name
    return .capture (some (String.ofList name))
  else if ← Reader.accept '=' then
    let name ← Reader.nameUntil ')' "group name"
    checkName name
    let number ← numberOf name
    checkClosed number (name.length + 1)
    return .reference number
  else match ← Reader.take with
    | none => Reader.failBack .unexpectedEnd 0
    | some lexeme =>
      Reader.failAt (.unknownExtension (String.ofList ('?' :: 'P' :: lexeme.characters))) (position + 1)

/-- Behind the parenthesis that ends a comment; the comment began at `start`. -/
def skipComment (start : Nat) : (steps : Nat) → Reader Unit
  | 0 => Reader.failAt .unterminatedComment start
  | steps + 1 => do
    match ← Reader.take with
    | none => Reader.failAt .unterminatedComment start
    | some lexeme => if lexeme.kind = .plain ')' then return () else skipComment start steps

/-- The head of a group that looks back, whose bracket has been taken. -/
def lookBehindHead (position : Nat) : Reader GroupHead := do
  match ← Reader.take with
  | none => Reader.failBack .unexpectedEnd 0
  | some lexeme =>
    if lexeme.kind = .plain '=' then return .look true false
    else if lexeme.kind = .plain '!' then return .look true true
    else
      Reader.failAt (.unknownExtension (String.ofList ('?' :: '<' :: lexeme.characters))) (position + 1)

/-- The head of a group whose parenthesis has been taken at `position`. -/
def groupHead (position : Nat) : Reader GroupHead := do
  if ← Reader.accept '?' then
    match ← Reader.take with
    | none => Reader.failBack .unexpectedEnd 0
    | some lexeme =>
      let unknown : Reader GroupHead :=
        Reader.failAt (.unknownExtension (String.ofList ('?' :: lexeme.characters))) (position + 1)
      match lexeme.kind with
      | .escape _ => unknown
      | .plain c =>
        if c = 'P' then namedHead position
        else if c = ':' then return .plain [] []
        else if c = '#' then
          skipComment position ((← get).rest.length + 1)
          return .comment
        else if c = '=' then return .look false false
        else if c = '!' then return .look false true
        else if c = '<' then lookBehindHead position
        else if c = '(' then conditionHead
        else if c = '>' then return .atomic
        else if c = '-' then flagHead none
        else match Flag.ofLetter? c with
          | some flag => flagHead (some flag)
          | none => unknown
  else return .capture none

/-! ### Groups and the whole form -/

/-- A group begins; its number. -/
def openGroup (name? : Option String) : Reader Nat := do
  let groups := (← get).groups
  let number := groups.length + 1
  match name?, groups.findIdx? fun group => name?.isSome && group.name? == name? with
  | some name, some former =>
    Reader.failBack (.groupNameTaken name number (former + 1)) (name.length + 1)
  | _, _ =>
    modify fun state => { state with groups := groups ++ [⟨name?, none⟩] }
    return number

/-- The widths of the groups that are closed. -/
def widthsOf (groups : List GroupRecord) (number : Nat) : Width :=
  ((groups[number - 1]?).bind (·.width?)).getD ⟨0, 0⟩

/-- The group of a number ends, and this is what stands in it. -/
def closeGroup (number : Nat) (inner : Pattern) : Reader Unit :=
  modify fun state =>
    { state with groups := state.groups.modify (number - 1) fun group =>
        { group with width? := some (inner.width (widthsOf state.groups)) } }

/-- The parenthesis that ends the group which was opened at `start`. -/
def closing (start : Nat) : Reader Unit := do
  if !(← Reader.accept ')') then Reader.failAt .unterminatedGroup start

/-- Behind the end of the line. -/
def skipLine : (steps : Nat) → Reader Unit
  | 0 => return ()
  | steps + 1 => do
    match ← Reader.take with
    | none => return ()
    | some lexeme => if lexeme.kind = .plain '\n' then return () else skipLine steps

/-- The character is left out of a verbose form. -/
def isLayout (c : Char) : Bool :=
  c == ' ' || (9 ≤ c.toNat && c.toNat ≤ 13)

mutual

/-- The alternatives up to a closing parenthesis or the end. Those of the whole form are read under the
flags that its opening turns on. -/
def readAlternatives (flags : List Flag) (isWhole : Bool) : (steps : Nat) → (isFirst : Bool) → Reader Pattern
  | 0, _ => Reader.failBack .unexpectedEnd 0
  | steps + 1, isFirst => do
    let state ← get
    let flags := if isWhole then state.flags else flags
    let first ← readSequence flags (isWhole && isFirst) steps []
    if ← Reader.accept '|' then
      let others ← readAlternatives flags isWhole steps false
      return .choice first others
    else return first

/-- The items up to a bar, a closing parenthesis or the end, behind those already read. -/
def readSequence (flags : List Flag) (mayTurnFlags : Bool) :
    (steps : Nat) → (items : List Item) → Reader Pattern
  | 0, _ => Reader.failBack .unexpectedEnd 0
  | steps + 1, items => do
    match ← Reader.peek with
    | none | some (.plain '|') | some (.plain ')') => return joined items
    | some kind =>
      let position ← Reader.here
      let _ ← Reader.take
      match kind with
      | .escape c =>
        let item ← escapeItem flags c
        readSequence flags mayTurnFlags steps (item :: items)
      | .plain c =>
        if flags.contains .verbose && isLayout c then readSequence flags mayTurnFlags steps items
        else if flags.contains .verbose && c == '#' then
          skipLine ((← get).rest.length + 1)
          readSequence flags mayTurnFlags steps items
        else if c = '(' then
          match ← groupHead position with
          | .comment => readSequence flags mayTurnFlags steps items
          | .globalFlags added =>
            if !mayTurnFlags || !items.isEmpty then Reader.failAt .lateGlobalFlags position
            modify fun state => { state with flags := state.flags ++ added }
            readSequence (← get).flags mayTurnFlags steps items
          | head =>
            let pattern ← readGroup flags head position steps
            readSequence flags mayTurnFlags steps (⟨pattern, .repeatable⟩ :: items)
        else match ← bounds? c with
          | some bounds =>
            let items ← repeatLast items bounds position
            readSequence flags mayTurnFlags steps items
          | none =>
            let item ← plainItem flags c position
            readSequence flags mayTurnFlags steps (item :: items)

/-- What a group makes whose head has been taken; it was opened at `position`. -/
def readGroup (flags : List Flag) (head : GroupHead) (position : Nat) : (steps : Nat) → Reader Pattern
  | 0 => Reader.failBack .unexpectedEnd 0
  | steps + 1 => do
    match head with
    | .comment | .globalFlags _ => return .empty
    | .reference number => return .reference (Flag.likeness flags) number
    | .capture name? =>
      let number ← openGroup name?
      let inner ← readAlternatives flags false steps true
      closing position
      closeGroup number inner
      return .group number inner
    | .plain added removed =>
      let inner ← readAlternatives (Flag.turned flags added removed) false steps true
      closing position
      return inner
    | .atomic =>
      let inner ← readAlternatives flags false steps true
      closing position
      return .atomic inner
    | .look isBehind isNegated =>
      let outer := (← get).lookBehind?
      if isBehind then
        modify fun state =>
          { state with lookBehind? := some (outer.getD (state.groups.length + 1)) }
      let inner ← readAlternatives flags false steps true
      modify fun state => { state with lookBehind? := outer }
      closing position
      let state ← get
      let width := if isBehind then inner.width (widthsOf state.groups) else ⟨0, 0⟩
      return .look width isNegated inner
    | .condition number =>
      let kept ← readSequence flags false steps []
      let missing ←
        if ← Reader.accept '|' then
          let missing ← readSequence flags false steps []
          if (← Reader.peek) = some (.plain '|') then Reader.failBack .threeBranches 0
          pure missing
        else pure .empty
      closing position
      return .conditional number kept missing

end

/-! ### What the finished pattern shows -/

/-- How a repetition is called. -/
def Manner.name : Manner → String
  | .greedy => "MAX_REPEAT"
  | .lazy => "MIN_REPEAT"
  | .possessive => "POSSESSIVE_REPEAT"

/-- The greatest distance to look back. -/
def greatestLookBack : Nat := 0xffffffff

/-- The first thing in a pattern that cannot be searched for. -/
def objection? (isTemplate : Bool) : Pattern → Option Fault
  | .empty | .set _ _ _ | .anchor _ | .reference _ _ => none
  | .sequence first second | .choice first second | .conditional _ first second =>
    (objection? isTemplate first).or (objection? isTemplate second)
  | .repeated manner body _ _ =>
    if isTemplate then some (.repetitionInTemplate (Manner.name manner)) else objection? isTemplate body
  | .look back _ body =>
    if greatestLookBack < back.least then some .lookBehindTooFar
    else if back.least ≠ back.most then some .lookBehindOfSeveralWidths
    else objection? isTemplate body
  | .atomic body | .group _ body => objection? isTemplate body

/-- The whole form. -/
def whole : Reader Pattern := do
  Reader.checkEnd
  let pattern ← readAlternatives [] true (3 * (← get).rest.length + 4) true
  let state ← get
  if state.flags.contains .ascii && state.flags.contains .allScripts then throw ⟨.twoAlphabets, none⟩
  if !state.rest.isEmpty then Reader.failBack .unbalancedParenthesis 0
  match state.awaited.find? fun entry => state.groups.length < entry.1 with
  | some (number, position) => Reader.failAt (.unknownGroup number) position
  | none =>
    match objection? (state.flags.contains .template) pattern with
    | some fault => throw ⟨fault, none⟩
    | none => return pattern

/-- The pattern of a written form, in which characters may be called by the given names. -/
def read (names : CharacterNames) (form : String) : Except Refusal Pattern :=
  let characters := form.toList
  let (lexemes, isCutOff) := Lexeme.scan 0 characters
  whole.run' ⟨lexemes, isCutOff, characters.length, [], [], none, [], names⟩

end Concord.Pattern
