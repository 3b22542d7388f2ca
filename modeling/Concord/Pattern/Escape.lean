/-
Escapes: what a backslash and the character behind it stand for, with the digits or the name that may
follow. Inside a set only characters and named kinds have escapes; outside also places, and groups to be met
again.
-/

import Concord.Pattern.Lexeme

namespace Concord.Pattern

/-! ### Digits -/

/-- The value of a digit in a base of at most sixteen. -/
def baseDigit? (base : Nat) (c : Char) : Option Nat :=
  let value? :=
    if c.isDigit then some (c.toNat - 48)
    else if 'a' ≤ c ∧ c ≤ 'f' then some (c.toNat - 87)
    else if 'A' ≤ c ∧ c ≤ 'F' then some (c.toNat - 55)
    else none
  value?.filter (· < base)

/-- A digit in a base. -/
def isBaseDigit (base : Nat) (c : Char) : Bool :=
  (baseDigit? base c).isSome

/-- The number that digits stand for in a base. -/
def baseNumber (base : Nat) (digits : List Char) : Nat :=
  digits.foldl (fun number c => number * base + (baseDigit? base c).getD 0) 0

/-! ### Letters -/

/-- The character that an escape of a letter stands for. -/
def letterEscape? (c : Char) : Option Char :=
  [('a', '\x07'), ('f', '\x0c'), ('n', '\n'), ('r', '\r'), ('t', '\t'), ('v', '\x0b'),
    ('\\', '\\')].lookup c

/-- The kind of characters that an escape of a letter stands for. -/
def kindEscape? (alphabet : Alphabet) (c : Char) : Option SetItem :=
  [('d', SetItem.kind .digit alphabet false), ('D', .kind .digit alphabet true),
    ('w', .kind .word alphabet false), ('W', .kind .word alphabet true),
    ('s', .kind .blank alphabet false), ('S', .kind .blank alphabet true)].lookup c

/-- The place that an escape of a letter stands for. -/
def anchorEscape? (alphabet : Alphabet) (c : Char) : Option Anchor :=
  [('A', Anchor.start), ('Z', .absoluteStop), ('b', .wordBoundary alphabet false),
    ('B', .wordBoundary alphabet true)].lookup c

/-- How many hexadecimal digits follow the letter of a numeric escape. -/
def numericWidth? (c : Char) : Option Nat :=
  [('x', 2), ('u', 4), ('U', 8)].lookup c

/-! ### Characters -/

/-- The greatest code point. -/
def greatestCode : Nat := 0x10ffff

/-- The greatest code point that an octal escape may have. -/
def greatestOctal : Nat := 0xff

/-- The code point of a numeric escape whose letter has been taken. -/
def numericEscape (letter : Char) (width : Nat) : Reader Nat := do
  let digits ← Reader.run (isBaseDigit 16) width
  let text := String.ofList ('\\' :: letter :: digits)
  let code := baseNumber 16 digits
  if digits.length < width then Reader.failBack (.incompleteEscape text) text.length
  else if greatestCode < code then Reader.failBack (.badEscape text) text.length
  else return code

/-- The code point of an octal escape whose digits have been taken. -/
def octalEscape (digits : List Char) : Reader Nat := do
  let text := String.ofList ('\\' :: digits)
  let code := baseNumber 8 digits
  if greatestOctal < code then Reader.failBack (.octalTooLarge text) text.length
  else return code

/-- The code point of an escape by the name of a character. -/
def namedEscape : Reader Nat := do
  if ← Reader.accept '\x7b' then
    let name ← Reader.nameUntil '\x7d' "character name"
    match (← get).names (String.ofList name) with
    | some code => return code
    | none => Reader.failBack (.unknownCharacterName (String.ofList name)) (name.length + 4)
  else Reader.failBack (.missing "\x7b") 0

/-- The code point of an escape that is neither a kind, a place nor digits; only a letter of ASCII has to
have a meaning. -/
def characterEscape (c : Char) : Reader Nat := do
  match letterEscape? c, numericWidth? c with
  | some character, _ => return character.toNat
  | none, some width => numericEscape c width
  | none, none =>
    if c = 'N' then namedEscape
    else if c.isAlphanum then Reader.failBack (.badEscape (String.ofList ['\\', c])) 2
    else return c.toNat

/-! ### Inside a set -/

/-- What an escape inside a set stands for. -/
def setEscape (alphabet : Alphabet) (c : Char) : Reader SetItem := do
  match kindEscape? alphabet c with
  | some item => return item
  | none =>
    let code ←
      if c = 'b' then pure 8
      else if isBaseDigit 8 c then do octalEscape (c :: (← Reader.run (isBaseDigit 8) 2))
      else characterEscape c
    return .range code code

/-! ### Groups to be met again -/

/-- A part that looks back may ask only for groups that are closed and stand before it. -/
def checkLookBehind (number : Nat) : Reader Unit := do
  let state ← get
  match state.lookBehind? with
  | none => return ()
  | some first =>
    if (state.groups[number - 1]?.bind (·.width?)).isNone then Reader.failBack .openGroup 0
    else if first ≤ number then Reader.failBack .groupInSameLookBehind 0

/-- The group of a number is one that may be asked for; if it is still open, the fault is so many characters
back. -/
def checkClosed (number count : Nat) : Reader Unit := do
  let state ← get
  if (state.groups[number - 1]?.bind (·.width?)).isNone then Reader.failBack .openGroup count
  checkLookBehind number

/-- What an escape of digits stands for outside a set: three octal digits are a character, and one or two
digits a group. -/
def digitEscape (flags : List Flag) (first : Char) : Reader Pattern := do
  let second ← Reader.run Char.isDigit 1
  let third ←
    if !second.isEmpty && (first :: second).all (isBaseDigit 8) then Reader.run (isBaseDigit 8) 1
    else pure []
  if third.isEmpty then
    let number := baseNumber 10 (first :: second)
    let width := second.length + 2
    if number ≤ (← get).groups.length then
      checkClosed number width
      return .reference (Flag.likeness flags) number
    else Reader.failBack (.unknownGroup number) (width - 1)
  else
    let code ← octalEscape (first :: second ++ third)
    return .set false (Flag.likeness flags) [.range code code]

end Concord.Pattern
