/-
JSON text cut into tokens. A token remembers how many characters are left of the text from its start
on, which is its position counted from the end. Cutting never fails: what is no token, and a string
that is not well formed, become tokens that no reader accepts, and the failure they stand for counts
only when a reader gets that far.
-/

import Concord.Text.Pieces
import Concord.Value

namespace Concord.Json

/-! ### Failures -/

/-- What is wrong with a JSON text. -/
inductive Cause where
  | byteOrderMark
  | expectingValue
  | expectingKey
  | expectingColon
  | expectingComma
  | extraData
  | unterminatedString
  | controlCharacter
  | unknownEscape
  | unicodeEscape
  /-- An integer with more digits than are accepted. -/
  | longInteger (digits : Nat)
  /-- Reading is stopped by something that has nothing to do with the format. -/
  | stopped (message : String)
  deriving DecidableEq, Repr

/-- A cause, and how many characters are left of the text where it was noticed. -/
structure Failure where
  cause : Cause
  remaining : Nat
  deriving DecidableEq, Repr

/-! ### Strings -/

/-- The value of a hexadecimal digit. -/
def hexValue? (c : Char) : Option Nat :=
  if '0' ≤ c ∧ c ≤ '9' then some (c.toNat - 48)
  else if 'a' ≤ c ∧ c ≤ 'f' then some (c.toNat - 87)
  else if 'A' ≤ c ∧ c ≤ 'F' then some (c.toNat - 55)
  else none

/-- The number that hexadecimal digits stand for. -/
def hexNumber? (digits : List Char) : Option Nat :=
  digits.foldl (fun number c => do return (← number) * 16 + (← hexValue? c)) (some 0)

/-- A unit of a string: a character as it stands, or the code of a Unicode escape. -/
inductive StringUnit where
  | plain (c : Char)
  | code (unit : Nat)
  deriving DecidableEq, Repr

/-- The character that a short escape stands for. -/
def shortEscape? (c : Char) : Option Char :=
  if c = '\x22' ∨ c = '\\' ∨ c = '/' then some c
  else if c = 'b' then some '\x08'
  else if c = 'f' then some '\x0c'
  else if c = 'n' then some '\n'
  else if c = 'r' then some '\r'
  else if c = 't' then some '\t'
  else none

/-- The units of a string whose opening quote has been read, and the rest. `start` is how much was
left at that quote. -/
def stringUnits (start : Nat) : List Char → Except Failure (List StringUnit × List Char)
  | [] => .error ⟨.unterminatedString, start⟩
  | '\x22' :: rest => .ok ([], rest)
  | ['\\'] => .error ⟨.unterminatedString, start⟩
  | '\\' :: 'u' :: a :: b :: c :: d :: rest =>
    match hexNumber? [a, b, c, d], rest with
    | some unit, _ :: _ => do
      let (units, left) ← stringUnits start rest
      return (.code unit :: units, left)
    | _, _ => .error ⟨.unicodeEscape, rest.length + 5⟩
  | '\\' :: 'u' :: rest => .error ⟨.unicodeEscape, rest.length + 1⟩
  | '\\' :: c :: rest =>
    match shortEscape? c with
    | some character => do
      let (units, left) ← stringUnits start rest
      return (.plain character :: units, left)
    | none => .error ⟨.unknownEscape, rest.length + 2⟩
  | c :: rest =>
    if c.toNat < 0x20 then .error ⟨.controlCharacter, rest.length + 1⟩
    else do
      let (units, left) ← stringUnits start rest
      return (.plain c :: units, left)

/-- The character of a code; a half of a pair that stands alone has none and is replaced. -/
def loneCharacter (unit : Nat) : Char :=
  if 0xd800 ≤ unit ∧ unit < 0xe000 then Char.ofNat 0xfffd else Char.ofNat unit

/-- Codes joined to characters: two halves of a pair stand for one. -/
def joinUnits : List StringUnit → List Char
  | [] => []
  | .plain c :: units => c :: joinUnits units
  | .code high :: .code low :: units =>
    if 0xd800 ≤ high ∧ high < 0xdc00 ∧ 0xdc00 ≤ low ∧ low < 0xe000 then
      Char.ofNat (0x10000 + (high - 0xd800) * 0x400 + (low - 0xdc00)) :: joinUnits units
    else loneCharacter high :: joinUnits (.code low :: units)
  | .code unit :: units => loneCharacter unit :: joinUnits units

/-! ### Numbers -/

/-- How many digits an integer may have. -/
def greatestDigits : Nat := 4300

/-- The number that decimal digits stand for. -/
def digitsNumber (digits : List Char) : Nat :=
  digits.foldl (fun number c => number * 10 + (c.toNat - 48)) 0

/-- The digits that open a text, and the rest. -/
def digitRun (text : List Char) : List Char × List Char :=
  (text.takeWhile Char.isDigit, text.dropWhile Char.isDigit)

/-- The whole part of a number: a zero alone, or digits that do not open with one. -/
def wholePart? : List Char → Option (List Char × List Char)
  | '0' :: rest => some (['0'], rest)
  | text =>
    match digitRun text with
    | ([], _) => none
    | (digits, rest) => some (digits, rest)

/-- The digits behind a point, if there are any. -/
def fractionPart : List Char → List Char × List Char
  | '.' :: rest =>
    match digitRun rest with
    | ([], _) => ([], '.' :: rest)
    | (digits, left) => (digits, left)
  | text => ([], text)

/-- The exponent, if there is one. -/
def exponentPart (text : List Char) : Option Int × List Char :=
  match text with
  | mark :: rest =>
    if mark = 'e' ∨ mark = 'E' then
      let (isNegative, signed) := match rest with
        | '-' :: left => (true, left)
        | '+' :: left => (false, left)
        | left => (false, left)
      match digitRun signed with
      | ([], _) => (none, text)
      | (digits, left) =>
        let size : Int := digitsNumber digits
        (some (if isNegative then -size else size), left)
    else (none, text)
  | [] => (none, [])

/-- A number without its sign, and the rest. An integer that is too long is given by the count of its
digits. -/
def unsignedNumber? (isNegative : Bool) (text : List Char) :
    Option (Except Nat Number × List Char) := do
  let (whole, rest) ← wholePart? text
  let (fraction, rest) := fractionPart rest
  let (exponent?, rest) := exponentPart rest
  match fraction, exponent? with
  | [], none =>
    if greatestDigits < whole.length then return (.error whole.length, rest)
    else
      let size : Int := digitsNumber whole
      return (.ok (.integer (if isNegative then -size else size)), rest)
  | fraction, exponent? =>
    return (.ok (.double (Binary64.ofDecimal isNegative (digitsNumber (whole ++ fraction))
      (exponent?.getD 0 - fraction.length))), rest)

/-! ### Tokens -/

inductive TokenKind where
  /-- A bracket, brace, comma or colon. -/
  | punctuation (c : Char)
  | text (value : String)
  /-- A scalar other than a text. -/
  | scalar (value : Scalar)
  /-- A value that cannot be read to its end. -/
  | broken (failure : Failure)
  /-- A character that begins no token. -/
  | stray
  deriving DecidableEq, Repr

structure Token where
  kind : TokenKind
  /-- How many characters are left of the text where the token begins. -/
  remaining : Nat
  deriving DecidableEq, Repr

/-- The blanks of JSON. -/
def isSpace (c : Char) : Bool :=
  c == ' ' || c == '\t' || c == '\n' || c == '\r'

/-- The words of JSON and what they stand for. -/
def literals : List (String × Scalar) :=
  [("null", .null), ("true", .boolean true), ("false", .boolean false),
    ("NaN", .number (.double .undefined)), ("Infinity", .number (.double (.infinite false))),
    ("-Infinity", .number (.double (.infinite true)))]

/-- A word that opens the text, and the rest. -/
def literal? (text : List Char) : Option (Scalar × List Char) :=
  literals.findSome? fun (word, value) => (Text.after? word.toList text).map fun rest => (value, rest)

/-- A number that opens the text, and the rest. -/
def number? : List Char → Option (Except Nat Number × List Char)
  | '-' :: rest => unsignedNumber? true rest
  | text => unsignedNumber? false text

/-- The kind of the token that a text opens with, and the rest. -/
def firstKind (c : Char) (rest : List Char) : TokenKind × List Char :=
  let text := c :: rest
  if c = '[' ∨ c = ']' ∨ c = '\x7b' ∨ c = '\x7d' ∨ c = ',' ∨ c = ':' then (.punctuation c, rest)
  else if c = '\x22' then
    match stringUnits text.length rest with
    | .ok (units, left) => (.text (String.ofList (joinUnits units)), left)
    | .error failure => (.broken failure, rest)
  else
    match literal? text with
    | some (value, left) => (.scalar value, left)
    | none =>
      match number? text with
      | some (.ok value, left) => (.scalar (.number value), left)
      | some (.error digits, left) => (.broken ⟨.longInteger digits, text.length⟩, left)
      | none => (.stray, rest)

/-- The tokens of a text. Every token takes at least one character, so as many steps as the text has
characters are enough. -/
def tokensWithin : (steps : Nat) → List Char → List Token
  | 0, _ => []
  | _ + 1, [] => []
  | steps + 1, c :: rest =>
    if isSpace c then tokensWithin steps rest
    else
      let (kind, left) := firstKind c rest
      ⟨kind, rest.length + 1⟩ :: tokensWithin steps left

/-- The tokens of a text. -/
def tokens (text : List Char) : List Token :=
  tokensWithin text.length text

end Concord.Json
