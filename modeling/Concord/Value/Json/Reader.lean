/-
Values from JSON text. The reader goes through the tokens once, with the collections that are still
open on a stack, and stops at the first token that cannot stand where it does. A repeated key keeps
its first place and its last value. A failure is reported with its line, its column and its position.
-/

import Concord.Value.Json.Token
import Concord.Value.Display

namespace Concord.Json

/-! ### The walk over the tokens -/

/-- A collection that is open: the items of a list, or the entries of a mapping with the key whose
value comes next. -/
inductive Frame where
  | list (items : List Value)
  | mapping (entries : List (Scalar × Value)) (key : String)

/-- What the next token has to be. -/
inductive Expectation where
  | value
  /-- An item, or the end of the list that has just been opened. -/
  | firstItem
  /-- A key, or the end of the mapping that has just been opened. -/
  | firstKey
  | key (entries : List (Scalar × Value))
  | colon (entries : List (Scalar × Value)) (key : String)
  /-- Whatever follows a value. -/
  | afterValue (value : Value)

/-- The failure of a token that cannot stand where it does. -/
def Token.refused (token : Token) (cause : Cause) : Failure :=
  ⟨cause, token.remaining⟩

/-- The state behind the first token of a value. -/
def beginValue (stack : List Frame) (token : Token) : Except Failure (List Frame × Expectation) :=
  match token.kind with
  | .text value => .ok (stack, .afterValue (.text value))
  | .scalar value => .ok (stack, .afterValue (.scalar value))
  | .broken failure => .error failure
  | .punctuation c =>
    if c = '[' then .ok (stack, .firstItem)
    else if c = '\x7b' then .ok (stack, .firstKey)
    else .error (token.refused .expectingValue)
  | .stray => .error (token.refused .expectingValue)

/-- The state behind a key of the mapping that has the given entries. -/
def beginEntry (stack : List Frame) (entries : List (Scalar × Value)) (token : Token) :
    Except Failure (List Frame × Expectation) :=
  match token.kind with
  | .text key => .ok (stack, .colon entries key)
  | .broken failure =>
    match failure.cause with
    | .longInteger _ => .error (token.refused .expectingKey)
    | _ => .error failure
  | _ => .error (token.refused .expectingKey)

/-- The state behind the token that follows a value. -/
def behindValue (stack : List Frame) (value : Value) (token : Token) :
    Except Failure (List Frame × Expectation) :=
  match stack with
  | [] => .error (token.refused .extraData)
  | .list items :: stack =>
    if token.kind = .punctuation ']' then
      .ok (stack, .afterValue (.list (items ++ [value])))
    else if token.kind = .punctuation ',' then .ok (.list (items ++ [value]) :: stack, .value)
    else .error (token.refused .expectingComma)
  | .mapping entries key :: stack =>
    let entries := Value.putEntry (.text key) value entries
    if token.kind = .punctuation '\x7d' then .ok (stack, .afterValue (.mapping entries))
    else if token.kind = .punctuation ',' then .ok (stack, .key entries)
    else .error (token.refused .expectingComma)

/-- The state behind one token. -/
def step (stack : List Frame) (expectation : Expectation) (token : Token) :
    Except Failure (List Frame × Expectation) :=
  match expectation with
  | .value => beginValue stack token
  | .firstItem =>
    if token.kind = .punctuation ']' then .ok (stack, .afterValue (.list []))
    else beginValue (.list [] :: stack) token
  | .firstKey =>
    if token.kind = .punctuation '\x7d' then .ok (stack, .afterValue (.mapping []))
    else beginEntry stack [] token
  | .key entries => beginEntry stack entries token
  | .colon entries key =>
    if token.kind = .punctuation ':' then .ok (.mapping entries key :: stack, .value)
    else .error (token.refused .expectingColon)
  | .afterValue value => behindValue stack value token

/-- The cause when the text ends although more is expected. -/
def Expectation.atEnd : Expectation → Cause
  | .value | .firstItem => .expectingValue
  | .firstKey | .key _ => .expectingKey
  | .colon _ _ => .expectingColon
  | .afterValue _ => .expectingComma

/-- The value that the tokens make, in a state. -/
def valueOf (stack : List Frame) (expectation : Expectation) : List Token → Except Failure Value
  | [] =>
    match stack, expectation with
    | [], .afterValue value => .ok value
    | _, expectation => .error ⟨expectation.atEnd, 0⟩
  | token :: tokens => do
    let (stack, expectation) ← step stack expectation token
    valueOf stack expectation tokens

/-! ### Failures in words -/

/-- What a cause is called. -/
def Cause.text : Cause → String
  | .byteOrderMark => "Unexpected UTF-8 BOM (decode using utf-8-sig)"
  | .expectingValue => "Expecting value"
  | .expectingKey => "Expecting property name enclosed in double quotes"
  | .expectingColon => "Expecting ':' delimiter"
  | .expectingComma => "Expecting ',' delimiter"
  | .extraData => "Extra data"
  | .unterminatedString => "Unterminated string starting at"
  | .controlCharacter => "Invalid control character at"
  | .unknownEscape => "Invalid \\escape"
  | .unicodeEscape => "Invalid \\uXXXX escape"
  | .longInteger _ => "Integer too long"
  | .stopped message => message

/-- A failure, placed in its text: the cause and the position of the character. -/
structure Refusal where
  cause : Cause
  line : Nat
  column : Nat
  position : Nat
  deriving DecidableEq, Repr

/-- A way to read JSON texts. -/
abbrev Reading := String → Except Refusal Value

/-- The text is at fault, and not what it stands for. -/
def Refusal.isOfFormat (refusal : Refusal) : Bool :=
  match refusal.cause with
  | .longInteger _ | .stopped _ => false
  | _ => true

/-- Places a failure in the text that was read. -/
def Failure.placed (failure : Failure) (text : List Char) : Refusal :=
  let position := text.length - failure.remaining
  let before := text.take position
  ⟨failure.cause, before.count '\n' + 1, (before.reverse.takeWhile (· != '\n')).length + 1, position⟩

/-- The refusal in words. -/
def Refusal.message (refusal : Refusal) : String :=
  match refusal.cause with
  | .longInteger digits =>
    s!"Exceeds the limit ({greatestDigits} digits) for integer string conversion: value has {digits} digits; use sys.set_int_max_str_digits() to increase the limit"
  | .stopped message => message
  | cause =>
    s!"{cause.text}: line {refusal.line} column {refusal.column} (char {refusal.position})"

/-- The value that a text stands for. -/
def read (text : String) : Except Refusal Value :=
  let characters := text.toList
  let result : Except Failure Value :=
    if characters.head? = some (Char.ofNat 0xfeff) then
      .error ⟨.byteOrderMark, characters.length⟩
    else valueOf [] .value (tokens characters)
  result.mapError fun failure => failure.placed characters

end Concord.Json
