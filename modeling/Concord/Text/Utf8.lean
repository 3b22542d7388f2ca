/-
UTF-8. Decoding is strict: a byte that cannot stand where it does ends it with the place and the reason.
A character of several bytes admits only those second bytes that rule out longer forms, surrogates and
numbers beyond the last code point.
-/

import Concord.Text.Quoted

namespace Concord.Utf8

/-! ### Refusals -/

inductive Reason where
  | invalidStart
  | invalidContinuation
  | unexpectedEnd
  deriving DecidableEq, Repr

/-- What a reason is called. -/
def Reason.text : Reason → String
  | .invalidStart => "invalid start byte"
  | .invalidContinuation => "invalid continuation byte"
  | .unexpectedEnd => "unexpected end of data"

/-- The bytes that cannot be decoded: the first of them, its position, how many they are, and why. -/
structure Refusal where
  byte : UInt8
  position : Nat
  count : Nat
  reason : Reason
  deriving DecidableEq, Repr

/-- The refusal in words. -/
def Refusal.message (refusal : Refusal) : String :=
  let codec := "'utf-8' codec can't decode "
  if refusal.count = 1 then
    let byte := String.ofList (Text.hexDigits 2 refusal.byte.toNat)
    s!"{codec}byte 0x{byte} in position {refusal.position}: {refusal.reason.text}"
  else
    let last := refusal.position + refusal.count - 1
    s!"{codec}bytes in position {refusal.position}-{last}: {refusal.reason.text}"

/-! ### Decoding -/

/-- How many bytes follow a first byte, and the range of the first of them. -/
structure Shape where
  following : Nat
  least : Nat
  most : Nat
  deriving DecidableEq, Repr

/-- The shape that a first byte announces. -/
def shape? (byte : UInt8) : Option Shape :=
  let code := byte.toNat
  if code < 0x80 then some ⟨0, 0x80, 0xbf⟩
  else if code < 0xc2 then none
  else if code < 0xe0 then some ⟨1, 0x80, 0xbf⟩
  else if code = 0xe0 then some ⟨2, 0xa0, 0xbf⟩
  else if code = 0xed then some ⟨2, 0x80, 0x9f⟩
  else if code < 0xf0 then some ⟨2, 0x80, 0xbf⟩
  else if code = 0xf0 then some ⟨3, 0x90, 0xbf⟩
  else if code < 0xf4 then some ⟨3, 0x80, 0xbf⟩
  else if code = 0xf4 then some ⟨3, 0x80, 0x8f⟩
  else none

/-- The bits that a first byte gives to the code point. -/
def leadingBits (following : Nat) (byte : UInt8) : Nat :=
  if following = 0 then byte.toNat else byte.toNat % Nat.pow 2 (6 - following)

/-- Why the bytes that follow a first byte do not complete it, with how many of all are at fault; or
the code point. `taken` counts the bytes read so far. -/
def complete (code taken : Nat) :
    (following least most : Nat) → List UInt8 → Except (Nat × Reason) (Nat × List UInt8)
  | 0, _, _, rest => .ok (code, rest)
  | _ + 1, _, _, [] => .error (taken, .unexpectedEnd)
  | following + 1, least, most, byte :: rest =>
    if least ≤ byte.toNat && byte.toNat ≤ most then
      complete (code * 64 + byte.toNat % 64) (taken + 1) following 0x80 0xbf rest
    else .error (taken, .invalidContinuation)

/-- The first character of bytes and the rest, or the refusal. -/
def decodeFirst (position : Nat) (byte : UInt8) (rest : List UInt8) :
    Except Refusal (Char × List UInt8) :=
  match shape? byte with
  | none => .error ⟨byte, position, 1, .invalidStart⟩
  | some shape =>
    match complete (leadingBits shape.following byte) 1 shape.following shape.least shape.most rest with
    | .ok (code, left) => .ok (Char.ofNat code, left)
    | .error (count, reason) => .error ⟨byte, position, count, reason⟩

/-- The characters of bytes from a position on. Every step takes at least one byte. -/
def decodeWithin (position : Nat) : (steps : Nat) → List UInt8 → Except Refusal (List Char)
  | _, [] => .ok []
  | 0, _ :: _ => .ok []
  | steps + 1, byte :: rest => do
    let (c, left) ← decodeFirst position byte rest
    let others ← decodeWithin (position + 1 + (rest.length - left.length)) steps left
    return c :: others

/-- The characters that bytes stand for. -/
def decode (bytes : List UInt8) : Except Refusal (List Char) :=
  decodeWithin 0 bytes.length bytes

/-! ### Encoding -/

/-- The bytes of a text. -/
def encode (text : String) : List UInt8 :=
  text.toUTF8.toList

end Concord.Utf8
