/-
UTF-8 as a code. The bytes of a character are a first one, which tells how many follow, and six bits in each
of the others; decoding collects the bits again. So bytes are decoded exactly when they are those of a
text, and to that text: what is refused is no text at all.
-/

import Concord.Storage
import Mathlib.Tactic.Ring

namespace Concord

namespace Utf8

/-! ### The bytes of a code point -/

/-- The bytes behind the first one, six bits each. -/
def tailBytes : Nat → Nat → List UInt8
  | 0, _ => []
  | following + 1, code =>
    .ofNat (code / 64 ^ following % 64 + 0x80) :: tailBytes following code

/-- How many bytes follow the first one. -/
def followingOf (code : Nat) : Nat :=
  if code ≤ 0x7f then 0 else if code ≤ 0x7ff then 1 else if code ≤ 0xffff then 2 else 3

/-- What a first byte has above the bits of the code point. -/
def leadingMark : Nat → Nat
  | 0 => 0
  | 1 => 0xc0
  | 2 => 0xe0
  | _ => 0xf0

/-- The first byte. -/
def leadingByte (code : Nat) : UInt8 :=
  .ofNat (code / 64 ^ followingOf code + leadingMark (followingOf code))

/-- The four lengths, each with its code points. -/
theorem followingOf_cases (code : Nat) :
    (code ≤ 0x7f ∧ followingOf code = 0) ∨ (0x7f < code ∧ code ≤ 0x7ff ∧ followingOf code = 1) ∨
      (0x7ff < code ∧ code ≤ 0xffff ∧ followingOf code = 2) ∨
      (0xffff < code ∧ followingOf code = 3) := by
  unfold followingOf
  split_ifs <;> omega

theorem toNat_lt (c : Char) : c.toNat < 0x110000 := by
  rcases c.valid with isLow | ⟨-, isHigh⟩
  · exact Nat.lt_trans isLow (by decide)
  · exact isHigh

theorem utf8EncodeChar_eq (c : Char) :
    String.utf8EncodeChar c = leadingByte c.toNat :: tailBytes (followingOf c.toNat) c.toNat := by
  have isSmall := toNat_lt c
  have same : c.val.toNat = c.toNat := rfl
  simp only [String.utf8EncodeChar, same, leadingByte]
  rcases followingOf_cases c.toNat with
    ⟨most, one⟩ | ⟨least, most, two⟩ | ⟨least, most, three⟩ | ⟨least, four⟩
  · rw [if_pos most, one]
    simp only [leadingMark, tailBytes, Nat.pow_zero, Nat.div_one, Nat.add_zero]
  · rw [if_neg (by omega), if_pos most, two, Nat.mod_eq_of_lt (by omega)]
    simp only [leadingMark, tailBytes, Nat.pow_zero, Nat.div_one, Nat.pow_one]
  · rw [if_neg (by omega), if_neg (by omega), if_pos most, three,
      Nat.mod_eq_of_lt (show c.toNat / 4096 < 16 by omega)]
    simp only [leadingMark, tailBytes, Nat.pow_zero, Nat.div_one, Nat.pow_one, Nat.reducePow]
  · rw [if_neg (by omega), if_neg (by omega), if_neg (by omega), four,
      Nat.mod_eq_of_lt (show c.toNat / 262144 < 8 by omega)]
    simp only [leadingMark, tailBytes, Nat.pow_zero, Nat.div_one, Nat.pow_one, Nat.reducePow]

/-! ### Tails -/

/-- The first byte of a tail, if there is one, is in a range. -/
def StartsWithin (least most : Nat) (following code : Nat) : Prop :=
  ∀ others, following = others + 1 →
    least ≤ code / 64 ^ others % 64 + 0x80 ∧ code / 64 ^ others % 64 + 0x80 ≤ most

theorem startsWithin_zero {least most code : Nat} : StartsWithin least most 0 code ↔ True :=
  iff_true_intro fun _ absent => by cases absent

theorem startsWithin_succ {least most following code : Nat} :
    StartsWithin least most (following + 1) code ↔
      least ≤ code / 64 ^ following % 64 + 0x80 ∧ code / 64 ^ following % 64 + 0x80 ≤ most :=
  ⟨fun within => within following rfl, fun within _ same => Nat.succ.inj same ▸ within⟩

theorem startsWithin_any (following code : Nat) : StartsWithin 0x80 0xbf following code :=
  fun _ _ => by omega

theorem toNat_tailByte (bits : Nat) : (UInt8.ofNat (bits % 64 + 0x80)).toNat = bits % 64 + 0x80 := by
  rw [UInt8.toNat_ofNat', Nat.mod_eq_of_lt (by omega)]

/-- The bits of a tail are collected behind those there are. -/
theorem complete_tailBytes {least most following number : Nat}
    (within : StartsWithin least most following number) (code taken : Nat) (rest : List UInt8) :
    complete code taken following least most (tailBytes following number ++ rest) =
      .ok (code * 64 ^ following + number % 64 ^ following, rest) := by
  induction following generalizing code taken least most with
  | zero => simp [complete, tailBytes, Nat.mod_one]
  | succ following inductionHypothesis =>
    obtain ⟨isLeast, isMost⟩ := startsWithin_succ.1 within
    have bits : (number / 64 ^ following % 64 + 0x80) % 64 = number / 64 ^ following % 64 := by omega
    rw [tailBytes, List.cons_append, complete, toNat_tailByte, if_pos (by simp [isLeast, isMost]),
      inductionHypothesis (startsWithin_any following number), bits, Nat.mod_pow_succ]
    congr 2
    ring

/-- Nothing but a tail is collected. -/
theorem eq_tailBytes_of_complete {least most following : Nat} (isTail : 0x80 ≤ least ∧ most ≤ 0xbf)
    {code taken number : Nat} {bytes rest : List UInt8}
    (collected : complete code taken following least most bytes = .ok (number, rest)) :
    bytes = tailBytes following number ++ rest ∧ number / 64 ^ following = code ∧
      StartsWithin least most following number := by
  induction following generalizing code taken least most bytes with
  | zero =>
    obtain ⟨rfl, rfl⟩ := Prod.mk.inj (Except.ok.inj collected)
    exact ⟨rfl, by rw [Nat.pow_zero, Nat.div_one], startsWithin_zero.2 trivial⟩
  | succ following inductionHypothesis =>
    cases bytes with
    | nil => cases collected
    | cons byte bytes =>
      rw [complete] at collected
      split at collected
      · next within =>
        simp only [Bool.and_eq_true, decide_eq_true_eq] at within
        obtain ⟨rfl, bits, -⟩ := inductionHypothesis ⟨le_rfl, le_rfl⟩ collected
        have same : number / 64 ^ following % 64 + 0x80 = byte.toNat := by omega
        refine ⟨?_, ?_, startsWithin_succ.2 (by rwa [same])⟩
        · rw [tailBytes, same, UInt8.ofNat_toNat]
          rfl
        · rw [Nat.pow_succ, ← Nat.div_div_eq_div_mul]
          omega
      · cases collected

/-! ### First bytes -/

/-- The first bytes there are, each with the shape that it announces. -/
theorem shape?_eq_some_iff {byte : UInt8} {shape : Shape} :
    shape? byte = some shape ↔
      (byte.toNat < 0x80 ∧ shape = ⟨0, 0x80, 0xbf⟩) ∨
      ((0xc2 ≤ byte.toNat ∧ byte.toNat < 0xe0) ∧ shape = ⟨1, 0x80, 0xbf⟩) ∨
      (byte.toNat = 0xe0 ∧ shape = ⟨2, 0xa0, 0xbf⟩) ∨
      (byte.toNat = 0xed ∧ shape = ⟨2, 0x80, 0x9f⟩) ∨
      ((0xe0 < byte.toNat ∧ byte.toNat ≠ 0xed ∧ byte.toNat < 0xf0) ∧ shape = ⟨2, 0x80, 0xbf⟩) ∨
      (byte.toNat = 0xf0 ∧ shape = ⟨3, 0x90, 0xbf⟩) ∨
      ((0xf0 < byte.toNat ∧ byte.toNat < 0xf4) ∧ shape = ⟨3, 0x80, 0xbf⟩) ∨
      (byte.toNat = 0xf4 ∧ shape = ⟨3, 0x80, 0x8f⟩) := by
  simp only [shape?]
  split_ifs <;> grind

theorem isSome_shape?_iff {byte : UInt8} :
    (shape? byte).isSome = true ↔ byte.toNat < 0x80 ∨ 0xc2 ≤ byte.toNat ∧ byte.toNat ≤ 0xf4 := by
  simp only [shape?]
  split_ifs <;> grind

theorem isTail_of_shape? {byte : UInt8} {shape : Shape} (shaped : shape? byte = some shape) :
    0x80 ≤ shape.least ∧ shape.most ≤ 0xbf := by
  rw [shape?_eq_some_iff] at shaped
  rcases shaped with ⟨-, rfl⟩ | ⟨-, rfl⟩ | ⟨-, rfl⟩ | ⟨-, rfl⟩ | ⟨-, rfl⟩ | ⟨-, rfl⟩ | ⟨-, rfl⟩ |
    ⟨-, rfl⟩ <;> decide

theorem toNat_leadingByte {code : Nat} (isSmall : code < 0x110000) :
    (leadingByte code).toNat = code / 64 ^ followingOf code + leadingMark (followingOf code) := by
  rw [leadingByte, UInt8.toNat_ofNat', Nat.mod_eq_of_lt]
  rcases followingOf_cases code with ⟨most, same⟩ | ⟨-, most, same⟩ | ⟨-, most, same⟩ | ⟨-, same⟩ <;>
    · simp only [same, leadingMark, Nat.reducePow]
      omega

/-- The first byte of a character announces the other bytes and has the highest bits. -/
theorem shape?_leadingByte (c : Char) :
    ∃ shape, shape? (leadingByte c.toNat) = some shape ∧ shape.following = followingOf c.toNat ∧
      leadingBits shape.following (leadingByte c.toNat) = c.toNat / 64 ^ shape.following ∧
      StartsWithin shape.least shape.most shape.following c.toNat := by
  have isValid : c.toNat < 0xd800 ∨ 0xdfff < c.toNat ∧ c.toNat < 0x110000 := c.valid
  have number := toNat_leadingByte (toNat_lt c)
  have lengths := followingOf_cases c.toNat
  generalize followingOf c.toNat = following at number lengths ⊢
  generalize leadingByte c.toNat = byte at number ⊢
  have starts : byte.toNat < 0x80 ∨ 0xc2 ≤ byte.toNat ∧ byte.toNat ≤ 0xf4 := by
    rcases lengths with ⟨most, rfl⟩ | ⟨least, most, rfl⟩ | ⟨least, most, rfl⟩ | ⟨least, rfl⟩ <;>
    · simp only [leadingMark, Nat.reducePow] at number
      omega
  obtain ⟨shape, shaped⟩ := Option.isSome_iff_exists.1 (isSome_shape?_iff.2 starts)
  refine ⟨shape, shaped, ?_⟩
  -- Every length against every row of the table: the first byte rules out the rows of other lengths.
  rw [shape?_eq_some_iff] at shaped
  rcases lengths with ⟨most, rfl⟩ | ⟨least, most, rfl⟩ | ⟨least, most, rfl⟩ | ⟨least, rfl⟩ <;>
  rcases shaped with ⟨range, rfl⟩ | ⟨range, rfl⟩ | ⟨range, rfl⟩ | ⟨range, rfl⟩ | ⟨range, rfl⟩ |
    ⟨range, rfl⟩ | ⟨range, rfl⟩ | ⟨range, rfl⟩ <;>
  · simp only [startsWithin_zero, startsWithin_succ, leadingBits, leadingMark, Nat.pow_eq, Nat.reducePow,
      Nat.reduceSub, Nat.reduceEqDiff, if_true, if_false, Nat.pow_zero, Nat.div_one,
      true_and, and_true] at *
    omega

/-- What a first byte announces is a code point with this first byte. -/
theorem isValidChar_of_shape? {byte : UInt8} {shape : Shape} (shaped : shape? byte = some shape)
    {code : Nat} (bits : code / 64 ^ shape.following = leadingBits shape.following byte)
    (within : StartsWithin shape.least shape.most shape.following code) :
    code.isValidChar ∧ followingOf code = shape.following ∧ leadingByte code = byte := by
  suffices numbers : (code < 0xd800 ∨ 0xdfff < code ∧ code < 0x110000) ∧
      followingOf code = shape.following ∧
      code / 64 ^ shape.following + leadingMark shape.following = byte.toNat by
    obtain ⟨isValid, same, number⟩ := numbers
    refine ⟨isValid, same, UInt8.toNat_inj.1 ?_⟩
    rw [toNat_leadingByte (by omega), same, number]
  -- In every row the range of the second byte is what rules out longer forms and code points of no character.
  have lengths := followingOf_cases code
  rw [shape?_eq_some_iff] at shaped
  rcases shaped with ⟨range, rfl⟩ | ⟨range, rfl⟩ | ⟨range, rfl⟩ | ⟨range, rfl⟩ | ⟨range, rfl⟩ |
    ⟨range, rfl⟩ | ⟨range, rfl⟩ | ⟨range, rfl⟩ <;>
  · simp only [startsWithin_zero, startsWithin_succ, leadingBits, leadingMark, Nat.pow_eq, Nat.reducePow,
      Nat.reduceSub, Nat.reduceEqDiff, if_true, if_false, Nat.pow_zero, Nat.div_one] at *
    omega

/-! ### Characters -/

/-- A character is decoded from its own bytes and from no others. -/
theorem decodeFirst_eq_ok_iff {position : Nat} {byte : UInt8} {bytes rest : List UInt8} {c : Char} :
    decodeFirst position byte bytes = .ok (c, rest) ↔
      byte :: bytes = String.utf8EncodeChar c ++ rest := by
  constructor
  · intro decoded
    unfold decodeFirst at decoded
    split at decoded
    · cases decoded
    · next shape shaped =>
      split at decoded
      · next code left collected =>
        obtain ⟨rfl, rfl⟩ := Prod.mk.inj (Except.ok.inj decoded)
        obtain ⟨rfl, bits, within⟩ := eq_tailBytes_of_complete (isTail_of_shape? shaped) collected
        obtain ⟨isValid, following, leading⟩ := isValidChar_of_shape? shaped bits within
        have number : (Char.ofNat code).toNat = code := by
          rw [Char.ofNat, dif_pos isValid]
          rfl
        rw [utf8EncodeChar_eq, number, following, leading]
        rfl
      · cases decoded
  · intro encoded
    rw [utf8EncodeChar_eq, List.cons_append, List.cons.injEq] at encoded
    obtain ⟨rfl, rfl⟩ := encoded
    obtain ⟨shape, shaped, following, bits, within⟩ := shape?_leadingByte c
    rw [decodeFirst, shaped, ← following]
    simp only [complete_tailBytes within, bits]
    rw [Nat.div_add_mod', Char.ofNat_toNat]

theorem length_le_of_decodeFirst {position : Nat} {byte : UInt8} {bytes rest : List UInt8} {c : Char}
    (decoded : decodeFirst position byte bytes = .ok (c, rest)) : rest.length ≤ bytes.length := by
  have lengths := congrArg List.length (decodeFirst_eq_ok_iff.1 decoded)
  rw [List.length_cons, List.length_append, String.length_utf8EncodeChar] at lengths
  have := c.utf8Size_pos
  omega

/-! ### Texts -/

theorem flatMap_utf8EncodeChar_eq_nil_iff {text : List Char} :
    text.flatMap String.utf8EncodeChar = [] ↔ text = [] := by
  rw [List.flatMap_eq_nil_iff, List.eq_nil_iff_forall_not_mem]
  exact forall₂_congr fun _ _ => iff_of_false String.utf8EncodeChar_ne_nil not_false

theorem decodeWithin_nil_eq_ok_iff {position steps : Nat} {text : List Char} :
    decodeWithin position steps [] = .ok text ↔ [] = text.flatMap String.utf8EncodeChar := by
  rw [decodeWithin, eq_comm (b := text.flatMap _), flatMap_utf8EncodeChar_eq_nil_iff, Except.ok.injEq,
    eq_comm]

/-- With steps enough a text is decoded from its own bytes and from no others. -/
theorem decodeWithin_eq_ok_iff {position steps : Nat} {bytes : List UInt8}
    (enough : bytes.length ≤ steps) {text : List Char} :
    decodeWithin position steps bytes = .ok text ↔ bytes = text.flatMap String.utf8EncodeChar := by
  induction steps generalizing position bytes text with
  | zero =>
    obtain rfl := List.length_eq_zero_iff.1 (Nat.le_zero.1 enough)
    exact decodeWithin_nil_eq_ok_iff
  | succ steps inductionHypothesis =>
    cases bytes with
    | nil => exact decodeWithin_nil_eq_ok_iff
    | cons byte bytes =>
      have enoughLeft {c : Char} {left : List UInt8}
          (first : decodeFirst position byte bytes = .ok (c, left)) : left.length ≤ steps :=
        (length_le_of_decodeFirst first).trans (Nat.le_of_succ_le_succ enough)
      rw [decodeWithin]
      constructor
      · intro decoded
        cases first : decodeFirst position byte bytes with
        | error refusal => simp [first, bind, Except.bind] at decoded
        | ok taken =>
          obtain ⟨c, left⟩ := taken
          simp only [first, bind, Except.bind] at decoded
          split at decoded
          · cases decoded
          · next others later =>
            obtain rfl := Except.ok.inj decoded
            rw [decodeFirst_eq_ok_iff.1 first, (inductionHypothesis (enoughLeft first)).1 later,
              List.flatMap_cons]
      · intro encoded
        cases text with
        | nil => cases encoded
        | cons c text =>
          rw [List.flatMap_cons] at encoded
          have first : decodeFirst position byte bytes = .ok (c, _) := decodeFirst_eq_ok_iff.2 encoded
          simp only [first, bind, Except.bind, (inductionHypothesis (enoughLeft first)).2 rfl]
          rfl

end Utf8

/-! ### Byte arrays -/

theorem loop_toList (bytes : ByteArray) (position : Nat) (reversed : List UInt8) :
    ByteArray.toList.loop bytes position reversed =
      reversed.reverse ++ bytes.data.toList.drop position := by
  fun_induction ByteArray.toList.loop bytes position reversed with
  | case1 position reversed inside inductionHypothesis =>
    have within : position < bytes.data.toList.length := by simpa using inside
    rw [inductionHypothesis, List.drop_eq_getElem_cons within]
    simp [ByteArray.get!, inside]
  | case2 position reversed outside =>
    rw [List.drop_eq_nil_of_le (by simpa using Nat.le_of_not_lt outside), List.append_nil]

namespace Utf8

theorem encode_ofList (text : List Char) :
    encode (String.ofList text) = text.flatMap String.utf8EncodeChar := by
  rw [encode, String.toUTF8_eq_toByteArray, String.toByteArray_ofList, List.utf8Encode,
    ByteArray.toList, loop_toList, List.reverse_nil, List.nil_append, List.drop_zero,
    List.toList_data_toByteArray]

/-- Bytes are decoded to a text exactly when they are its bytes. -/
theorem decode_eq_ok_iff {bytes : List UInt8} {text : List Char} :
    decode bytes = .ok text ↔ encode (String.ofList text) = bytes := by
  rw [decode, decodeWithin_eq_ok_iff le_rfl, encode_ofList, eq_comm]

theorem decode_encode (text : String) : decode (encode text) = .ok text.toList :=
  decode_eq_ok_iff.2 (congrArg encode String.ofList_toList)

end Utf8

/-! ### Files -/

theorem Text.unixLines_eq_self {text : List Char} (noReturn : '\r' ∉ text) : unixLines text = text := by
  induction text with
  | nil => rfl
  | cons c text inductionHypothesis =>
    obtain ⟨here, later⟩ := List.ne_and_not_mem_of_not_mem_cons noReturn
    rw [unixLines, inductionHypothesis later]
    · exact fun _ same => absurd same.symm here
    · exact fun same => absurd same.symm here

/-- A text with every line end turned into one line feed. -/
def Text.inUnixLines (text : String) : String :=
  String.ofList (unixLines text.toList)

theorem Storage.textOfBytes_encode (text : String) :
    textOfBytes (Utf8.encode text) = .ok (Text.inUnixLines text) := by
  rw [textOfBytes, Utf8.decode_encode]
  rfl

end Concord
