/-
What is written is cut back into the tokens that it was made of: texts with their escapes, numbers and
words. Behind a number stands something that no number goes on with.
-/

import Concord.Value.Json.Token
import Concord.Value.Json.Writer
import Mathlib.Algebra.Group.Nat.Defs

namespace Concord.Json

open Text

/-! ### Hexadecimal digits -/

theorem hexValue?_hexDigit : ∀ value < 16, hexValue? (hexDigit value) = some value := by
  decide

theorem hexNumber?_hexDigits (width value : Nat) (fits : value < 16 ^ width) :
    hexNumber? (hexDigits width value) = some value := by
  unfold hexNumber?
  induction width generalizing value with
  | zero =>
    obtain rfl : value = 0 := by omega
    rfl
  | succ width inductionHypothesis =>
    have above : value / 16 < 16 ^ width := by
      rw [Nat.pow_succ] at fits
      omega
    rw [hexDigits, List.foldl_append, inductionHypothesis _ above, List.foldl_cons, List.foldl_nil,
      hexValue?_hexDigit _ (Nat.mod_lt _ (by decide))]
    simp only [bind, Option.bind, pure, Option.some.injEq]
    omega

/-- The four digits of a unit are read as that unit. -/
theorem exists_unitEscape {unit : Nat} (fits : unit < 0x10000) :
    ∃ a b c d, unitEscape unit = ['\\', 'u', a, b, c, d] ∧ hexNumber? [a, b, c, d] = some unit := by
  have read := hexNumber?_hexDigits 4 unit fits
  have digits := length_hexDigits 4 unit
  match found : hexDigits 4 unit, digits with
  | [a, b, c, d], _ =>
    rw [found] at read
    exact ⟨a, b, c, d, by rw [unitEscape, found], read⟩

/-! ### Texts -/

/-- A number of a character is no half of a pair. -/
theorem toNat_bounds (c : Char) : c.toNat < 0xd800 ∨ 0xdfff < c.toNat ∧ c.toNat < 0x110000 :=
  c.valid

/-- Written without its number. -/
def IsDirect (c : Char) : Prop :=
  c = '\x22' ∨ c = '\\' ∨ c = '\n' ∨ c = '\r' ∨ c = '\t' ∨ c.toNat = 8 ∨ c.toNat = 12 ∨
    (32 ≤ c.toNat ∧ c.toNat < 127)

instance (c : Char) : Decidable (IsDirect c) :=
  inferInstanceAs (Decidable (_ ∨ _))

/-- The units that a character is written as. -/
def unitsOf (c : Char) : List StringUnit :=
  if IsDirect c then [.plain c]
  else if c.toNat < 0x10000 then [.code c.toNat]
  else [.code (0xd800 + (c.toNat - 0x10000) / 0x400), .code (0xdc00 + (c.toNat - 0x10000) % 0x400)]

/-- Units in front of those that are read. -/
def prepend (units : List StringUnit) (read : List StringUnit × List Char) :
    List StringUnit × List Char :=
  (units ++ read.1, read.2)

theorem stringUnits_unitEscape (start : Nat) {unit : Nat} (fits : unit < 0x10000) {rest : List Char}
    (goesOn : rest ≠ []) :
    stringUnits start (unitEscape unit ++ rest) =
      (stringUnits start rest).map (prepend [.code unit]) := by
  obtain ⟨a, b, c, d, written, read⟩ := exists_unitEscape fits
  obtain ⟨next, others, rfl⟩ := List.exists_cons_of_ne_nil goesOn
  rw [written, List.cons_append, List.cons_append, List.cons_append, List.cons_append,
    List.cons_append, List.cons_append, List.nil_append]
  have step := stringUnits.eq_4 start a b c d unit next others read
  rw [step]
  cases stringUnits start (next :: others) <;> rfl

theorem stringUnits_shortEscape (start : Nat) {mark character : Char}
    (short : shortEscape? mark = some character) (rest : List Char) :
    stringUnits start ('\\' :: mark :: rest) =
      (stringUnits start rest).map (prepend [.plain character]) := by
  have notUnicode : mark ≠ 'u' := by
    rintro rfl
    cases (show shortEscape? 'u' = none by decide).symm.trans short
  rw [stringUnits, short]
  · cases stringUnits start rest <;> rfl
  · exact fun _ _ _ _ _ same => absurd same notUnicode
  · exact notUnicode

theorem stringUnits_plain (start : Nat) {c : Char} (notQuote : c ≠ '\x22') (notEscape : c ≠ '\\')
    (isText : 32 ≤ c.toNat) (rest : List Char) :
    stringUnits start (c :: rest) = (stringUnits start rest).map (prepend [.plain c]) := by
  rw [stringUnits, if_neg (by omega)]
  · cases stringUnits start rest <;> rfl
  · exact notQuote
  all_goals
    intros
    contradiction

theorem stringUnits_direct (start : Nat) {c : Char} (isDirect : IsDirect c) (rest : List Char) :
    stringUnits start (escaped c ++ rest) = (stringUnits start rest).map (prepend [.plain c]) := by
  have ofCode {code : Nat} (same : c.toNat = code) : c = Char.ofNat code := by
    rw [← same, Char.ofNat_toNat]
  rcases isDirect with rfl | rfl | rfl | rfl | rfl | isBack | isForm | isPrintable
  · exact stringUnits_shortEscape start rfl rest
  · exact stringUnits_shortEscape start rfl rest
  · exact stringUnits_shortEscape start rfl rest
  · exact stringUnits_shortEscape start rfl rest
  · exact stringUnits_shortEscape start rfl rest
  · rw [ofCode isBack]; exact stringUnits_shortEscape start rfl rest
  · rw [ofCode isForm]; exact stringUnits_shortEscape start rfl rest
  · by_cases isQuote : c = '\x22'
    · subst isQuote; exact stringUnits_shortEscape start rfl rest
    by_cases isEscape : c = '\\'
    · subst isEscape; exact stringUnits_shortEscape start rfl rest
    have below {other : Char} (small : other.toNat < 32) : c ≠ other := by
      rintro rfl
      omega
    rw [escaped, if_neg isQuote, if_neg isEscape, if_neg (below (by decide)), if_neg (below (by decide)),
      if_neg (below (by decide)), if_neg (by omega), if_neg (by omega), if_pos isPrintable]
    exact stringUnits_plain start isQuote isEscape isPrintable.1 rest

/-- A written character is read as the units that it was written as. -/
theorem stringUnits_escaped (start : Nat) (c : Char) {rest : List Char} (goesOn : rest ≠ []) :
    stringUnits start (escaped c ++ rest) = (stringUnits start rest).map (prepend (unitsOf c)) := by
  unfold unitsOf
  split
  · next isDirect => exact stringUnits_direct start isDirect rest
  · next notDirect =>
    simp only [IsDirect, not_or] at notDirect
    obtain ⟨notQuote, notEscape, notFeed, notReturn, notTab, notBack, notForm, notPrintable⟩ := notDirect
    rw [escaped, if_neg notQuote, if_neg notEscape, if_neg notFeed, if_neg notReturn, if_neg notTab,
      if_neg notBack, if_neg notForm, if_neg notPrintable]
    split
    · next small => exact stringUnits_unitEscape start small goesOn
    · next large =>
      have bounds := toNat_bounds c
      simp only
      rw [List.append_assoc, stringUnits_unitEscape start (by omega) (by simp [unitEscape]),
        stringUnits_unitEscape start (by omega) goesOn]
      cases stringUnits start rest <;> rfl

/-- The units of a character are joined to this character. -/
theorem joinUnits_unitsOf (c : Char) (units : List StringUnit) :
    joinUnits (unitsOf c ++ units) = c :: joinUnits units := by
  have bounds := toNat_bounds c
  unfold unitsOf
  split
  · rfl
  split
  · next small =>
    have own : loneCharacter c.toNat = c := by
      rw [loneCharacter, if_neg (by omega), Char.ofNat_toNat]
    rw [List.singleton_append]
    rcases units with _ | ⟨_ | low, units⟩
    · exact congrArg (· :: joinUnits []) own
    · exact congrArg (· :: joinUnits (.plain _ :: units)) own
    · rw [joinUnits, if_neg (by omega), own]
  · next large =>
    rw [List.cons_append, List.singleton_append, joinUnits, if_pos (by omega)]
    refine congrArg (· :: joinUnits units) ?_
    have joined : 0x10000 + (0xd800 + (c.toNat - 0x10000) / 0x400 - 0xd800) * 0x400 +
        (0xdc00 + (c.toNat - 0x10000) % 0x400 - 0xdc00) = c.toNat := by omega
    rw [joined, Char.ofNat_toNat]

theorem stringUnits_textLiteral (start : Nat) (text rest : List Char) :
    stringUnits start (text.flatMap escaped ++ '\x22' :: rest) = .ok (text.flatMap unitsOf, rest) := by
  induction text with
  | nil => rw [List.flatMap_nil, List.flatMap_nil, List.nil_append, stringUnits]
  | cons c text inductionHypothesis =>
    rw [List.flatMap_cons, List.flatMap_cons, List.append_assoc,
      stringUnits_escaped start c (by simp), inductionHypothesis]
    rfl

theorem joinUnits_flatMap (text : List Char) : joinUnits (text.flatMap unitsOf) = text := by
  induction text with
  | nil => rw [List.flatMap_nil, joinUnits]
  | cons c text inductionHypothesis =>
    rw [List.flatMap_cons, joinUnits_unitsOf, inductionHypothesis]

/-- A text between quotes is the first token. -/
theorem firstKind_textLiteral (text : String) (rest : List Char) :
    ∃ others, textLiteral text ++ rest = '\x22' :: others ∧
      firstKind '\x22' others = (.text text, rest) := by
  refine ⟨text.toList.flatMap escaped ++ '\x22' :: rest, by simp [textLiteral], ?_⟩
  rw [firstKind, if_neg (by decide), if_pos rfl, stringUnits_textLiteral]
  simp only [joinUnits_flatMap, String.ofList_toList]

/-! ### Numbers -/

/-- What may stand behind a value: nothing, or a character that no number goes on with. -/
def Delimits (rest : List Char) : Prop :=
  ∀ c ∈ rest.head?, c ∈ [',', ']', '\x7d', '\n']

/-- Digits are cut off up to what stands behind them. -/
theorem digitRun_append {digits rest : List Char} (areDigits : ∀ c ∈ digits, c.isDigit = true)
    (delimits : Delimits rest) : digitRun (digits ++ rest) = (digits, rest) := by
  have stops : rest.takeWhile Char.isDigit = [] ∧ rest.dropWhile Char.isDigit = rest := by
    cases rest with
    | nil => exact ⟨rfl, rfl⟩
    | cons c rest =>
      have notDigit : c.isDigit = false := by
        have member := delimits c rfl
        simp only [List.mem_cons, List.not_mem_nil, or_false] at member
        rcases member with rfl | rfl | rfl | rfl <;> rfl
      simp [notDigit]
  rw [digitRun, List.takeWhile_append_of_pos areDigits, List.dropWhile_append_of_pos areDigits,
    stops.1, stops.2, List.append_nil]

theorem ne_of_isDigit {c other : Char} (isDigit : c.isDigit = true) (notDigit : other.isDigit = false) :
    c ≠ other := by
  rintro rfl
  rw [isDigit] at notDigit
  cases notDigit

theorem isDigit_of_mem_digitsOf {value : Nat} {c : Char} (member : c ∈ Decimal.digitsOf value) :
    c.isDigit = true :=
  Nat.isDigit_of_mem_toDigits (by decide) (by decide) member

/-- A number is written with at least one digit. -/
theorem exists_digit (value : Nat) :
    ∃ c digits, Decimal.digitsOf value = c :: digits ∧ c.isDigit = true := by
  obtain ⟨c, digits, opening⟩ : ∃ c digits, Decimal.digitsOf value = c :: digits :=
    List.exists_cons_of_ne_nil Nat.toDigits_ne_nil
  exact ⟨c, digits, opening, isDigit_of_mem_digitsOf (opening ▸ List.mem_cons_self)⟩

theorem digitsNumber_digitsOf (value : Nat) : digitsNumber (Decimal.digitsOf value) = value := by
  have read := Nat.ofDigitChars_ten_toDigits (n := value)
  simp only [Nat.ofDigitChars_eq_foldl, Nat.mul_comm] at read
  exact read

/-- The digits of a number open with a zero only if it is zero. -/
theorem exists_digitsOf {value : Nat} (isPositive : 0 < value) :
    ∃ c digits, Decimal.digitsOf value = c :: digits ∧ c ≠ '0' := by
  have digit : ∀ value < 10, 0 < value → value.digitChar ≠ '0' := by decide
  unfold Decimal.digitsOf
  induction value using Nat.strongRecOn with
  | ind value inductionHypothesis =>
    rw [Nat.toDigits_eq_if (by decide)]
    split
    · next small =>
      exact ⟨_, _, rfl, digit value small isPositive⟩
    · next large =>
      obtain ⟨c, digits, opening, notZero⟩ :=
        inductionHypothesis (value / 10) (Nat.div_lt_self isPositive (by decide)) (by omega)
      exact ⟨c, digits ++ [(value % 10).digitChar], by rw [opening, List.cons_append], notZero⟩

theorem wholePart?_digitsOf (value : Nat) {rest : List Char} (delimits : Delimits rest) :
    wholePart? (Decimal.digitsOf value ++ rest) = some (Decimal.digitsOf value, rest) := by
  rcases Nat.eq_zero_or_pos value with rfl | isPositive
  · rfl
  · have areDigits : ∀ c ∈ Decimal.digitsOf value, c.isDigit = true := fun _ =>
      isDigit_of_mem_digitsOf
    have run := digitRun_append areDigits delimits
    obtain ⟨c, digits, opening, notZero⟩ := exists_digitsOf isPositive
    rw [opening] at run ⊢
    rw [List.cons_append] at run ⊢
    rw [wholePart?, run]
    exact fun _ same => absurd (List.cons.inj same).1 notZero

theorem fractionPart_of_delimits {rest : List Char} (delimits : Delimits rest) :
    fractionPart rest = ([], rest) := by
  cases rest with
  | nil => rfl
  | cons c rest =>
    have member := delimits c rfl
    simp only [List.mem_cons, List.not_mem_nil, or_false] at member
    rcases member with rfl | rfl | rfl | rfl <;> rfl

theorem exponentPart_of_delimits {rest : List Char} (delimits : Delimits rest) :
    exponentPart rest = (none, rest) := by
  cases rest with
  | nil => rfl
  | cons c rest =>
    have member := delimits c rfl
    simp only [List.mem_cons, List.not_mem_nil, or_false] at member
    rcases member with rfl | rfl | rfl | rfl <;> rfl

/-- The digits of a number are read as this number, if they are not too many. -/
theorem unsignedNumber?_digitsOf (value : Nat) {rest : List Char} (delimits : Delimits rest) :
    unsignedNumber? false (Decimal.digitsOf value ++ rest) =
      some (if greatestDigits < (Decimal.digitsOf value).length then
        .error (Decimal.digitsOf value).length else .ok (.integer value), rest) := by
  rw [unsignedNumber?, wholePart?_digitsOf value delimits]
  simp only [Option.bind_eq_bind, Option.bind_some, fractionPart_of_delimits delimits,
    exponentPart_of_delimits delimits]
  split
  · rfl
  · rw [digitsNumber_digitsOf]
    rfl

/-- The token that is made of a number: a broken one, where so many characters remain, if it has too many
digits. -/
def numberKind (remaining : Nat) : Except Nat Number → TokenKind
  | .ok value => .scalar (.number value)
  | .error digits => .broken ⟨.longInteger digits, remaining⟩

/-- What opens with a digit is the number that is read there. -/
theorem firstKind_digit {c : Char} (isDigit : c.isDigit = true) {rest left : List Char}
    {number : Except Nat Number}
    (isNumber : unsignedNumber? false (c :: rest) = some (number, left)) :
    firstKind c rest = (numberKind (c :: rest).length number, left) := by
  have isOther {other : Char} : other.isDigit = false → c ≠ other := ne_of_isDigit isDigit
  have notWord : literal? (c :: rest) = none := by
    simp only [literal?, List.findSome?_eq_none_iff, Option.map_eq_none_iff]
    intro word member
    have first : ∃ other letters, word.1.toList = other :: letters ∧ other.isDigit = false := by
      simp only [literals, List.mem_cons, List.not_mem_nil, or_false] at member
      rcases member with rfl | rfl | rfl | rfl | rfl | rfl <;> exact ⟨_, _, rfl, rfl⟩
    obtain ⟨other, letters, opening, notDigit⟩ := first
    rw [opening, after?, if_neg (isOther notDigit).symm]
  have unsigned : number? (c :: rest) = unsignedNumber? false (c :: rest) := by
    rw [number?]
    exact fun _ same => absurd (List.cons.inj same).1 (isOther rfl)
  have notPunctuation : ¬ (c = '[' ∨ c = ']' ∨ c = '\x7b' ∨ c = '\x7d' ∨ c = ',' ∨ c = ':') := by
    simp only [not_or]
    exact ⟨isOther rfl, isOther rfl, isOther rfl, isOther rfl, isOther rfl, isOther rfl⟩
  rw [firstKind, if_neg notPunctuation, if_neg (isOther rfl), notWord, unsigned, isNumber]
  cases number <;> rfl

/-- The digits of a number are the first token; too many of them are a broken one. -/
theorem firstKind_digitsOf (value : Nat) {rest : List Char} (delimits : Delimits rest) :
    ∃ c others, Decimal.digitsOf value ++ rest = c :: others ∧ c.isDigit = true ∧
      firstKind c others =
        (if greatestDigits < (Decimal.digitsOf value).length then
          .broken ⟨.longInteger (Decimal.digitsOf value).length, (c :: others).length⟩
        else .scalar (.number (.integer value)), rest) := by
  obtain ⟨c, digits, opening, isDigit⟩ := exists_digit value
  have parts : Decimal.digitsOf value ++ rest = c :: (digits ++ rest) := by
    rw [opening, List.cons_append]
  have isNumber := unsignedNumber?_digitsOf value delimits
  rw [parts] at isNumber
  refine ⟨c, digits ++ rest, parts, isDigit, ?_⟩
  rw [firstKind_digit isDigit isNumber]
  by_cases isLong : greatestDigits < (Decimal.digitsOf value).length
  · rw [if_pos isLong, if_pos isLong, numberKind]
  · rw [if_neg isLong, if_neg isLong, numberKind]

/-! ### Words and marks -/

theorem firstKind_null (rest : List Char) :
    firstKind 'n' ("ull".toList ++ rest) = (.scalar .null, rest) := by
  simp [firstKind, literal?, literals, after?]

theorem firstKind_true (rest : List Char) :
    firstKind 't' ("rue".toList ++ rest) = (.scalar (.boolean true), rest) := by
  simp [firstKind, literal?, literals, after?]

theorem firstKind_false (rest : List Char) :
    firstKind 'f' ("alse".toList ++ rest) = (.scalar (.boolean false), rest) := by
  simp [firstKind, literal?, literals, after?]

theorem firstKind_punctuation {c : Char}
    (isMark : c = '[' ∨ c = ']' ∨ c = '\x7b' ∨ c = '\x7d' ∨ c = ',' ∨ c = ':') (rest : List Char) :
    firstKind c rest = (.punctuation c, rest) := by
  rw [firstKind, if_pos isMark]

end Concord.Json
