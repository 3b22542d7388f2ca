/-
Decimal texts of doubles. The shortest text is the one with the fewest digits that reads back as the
same double, and among those the one nearest to it; it is positional for decimal exponents from -4 to
15 and has an exponent of at least two digits otherwise. A text with fixed places rounds the exact
value, a half to the even digit.
-/

import Concord.Number.Binary64

namespace Concord.Decimal

/-! ### Digits -/

/-- The decimal digits of a natural number. -/
def digitsOf (value : Nat) : List Char :=
  Nat.toDigits 10 value

/-- At least `width` digits, zeros in front. -/
def padded (width value : Nat) : List Char :=
  let digits := digitsOf value
  List.replicate (width - digits.length) '0' ++ digits

/-! ### Fixed places -/

/-- A size in units of `10 ^ -places`, written with that many places. -/
def positional (places units : Nat) : List Char :=
  if places = 0 then digitsOf units
  else digitsOf (units / Nat.pow 10 places) ++ '.' :: padded places (units % Nat.pow 10 places)

/-- A double rounded to a number of places. -/
def fixed (places : Nat) (value : Binary64) : String :=
  match value with
  | .finite isNegative significand exponent =>
    let units := roundHalfEven (significand * Binary64.scaleUp exponent * Nat.pow 10 places)
      (Binary64.scaleUp (-exponent))
    String.ofList ((if isNegative then ['-'] else []) ++ positional places units)
  | .infinite isNegative => if isNegative then "-inf" else "inf"
  | .undefined => "nan"

/-- The double nearest to a double rounded to a number of places. -/
def rounded (places : Nat) (value : Binary64) : Binary64 :=
  match value with
  | .finite isNegative significand exponent =>
    let units := roundHalfEven (significand * Binary64.scaleUp exponent * Nat.pow 10 places)
      (Binary64.scaleUp (-exponent))
    Binary64.ofRatio isNegative units (Nat.pow 10 places)
  | other => other

/-! ### The fewest digits -/

/-- `digits · 10 ^ exponent`. -/
structure Point where
  digits : Nat
  exponent : Int
  deriving DecidableEq, Repr

/-- The double that a point reads back as. -/
def Point.read (point : Point) : Binary64 :=
  Binary64.ofDecimal false point.digits point.exponent

/-- The greatest power of ten that does not exceed a positive ratio, by search downward from
`10 ^ (start - 1)`. -/
def decimalMagnitude (numerator denominator : Nat) : (count : Nat) → (start : Int) → Int
  | 0, start => start
  | count + 1, start =>
    let exponent := start - 1
    if denominator * Nat.pow 10 exponent.toNat ≤ numerator * Nat.pow 10 (-exponent).toNat then exponent
    else decimalMagnitude numerator denominator count exponent

/-- The points with `10 ^ exponent` as their unit next to a ratio, the nearer one first. -/
def neighbours (numerator denominator : Nat) (exponent : Int) : List Point :=
  let scaled := numerator * Nat.pow 10 (-exponent).toNat
  let unit := denominator * Nat.pow 10 exponent.toNat
  let low := scaled / unit
  let near := roundHalfEven scaled unit
  let far := if near = low then low + 1 else low
  [⟨near, exponent⟩, ⟨far, exponent⟩]

/-- The first point that reads back among those with `digits`, `digits + 1`, … digits. -/
def shortestFrom (value : Binary64) (numerator denominator : Nat) (magnitude : Int) :
    (count : Nat) → (digits : Nat) → Option Point
  | 0, _ => none
  | count + 1, digits =>
    let exponent := magnitude - (digits : Int) + 1
    match (neighbours numerator denominator exponent).find? fun point => point.read = value with
    | some point => some point
    | none => shortestFrom value numerator denominator magnitude count (digits + 1)

/-- A point without zeros at the end of its digits. -/
def Point.trimmed (point : Point) : (count : Nat) → Point
  | 0 => point
  | count + 1 =>
    if point.digits ≠ 0 ∧ point.digits % 10 = 0 then
      Point.trimmed ⟨point.digits / 10, point.exponent + 1⟩ count
    else point

/-- The point with the fewest digits that reads back as a positive finite double. -/
def shortestPoint (significand : Nat) (exponent : Int) : Point :=
  let numerator := significand * Binary64.scaleUp exponent
  let denominator := Binary64.scaleUp (-exponent)
  let magnitude := decimalMagnitude numerator denominator 640 310
  match shortestFrom (.finite false significand exponent) numerator denominator magnitude 17 1 with
  | some point => point.trimmed 20
  | none => ⟨significand, exponent⟩

/-! ### The layout of the shortest text -/

/-- An exponent with its sign and at least two digits. -/
def exponentText (exponent : Int) : List Char :=
  'e' :: (if exponent < 0 then '-' else '+') :: padded 2 exponent.natAbs

/-- The first digit, and the others behind a point. -/
def withPoint : List Char → List Char
  | first :: second :: rest => first :: '.' :: second :: rest
  | digits => digits

/-- The text of a point. -/
def Point.text (point : Point) : List Char :=
  let digits := digitsOf point.digits
  let leading := (digits.length : Int) + point.exponent - 1
  if leading < -4 ∨ 16 ≤ leading then withPoint digits ++ exponentText leading
  else if leading < 0 then
    '0' :: '.' :: List.replicate (-leading - 1).toNat '0' ++ digits
  else if 0 ≤ point.exponent then digits ++ List.replicate point.exponent.toNat '0' ++ ['.', '0']
  else digits.take (leading.toNat + 1) ++ '.' :: digits.drop (leading.toNat + 1)

/-- The shortest text that reads back as the double. -/
def shortest (value : Binary64) : String :=
  match value with
  | .finite isNegative significand exponent =>
    let size := if significand = 0 then "0.0".toList else (shortestPoint significand exponent).text
    String.ofList ((if isNegative then ['-'] else []) ++ size)
  | .infinite isNegative => if isNegative then "-inf" else "inf"
  | .undefined => "nan"

end Concord.Decimal
