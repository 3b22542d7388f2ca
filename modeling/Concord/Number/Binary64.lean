/-
Double-precision numbers as exact data. A finite double is a sign, a significand below `2 ^ 53` and a
power of two; every operation computes the exact result as a ratio of integers and rounds it once, to
the nearest double and on a tie to the even significand. Nothing here depends on the arithmetic of a
machine, so statements about these numbers are statements about integers.
-/

namespace Concord

/-! ### Rounding a ratio to an integer -/

/-- The integer nearest to `numerator / denominator`, the even one of two. -/
def roundHalfEven (numerator denominator : Nat) : Nat :=
  let quotient := numerator / denominator
  let remainder := numerator % denominator
  if 2 * remainder < denominator then quotient
  else if denominator < 2 * remainder then quotient + 1
  else quotient + quotient % 2

theorem roundHalfEven_le_succ (numerator denominator : Nat) :
    roundHalfEven numerator denominator ≤ numerator / denominator + 1 := by
  unfold roundHalfEven
  dsimp only
  split
  · omega
  · split <;> omega

/-! ### The numbers -/

inductive Binary64 where
  /-- `± significand · 2 ^ exponent`. -/
  | finite (isNegative : Bool) (significand : Nat) (exponent : Int)
  | infinite (isNegative : Bool)
  /-- Not a number. -/
  | undefined
  deriving DecidableEq, Repr

namespace Binary64

/-- How many bits a full significand has. -/
def precision : Nat := 53

/-- The least exponent. -/
def leastExponent : Int := -1074

/-- The greatest exponent. -/
def greatestExponent : Int := 971

/-- Zero with a sign. -/
def zero (isNegative : Bool) : Binary64 :=
  .finite isNegative 0 leastExponent

/-- `2 ^ exponent` as a factor of a numerator: one when the exponent is negative. -/
def scaleUp (exponent : Int) : Nat :=
  Nat.pow 2 exponent.toNat

/-- The greatest power of two that does not exceed a positive ratio. -/
def magnitude (numerator denominator : Nat) : Int :=
  let guess := (numerator.log2 : Int) - denominator.log2
  if numerator * scaleUp (-guess) < denominator * scaleUp guess then guess - 1 else guess

/-- The double nearest to `± numerator / denominator`. -/
def ofRatio (isNegative : Bool) (numerator denominator : Nat) : Binary64 :=
  if numerator = 0 then zero isNegative
  else
    let exponent := max (magnitude numerator denominator - (precision - 1)) leastExponent
    let significand :=
      roundHalfEven (numerator * scaleUp (-exponent)) (denominator * scaleUp exponent)
    let (significand, exponent) :=
      if significand = Nat.pow 2 precision then (Nat.pow 2 (precision - 1), exponent + 1)
      else (significand, exponent)
    if greatestExponent < exponent then .infinite isNegative
    else .finite isNegative significand exponent

/-- The double nearest to an integer. -/
def ofInt (value : Int) : Binary64 :=
  ofRatio (value < 0) value.natAbs 1

/-- The double nearest to `± digits · 10 ^ exponent`. Exponents far outside the range are settled
without computing the power. -/
def ofDecimal (isNegative : Bool) (digits : Nat) (exponent : Int) : Binary64 :=
  if digits = 0 then zero isNegative
  else if 400 < exponent then .infinite isNegative
  else if exponent + ((digits.log2 : Int) + 1) < -400 then zero isNegative
  else ofRatio isNegative (digits * Nat.pow 10 exponent.toNat) (Nat.pow 10 (-exponent).toNat)

/-! ### Exact values -/

/-- A ratio with a positive denominator. -/
structure Ratio where
  numerator : Int
  denominator : Nat
  deriving DecidableEq, Repr

/-- The exact value of a finite double. -/
def ratio? : Binary64 → Option Ratio
  | .finite isNegative significand exponent =>
    let size : Int := (significand * scaleUp exponent : Nat)
    some ⟨if isNegative then -size else size, scaleUp (-exponent)⟩
  | _ => none

/-- The double nearest to a ratio; zero is positive. -/
def ofExact (ratio : Ratio) : Binary64 :=
  ofRatio (ratio.numerator < 0) ratio.numerator.natAbs ratio.denominator

/-! ### Operations on finite numbers -/

/-- The difference of two finite doubles. -/
def sub (first second : Binary64) : Binary64 :=
  match first.ratio?, second.ratio? with
  | some a, some b =>
    ofExact ⟨a.numerator * b.denominator - b.numerator * a.denominator,
      a.denominator * b.denominator⟩
  | _, _ => .undefined

/-- The product of two finite doubles. -/
def mul (first second : Binary64) : Binary64 :=
  match first.ratio?, second.ratio? with
  | some a, some b => ofExact ⟨a.numerator * b.numerator, a.denominator * b.denominator⟩
  | _, _ => .undefined

/-- The integer nearest to a finite double, the even one of two; zero for the others. -/
def roundToInt (value : Binary64) : Int :=
  match value.ratio? with
  | some ratio =>
    let size : Int := roundHalfEven ratio.numerator.natAbs ratio.denominator
    if ratio.numerator < 0 then -size else size
  | none => 0

/-! ### Operations on all numbers -/

/-- The number with the opposite sign. -/
def negate : Binary64 → Binary64
  | .finite isNegative significand exponent => .finite (!isNegative) significand exponent
  | .infinite isNegative => .infinite (!isNegative)
  | .undefined => .undefined

/-- The sum of two doubles; zero is positive. -/
def add (first second : Binary64) : Binary64 :=
  match first, second with
  | .undefined, _ | _, .undefined => .undefined
  | .infinite isFirst, .infinite isSecond =>
    if isFirst = isSecond then .infinite isFirst else .undefined
  | .infinite isNegative, _ | _, .infinite isNegative => .infinite isNegative
  | _, _ =>
    match first.ratio?, second.ratio? with
    | some a, some b =>
      ofExact ⟨a.numerator * b.denominator + b.numerator * a.denominator,
        a.denominator * b.denominator⟩
    | _, _ => .undefined

/-- The number has no fraction. -/
def isIntegral (value : Binary64) : Bool :=
  match value.ratio? with
  | some ratio => ratio.numerator % ratio.denominator == 0
  | none => false

end Binary64

/-! ### Order -/

/-- A number as the order sees it. -/
inductive Extended where
  | below
  | exact (ratio : Binary64.Ratio)
  | above
  | incomparable
  deriving DecidableEq, Repr

/-- The place of a double in the order. -/
def Binary64.extended (value : Binary64) : Extended :=
  match value with
  | .finite isNegative significand exponent =>
    match (Binary64.finite isNegative significand exponent).ratio? with
    | some ratio => .exact ratio
    | none => .incomparable
  | .infinite isNegative => if isNegative then .below else .above
  | .undefined => .incomparable

/-- Strictly less, in the order of exact values. -/
def Extended.less : Extended → Extended → Bool
  | .exact a, .exact b => decide (a.numerator * b.denominator < b.numerator * a.denominator)
  | .below, .exact _ => true
  | .below, .above => true
  | .exact _, .above => true
  | _, _ => false

/-- The same value. -/
def Extended.same : Extended → Extended → Bool
  | .exact a, .exact b => a.numerator * b.denominator == b.numerator * a.denominator
  | .below, .below => true
  | .above, .above => true
  | _, _ => false

/-- A number of a data format: an integer of any size, or a double. -/
inductive Number where
  | integer (value : Int)
  | double (value : Binary64)
  deriving DecidableEq, Repr

namespace Number

/-- The place of a number in the order. -/
def extended : Number → Extended
  | .integer value => .exact ⟨value, 1⟩
  | .double value => value.extended

/-- Strictly less. Nothing is less or greater than what is not a number. -/
def less (first second : Number) : Bool :=
  first.extended.less second.extended

/-- The same value. -/
def same (first second : Number) : Bool :=
  first.extended.same second.extended

/-- Less or of the same value. -/
def atMost (first second : Number) : Bool :=
  first.less second || first.same second

end Number

end Concord
