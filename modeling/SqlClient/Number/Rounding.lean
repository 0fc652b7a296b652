import SqlClient.Number.Digits
import SqlClient.Number.Double

/-!
Rounding of exact values to floating-point numbers. A positive fraction is brought to a whole
number of units of the right size and rounded to nearest, a tie going to the even neighbour.
Decimal numerals, integers, truncation and the narrower 32-bit numbers are all reduced to this one
step.
-/

namespace SqlClient

/-- The whole number nearest to `num / den`, a tie going to the even one. -/
def roundHalfEven (num den : Nat) : Nat :=
  let whole := num / den
  let rest := num % den
  if 2 * rest < den then whole
  else if den < 2 * rest then whole + 1
  else if whole % 2 = 0 then whole else whole + 1

/-- The whole number nearest to `num / den`, a tie going up. -/
def roundHalfUp (num den : Nat) : Nat :=
  (2 * num + den) / (2 * den)

/-- The exponent of the power of two just below or at `num / den`. -/
def binaryOrder (num den : Nat) : Int :=
  let guess : Int := (num.log2 : Int) - den.log2
  let reached : Bool :=
    match guess with
    | .ofNat k => decide (den * Nat.pow 2 k ≤ num)
    | .negSucc k => decide (den ≤ num * Nat.pow 2 (k + 1))
  if reached then guess else guess - 1

/-- Writes `num / den` as `m * 2 ^ q`, where `m` has at most `precision` bits before it is rounded
and `q` is no less than `least`. -/
def roundSignificand (precision : Nat) (least : Int) (num den : Nat) : Nat × Int :=
  let q := max (binaryOrder num den - (precision - 1 : Nat)) least
  let m :=
    match q with
    | .ofNat k => roundHalfEven num (den * Nat.pow 2 k)
    | .negSucc k => roundHalfEven (num * Nat.pow 2 (k + 1)) den
  (m, q)

namespace Double

/-- The number nearest to `num / den`, an infinity when that lies beyond the finite numbers. -/
def ofRatio (negative : Bool) (num den : Nat) : Double :=
  if num = 0 then zero negative
  else
    let (m, q) := roundSignificand 53 leastExponent num den
    ofSize negative (min ((q - leastExponent).toNat * Nat.pow 2 52 + m) infiniteSize)

/-- The number nearest to `digits * 10 ^ exponent`. Values far outside the range are settled by
their order of magnitude alone. -/
def ofDecimal (negative : Bool) (digits : Nat) (exponent : Int) : Double :=
  if digits = 0 then zero negative
  else
    let order := (decimalLength digits : Int) + exponent
    if 310 < order then infinity negative
    else if order < -330 then zero negative
    else
      match exponent with
      | .ofNat k => ofRatio negative (digits * Nat.pow 10 k) 1
      | .negSucc k => ofRatio negative digits (Nat.pow 10 (k + 1))

/-- The number nearest to an integer. -/
def ofInt (n : Int) : Double :=
  ofRatio (decide (n < 0)) n.natAbs 1

/-- The numerator and denominator of the size of a finite number. -/
def ratio (x : Double) : Nat × Nat :=
  match x.exponent with
  | .ofNat k => (x.significand * Nat.pow 2 k, 1)
  | .negSucc k => (x.significand, Nat.pow 2 (k + 1))

/-- The size of a finite number without its fraction. -/
def floorSize (x : Double) : Nat :=
  x.ratio.1 / x.ratio.2

/-- The number without its fraction; its sign stays. -/
def trunc (x : Double) : Double :=
  if x.isFinite then ofRatio x.isNegative x.floorSize 1 else x

/-- The whole part of a finite number as an integer. -/
def toInt (x : Double) : Int :=
  if x.isNegative then -(x.floorSize : Int) else x.floorSize

/-- The number as a counter of 64 bits: the fraction is dropped, negative numbers and NaN count as
zero, and numbers that are too large as the greatest counter. -/
def toCounter (x : Double) : Nat :=
  if x.isNaN || x.isNegative then 0
  else if x.isInfinite then Nat.pow 2 64 - 1
  else min x.floorSize (Nat.pow 2 64 - 1)

/-- The number as a counter of 64 bits after rounding, a half going away from zero. -/
def roundCounter (x : Double) : Nat :=
  if x.isNaN || x.isNegative then 0
  else if x.isInfinite then Nat.pow 2 64 - 1
  else min (roundHalfUp x.ratio.1 x.ratio.2) (Nat.pow 2 64 - 1)

/-- The number nearest among those of 32 bits. -/
def toSingle (x : Double) : Double :=
  if !x.isFinite || x.isZero then x
  else
    let (m, q) := roundSignificand 24 (-149) x.ratio.1 x.ratio.2
    let (num, den) : Nat × Nat :=
      match q with
      | .ofNat k => (m * Nat.pow 2 k, 1)
      | .negSucc k => (m, Nat.pow 2 (k + 1))
    if Nat.pow 2 128 * den ≤ num then infinity x.isNegative else ofRatio x.isNegative num den

end Double

end SqlClient
