import SqlClient.Number.Rounding

/-!
The fewest decimal digits that read back as a given floating-point number. The reals that round to
the number form an interval, whose ends belong to it exactly when the significand is even. For
one, two, up to seventeen digits, the two neighbours of the number on that decimal grid are tested
against the interval; the first grid with a hit wins, and of two hits the nearer.
-/

namespace SqlClient

/-- Which of two decimals is taken when the number lies exactly between them. -/
inductive Tie
  | up
  | even

/-- A decimal value `digits * 10 ^ exponent`. -/
structure Decimal where
  digits : Nat
  exponent : Int
deriving DecidableEq

namespace Decimal

/-- The exponent of the leading digit. -/
def order (d : Decimal) : Int :=
  (decimalLength d.digits : Int) - 1 + d.exponent

/-- Moves zeros at the end of the digits into the exponent. -/
def trim (d : Decimal) : Decimal :=
  if h : d.digits ≠ 0 ∧ d.digits % 10 = 0 then
    trim ⟨d.digits / 10, d.exponent + 1⟩
  else d
termination_by d.digits
decreasing_by omega

end Decimal

/-- The number of digits before the point of `num / den`, counted negatively by the zeros that
follow the point: the least `k` with `num / den < 10 ^ k`. -/
def decimalOrder (num den : Nat) : Int :=
  if den ≤ num then decimalLength (num / den)
  else
    let inverse := decimalLength (den / num)
    if den = num * Nat.pow 10 (inverse - 1) then 2 - (inverse : Int) else 1 - (inverse : Int)

/-- The reals that round to `m * 2 ^ q`, in quarters of the unit `2 ^ q`. -/
structure RoundingInterval where
  lower : Nat
  value : Nat
  upper : Nat
  closed : Bool

namespace Double

/-- The interval of a finite number. Below a power of two the numbers lie twice as dense, so there
the interval reaches down only half as far. -/
def interval (x : Double) : RoundingInterval where
  lower :=
    if x.significand = Nat.pow 2 52 ∧ leastExponent < x.exponent then 4 * x.significand - 1
    else 4 * x.significand - 2
  value := 4 * x.significand
  upper := 4 * x.significand + 2
  closed := x.significand % 2 == 0

/-- Factors `a` and `b` such that `v * 2 ^ (q - 2)` compares with `d * 10 ^ s` as `v * a` with
`d * b`. -/
def scales (q s : Int) : Nat × Nat :=
  (Nat.pow 2 (q - 2).toNat * Nat.pow 10 (-s).toNat, Nat.pow 10 s.toNat * Nat.pow 2 (2 - q).toNat)

/-- The decimal on the grid of step `10 ^ s` that lies in the interval, the nearer one if both
neighbours do. -/
def onGrid (tie : Tie) (i : RoundingInterval) (q s : Int) : Option Nat :=
  let (a, b) := scales q s
  let below := i.value * a / b
  let inside (d : Nat) : Bool :=
    if i.closed then decide (i.lower * a ≤ d * b ∧ d * b ≤ i.upper * a)
    else decide (i.lower * a < d * b ∧ d * b < i.upper * a)
  let down := i.value * a - below * b
  let up := (below + 1) * b - i.value * a
  match inside below, inside (below + 1) with
  | false, false => none
  | true, false => some below
  | false, true => some (below + 1)
  | true, true =>
    if down < up then some below
    else if up < down then some (below + 1)
    else
      match tie with
      | .up => some (below + 1)
      | .even => some (if below % 2 = 0 then below else below + 1)

/-- Tries grids from `count` digits on, at most `fuel` of them. -/
def firstGrid (tie : Tie) (i : RoundingInterval) (q top : Int) : Nat → Nat → Option Decimal
  | 0, _ => none
  | fuel + 1, count =>
    match onGrid tie i q (top - count) with
    | some d => some ⟨d, top - count⟩
    | none => firstGrid tie i q top fuel (count + 1)

/-- The shortest decimal that reads back as the size of a finite number other than zero. Seventeen
digits always do, so the last resort is never taken. -/
def shortest (tie : Tie) (x : Double) : Decimal :=
  let top := decimalOrder x.ratio.1 x.ratio.2
  let found := firstGrid tie x.interval x.exponent top 17 1
  (found.getD ⟨x.significand, x.exponent⟩).trim

end Double

end SqlClient
