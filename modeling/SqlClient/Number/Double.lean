namespace SqlClient

/-- A floating-point number, given by its bit pattern. -/
structure Double where
  bits : UInt64
deriving DecidableEq

namespace Double

/-- The least exponent of a finite number, which all subnormal numbers share. -/
def leastExponent : Int := -1074

/-- The size of an infinity: every finite number is smaller and every NaN is larger. -/
def infiniteSize : Nat := 2047 * Nat.pow 2 52

/-- The pattern without its sign bit. Sizes of finite numbers are ordered as the numbers are. -/
def size (x : Double) : Nat :=
  x.bits.toNat % Nat.pow 2 63

def isNegative (x : Double) : Bool :=
  decide (Nat.pow 2 63 ≤ x.bits.toNat)

def isNaN (x : Double) : Bool :=
  decide (infiniteSize < x.size)

def isInfinite (x : Double) : Bool :=
  x.size == infiniteSize

def isFinite (x : Double) : Bool :=
  decide (x.size < infiniteSize)

def isZero (x : Double) : Bool :=
  x.size == 0

/-- The exponent field, where zero marks the subnormal numbers. -/
def exponentField (x : Double) : Nat :=
  x.size / Nat.pow 2 52

/-- The integer `m` in the value `m * 2 ^ q`. -/
def significand (x : Double) : Nat :=
  if x.exponentField = 0 then x.size else x.size % Nat.pow 2 52 + Nat.pow 2 52

/-- The exponent `q` in the value `m * 2 ^ q`. -/
def exponent (x : Double) : Int :=
  if x.exponentField = 0 then leastExponent else (x.exponentField : Int) - 1 + leastExponent

/-- The number with the given sign and size. -/
def ofSize (negative : Bool) (size : Nat) : Double :=
  ⟨UInt64.ofNat ((if negative then Nat.pow 2 63 else 0) + size)⟩

def zero (negative : Bool) : Double :=
  ofSize negative 0

def infinity (negative : Bool) : Double :=
  ofSize negative infiniteSize

def nan : Double :=
  ofSize false (infiniteSize + Nat.pow 2 51)

end Double

end SqlClient
