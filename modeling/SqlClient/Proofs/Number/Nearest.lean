import SqlClient.Proofs.Number.Shortest

/-!
Rounding is to the nearest floating-point number. Nearness is the distance of exact values; of two
numbers that are as near the one with the even significand is taken, and from half a unit beyond
the greatest finite number on the result is an infinity. Main statements: `isNearest_ofRatio`,
`isNearest_ofDecimal`.
-/

namespace SqlClient

namespace RoundsTo

variable {y : ℚ} {m : ℕ}

theorem abs_sub_le_half (h : RoundsTo y m) : |(m : ℚ) - y| ≤ 1 / 2 := by
  rw [abs_le]
  exact ⟨by linarith [h.high], by linarith [h.low]⟩

theorem even_of_abs_sub_eq (h : RoundsTo y m) (heq : |(m : ℚ) - y| = 1 / 2) : m % 2 = 0 := by
  by_contra hodd
  obtain ⟨hlow, hhigh⟩ := h.tie (by omega)
  have hlt : |(m : ℚ) - y| < 1 / 2 := abs_lt.mpr ⟨by linarith, by linarith⟩
  exact hlt.ne heq

theorem nearest (h : RoundsTo y m) (n : ℕ) :
    |(m : ℚ) - y| ≤ |(n : ℚ) - y| ∧
      ((n : ℚ) ≠ m → |(n : ℚ) - y| = |(m : ℚ) - y| → m % 2 = 0) := by
  rcases eq_or_ne n m with rfl | hne
  · exact ⟨le_rfl, fun hne => absurd rfl hne⟩
  · have hstep : (1 : ℚ) ≤ |(n : ℚ) - m| := by
      have hint : (1 : ℤ) ≤ |(n : ℤ) - m| := Int.one_le_abs (by omega)
      exact_mod_cast hint
    have htriangle : |(n : ℚ) - m| ≤ |(n : ℚ) - y| + |(m : ℚ) - y| := by
      rw [abs_sub_comm (m : ℚ) y]
      exact abs_sub_le (n : ℚ) y m
    have hhalf := h.abs_sub_le_half
    refine ⟨by linarith, ?_⟩
    intro _ heq
    exact h.even_of_abs_sub_eq (by linarith)

theorem le_of_lt {n : ℕ} (h : RoundsTo y m) (hlt : y < n) : m ≤ n := by
  have hnext : (m : ℚ) < n + 1 := by linarith [h.low]
  exact Nat.lt_succ_iff.mp (by exact_mod_cast hnext)

theorem le_of_le {n : ℕ} (h : RoundsTo y m) (hle : n ≤ y) : n ≤ m := by
  have hnext : (n : ℚ) < m + 1 := by linarith [h.high]
  exact Nat.lt_succ_iff.mp (by exact_mod_cast hnext)

theorem lt_iff_of_even {n : ℕ} (h : RoundsTo y m) (hn : n % 2 = 0) : m < n ↔ y < n - 1 / 2 := by
  constructor
  · intro hlt
    rcases (by omega : m + 1 = n ∨ m + 2 ≤ n) with rfl | hle
    · have hstrict := (h.tie (by omega)).2
      push_cast
      linarith
    · have hle : (m : ℚ) + 2 ≤ n := by exact_mod_cast hle
      linarith [h.high]
  · intro hlt
    by_contra hge
    have hge : (n : ℚ) ≤ m := by exact_mod_cast not_lt.mp hge
    linarith [h.low]

end RoundsTo

namespace Double

variable {x : Double} {negative : Bool} {r : ℚ}

/-- The exact size of a finite number. -/
def magnitude (x : Double) : ℚ :=
  x.significand * 2 ^ x.exponent

/-- A size with a sign. -/
def signed (negative : Bool) (r : ℚ) : ℚ :=
  if negative then -r else r

/-- The exact value of a finite number. -/
def value (x : Double) : ℚ :=
  signed x.isNegative x.magnitude

/-- The middle between the greatest finite number and the next power of two. -/
def overflowBound : ℚ :=
  2 ^ 1024 - 2 ^ 970

/-- The number to which a value of the given sign and size is rounded. -/
structure IsNearest (negative : Bool) (r : ℚ) (x : Double) : Prop where
  sign : x.isNegative = negative
  isNaN_eq : x.isNaN = false
  isFinite_iff : x.isFinite = true ↔ r < overflowBound
  le : x.isFinite = true → ∀ y : Double, y.isFinite = true →
    |x.value - signed negative r| ≤ |y.value - signed negative r|
  even_of_eq : x.isFinite = true → ∀ y : Double, y.isFinite = true → y.value ≠ x.value →
    |y.value - signed negative r| = |x.value - signed negative r| → x.significand % 2 = 0

theorem magnitude_nonneg (x : Double) : 0 ≤ x.magnitude := by
  unfold magnitude
  positivity

theorem abs_signed (negative : Bool) (hr : 0 ≤ r) : |signed negative r| = r := by
  unfold signed
  split
  · rw [abs_neg, abs_of_nonneg hr]
  · exact abs_of_nonneg hr

theorem abs_signed_sub_signed (negative : Bool) (a b : ℚ) :
    |signed negative a - signed negative b| = |a - b| := by
  cases negative with
  | false => rfl
  | true =>
      rw [signed, signed, if_pos rfl, if_pos rfl, neg_sub_neg]
      exact abs_sub_comm b a

theorem abs_signed_sub_of_ne {negative negative' : Bool} (hne : negative ≠ negative') {a : ℚ}
    (ha : 0 ≤ a) (hr : 0 ≤ r) : |signed negative a - signed negative' r| = a + r := by
  obtain rfl := Bool.eq_not_of_ne hne
  have hsum : |a + r| = a + r := abs_of_nonneg (add_nonneg ha hr)
  cases negative' with
  | false =>
      have hvalue : signed (!false) a - signed false r = -(a + r) := by
        simp only [signed, Bool.not_false, if_true, Bool.false_eq_true, if_false]
        ring
      rw [hvalue, abs_neg, hsum]
  | true =>
      have hvalue : signed (!true) a - signed true r = a + r := by
        simp only [signed, Bool.not_true, if_true, Bool.false_eq_true, if_false]
        ring
      rw [hvalue, hsum]

theorem magnitude_zero (negative : Bool) : (zero negative).magnitude = 0 := by
  cases negative with
  | false =>
      have hzero : (zero false).significand = 0 := by decide
      rw [magnitude, hzero, Nat.cast_zero, zero_mul]
  | true =>
      have hzero : (zero true).significand = 0 := by decide
      rw [magnitude, hzero, Nat.cast_zero, zero_mul]

theorem isNearest_of_magnitude (hr : 0 ≤ r) (hsign : x.isNegative = negative)
    (hfinite : x.isFinite = true) (hbound : r < overflowBound)
    (h : ∀ y : Double, |x.magnitude - r| ≤ |y.magnitude - r| ∧
      (y.magnitude ≠ x.magnitude → |y.magnitude - r| = |x.magnitude - r| →
        x.significand % 2 = 0)) :
    IsNearest negative r x := by
  have hsame : |x.value - signed negative r| = |x.magnitude - r| := by
    rw [value, hsign, abs_signed_sub_signed]
  have hapart : ∀ y : Double, |y.magnitude - r| ≤ |y.value - signed negative r| := by
    intro y
    have habs := abs_abs_sub_abs_le_abs_sub y.value (signed negative r)
    rwa [value, abs_signed _ y.magnitude_nonneg, abs_signed negative hr] at habs
  refine ⟨hsign, isNaN_of_isFinite hfinite, iff_of_true hfinite hbound, ?_, ?_⟩
  · intro _ y _
    rw [hsame]
    exact (h y).1.trans (hapart y)
  · intro _ y _ hne heq
    have hsize : |y.magnitude - r| = |x.magnitude - r| := by
      refine le_antisymm ?_ (h y).1
      rw [← hsame, ← heq]
      exact hapart y
    refine (h y).2 ?_ hsize
    -- a number of the same size beyond zero would be farther away than zero
    intro hmagnitude
    have hbeyond : y.isNegative ≠ negative := by
      intro hy
      exact hne (by rw [value, value, hsign, hy, hmagnitude])
    rw [hsame, value, abs_signed_sub_of_ne hbeyond y.magnitude_nonneg hr, hmagnitude] at heq
    have hle := (h (zero false)).1
    rw [magnitude_zero, zero_sub, abs_neg, abs_of_nonneg hr] at hle
    have hzero : x.magnitude = 0 := le_antisymm (by linarith) x.magnitude_nonneg
    exact hne (by simp [value, hmagnitude, hzero, signed])

theorem isNegative_ofSize (negative : Bool) {size : ℕ} (h : size < 2 ^ 63) :
    (ofSize negative size).isNegative = negative := by
  rw [ofSize, isNegative, UInt64.toNat_ofNat']
  simp only [Nat.pow_eq]
  cases negative with
  | false =>
      rw [if_neg (by decide), decide_eq_false_iff_not]
      omega
  | true =>
      rw [if_pos rfl, decide_eq_true_eq]
      omega

theorem size_ofSize (negative : Bool) {size : ℕ} (h : size < 2 ^ 63) :
    (ofSize negative size).size = size := by
  rw [ofSize, Double.size, UInt64.toNat_ofNat']
  simp only [Nat.pow_eq]
  split <;> omega

/-- A size is split into a significand and an exponent in one way, save that a significand may
also be written as the least one of the next exponent. -/
theorem magnitude_of_size {k m : ℕ} (hsize : x.size = k * 2 ^ 52 + m) (hm : m ≤ 2 ^ 53)
    (hnormal : 0 < k → 2 ^ 52 ≤ m) :
    x.magnitude = m * 2 ^ (k + leastExponent) ∧ (m % 2 = 0 → x.significand % 2 = 0) := by
  have hsplit := x.size_eq
  have hlt := x.significand_lt
  have hleast := x.leastExponent_le
  have hnormal' := x.le_significand
  obtain ⟨hexponent, hsignificand⟩ | ⟨hexponent, hsignificand, hcarry⟩ :
      (x.exponent = k + leastExponent ∧ x.significand = m) ∨
        (x.exponent = k + leastExponent + 1 ∧ x.significand = 2 ^ 52 ∧ m = 2 ^ 53) := by
    omega
  · rw [magnitude, hexponent, hsignificand]
    exact ⟨rfl, id⟩
  · rw [magnitude, hexponent, hsignificand, hcarry, zpow_add_one₀ two_ne_zero]
    refine ⟨?_, fun _ => rfl⟩
    push_cast
    ring

theorem magnitude_lt_of_exponent_lt {q : ℤ} (h : x.exponent < q) :
    x.magnitude < 2 ^ (q + 52) := by
  have hlt : (x.significand : ℚ) < 2 ^ 53 := by exact_mod_cast x.significand_lt
  calc
    x.magnitude < 2 ^ 53 * 2 ^ x.exponent := by
      unfold magnitude
      gcongr
    _ = 2 ^ (x.exponent + 53) := by
      rw [zpow_add₀ two_ne_zero, zpow_ofNat, mul_comm]
    _ ≤ 2 ^ (q + 52) := zpow_le_zpow_right₀ one_le_two (by omega)

theorem abs_mul_unit_sub {unit : ℚ} (hunit : 0 < unit) (a : ℚ) :
    |a * unit - r| = |a - r / unit| * unit := by
  rw [← abs_of_pos hunit, ← abs_mul, abs_of_pos hunit, sub_mul, div_mul_cancel₀ r hunit.ne']

theorem nearer_of_exponent_lt {q : ℤ} {m : ℕ} {y : Double} (hround : RoundsTo (r / 2 ^ q) m)
    (hpower : 2 ^ (q + 52) ≤ r) (hy : y.exponent < q) : |m * 2 ^ q - r| < |y.magnitude - r| := by
  have hunit : (0 : ℚ) < 2 ^ q := by positivity
  have hbelow := magnitude_lt_of_exponent_lt hy
  obtain ⟨hnear, -⟩ := hround.nearest (2 ^ 52)
  calc
    |m * 2 ^ q - r| ≤ |((2 ^ 52 : ℕ) : ℚ) * 2 ^ q - r| := by
      rw [abs_mul_unit_sub hunit, abs_mul_unit_sub hunit]
      exact mul_le_mul_of_nonneg_right hnear hunit.le
    _ = |2 ^ (q + 52) - r| := by
      rw [zpow_add₀ two_ne_zero, mul_comm]
      norm_num
    _ = r - 2 ^ (q + 52) := by
      rw [abs_sub_comm, abs_of_nonneg (sub_nonneg.mpr hpower)]
    _ < r - y.magnitude := sub_lt_sub_left hbelow r
    _ ≤ |y.magnitude - r| := by
      rw [abs_sub_comm]
      exact le_abs_self _

/-- Of all floating-point numbers a value is nearest to the one to which it is rounded on its own
grid: the other numbers are points of that grid, or lie below the finest power of two on it. -/
theorem nearest_on_grid {q : ℤ} {m : ℕ} (hround : RoundsTo (r / 2 ^ q) m)
    (hlow : leastExponent < q → 2 ^ (q + 52) ≤ r) (y : Double) :
    |m * 2 ^ q - r| ≤ |y.magnitude - r| ∧
      (y.magnitude ≠ m * 2 ^ q → |y.magnitude - r| = |m * 2 ^ q - r| → m % 2 = 0) := by
  have hunit : (0 : ℚ) < 2 ^ q := by positivity
  rcases le_or_gt q y.exponent with hle | hgt
  · have hpoint : y.magnitude = (y.significand * 2 ^ (y.exponent - q).toNat : ℕ) * 2 ^ q := by
      rw [magnitude]
      push_cast
      rw [mul_assoc, ← zpow_natCast, ← zpow_add₀ two_ne_zero]
      congr 2
      omega
    obtain ⟨hnear, heven⟩ := hround.nearest (y.significand * 2 ^ (y.exponent - q).toNat)
    rw [hpoint, abs_mul_unit_sub hunit, abs_mul_unit_sub hunit]
    refine ⟨mul_le_mul_of_nonneg_right hnear hunit.le, ?_⟩
    intro hne heq
    refine heven (fun h => hne (by rw [h])) ?_
    exact mul_right_cancel₀ hunit.ne' heq
  · have hapart := nearer_of_exponent_lt hround (hlow (lt_of_le_of_lt y.leastExponent_le hgt)) hgt
    exact ⟨hapart.le, fun _ heq => absurd heq hapart.ne'⟩

theorem isNearest_of_grid {q : ℤ} {m : ℕ} (hr : 0 ≤ r) (hround : RoundsTo (r / 2 ^ q) m)
    (hlow : leastExponent < q → 2 ^ (q + 52) ≤ r) (hsign : x.isNegative = negative)
    (hfinite : x.isFinite = true) (hbound : r < overflowBound)
    (hmagnitude : x.magnitude = m * 2 ^ q)
    (heven : m % 2 = 0 → x.significand % 2 = 0) : IsNearest negative r x := by
  apply isNearest_of_magnitude hr hsign hfinite hbound
  intro y
  obtain ⟨hle, htie⟩ := nearest_on_grid hround hlow y
  rw [hmagnitude]
  exact ⟨hle, fun hne heq => heven (htie hne heq)⟩

theorem overflowBound_eq : overflowBound = (2 ^ 53 - 1 / 2) * 2 ^ (971 : ℤ) := by
  have htop : (2 : ℚ) ^ 1024 = 2 ^ 54 * 2 ^ 970 := by rw [← pow_add]
  have hunit : (2 : ℚ) ^ 971 = 2 * 2 ^ 970 := by rw [← pow_succ']
  rw [overflowBound, zpow_ofNat, htop, hunit]
  generalize (2 : ℚ) ^ 970 = unit
  ring

theorem isNearest_zero (negative : Bool) (hr : 0 ≤ r) (h : r / 2 ^ leastExponent ≤ 1 / 2) :
    IsNearest negative r (zero negative) := by
  have hround : RoundsTo (r / 2 ^ leastExponent) 0 := by
    refine ⟨?_, by simpa using h, by simp⟩
    have hnonneg : 0 ≤ r / 2 ^ leastExponent := by positivity
    push_cast
    linarith
  have hbound : r < overflowBound := by
    rw [div_le_iff₀ (by positivity)] at h
    have hunit : (2 : ℚ) ^ leastExponent ≤ 2 ^ (971 : ℤ) :=
      zpow_le_zpow_right₀ one_le_two (by decide)
    have hpos : (0 : ℚ) < 2 ^ (971 : ℤ) := by positivity
    rw [overflowBound_eq]
    generalize (2 : ℚ) ^ (971 : ℤ) = unit at hunit hpos ⊢
    linarith
  refine isNearest_of_grid hr hround (fun h => absurd h (lt_irrefl _)) ?_ ?_ hbound ?_ ?_
  · cases negative <;> decide
  · cases negative <;> decide
  · rw [magnitude_zero, Nat.cast_zero, zero_mul]
  · cases negative <;> decide

theorem isNearest_infinity (negative : Bool) (h : overflowBound ≤ r) :
    IsNearest negative r (infinity negative) := by
  have hinfinite : (infinity negative).isFinite = false := by
    cases negative <;> decide
  have hfinite : (infinity negative).isFinite ≠ true := Bool.eq_false_iff.mp hinfinite
  refine ⟨?_, ?_, iff_of_false hfinite (not_lt.mpr h), ?_, ?_⟩
  · cases negative <;> decide
  · cases negative <;> decide
  · exact fun hx => absurd hx hfinite
  · exact fun hx => absurd hx hfinite

theorem size_lt_infiniteSize_iff {q : ℤ} {m : ℕ} (hround : RoundsTo (r / 2 ^ q) m)
    (hleast : leastExponent ≤ q) (hlow : leastExponent < q → 2 ^ (q + 52) ≤ r)
    (hhigh : r < 2 ^ (q + 53)) (hm : m ≤ 2 ^ 53)
    (hnormal : 0 < (q - leastExponent).toNat → 2 ^ 52 ≤ m) :
    (q - leastExponent).toNat * 2 ^ 52 + m < infiniteSize ↔ r < overflowBound := by
  have hunit : (0 : ℚ) < 2 ^ (971 : ℤ) := by positivity
  rw [infiniteSize, Nat.pow_eq, overflowBound_eq]
  rw [leastExponent] at *
  rcases lt_trichotomy q 971 with hq | rfl | hq
  · refine iff_of_true (by omega) ?_
    have hle : (2 : ℚ) ^ (q + 53) ≤ 2 ^ ((971 : ℤ) + 52) :=
      zpow_le_zpow_right₀ one_le_two (by omega)
    rw [zpow_add₀ two_ne_zero 971, zpow_ofNat 2 52, mul_comm] at hle
    refine hhigh.trans_le (hle.trans ?_)
    gcongr
    norm_num
  · rw [← div_lt_iff₀ hunit]
    have heven := hround.lt_iff_of_even (show 2 ^ 53 % 2 = 0 by decide)
    rw [Nat.cast_pow, Nat.cast_two] at heven
    rw [← heven]
    omega
  · refine iff_of_false (by omega) (not_lt.mpr ?_)
    have hle : (2 : ℚ) ^ ((971 : ℤ) + 53) ≤ 2 ^ (q + 52) :=
      zpow_le_zpow_right₀ one_le_two (by omega)
    rw [zpow_add₀ two_ne_zero 971, zpow_ofNat 2 53, mul_comm] at hle
    refine le_trans ?_ (hle.trans (hlow (by omega)))
    gcongr
    norm_num

theorem isNearest_ofSize (negative : Bool) {q : ℤ} {m : ℕ} (hr : 0 ≤ r)
    (hround : RoundsTo (r / 2 ^ q) m) (hleast : leastExponent ≤ q)
    (hlow : leastExponent < q → 2 ^ (q + 52) ≤ r) (hhigh : r < 2 ^ (q + 53)) :
    IsNearest negative r
      (ofSize negative (min ((q - leastExponent).toNat * 2 ^ 52 + m) infiniteSize)) := by
  have hunit : (0 : ℚ) < 2 ^ q := by positivity
  have hm : m ≤ 2 ^ 53 := by
    apply hround.le_of_lt
    rw [div_lt_iff₀' hunit, Nat.cast_pow, Nat.cast_two, ← zpow_natCast, ← zpow_add₀ two_ne_zero]
    exact hhigh
  have hnormal : 0 < (q - leastExponent).toNat → 2 ^ 52 ≤ m := by
    intro hq
    apply hround.le_of_le
    rw [le_div_iff₀' hunit, Nat.cast_pow, Nat.cast_two, ← zpow_natCast, ← zpow_add₀ two_ne_zero]
    exact hlow (by omega)
  have hsize := size_lt_infiniteSize_iff hround hleast hlow hhigh hm hnormal
  rcases lt_or_ge r overflowBound with hbound | hbound
  · have hlt := hsize.mpr hbound
    have hsmall : (q - leastExponent).toNat * 2 ^ 52 + m < 2 ^ 63 := hlt.trans (by decide)
    rw [min_eq_left hlt.le]
    obtain ⟨hmagnitude, heven⟩ := magnitude_of_size (size_ofSize negative hsmall) hm hnormal
    rw [show ((q - leastExponent).toNat : ℤ) + leastExponent = q by omega] at hmagnitude
    have hfinite :
        (ofSize negative ((q - leastExponent).toNat * 2 ^ 52 + m)).isFinite = true := by
      rw [isFinite, size_ofSize negative hsmall, decide_eq_true_eq]
      exact hlt
    exact isNearest_of_grid hr hround hlow
      (isNegative_ofSize negative hsmall) hfinite hbound hmagnitude
      heven
  · rw [min_eq_right (not_lt.mp (mt hsize.mp (not_lt.mpr hbound)))]
    exact isNearest_infinity negative hbound

theorem isNearest_ofRatio (negative : Bool) (num : ℕ) {den : ℕ} (hden : 0 < den) :
    IsNearest negative (num / den) (ofRatio negative num den) := by
  have hnonneg : (0 : ℚ) ≤ num / den := by positivity
  unfold ofRatio
  split
  · rename_i hnum
    apply isNearest_zero negative hnonneg
    simp [hnum]
  · rename_i hnum
    have hr : (0 : ℚ) < num / den := by
      have hnum' : (0 : ℚ) < num := by exact_mod_cast Nat.pos_of_ne_zero hnum
      have hden' : (0 : ℚ) < den := by exact_mod_cast hden
      positivity
    obtain ⟨hexponent, hround⟩ :=
      roundsTo_roundSignificand 53 leastExponent (Nat.pos_of_ne_zero hnum) hden
    apply isNearest_ofSize negative hnonneg hround
    · omega
    · intro hq
      rw [two_zpow_le_iff hr]
      omega
    · rw [← not_le, two_zpow_le_iff hr]
      omega

theorem overflowBound_le : overflowBound ≤ 10 ^ 310 := by
  have hlt : (2 : ℚ) ^ 1024 ≤ 10 ^ 310 := by
    exact_mod_cast (by decide +kernel : 2 ^ 1024 ≤ 10 ^ 310)
  have hpos : (0 : ℚ) < 2 ^ 970 := by positivity
  unfold overflowBound
  exact (sub_le_self _ hpos.le).trans hlt

theorem overflowBound_le_decimal {digits : ℕ} {exponent : ℤ} (hdigits : 0 < digits)
    (h : 310 < decimalLength digits + exponent) : overflowBound ≤ digits * 10 ^ exponent := by
  have hlength := decimalLength_pos digits
  have hpow : (10 : ℚ) ^ (310 : ℤ) ≤ 10 ^ ((decimalLength digits - 1 : ℕ) + exponent) :=
    zpow_le_zpow_right₀ (by norm_num) (by omega)
  rw [zpow_ofNat] at hpow
  exact overflowBound_le.trans (hpow.trans (ten_zpow_le_decimal hdigits exponent))

theorem decimal_le_half_least {digits : ℕ} {exponent : ℤ}
    (h : decimalLength digits + exponent < -330) :
    digits * 10 ^ exponent / 2 ^ leastExponent ≤ (1 / 2 : ℚ) := by
  rw [div_le_iff₀ (by positivity)]
  have hpow : (10 : ℚ) ^ ((decimalLength digits : ℤ) + exponent) ≤ 10 ^ (-331 : ℤ) :=
    zpow_le_zpow_right₀ (by norm_num) (by omega)
  rw [zpow_neg, zpow_ofNat] at hpow
  calc
    digits * 10 ^ exponent ≤ ((10 : ℚ) ^ 331)⁻¹ :=
      (decimal_lt_ten_zpow digits exponent).le.trans hpow
    _ ≤ (2 ^ 1075)⁻¹ := by
      gcongr
      exact_mod_cast (by decide +kernel : 2 ^ 1075 ≤ 10 ^ 331)
    _ = 1 / 2 * 2 ^ leastExponent := by
      rw [leastExponent, zpow_neg, zpow_ofNat, one_div, ← mul_inv, ← pow_succ']

theorem isNearest_ofDecimal (negative : Bool) (digits : ℕ) (exponent : ℤ) :
    IsNearest negative (digits * 10 ^ exponent) (ofDecimal negative digits exponent) := by
  have hnonneg : (0 : ℚ) ≤ digits * 10 ^ exponent := by positivity
  unfold ofDecimal
  split
  · rename_i hdigits
    apply isNearest_zero negative hnonneg
    simp [hdigits]
  · rename_i hdigits
    dsimp only
    split
    · rename_i hlarge
      exact isNearest_infinity negative
        (overflowBound_le_decimal (Nat.pos_of_ne_zero hdigits) hlarge)
    · split
      · rename_i hsmall
        exact isNearest_zero negative hnonneg (decimal_le_half_least hsmall)
      · cases exponent with
        | ofNat k =>
            have hvalue : (digits * 10 ^ Int.ofNat k : ℚ) =
                (digits * Nat.pow 10 k : ℕ) / (1 : ℕ) := by
              simp
            rw [hvalue]
            exact isNearest_ofRatio negative _ one_pos
        | negSucc k =>
            have hvalue : (digits * 10 ^ Int.negSucc k : ℚ) =
                digits / (Nat.pow 10 (k + 1) : ℕ) := by
              rw [zpow_negSucc, ← div_eq_mul_inv]
              simp
            rw [hvalue]
            exact isNearest_ofRatio negative digits (Nat.pow_pos (by decide))

theorem isNearest_ofInt (n : ℤ) : IsNearest (decide (n < 0)) n.natAbs (ofInt n) := by
  have hnearest := isNearest_ofRatio (decide (n < 0)) n.natAbs one_pos
  rwa [Nat.cast_one, div_one] at hnearest

theorem IsNearest.eq_infinity (h : IsNearest negative r x) (hr : overflowBound ≤ r) :
    x = infinity negative := by
  have hfinite : ¬x.isFinite = true := mt h.isFinite_iff.mp (not_lt.mpr hr)
  have hsize : x.size = infiniteSize := by
    have hnan := h.isNaN_eq
    simp only [isNaN, isFinite, decide_eq_true_eq, decide_eq_false_iff_not] at hnan hfinite
    omega
  rw [infinity, ← h.sign, ← hsize, ofSize_size]

theorem ofDecimal_natural (negative : Bool) (n : ℕ) :
    ofDecimal negative n 0 = ofRatio negative n 1 := by
  rcases eq_or_ne n 0 with rfl | hn
  · simp only [ofDecimal, ofRatio, if_true]
  · have hratio := isNearest_ofRatio negative n one_pos
    have hdecimal := isNearest_ofDecimal negative n 0
    rw [zpow_zero, mul_one] at hdecimal
    rw [Nat.cast_one, div_one] at hratio
    rcases le_or_gt overflowBound (n : ℚ) with hlarge | hsmall
    · rw [hratio.eq_infinity hlarge, hdecimal.eq_infinity hlarge]
    · have hfinite := hdecimal.isFinite_iff.mpr hsmall
      unfold ofDecimal at hfinite ⊢
      dsimp only at hfinite ⊢
      rw [if_neg hn] at hfinite ⊢
      split at hfinite
      · cases negative <;> exact absurd hfinite (by decide)
      · rename_i hshort
        rw [if_neg hshort, if_neg (by omega)]
        exact congrArg (ofRatio negative · 1) (Nat.mul_one n)

theorem ofDecimal_eq_ofInt {n : ℕ} (negative : Bool) (hn : n ≠ 0) :
    ofDecimal negative n 0 = ofInt (if negative then -(n : ℤ) else n) := by
  rw [ofDecimal_natural, ofInt]
  cases negative with
  | false =>
      rw [if_neg Bool.false_ne_true, Int.natAbs_natCast, decide_eq_false (by omega)]
  | true =>
      rw [if_pos rfl, Int.natAbs_neg, Int.natAbs_natCast, decide_eq_true (by omega)]

end Double

end SqlClient
