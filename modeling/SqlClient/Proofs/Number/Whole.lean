import SqlClient.Number.Numeral
import SqlClient.Proofs.Number.Nearest
import Mathlib.Algebra.Order.Floor.Semifield

namespace SqlClient

/-- A value without its fraction. -/
def wholePart (q : ℚ) : ℤ :=
  if 0 ≤ q then ⌊q⌋ else ⌈q⌉

theorem isInt64_iff {n : ℤ} : isInt64 n = true ↔ -2 ^ 63 ≤ n ∧ n < 2 ^ 63 := by
  rw [isInt64, decide_eq_true_eq]
  exact Iff.rfl

namespace Double

variable {x y : Double} {negative : Bool} {r : ℚ}

theorem floorSize_eq (x : Double) : x.floorSize = ⌊x.magnitude⌋₊ := by
  rw [floorSize, magnitude, ← ratio_eq, Nat.floor_div_eq_div]

theorem toInt_eq (x : Double) : x.toInt = wholePart x.value := by
  have hnonneg := x.magnitude_nonneg
  have hfloor : (x.floorSize : ℤ) = ⌊x.magnitude⌋ := by
    rw [floorSize_eq, Int.natCast_floor_eq_floor hnonneg]
  unfold toInt wholePart value signed
  rw [hfloor]
  cases x.isNegative with
  | false =>
      rw [if_neg Bool.false_ne_true, if_neg Bool.false_ne_true, if_pos hnonneg]
  | true =>
      rw [if_pos rfl, if_pos rfl]
      split
      · rename_i hneg
        have hzero : x.magnitude = 0 := le_antisymm (by linarith) hnonneg
        simp [hzero]
      · rw [Int.ceil_neg]

theorem magnitude_eq_zero_iff : x.magnitude = 0 ↔ x.isZero = true := by
  have hunit : (0 : ℚ) < 2 ^ x.exponent := by positivity
  rw [magnitude, mul_eq_zero_iff_right hunit.ne', Nat.cast_eq_zero]
  constructor
  · intro hsignificand
    by_contra hzero
    exact (significand_pos (Bool.eq_false_iff.mpr hzero)).ne' hsignificand
  · intro hzero
    have hsize : x.size = 0 := by simpa [isZero] using hzero
    have hsplit := x.size_eq
    omega

theorem attracts_magnitude (hzero : x.isZero = false) : x.Attracts x.magnitude := by
  have hunit : (0 : ℚ) < 2 ^ x.exponent := by positivity
  have hlow : (x.interval.lower : ℚ) < 4 * x.significand := by
    exact_mod_cast interval_lower_lt hzero
  have hhigh : (x.interval.upper : ℚ) = 4 * x.significand + 2 := by
    exact_mod_cast x.interval_upper
  rw [Attracts, magnitude, mul_div_cancel_right₀ _ hunit.ne', RoundingInterval.Contains]
  split
  · exact ⟨hlow.le, by linarith⟩
  · exact ⟨hlow, by linarith⟩

theorem ofRatio_eq_self {num den : ℕ} (hden : 0 < den) (hfinite : x.isFinite = true)
    (h : (num / den : ℚ) = x.magnitude) : ofRatio x.isNegative num den = x := by
  cases hzero : x.isZero with
  | true =>
      rw [magnitude_eq_zero_iff.mpr hzero, div_eq_zero_iff, Nat.cast_eq_zero,
        Nat.cast_eq_zero] at h
      have hsize : x.size = 0 := by simpa [isZero] using hzero
      rw [ofRatio, if_pos (h.resolve_right hden.ne'), zero, ← hsize, ofSize_size]
  | false =>
      apply ofRatio_eq_of_attracts hden hfinite hzero
      rw [h]
      exact attracts_magnitude hzero

theorem exponent_nonneg (h : 2 ^ 52 ≤ x.magnitude) : 0 ≤ x.exponent := by
  by_contra hneg
  have hlt := magnitude_lt_of_exponent_lt (not_le.mp hneg)
  rw [zero_add, zpow_ofNat] at hlt
  linarith

theorem floorSize_of_large (h : 2 ^ 52 ≤ x.magnitude) : (x.floorSize : ℚ) = x.magnitude := by
  obtain ⟨k, hk⟩ := Int.eq_ofNat_of_zero_le (exponent_nonneg h)
  have hwhole : x.magnitude = (x.significand * 2 ^ k : ℕ) := by
    rw [magnitude, hk]
    simp
  rw [floorSize_eq, hwhole, Nat.floor_natCast]

theorem value_of_large (h : 2 ^ 52 ≤ x.magnitude) : x.value = wholePart x.value := by
  rw [← toInt_eq, toInt, value, signed, ← floorSize_of_large h]
  split
  · push_cast
    rfl
  · push_cast
    rfl

theorem trunc_eq_self (hfinite : x.isFinite = true) (h : 2 ^ 52 ≤ x.magnitude) : x.trunc = x := by
  rw [trunc, if_pos hfinite]
  apply ofRatio_eq_self one_pos hfinite
  rw [Nat.cast_one, div_one, floorSize_of_large h]

theorem isFinite_congr (h : x.size = y.size) : x.isFinite = y.isFinite := by
  rw [isFinite, isFinite, h]

theorem magnitude_congr (h : x.size = y.size) : x.magnitude = y.magnitude := by
  rw [magnitude, magnitude, significand, significand, exponent, exponent, exponentField,
    exponentField, h]

theorem IsNearest.abs_magnitude_sub_le (h : IsNearest negative r x) (hx : x.isFinite = true)
    (hy : y.isFinite = true) : |x.magnitude - r| ≤ |y.magnitude - r| := by
  have hsize : (ofSize negative y.size).size = y.size :=
    size_ofSize negative (Nat.mod_lt _ (Nat.pow_pos two_pos))
  have hsign : (ofSize negative y.size).isNegative = negative :=
    isNegative_ofSize negative (Nat.mod_lt _ (Nat.pow_pos two_pos))
  have hle := h.le hx (ofSize negative y.size) (by rw [isFinite_congr hsize, hy])
  rwa [value, value, h.sign, hsign, abs_signed_sub_signed, abs_signed_sub_signed,
    magnitude_congr hsize] at hle

theorem IsNearest.le_magnitude (h : IsNearest negative r x) (hx : x.isFinite = true)
    (hy : y.isFinite = true) (hle : y.magnitude ≤ r) : y.magnitude ≤ x.magnitude := by
  by_contra hlt
  have hnear := h.abs_magnitude_sub_le hx hy
  rw [abs_of_nonpos (by linarith), abs_of_nonpos (by linarith)] at hnear
  linarith

/-- The number whose size is just outside the positive integers of 64 bits. -/
def edge (negative : Bool) : Double :=
  ofSize negative (1086 * Nat.pow 2 52)

theorem edge_spec (negative : Bool) :
    (edge negative).isNegative = negative ∧ (edge negative).isFinite = true ∧
    (edge negative).significand = 2 ^ 52 ∧ (edge negative).exponent = 11 := by
  cases negative <;> decide

theorem magnitude_edge (negative : Bool) : (edge negative).magnitude = 2 ^ 63 := by
  obtain ⟨-, -, hsignificand, hexponent⟩ := edge_spec negative
  rw [magnitude, hsignificand, hexponent]
  norm_num

theorem magnitude_beyondEdge (negative : Bool) :
    (ofSize negative (1086 * Nat.pow 2 52 + 1)).magnitude = 2 ^ 63 + 2048 := by
  have hparts : (ofSize negative (1086 * Nat.pow 2 52 + 1)).significand = 2 ^ 52 + 1 ∧
      (ofSize negative (1086 * Nat.pow 2 52 + 1)).exponent = 11 := by
    cases negative <;> decide
  rw [magnitude, hparts.1, hparts.2]
  norm_num

theorem lt_overflowBound (h : r < 2 ^ 1023) : r < overflowBound := by
  have hhalf : (2 : ℚ) ^ 970 ≤ 2 ^ 1023 := pow_le_pow_right₀ one_le_two (by decide)
  have htop : (2 : ℚ) ^ 1024 = 2 * 2 ^ 1023 := pow_succ' 2 1023
  rw [overflowBound, htop]
  generalize (2 : ℚ) ^ 1023 = top at *
  generalize (2 : ℚ) ^ 970 = unit at *
  linarith

theorem significand_of_near_edge (hlow : 2 ^ 63 ≤ x.magnitude)
    (hhigh : x.magnitude ≤ 2 ^ 63 + 2048) :
    (x.significand = 2 ^ 52 ∨ x.significand = 2 ^ 52 + 1) ∧
      x.magnitude = x.significand * 2048 := by
  have hexponent : x.exponent = 11 := by
    have hbelow : ¬x.exponent < 11 := by
      intro hlt
      have hmagnitude := magnitude_lt_of_exponent_lt hlt
      norm_num at hmagnitude
      linarith
    have habove : ¬11 < x.exponent := by
      intro hlt
      have hsignificand : (2 : ℚ) ^ 52 ≤ x.significand := by
        exact_mod_cast le_significand (lt_trans (by decide) hlt)
      have hunit : (2 : ℚ) ^ (12 : ℤ) ≤ 2 ^ x.exponent := zpow_le_zpow_right₀ one_le_two hlt
      have hmagnitude : (2 : ℚ) ^ 52 * 2 ^ (12 : ℤ) ≤ x.magnitude :=
        mul_le_mul hsignificand hunit (by positivity) (by positivity)
      norm_num at hmagnitude
      linarith
    omega
  have hmagnitude : x.magnitude = x.significand * 2048 := by
    rw [magnitude, hexponent]
    norm_num
  refine ⟨?_, hmagnitude⟩
  rw [hmagnitude] at hlow hhigh
  have hlow' : 2 ^ 63 ≤ x.significand * 2048 := by exact_mod_cast hlow
  have hhigh' : x.significand * 2048 ≤ 2 ^ 63 + 2048 := by exact_mod_cast hhigh
  omega

theorem IsNearest.le_middle (h : IsNearest negative r x) (hr : 2 ^ 63 ≤ r)
    (hfinite : x.isFinite = true)
    (hmagnitude : x.magnitude = 2 ^ 63) : r ≤ 2 ^ 63 + 1024 := by
  have hbeyond : (ofSize negative (1086 * Nat.pow 2 52 + 1)).isFinite = true := by
    cases negative <;> decide
  have hnear := h.abs_magnitude_sub_le hfinite hbeyond
  rw [magnitude_beyondEdge, hmagnitude, abs_of_nonpos (by linarith)] at hnear
  rcases le_total r (2 ^ 63 + 2048) with hle | hge
  · rw [abs_of_nonneg (by linarith)] at hnear
    linarith
  · rw [abs_of_nonpos (by linarith)] at hnear
    linarith

theorem IsNearest.even_of_near_edge (h : IsNearest negative r x) (hfinite : x.isFinite = true)
    (hsize : x.magnitude ≠ 2 ^ 63) (heq : |2 ^ 63 - r| = |x.magnitude - r|) :
    x.significand % 2 = 0 := by
  obtain ⟨hsign, hedge, -⟩ := edge_spec negative
  apply h.even_of_eq hfinite (edge negative) hedge
  · intro hvalue
    have habs : |(edge negative).value| = |x.value| := by rw [hvalue]
    rw [value, value, abs_signed _ (magnitude_nonneg _), abs_signed _ x.magnitude_nonneg,
      magnitude_edge] at habs
    exact hsize habs.symm
  · calc
      |(edge negative).value - signed negative r| = |2 ^ 63 - r| := by
        rw [value, hsign, abs_signed_sub_signed, magnitude_edge]
      _ = |x.magnitude - r| := heq
      _ = |x.value - signed negative r| := by
        rw [value, h.sign, abs_signed_sub_signed]

/-- From the edge up to the middle between it and the next number, a value is rounded to the
edge. -/
theorem IsNearest.magnitude_of_le_middle (h : IsNearest negative r x) (hr : 2 ^ 63 ≤ r)
    (hle : r ≤ 2 ^ 63 + 1024) : x.isFinite = true ∧ x.magnitude = 2 ^ 63 := by
  obtain ⟨-, hedge, -⟩ := edge_spec negative
  have hfinite : x.isFinite = true := by
    rw [h.isFinite_iff]
    apply lt_overflowBound
    have hpow : (2 : ℚ) ^ 64 ≤ 2 ^ 1023 := pow_le_pow_right₀ one_le_two (by decide)
    generalize (2 : ℚ) ^ 1023 = top at *
    linarith
  have hlow := h.le_magnitude hfinite hedge (by rw [magnitude_edge]; exact hr)
  have hnear := h.abs_magnitude_sub_le hfinite hedge
  rw [magnitude_edge] at hlow hnear
  have hdistance : |2 ^ 63 - r| = r - 2 ^ 63 := by
    rw [abs_sub_comm, abs_of_nonneg (by linarith)]
  rw [hdistance] at hnear
  have hhigh : x.magnitude ≤ 2 ^ 63 + 2048 := by linarith [le_abs_self (x.magnitude - r)]
  obtain ⟨heven | hodd, hmagnitude⟩ := significand_of_near_edge hlow hhigh
  · refine ⟨hfinite, ?_⟩
    rw [hmagnitude, heven]
    norm_num
  · -- the next number is as near in the middle only
    rw [hodd] at hmagnitude
    push_cast at hmagnitude
    have hbeyond : |x.magnitude - r| = x.magnitude - r := abs_of_nonneg (by linarith)
    rw [hbeyond] at hnear
    have htie : |2 ^ 63 - r| = |x.magnitude - r| := by
      rw [hdistance, hbeyond]
      linarith
    have heven := h.even_of_near_edge hfinite (by rw [hmagnitude]; norm_num) htie
    rw [hodd] at heven
    omega

theorem isFinite_ofInt {z : ℤ} (h : z.natAbs < 2 ^ 64) : (ofInt z).isFinite = true := by
  rw [(isNearest_ofInt z).isFinite_iff]
  apply lt_overflowBound
  have hsmall : (z.natAbs : ℚ) < 2 ^ 64 := by exact_mod_cast h
  exact hsmall.trans_le (pow_le_pow_right₀ one_le_two (by decide))

theorem le_magnitude_ofInt {z : ℤ} (hfinite : (ofInt z).isFinite = true)
    (hz : 2 ^ 63 ≤ z.natAbs) :
    2 ^ 63 ≤ (ofInt z).magnitude := by
  obtain ⟨-, hedge, -⟩ := edge_spec (decide (z < 0))
  have hle : (edge (decide (z < 0))).magnitude ≤ (z.natAbs : ℚ) := by
    rw [magnitude_edge]
    exact_mod_cast hz
  have hlarge := (isNearest_ofInt z).le_magnitude hfinite hedge hle
  rwa [magnitude_edge] at hlarge

/-- The whole part of a large number fits 64 bits only at the lower end. -/
theorem isInt64_toInt_iff (h : 2 ^ 63 ≤ x.magnitude) :
    isInt64 x.toInt = true ↔ x.isNegative = true ∧ x.magnitude = 2 ^ 63 := by
  have hfloor := floorSize_of_large (le_trans (by norm_num) h)
  rw [← hfloor] at h ⊢
  have h' : 2 ^ 63 ≤ x.floorSize := by exact_mod_cast h
  have heq : (x.floorSize : ℚ) = 2 ^ 63 ↔ x.floorSize = 2 ^ 63 := by
    exact_mod_cast Iff.rfl
  rw [heq, isInt64_iff, toInt]
  cases x.isNegative with
  | false =>
      rw [if_neg Bool.false_ne_true]
      simp only [Bool.false_eq_true, false_and, iff_false]
      omega
  | true =>
      rw [if_pos rfl]
      simp only [true_and]
      omega

theorem le_magnitude_of_not_isInt64 (h : isInt64 x.toInt ≠ true) : 2 ^ 63 ≤ x.magnitude := by
  have hfloor : 2 ^ 63 ≤ x.floorSize := by
    rw [Ne, isInt64_iff, toInt] at h
    split at h <;> omega
  have hle := Nat.floor_le x.magnitude_nonneg
  rw [← floorSize_eq] at hle
  refine le_trans ?_ hle
  exact_mod_cast hfloor

end Double

end SqlClient
