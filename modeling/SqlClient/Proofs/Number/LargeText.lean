import SqlClient.Proofs.Number.Whole
import SqlClient.Value.Literal

namespace SqlClient

theorem digitsOf_mul_pow {n : ℕ} (hn : 0 < n) (k : ℕ) :
    digitsOf (n * 10 ^ k) = digitsOf n ++ List.replicate k '0' := by
  induction k with
  | zero => simp
  | succ k ih =>
      have hpos : 0 < n * 10 ^ k := Nat.mul_pos hn (Nat.pow_pos (by decide))
      rw [pow_succ, ← mul_assoc, digitsOf, if_neg (by omega), Nat.mul_div_cancel _ (by decide),
        ih, Nat.mul_mod_left, List.replicate_succ', List.append_assoc]
      rfl

namespace FloatLayout

theorem positional_of_whole {l : FloatLayout} (hmark : l.wholeMark = []) {d : Decimal}
    (hdigits : 0 < d.digits) (hexponent : 0 ≤ d.exponent) :
    l.positional (digitsOf d.digits) d.order = digitsOf (d.digits * 10 ^ d.exponent.toNat) := by
  have hlength := decimalLength_pos d.digits
  unfold positional
  rw [Decimal.order, length_digitsOf, if_neg (by omega)]
  dsimp only
  rw [if_pos (by omega), hmark, List.append_nil, digitsOf_mul_pow hdigits]
  congr 2
  omega

end FloatLayout

namespace Double

variable {x : Double}

theorem isZero_of_large (h : 2 ^ 63 ≤ x.magnitude) : x.isZero = false := by
  rw [Bool.eq_false_iff, Ne, ← magnitude_eq_zero_iff]
  intro hzero
  rw [hzero] at h
  norm_num at h

theorem Attracts.le_two_mul_magnitude {r : ℚ} (h : x.Attracts r) (hzero : x.isZero = false) :
    r ≤ 2 * x.magnitude := by
  have hunit : (0 : ℚ) < 2 ^ x.exponent := by positivity
  have hsignificand : (1 : ℚ) ≤ x.significand := by
    exact_mod_cast significand_pos hzero
  calc
    r ≤ (x.significand + 1 / 2) * 2 ^ x.exponent := (div_le_iff₀ hunit).mp h.roundsTo.high
    _ ≤ 2 * x.significand * 2 ^ x.exponent := by
      gcongr
      linarith
    _ = 2 * x.magnitude := mul_assoc _ _ _

theorem digits_pos_of_attracts {d : Decimal} (hzero : x.isZero = false) (h : x.Attracts d.value) :
    0 < d.digits := by
  have hpos := h.pos hzero
  by_contra hdigits
  rw [Decimal.value, Nat.eq_zero_of_not_pos hdigits, Nat.cast_zero, zero_mul] at hpos
  exact lt_irrefl _ hpos

theorem order_shortest_le (tie : Tie) (hzero : x.isZero = false) (h : x.magnitude ≤ 2 ^ 65) :
    (x.shortest tie).order ≤ 20 := by
  have hattracts := attracts_shortest tie hzero
  have hdouble := hattracts.le_two_mul_magnitude hzero
  have hdigits := digits_pos_of_attracts hzero hattracts
  generalize x.shortest tie = d at hdouble hdigits ⊢
  have hlarge := ten_zpow_le_decimal hdigits d.exponent
  have hpow : (10 : ℚ) ^ ((decimalLength d.digits - 1 : ℕ) + d.exponent) < 10 ^ (21 : ℤ) := by
    refine hlarge.trans_lt ?_
    rw [Decimal.value] at hdouble
    norm_num
    linarith
  have hlt := (zpow_lt_zpow_iff_right₀ (by norm_num)).mp hpow
  have hlength := decimalLength_pos d.digits
  rw [Decimal.order]
  omega

theorem shortest_of_large (tie : Tie) (h : 2 ^ 63 ≤ x.magnitude) :
    0 < (x.shortest tie).digits ∧ 2 ≤ (x.shortest tie).exponent := by
  have hzero := isZero_of_large h
  refine ⟨digits_pos_of_attracts hzero (attracts_shortest tie hzero), ?_⟩
  have hgrid := decimalOrder_sub_le_exponent tie hzero
  have hfloor : 2 ^ 63 ≤ x.floorSize := by
    rw [← floorSize_of_large (le_trans (by norm_num) h)] at h
    exact_mod_cast h
  have hlength : 10 ^ 18 < 10 ^ decimalLength x.floorSize :=
    lt_of_lt_of_le (by norm_num) (hfloor.trans (lt_ten_pow_decimalLength x.floorSize).le)
  have hlength' := (Nat.pow_lt_pow_iff_right (by decide)).mp hlength
  rw [floorSize] at hfloor hlength'
  rw [decimalOrder, if_pos (Nat.div_pos_iff.mp (by omega)).2] at hgrid
  omega

end Double

namespace SqlValue

theorem floatText_of_shortest {x : Double} (hfinite : x.isFinite = true)
    (hzero : x.isZero = false)
    (hsign : x.isNegative = false) :
    floatText x = String.ofList (floatLayout.magnitude (x.shortest .up)) := by
  rw [floatText, FloatLayout.render, Double.isNaN_of_isFinite hfinite, hzero,
    Double.isInfinite_of_isFinite hfinite, hsign]
  rfl

/-- A large number is written as an integer that is rounded to it and ends with two zeros. -/
theorem floatText_of_large {x : Double} (hfinite : x.isFinite = true)
    (hsign : x.isNegative = false)
    (hlow : 2 ^ 63 ≤ x.magnitude) (hhigh : x.magnitude ≤ 2 ^ 65) :
    ∃ m : ℕ, 100 ∣ m ∧ Double.IsNearest false m x ∧ floatText x = intText m := by
  have hzero := Double.isZero_of_large hlow
  have hattracts := Double.attracts_shortest .up hzero
  obtain ⟨hdigits, hexponent⟩ := Double.shortest_of_large .up hlow
  have horder := Double.order_shortest_le .up hzero hhigh
  rw [floatText_of_shortest hfinite hzero hsign]
  generalize x.shortest .up = d at hattracts hdigits hexponent horder ⊢
  obtain ⟨k, hk⟩ := Int.eq_ofNat_of_zero_le (show 0 ≤ d.exponent by omega)
  have hvalue : d.value = (d.digits * 10 ^ k : ℕ) := by
    rw [Decimal.value, hk]
    simp
  refine ⟨d.digits * 10 ^ k, ?_, ?_, ?_⟩
  · exact (Nat.pow_dvd_pow 10 (show 2 ≤ k by omega)).trans (Nat.dvd_mul_left _ _)
  · have hrounded := Double.ofDecimal_eq_of_attracts hfinite hzero hattracts
    have hnearest := Double.isNearest_ofDecimal false d.digits d.exponent
    rw [← hsign, hrounded, hsign] at hnearest
    rwa [← hvalue, Decimal.value]
  · have hlength := decimalLength_pos d.digits
    have hpositional : floatLayout.isPositional d.order = true := by
      have hleast : -6 ≤ d.order := by
        rw [Decimal.order]
        omega
      simp [FloatLayout.isPositional, floatLayout, hleast, horder]
    rw [FloatLayout.magnitude, if_pos hpositional,
      FloatLayout.positional_of_whole rfl hdigits (by omega), hk, intText, integerText,
      if_neg (by omega), Int.natAbs_natCast]
    rfl

end SqlValue

end SqlClient
