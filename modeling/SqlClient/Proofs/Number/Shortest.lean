import SqlClient.Proofs.Number.Rounding

namespace SqlClient

namespace Decimal

/-- The value `digits * 10 ^ exponent`. -/
def value (d : Decimal) : ℚ :=
  d.digits * 10 ^ d.exponent

theorem value_trim (d : Decimal) : d.trim.value = d.value := by
  fun_induction trim d with
  | case1 d h ih =>
      have hdigits : (d.digits : ℚ) = 10 * (d.digits / 10 : ℕ) := by
        exact_mod_cast (Nat.mul_div_cancel' (Nat.dvd_of_mod_eq_zero h.2)).symm
      rw [ih, value, value, hdigits, zpow_add_one₀ (by norm_num)]
      ring
  | case2 d h => rfl

theorem exponent_le_exponent_trim (d : Decimal) : d.exponent ≤ d.trim.exponent := by
  fun_induction trim d with
  | case1 d h ih => exact (Int.le_add_one le_rfl).trans ih
  | case2 d h => exact le_rfl

end Decimal

theorem ten_zpow_decimalOrder_le {num den : ℕ} (hnum : 0 < num) (hden : 0 < den) :
    (10 : ℚ) ^ (decimalOrder num den - 1) ≤ num / den := by
  have hnum' : (0 : ℚ) < num := by exact_mod_cast hnum
  have hden' : (0 : ℚ) < den := by exact_mod_cast hden
  unfold decimalOrder
  split
  · rename_i hle
    have hwhole : 0 < num / den := Nat.div_pos hle hden
    have hlength := decimalLength_pos (num / den)
    calc
      (10 : ℚ) ^ ((decimalLength (num / den) : ℤ) - 1) =
        (10 ^ (decimalLength (num / den) - 1) : ℕ) := by
        rw [← Nat.cast_pred hlength, zpow_natCast, Nat.cast_pow, Nat.cast_ofNat]
      _ ≤ (num / den : ℕ) := by
        exact_mod_cast ten_pow_le_of_decimalLength hwhole
      _ ≤ num / den := Nat.cast_div_le
  · dsimp only
    have hlength := decimalLength_pos (den / num)
    split
    · rename_i heq
      have hden : (den : ℚ) = num * 10 ^ (decimalLength (den / num) - 1) := by
        exact_mod_cast heq
      rw [show 2 - (decimalLength (den / num) : ℤ) - 1 =
          -(decimalLength (den / num) - 1 : ℕ) by omega,
        zpow_neg, zpow_natCast, hden, div_mul_cancel_left₀ hnum'.ne']
    · have hlt : den < num * 10 ^ decimalLength (den / num) := by
        rw [mul_comm, ← Nat.div_lt_iff_lt_mul hnum]
        exact lt_ten_pow_decimalLength _
      have hlt' : (den : ℚ) < num * 10 ^ decimalLength (den / num) := by
        exact_mod_cast hlt
      rw [sub_sub_cancel_left, zpow_neg, zpow_natCast, le_div_iff₀ hden',
        inv_mul_le_iff₀ (by positivity), mul_comm]
      exact hlt'.le

namespace Double

variable {x : Double} {tie : Tie} {i : RoundingInterval} {q s : ℤ}

theorem scales_pos (q s : ℤ) : 0 < (scales q s).1 ∧ 0 < (scales q s).2 := by
  unfold scales
  constructor <;> exact Nat.mul_pos (Nat.pow_pos (by decide)) (Nat.pow_pos (by decide))

theorem zpow_mul_pow_toNat_neg {b : ℚ} (hb : b ≠ 0) (k : ℤ) :
    b ^ k * b ^ (-k).toNat = b ^ k.toNat := by
  rw [← zpow_natCast, ← zpow_natCast, ← zpow_add₀ hb]
  congr 1
  omega

theorem scales_eq (q s : ℤ) : ((scales q s).2 / (scales q s).1 : ℚ) = 4 * (10 ^ s / 2 ^ q) := by
  have hten := zpow_mul_pow_toNat_neg (b := 10) (by norm_num) s
  have htwo := zpow_mul_pow_toNat_neg (b := 2) (by norm_num) (2 - q)
  rw [neg_sub] at htwo
  have hquarter : (2 : ℚ) ^ (2 - q) = 4 / 2 ^ q := by
    rw [zpow_sub₀ two_ne_zero, zpow_ofNat]
    norm_num
  simp only [scales, Nat.pow_eq]
  push_cast
  rw [← hten, ← htwo, hquarter]
  field_simp

theorem grid_eq (d : ℕ) (q s : ℤ) :
    (4 * (d * 10 ^ s / 2 ^ q) : ℚ) = d * (scales q s).2 / (scales q s).1 := by
  rw [mul_div_assoc (d : ℚ) ((scales q s).2 : ℚ), scales_eq]
  ring

theorem inside_iff_contains (i : RoundingInterval) (q s : ℤ) (d : ℕ) :
    (if i.closed = true then
      decide (i.lower * (scales q s).1 ≤ d * (scales q s).2 ∧
        d * (scales q s).2 ≤ i.upper * (scales q s).1)
    else
      decide (i.lower * (scales q s).1 < d * (scales q s).2 ∧
        d * (scales q s).2 < i.upper * (scales q s).1)) = true ↔
      i.Contains (4 * (d * 10 ^ s / 2 ^ q)) := by
  obtain ⟨hunit, -⟩ := scales_pos q s
  have hunit' : (0 : ℚ) < (scales q s).1 := by exact_mod_cast hunit
  rw [RoundingInterval.Contains, grid_eq]
  simp only [le_div_iff₀ hunit', div_le_iff₀ hunit', lt_div_iff₀ hunit', div_lt_iff₀ hunit']
  split
  · rw [decide_eq_true_eq]
    exact_mod_cast Iff.rfl
  · rw [decide_eq_true_eq]
    exact_mod_cast Iff.rfl

theorem contains_of_onGrid {d : ℕ} (h : onGrid tie i q s = some d) :
    i.Contains (4 * (d * 10 ^ s / 2 ^ q)) := by
  rw [← inside_iff_contains]
  unfold onGrid at h
  dsimp only at h
  split at h
  · simp at h
  · rename_i hbelow _
    exact Option.some.inj h ▸ hbelow
  · rename_i _ habove
    exact Option.some.inj h ▸ habove
  · rename_i hbelow habove
    split at h
    · exact Option.some.inj h ▸ hbelow
    · split at h
      · exact Option.some.inj h ▸ habove
      · split at h
        · exact Option.some.inj h ▸ habove
        · split at h
          · exact Option.some.inj h ▸ hbelow
          · exact Option.some.inj h ▸ habove

theorem lt_interval_width (x : Double) :
    4 * x.significand + 10 ^ 16 * x.interval.lower < 10 ^ 16 * x.interval.upper := by
  have hlt := x.significand_lt
  rw [interval]
  dsimp only
  split
  · rename_i hedge
    rw [hedge.1]
    decide
  · omega

theorem contains_or_contains {y step : ℚ} (hstep : 10 ^ 16 * step ≤ 4 * x.significand)
    (hbelow : y ≤ 4 * x.significand) (habove : 4 * x.significand < y + step)
    (hzero : x.isZero = false) : x.interval.Contains y ∨ x.interval.Contains (y + step) := by
  have hinside : ∀ z : ℚ, x.interval.lower < z → z < x.interval.upper →
      x.interval.Contains z := by
    intro z hlow hhigh
    unfold RoundingInterval.Contains
    split
    · exact ⟨hlow.le, hhigh.le⟩
    · exact ⟨hlow, hhigh⟩
  have hwidth : (4 * x.significand + 10 ^ 16 * x.interval.lower : ℚ) <
      10 ^ 16 * x.interval.upper := by
    exact_mod_cast x.lt_interval_width
  have hlower : (x.interval.lower : ℚ) < 4 * x.significand := by
    exact_mod_cast interval_lower_lt hzero
  have hupper : (4 * x.significand : ℚ) < x.interval.upper := by
    rw [interval_upper]
    exact_mod_cast Nat.lt_add_of_pos_right two_pos
  by_cases hy : x.interval.lower < y
  · exact .inl (hinside y hy (hbelow.trans_lt hupper))
  · refine .inr (hinside (y + step) (hlower.trans habove) ?_)
    linarith

theorem exists_onGrid (tie : Tie) (hzero : x.isZero = false)
    (hstep : (10 : ℚ) ^ (s + 16) ≤ x.significand * 2 ^ x.exponent) :
    ∃ d, onGrid tie x.interval x.exponent s = some d := by
  obtain ⟨hunit, hscale⟩ := scales_pos x.exponent s
  have hunit' : (0 : ℚ) < (scales x.exponent s).1 := by exact_mod_cast hunit
  have hsmall : (10 ^ 16 * ((scales x.exponent s).2 / (scales x.exponent s).1) : ℚ) ≤
      4 * x.significand := by
    rw [zpow_add₀ (by norm_num), ← div_le_iff₀ (by positivity)] at hstep
    calc
      (10 ^ 16 * ((scales x.exponent s).2 / (scales x.exponent s).1) : ℚ) =
          4 * (10 ^ s * 10 ^ (16 : ℤ) / 2 ^ x.exponent) := by
        rw [scales_eq, zpow_ofNat]
        ring
      _ ≤ 4 * x.significand := by
        linarith
  have hbelow : (x.interval.value * (scales x.exponent s).1 / (scales x.exponent s).2 : ℕ) *
      ((scales x.exponent s).2 / (scales x.exponent s).1 : ℚ) ≤ 4 * x.significand := by
    rw [mul_div_assoc', div_le_iff₀ hunit']
    exact_mod_cast Nat.div_mul_le_self _ _
  have habove : (4 * x.significand : ℚ) <
      (x.interval.value * (scales x.exponent s).1 / (scales x.exponent s).2 : ℕ) *
          ((scales x.exponent s).2 / (scales x.exponent s).1) +
        (scales x.exponent s).2 / (scales x.exponent s).1 := by
    rw [← add_one_mul, mul_div_assoc', lt_div_iff₀ hunit']
    have hnext := Nat.lt_mul_div_succ (x.interval.value * (scales x.exponent s).1) hscale
    rw [Nat.mul_comm (scales x.exponent s).2] at hnext
    exact_mod_cast hnext
  have hnear := contains_or_contains hsmall hbelow habove hzero
  unfold onGrid
  dsimp only
  split
  · rename_i hmissed hmissed'
    rw [← Bool.not_eq_true, inside_iff_contains, grid_eq] at hmissed hmissed'
    rw [mul_div_assoc] at hmissed hmissed'
    push_cast at hmissed'
    rw [add_one_mul] at hmissed'
    exact absurd hnear (not_or.mpr ⟨hmissed, hmissed'⟩)
  · exact ⟨_, rfl⟩
  · exact ⟨_, rfl⟩
  · split
    · exact ⟨_, rfl⟩
    · split
      · exact ⟨_, rfl⟩
      · split
        · exact ⟨_, rfl⟩
        · exact ⟨_, rfl⟩

theorem contains_of_firstGrid {top : ℤ} {fuel count : ℕ} {d : Decimal}
    (h : firstGrid tie i q top fuel count = some d) : i.Contains (4 * (d.value / 2 ^ q)) := by
  induction fuel generalizing count with
  | zero => simp [firstGrid] at h
  | succ fuel ih =>
      rw [firstGrid] at h
      split at h
      · rename_i digits hgrid
        obtain rfl := Option.some.inj h
        exact contains_of_onGrid hgrid
      · exact ih h

theorem lt_exponent_of_firstGrid {top : ℤ} {fuel count : ℕ} {d : Decimal}
    (h : firstGrid tie i q top fuel count = some d) : top - (count + fuel) < d.exponent := by
  induction fuel generalizing count with
  | zero => simp [firstGrid] at h
  | succ fuel ih =>
      rw [firstGrid] at h
      split at h
      · obtain rfl := Option.some.inj h
        dsimp only
        omega
      · have hnext := ih h
        omega

theorem exists_firstGrid {top : ℤ} {fuel count n : ℕ} (hcount : count ≤ n)
    (hfuel : n < count + fuel) (h : ∃ d, onGrid tie i q (top - n) = some d) :
    ∃ d, firstGrid tie i q top fuel count = some d := by
  induction fuel generalizing count with
  | zero => omega
  | succ fuel ih =>
      rw [firstGrid]
      split
      · exact ⟨_, rfl⟩
      · rename_i hgrid
        apply ih _ (by omega)
        by_contra hlt
        obtain ⟨d, hd⟩ := h
        obtain rfl : count = n := by omega
        simp [hgrid] at hd

theorem ratio_eq (x : Double) : (x.ratio.1 / x.ratio.2 : ℚ) = x.significand * 2 ^ x.exponent := by
  rw [ratio]
  cases x.exponent with
  | ofNat k => simp
  | negSucc k =>
      rw [zpow_negSucc, ← div_eq_mul_inv]
      simp

theorem ratio_pos (hzero : x.isZero = false) : 0 < x.ratio.1 ∧ 0 < x.ratio.2 := by
  have hsignificand := significand_pos hzero
  rw [ratio]
  cases x.exponent with
  | ofNat k => exact ⟨Nat.mul_pos hsignificand (Nat.pow_pos two_pos), one_pos⟩
  | negSucc k => exact ⟨hsignificand, Nat.pow_pos two_pos⟩

/-- One of the first seventeen grids has a hit, so that the last resort is not taken. -/
theorem exists_shortest_eq (tie : Tie) (hzero : x.isZero = false) :
    ∃ d, firstGrid tie x.interval x.exponent (decimalOrder x.ratio.1 x.ratio.2) 17 1 = some d ∧
      x.shortest tie = d.trim := by
  obtain ⟨hnum, hden⟩ := ratio_pos hzero
  have htop := ten_zpow_decimalOrder_le hnum hden
  rw [ratio_eq] at htop
  have hseventeen : ∃ d, onGrid tie x.interval x.exponent
      (decimalOrder x.ratio.1 x.ratio.2 - (17 : ℕ)) = some d := by
    apply exists_onGrid tie hzero
    convert htop using 2
    omega
  obtain ⟨d, hd⟩ :
      ∃ d, firstGrid tie x.interval x.exponent (decimalOrder x.ratio.1 x.ratio.2) 17 1 =
        some d :=
    exists_firstGrid (by decide) (by decide) hseventeen
  refine ⟨d, hd, ?_⟩
  rw [shortest, hd]
  rfl

theorem attracts_shortest (tie : Tie) (hzero : x.isZero = false) :
    x.Attracts (x.shortest tie).value := by
  obtain ⟨d, hd, hshortest⟩ := exists_shortest_eq tie hzero
  rw [hshortest, Decimal.value_trim]
  exact contains_of_firstGrid hd

theorem decimalOrder_sub_le_exponent (tie : Tie) (hzero : x.isZero = false) :
    decimalOrder x.ratio.1 x.ratio.2 - 17 ≤ (x.shortest tie).exponent := by
  obtain ⟨d, hd, hshortest⟩ := exists_shortest_eq tie hzero
  have hgrid := lt_exponent_of_firstGrid hd
  have htrim := d.exponent_le_exponent_trim
  rw [hshortest]
  omega

end Double

end SqlClient
