import SqlClient.Number.Shortest
import Mathlib.Data.Int.Log
import Mathlib.Data.Rat.Floor
import Mathlib.Tactic

namespace SqlClient

theorem decimalLength_eq_log (n : ℕ) : decimalLength n = Nat.log 10 n + 1 := by
  fun_induction decimalLength n with
  | case1 n h => rw [Nat.log_of_lt h]
  | case2 n h ih => rw [ih, Nat.log_of_one_lt_of_le (by decide) (Nat.le_of_not_lt h)]

theorem ten_pow_le_of_decimalLength {n : ℕ} (hn : 0 < n) : 10 ^ (decimalLength n - 1) ≤ n := by
  rw [decimalLength_eq_log, Nat.add_sub_cancel]
  exact Nat.pow_log_le_self 10 hn.ne'

theorem lt_ten_pow_decimalLength (n : ℕ) : n < 10 ^ decimalLength n := by
  rw [decimalLength_eq_log]
  exact Nat.lt_pow_succ_log_self (by decide) n

theorem decimalLength_pos (n : ℕ) : 0 < decimalLength n := by
  rw [decimalLength_eq_log]
  omega

theorem ten_zpow_le_decimal {digits : ℕ} (hdigits : 0 < digits) (exponent : ℤ) :
    (10 : ℚ) ^ ((decimalLength digits - 1 : ℕ) + exponent) ≤ digits * 10 ^ exponent := by
  rw [zpow_add₀ (by norm_num), zpow_natCast]
  gcongr
  exact_mod_cast ten_pow_le_of_decimalLength hdigits

theorem decimal_lt_ten_zpow (digits : ℕ) (exponent : ℤ) :
    digits * 10 ^ exponent < (10 : ℚ) ^ ((decimalLength digits : ℤ) + exponent) := by
  rw [zpow_add₀ (by norm_num), zpow_natCast]
  gcongr
  exact_mod_cast lt_ten_pow_decimalLength digits

/-- The whole number nearest to a fraction, which is even if another one is as near. -/
structure RoundsTo (y : ℚ) (n : ℕ) : Prop where
  low : (n : ℚ) - 1 / 2 ≤ y
  high : y ≤ n + 1 / 2
  tie : n % 2 = 1 → (n : ℚ) - 1 / 2 < y ∧ y < n + 1 / 2

theorem RoundsTo.unique {y : ℚ} {m n : ℕ} (hm : RoundsTo y m) (hn : RoundsTo y n) : m = n := by
  wlog hlt : m < n generalizing m n
  · rcases eq_or_lt_of_le (not_lt.mp hlt) with heq | hgt
    · exact heq.symm
    · exact (this hn hm hgt).symm
  have hnext : n = m + 1 := by
    have hle : (n : ℚ) ≤ m + 1 := by linarith [hn.low, hm.high]
    exact Nat.le_antisymm (by exact_mod_cast hle) hlt
  subst hnext
  have hlow := hn.low
  have hhigh := hm.high
  push_cast at hlow
  -- only the middle is left, and there one of the two neighbours is odd
  rcases Nat.mod_two_eq_zero_or_one m with heven | hodd
  · have hstrict := (hn.tie (by omega)).1
    push_cast at hstrict
    linarith
  · linarith [(hm.tie hodd).2]

theorem roundsTo_roundHalfEven (num : ℕ) {den : ℕ} (hden : 0 < den) :
    RoundsTo (num / den) (roundHalfEven num den) := by
  have hden' : (0 : ℚ) < den := by exact_mod_cast hden
  have hsplit : (num / den : ℚ) = (num / den : ℕ) + (num % den : ℕ) / den := by
    rw [eq_comm, ← eq_sub_iff_add_eq, ← sub_div]
    rw [eq_div_iff hden'.ne', eq_sub_iff_add_eq]
    exact_mod_cast Nat.div_add_mod' num den
  have hrest := Nat.mod_lt num hden
  rw [hsplit]
  unfold roundHalfEven
  generalize num / den = whole
  generalize num % den = rest at hrest ⊢
  have hnonneg : (0 : ℚ) ≤ rest / den := by positivity
  have hlt : (rest / den : ℚ) < 1 := (div_lt_one hden').mpr (by exact_mod_cast hrest)
  have hbelow : (rest / den : ℚ) < 1 / 2 ↔ 2 * rest < den := by
    rw [div_lt_div_iff₀ hden' two_pos, one_mul, mul_comm]
    exact_mod_cast Iff.rfl
  have habove : (1 / 2 : ℚ) < rest / den ↔ den < 2 * rest := by
    rw [div_lt_div_iff₀ two_pos hden', one_mul, mul_comm]
    exact_mod_cast Iff.rfl
  simp only [← hbelow, ← habove]
  generalize (rest / den : ℚ) = y at hnonneg hlt
  split
  · exact ⟨by linarith, by linarith, fun _ => ⟨by linarith, by linarith⟩⟩
  · split
    · refine ⟨?_, ?_, fun _ => ⟨?_, ?_⟩⟩ <;> push_cast <;> linarith
    · split
      · exact ⟨by linarith, by linarith, fun hodd => by omega⟩
      · refine ⟨?_, ?_, fun hodd => by omega⟩ <;> push_cast <;> linarith

theorem two_zpow_le_iff {r : ℚ} (hr : 0 < r) {k : ℤ} : (2 : ℚ) ^ k ≤ r ↔ k ≤ Int.log 2 r := by
  exact_mod_cast Int.zpow_le_iff_le_log Nat.one_lt_two hr

theorem binaryOrder_eq_log {num den : ℕ} (hnum : 0 < num) (hden : 0 < den) :
    binaryOrder num den = Int.log 2 (num / den : ℚ) := by
  have hnum' : (0 : ℚ) < num := by exact_mod_cast hnum
  have hden' : (0 : ℚ) < den := by exact_mod_cast hden
  have hr : (0 : ℚ) < num / den := by positivity
  -- the guess from the orders of both parts is right or one too large
  have hpow : ∀ {n : ℕ}, 0 < n → (2 : ℚ) ^ (n.log2 : ℤ) ≤ n ∧ (n : ℚ) < 2 ^ (n.log2 + 1 : ℤ) := by
    intro n hn
    constructor
    · exact_mod_cast Nat.log2_self_le hn.ne'
    · exact_mod_cast Nat.lt_log2_self
  have hlow : (num.log2 : ℤ) - den.log2 - 1 ≤ Int.log 2 (num / den : ℚ) := by
    rw [← two_zpow_le_iff hr, sub_sub, zpow_sub₀ two_ne_zero]
    exact div_le_div₀ hnum'.le (hpow hnum).1 hden' (hpow hden).2.le
  have hhigh : ¬(num.log2 : ℤ) - den.log2 + 1 ≤ Int.log 2 (num / den : ℚ) := by
    rw [← two_zpow_le_iff hr, not_le, sub_add_eq_add_sub, zpow_sub₀ two_ne_zero]
    exact div_lt_div₀ (hpow hnum).2 (hpow hden).1 (by positivity) (by positivity)
  unfold binaryOrder
  generalize (num.log2 : ℤ) - den.log2 = guess at hlow hhigh ⊢
  have hreached := two_zpow_le_iff hr (k := guess)
  cases guess with
  | ofNat k =>
      rw [Int.ofNat_eq_natCast, zpow_natCast, le_div_iff₀' hden'] at hreached
      have hreached : den * Nat.pow 2 k ≤ num ↔ Int.ofNat k ≤ Int.log 2 (num / den : ℚ) := by
        rw [Int.ofNat_eq_natCast, ← hreached, Nat.pow_eq]
        exact_mod_cast Iff.rfl
      simp only [decide_eq_true_eq, hreached]
      split <;> omega
  | negSucc k =>
      rw [zpow_negSucc, le_div_iff₀ hden', inv_mul_le_iff₀ (by positivity), mul_comm] at hreached
      have hreached : den ≤ num * Nat.pow 2 (k + 1) ↔
          Int.negSucc k ≤ Int.log 2 (num / den : ℚ) := by
        rw [← hreached, Nat.pow_eq]
        exact_mod_cast Iff.rfl
      simp only [decide_eq_true_eq, hreached]
      split <;> omega

theorem roundsTo_roundSignificand (precision : ℕ) (least : ℤ) {num den : ℕ} (hnum : 0 < num)
    (hden : 0 < den) :
    (roundSignificand precision least num den).2 =
        max (Int.log 2 (num / den : ℚ) - (precision - 1 : ℕ)) least ∧
      RoundsTo (num / den / 2 ^ (roundSignificand precision least num den).2)
        (roundSignificand precision least num den).1 := by
  unfold roundSignificand
  rw [binaryOrder_eq_log hnum hden]
  refine ⟨rfl, ?_⟩
  dsimp only
  cases max (Int.log 2 (num / den : ℚ) - (precision - 1 : ℕ)) least with
  | ofNat k =>
      rw [Int.ofNat_eq_natCast, zpow_natCast, div_div]
      exact_mod_cast roundsTo_roundHalfEven num (Nat.mul_pos hden (Nat.pow_pos (n := k) two_pos))
  | negSucc k =>
      rw [zpow_negSucc, div_inv_eq_mul, div_mul_eq_mul_div]
      exact_mod_cast roundsTo_roundHalfEven (num * Nat.pow 2 (k + 1)) hden

theorem roundSignificand_eq {precision : ℕ} {least q : ℤ} {num den m : ℕ} (hnum : 0 < num)
    (hden : 0 < den) (hq : max (Int.log 2 (num / den : ℚ) - (precision - 1 : ℕ)) least = q)
    (hm : RoundsTo (num / den / 2 ^ q) m) :
    roundSignificand precision least num den = (m, q) := by
  obtain ⟨hexponent, hround⟩ := roundsTo_roundSignificand precision least hnum hden
  rw [hexponent, hq] at hround
  exact Prod.ext (hround.unique hm) (hexponent.trans hq)

namespace RoundingInterval

/-- Whether a fraction lies in an interval. -/
def Contains (i : RoundingInterval) (y : ℚ) : Prop :=
  if i.closed then i.lower ≤ y ∧ y ≤ i.upper else i.lower < y ∧ y < i.upper

end RoundingInterval

namespace Double

variable {x : Double}

theorem isNaN_of_isFinite (h : x.isFinite = true) : x.isNaN = false := by
  have hsize : x.size < infiniteSize := of_decide_eq_true h
  exact decide_eq_false (Nat.lt_asymm hsize)

theorem isInfinite_of_isFinite (h : x.isFinite = true) : x.isInfinite = false := by
  have hsize : x.size < infiniteSize := of_decide_eq_true h
  exact beq_false_of_ne hsize.ne

theorem ofSize_size (x : Double) : ofSize x.isNegative x.size = x := by
  obtain ⟨bits⟩ := x
  have hbits := bits.toNat_lt
  rw [ofSize, isNegative, size, mk.injEq, ← UInt64.toNat_inj, UInt64.toNat_ofNat']
  simp only [decide_eq_true_eq, Nat.pow_eq]
  split <;> omega

theorem size_eq (x : Double) :
    x.size = (x.exponent - leastExponent).toNat * 2 ^ 52 + x.significand := by
  have hsplit := Nat.div_add_mod x.size (Nat.pow 2 52)
  unfold exponent significand exponentField
  rw [Nat.pow_eq] at hsplit ⊢
  split <;> omega

theorem leastExponent_le (x : Double) : leastExponent ≤ x.exponent := by
  unfold exponent
  split <;> omega

theorem significand_lt (x : Double) : x.significand < 2 ^ 53 := by
  have hrest := Nat.mod_lt x.size (show 0 < Nat.pow 2 52 by decide)
  unfold significand exponentField
  rw [Nat.pow_eq] at hrest ⊢
  split <;> omega

theorem le_significand (h : leastExponent < x.exponent) : 2 ^ 52 ≤ x.significand := by
  unfold exponent at h
  unfold significand
  split at h
  · exact absurd h (lt_irrefl _)
  · rename_i hfield
    rw [if_neg hfield, Nat.pow_eq]
    omega

theorem exponent_le (h : x.isFinite = true) : x.exponent ≤ 971 := by
  have hsize := of_decide_eq_true h
  have hsplit := x.size_eq
  have hleast := x.leastExponent_le
  by_cases hlarge : leastExponent < x.exponent
  · have hsignificand := le_significand hlarge
    simp only [infiniteSize, leastExponent, Nat.pow_eq] at *
    omega
  · simp only [leastExponent] at *
    omega

theorem significand_pos (h : x.isZero = false) : 0 < x.significand := by
  by_cases hlarge : leastExponent < x.exponent
  · exact lt_of_lt_of_le (by decide) (le_significand hlarge)
  · have hsplit := x.size_eq
    have hsize : x.size ≠ 0 := by simpa [isZero] using h
    rw [Int.toNat_of_nonpos (by omega)] at hsplit
    omega

/-- The fractions that round to a number: those in its interval, in quarters of its unit. -/
def Attracts (x : Double) (r : ℚ) : Prop :=
  x.interval.Contains (4 * (r / 2 ^ x.exponent))

theorem Attracts.bounds {r : ℚ} (h : x.Attracts r) :
    x.interval.lower ≤ 4 * (r / 2 ^ x.exponent) ∧
      4 * (r / 2 ^ x.exponent) ≤ x.interval.upper := by
  unfold Attracts RoundingInterval.Contains at h
  split at h
  · exact h
  · exact ⟨h.1.le, h.2.le⟩

theorem interval_upper (x : Double) : x.interval.upper = 4 * x.significand + 2 :=
  rfl

theorem le_interval_lower (x : Double) : 4 * x.significand ≤ x.interval.lower + 2 := by
  rw [interval]
  dsimp only
  split <;> omega

theorem interval_lower_lt (hx : x.isZero = false) : x.interval.lower < 4 * x.significand := by
  have hpos := significand_pos hx
  rw [interval]
  dsimp only
  split <;> omega

theorem Attracts.roundsTo {r : ℚ} (h : x.Attracts r) :
    RoundsTo (r / 2 ^ x.exponent) x.significand := by
  obtain ⟨hlow, hhigh⟩ := h.bounds
  have hlower : (4 * x.significand : ℚ) ≤ x.interval.lower + 2 := by
    exact_mod_cast x.le_interval_lower
  have hupper : (x.interval.upper : ℚ) = 4 * x.significand + 2 := by
    exact_mod_cast x.interval_upper
  refine ⟨by linarith, by linarith, ?_⟩
  intro hodd
  have hopen : x.interval.closed = false := by
    simpa [interval] using hodd
  rw [Attracts, RoundingInterval.Contains, hopen, if_neg Bool.false_ne_true] at h
  exact ⟨by linarith [h.1], by linarith [h.2]⟩

theorem Attracts.pos {r : ℚ} (h : x.Attracts r) (hx : x.isZero = false) : 0 < r := by
  have hlower : (4 : ℚ) ≤ x.interval.lower + 2 := by
    have := x.le_interval_lower
    have := significand_pos hx
    exact_mod_cast (by omega : 4 ≤ x.interval.lower + 2)
  have hunit : (0 : ℚ) < 2 ^ x.exponent := by positivity
  by_contra hr
  have := div_nonpos_of_nonpos_of_nonneg (not_lt.mp hr) hunit.le
  linarith [h.bounds.1]

theorem two_zpow_add_le_iff {q k : ℤ} {r : ℚ} :
    (2 : ℚ) ^ (q + k) ≤ r ↔ (2 : ℚ) ^ k ≤ r / 2 ^ q := by
  rw [zpow_add₀ two_ne_zero, le_div_iff₀' (by positivity)]

/-- Just below a power of two the numbers lie twice as dense. A fraction there is rounded on the
finer grid, but up to the power. -/
theorem Attracts.roundsTo_of_lt {r : ℚ} (h : x.Attracts r) (hleast : leastExponent < x.exponent)
    (hbelow : r < 2 ^ (x.exponent + 52)) :
    x.significand = 2 ^ 52 ∧ RoundsTo (r / 2 ^ (x.exponent - 1)) (2 ^ 53) := by
  rw [← not_le, two_zpow_add_le_iff, not_le] at hbelow
  have hsignificand : x.significand = 2 ^ 52 := by
    refine le_antisymm (Nat.lt_succ_iff.mp ?_) (le_significand hleast)
    have hlt : (x.significand : ℚ) < 2 ^ 52 + 1 := by
      norm_num at hbelow
      linarith [h.roundsTo.low]
    exact_mod_cast hlt
  have hlower : (x.interval.lower : ℚ) = 2 ^ 54 - 1 := by
    have : x.interval.lower = 2 ^ 54 - 1 := by
      rw [interval]
      dsimp only
      rw [hsignificand, if_pos ⟨rfl, hleast⟩]
      norm_num
    rw [this]
    norm_num
  have hlow := h.bounds.1
  rw [hlower] at hlow
  have hfine : r / 2 ^ (x.exponent - 1) = 2 * (r / 2 ^ x.exponent) := by
    rw [zpow_sub_one₀ two_ne_zero, ← div_div, div_inv_eq_mul, mul_comm]
  rw [hfine]
  refine ⟨hsignificand, ?_, ?_, ?_⟩
  · norm_num at hlow ⊢
    linarith
  · norm_num at hbelow ⊢
    linarith
  · norm_num

theorem ofRatio_eq_of_attracts {num den : ℕ} (hden : 0 < den) (hfinite : x.isFinite = true)
    (hzero : x.isZero = false) (h : x.Attracts (num / den)) :
    ofRatio x.isNegative num den = x := by
  have hr := h.pos hzero
  have hnum : 0 < num := by
    by_contra hnum
    simp [Nat.eq_zero_of_not_pos hnum] at hr
  have hsize : min x.size infiniteSize = x.size := min_eq_left (of_decide_eq_true hfinite).le
  suffices hsplit : ∃ m q, roundSignificand 53 leastExponent num den = (m, q) ∧
      (q - leastExponent).toNat * Nat.pow 2 52 + m = x.size by
    obtain ⟨m, q, hround, hparts⟩ := hsplit
    simp only [ofRatio, if_neg hnum.ne', hround, hparts, hsize, ofSize_size]
  have hparts := x.size_eq
  by_cases hedge : leastExponent < x.exponent ∧ (num / den : ℚ) < 2 ^ (x.exponent + 52)
  · obtain ⟨hleast, hbelow⟩ := hedge
    obtain ⟨hsignificand, hrounds⟩ := h.roundsTo_of_lt hleast hbelow
    refine ⟨2 ^ 53, x.exponent - 1, roundSignificand_eq hnum hden ?_ hrounds, ?_⟩
    · have hlow : x.exponent + 51 ≤ Int.log 2 (num / den : ℚ) := by
        rw [← two_zpow_le_iff hr, two_zpow_add_le_iff]
        have hlow := h.roundsTo.low
        rw [hsignificand] at hlow
        norm_num at hlow ⊢
        linarith
      have hhigh : ¬x.exponent + 52 ≤ Int.log 2 (num / den : ℚ) := by
        rw [← two_zpow_le_iff hr]
        exact not_le.mpr hbelow
      omega
    · rw [Nat.pow_eq]
      omega
  · refine ⟨x.significand, x.exponent, roundSignificand_eq hnum hden ?_ h.roundsTo, hparts.symm⟩
    have hhigh : ¬x.exponent + 53 ≤ Int.log 2 (num / den : ℚ) := by
      rw [← two_zpow_le_iff hr, two_zpow_add_le_iff, not_le]
      have hle : (x.significand : ℚ) + 1 ≤ 2 ^ 53 := by
        exact_mod_cast x.significand_lt
      norm_num at hle ⊢
      linarith [h.roundsTo.high]
    have hlow : leastExponent < x.exponent → x.exponent + 52 ≤ Int.log 2 (num / den : ℚ) := by
      intro hleast
      rw [← two_zpow_le_iff hr]
      exact not_lt.mp fun hbelow => hedge ⟨hleast, hbelow⟩
    have hleast := x.leastExponent_le
    omega

theorem Attracts.lt_ten_pow {r : ℚ} (h : x.Attracts r) (hfinite : x.isFinite = true) :
    r < 10 ^ 310 := by
  have hsignificand : (x.significand : ℚ) + 1 ≤ 2 ^ 53 := by
    exact_mod_cast x.significand_lt
  have hscaled : r / 2 ^ x.exponent < 2 ^ 53 := by
    linarith [h.roundsTo.high]
  calc
    r < 2 ^ 53 * 2 ^ x.exponent := (div_lt_iff₀ (by positivity)).mp hscaled
    _ ≤ 2 ^ 53 * 2 ^ (971 : ℤ) := by
      gcongr
      · norm_num
      · exact exponent_le hfinite
    _ = 2 ^ 1024 := by
      rw [zpow_ofNat, ← pow_add]
    _ ≤ 10 ^ 310 := by
      exact_mod_cast (by decide +kernel : 2 ^ 1024 ≤ 10 ^ 310)

theorem Attracts.ten_pow_lt {r : ℚ} (h : x.Attracts r) (hzero : x.isZero = false) :
    (10 ^ 331 : ℚ)⁻¹ < r := by
  have hsignificand : (1 : ℚ) ≤ x.significand := by
    exact_mod_cast significand_pos hzero
  have hscaled : 2⁻¹ ≤ r / 2 ^ x.exponent := by
    linarith [h.roundsTo.low]
  calc
    (10 ^ 331 : ℚ)⁻¹ < (2 ^ 1075)⁻¹ := by
      gcongr
      exact_mod_cast (by decide +kernel : 2 ^ 1075 < 10 ^ 331)
    _ = 2⁻¹ * 2 ^ leastExponent := by
      rw [leastExponent, zpow_neg, zpow_ofNat, ← mul_inv, ← pow_succ']
    _ ≤ 2⁻¹ * 2 ^ x.exponent := by
      gcongr
      · norm_num
      · exact x.leastExponent_le
    _ ≤ r := (le_div_iff₀ (by positivity)).mp hscaled

/-- A decimal in the interval of a number is read as it. -/
theorem ofDecimal_eq_of_attracts {digits : ℕ} {exponent : ℤ} (hfinite : x.isFinite = true)
    (hzero : x.isZero = false) (h : x.Attracts (digits * 10 ^ exponent)) :
    ofDecimal x.isNegative digits exponent = x := by
  have hdigits : 0 < digits := by
    by_contra hdigits
    have := h.pos hzero
    simp [Nat.eq_zero_of_not_pos hdigits] at this
  have hlow := ten_zpow_le_decimal hdigits exponent
  have hhigh := decimal_lt_ten_zpow digits exponent
  unfold ofDecimal
  rw [if_neg hdigits.ne']
  dsimp only
  rw [if_neg, if_neg]
  · cases exponent with
    | ofNat k =>
        apply ofRatio_eq_of_attracts one_pos hfinite hzero
        simpa using h
    | negSucc k =>
        apply ofRatio_eq_of_attracts (Nat.pow_pos (by decide)) hfinite hzero
        rw [zpow_negSucc, ← div_eq_mul_inv] at h
        exact_mod_cast h
  · intro hsmall
    have hpow : (10 : ℚ) ^ ((decimalLength digits : ℤ) + exponent) ≤ 10 ^ (-331 : ℤ) :=
      zpow_le_zpow_right₀ (by norm_num) (by omega)
    rw [zpow_neg, zpow_ofNat] at hpow
    exact absurd (h.ten_pow_lt hzero) (not_lt.mpr (hhigh.le.trans hpow))
  · intro hlarge
    have hlength := decimalLength_pos digits
    have hpow : (10 : ℚ) ^ (310 : ℤ) ≤ 10 ^ ((decimalLength digits - 1 : ℕ) + exponent) :=
      zpow_le_zpow_right₀ (by norm_num) (by omega)
    rw [zpow_ofNat] at hpow
    exact absurd (h.lt_ten_pow hfinite) (not_lt.mpr (hpow.trans hlow))

end Double

end SqlClient
