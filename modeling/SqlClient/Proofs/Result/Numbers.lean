import SqlClient.Proofs.Result.Integers

namespace SqlClient

namespace Coercion

theorem doubleCell_floatText (x : Double) :
    doubleCell (.string (SqlValue.floatText x)) =
      if x.isFinite then Json.float (if x.isZero then Double.zero false else x) else .null := by
  have hskip : skipBlanks (SqlValue.floatText x).toList = SqlValue.floatLayout.render x := by
    rw [skipBlanks_eq_self (fun c => SqlValue.isNumeralChar_of_mem_floatText), SqlValue.floatText,
      String.toList_ofList]
  rw [doubleCell, hskip]
  by_cases hfinite : x.isFinite = true
  · rw [if_pos hfinite]
    cases hzero : x.isZero with
    | true =>
        have htext : SqlValue.floatLayout.render x = ['0'] := by
          rw [FloatLayout.render, Double.isNaN_of_isFinite hfinite, hzero]
          cases x.isNegative <;> rfl
        rw [htext]
        rfl
    | false =>
        obtain ⟨n, hscan, hn⟩ :=
          FloatLayout.scan_render (l := SqlValue.floatLayout) rfl hfinite hzero
        rw [hscan]
        simp only [hn, floatCell, hfinite, if_true, Bool.false_eq_true, if_false]
  · rw [if_neg hfinite]
    have hsize : Double.infiniteSize ≤ x.size := by
      simpa [Double.isFinite] using hfinite
    by_cases hnan : x.isNaN = true
    · rw [FloatLayout.render, if_pos hnan]
      rfl
    · have hinfinite : x.size = Double.infiniteSize :=
        Nat.le_antisymm (by simpa [Double.isNaN] using hnan) hsize
      have htext : SqlValue.floatLayout.render x =
          if x.isNegative then "-Infinity".toList else "Infinity".toList := by
        rw [FloatLayout.render, if_neg hnan, Double.isZero, Double.isInfinite, hinfinite]
        cases x.isNegative <;> rfl
      rw [htext]
      cases x.isNegative <;> rfl

/-- Integers of 64 bits come back from integer columns. Finite floating-point numbers come back
from floating-point columns, both zeros as zero, and all others become null. -/
theorem reads_back :
    (∀ n, isInt64 n = true → ∀ type ∈ ["int", "bigint"],
      cell (some type) (.string (SqlValue.int n).literal) = Json.integer n) ∧
    ∀ x : Double, cell (some "double") (.string (SqlValue.float x).literal) =
      if x.isFinite then Json.float (if x.isZero then Double.zero false else x) else .null := by
  constructor
  · intro n hn type htype
    have hread : integerCell (.string (SqlValue.int n).literal) = Json.integer n := by
      rw [integerCell, SqlValue.literal, SqlValue.intText, String.toList_ofList,
        integerPrefix_integerText, if_pos hn]
    rcases List.mem_pair.mp htype with rfl | rfl
    · exact hread
    · exact hread
  · intro x
    rw [SqlValue.literal]
    exact doubleCell_floatText x

theorem reads_back_least :
    isInt64 (-Int.pow 2 63) = true ∧
      cell (some "bigint") (.string (SqlValue.int (-Int.pow 2 63)).literal) =
        Json.integer (-Int.pow 2 63) ∧
      cell (some "double") (.string (SqlValue.float (Double.ofSize true 1)).literal) =
        Json.float (Double.ofSize true 1) := by
  have hint : isInt64 (-Int.pow 2 63) = true := by decide
  obtain ⟨hreadInt, hreadDouble⟩ := reads_back
  exact ⟨hint, hreadInt _ hint "bigint" (by simp), hreadDouble _⟩

end Coercion

end SqlClient
