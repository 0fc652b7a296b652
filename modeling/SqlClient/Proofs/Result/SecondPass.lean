import SqlClient.Proofs.Result.Integers

/-!
Coercing rows that are coerced already. Only the cells change of which the text denotes an integer
just below those of 64 bits: it becomes a floating-point number, and that number itself fits 64
bits. Main statement: `settles_in_one_pass`.
-/

namespace SqlClient

theorem wholePart_least : wholePart (-2 ^ 63) = -2 ^ 63 := by
  have hcast : (-2 ^ 63 : ℚ) = ((-2 ^ 63 : ℤ) : ℚ) := by norm_num
  rw [wholePart, if_neg (by norm_num), hcast, Int.ceil_intCast]

namespace Double

theorem ofInt_of_near {z : ℤ} (hlow : -2 ^ 63 - 1024 ≤ z) (hhigh : z < -2 ^ 63) :
    (ofInt z).isFinite = true ∧ (ofInt z).value = -2 ^ 63 := by
  have hnearest := isNearest_ofInt z
  have hlarge : (2 : ℚ) ^ 63 ≤ z.natAbs := by
    exact_mod_cast (show 2 ^ 63 ≤ z.natAbs by omega)
  have hmiddle : (z.natAbs : ℚ) ≤ 2 ^ 63 + 1024 := by
    exact_mod_cast (show z.natAbs ≤ 2 ^ 63 + 1024 by omega)
  obtain ⟨hfinite, hmagnitude⟩ := hnearest.magnitude_of_le_middle hlarge hmiddle
  refine ⟨hfinite, ?_⟩
  rw [value, hnearest.sign, hmagnitude, signed, if_pos (decide_eq_true (by omega))]

/-- Of the integers beyond 64 bits, those just below are rounded to a number that fits 64 bits. -/
theorem isInt64_toInt_ofInt_iff {z : ℤ} (h : isInt64 z ≠ true) :
    (ofInt z).isFinite = true ∧ isInt64 (ofInt z).toInt = true ↔
      -2 ^ 63 - 1024 ≤ z ∧ z < -2 ^ 63 := by
  rw [Ne, isInt64_iff] at h
  have hlarge : 2 ^ 63 ≤ z.natAbs := by omega
  have hnearest := isNearest_ofInt z
  constructor
  · rintro ⟨hfinite, hfits⟩
    rw [isInt64_toInt_iff (le_magnitude_ofInt hfinite hlarge), hnearest.sign,
      decide_eq_true_eq] at hfits
    have hle := hnearest.le_middle (by exact_mod_cast hlarge) hfinite hfits.2
    have hle' : z.natAbs ≤ 2 ^ 63 + 1024 := by exact_mod_cast hle
    omega
  · rintro ⟨hlow, hhigh⟩
    obtain ⟨hfinite, hvalue⟩ := ofInt_of_near hlow hhigh
    rw [toInt_eq, hvalue, wholePart_least]
    exact ⟨hfinite, rfl⟩

end Double

namespace Coercion

/-- A cell that a second pass changes: a text in an integer column, with an integer in front that
is rounded up to the least one of 64 bits. -/
def IsUnsettled (type : Option String) (v : Json) : Prop :=
  (type = some "int" ∨ type = some "bigint") ∧
    ∃ s z, v = .string s ∧ Leads z s.toList ∧ -2 ^ 63 - 1024 ≤ z ∧ z < -2 ^ 63

theorem integerCell_integer {n : ℤ} (h : isInt64 n = true) :
    integerCell (Json.integer n) = Json.integer n := by
  rw [Json.integer, integerCell, if_pos h]
  rfl

theorem integerCell_floatCell_iff {x : Double} :
    integerCell (floatCell x) = floatCell x ↔ ¬(x.isFinite = true ∧ isInt64 x.toInt = true) := by
  rw [floatCell]
  split
  · rename_i hfinite
    change wholeCell x = Json.float x ↔ _
    by_cases hfits : isInt64 x.toInt = true
    · rw [wholeCell_of_isInt64 hfinite hfits]
      exact iff_of_false (by simp [Json.integer, Json.float]) (not_not_intro ⟨hfinite, hfits⟩)
    · rw [wholeCell_of_not_isInt64 hfinite hfits]
      exact iff_of_true rfl fun h => hfits h.2
  · rename_i hfinite
    exact iff_of_true rfl fun h => hfinite h.1

theorem wholeCell_of_not_isFinite {x : Double} (h : ¬x.isFinite = true) :
    wholeCell x = .null := by
  rw [wholeCell, Bool.eq_false_iff.mpr h, Double.trunc, if_neg h, floatCell, if_neg h]
  rfl

theorem integerCell_wholeCell (x : Double) : integerCell (wholeCell x) = wholeCell x := by
  by_cases hfinite : x.isFinite = true
  · by_cases hfits : isInt64 x.toInt = true
    · rw [wholeCell_of_isInt64 hfinite hfits, ← Double.toInt_eq]
      exact integerCell_integer hfits
    · rw [wholeCell_of_not_isInt64 hfinite hfits]
      exact wholeCell_of_not_isInt64 hfinite hfits
  · rw [wholeCell_of_not_isFinite hfinite]
    rfl

theorem integerCell_integerPrefix_iff (t : List Char) :
    integerCell (integerPrefix t) = integerPrefix t ↔
      ¬∃ z, Leads z t ∧ -2 ^ 63 - 1024 ≤ z ∧ z < -2 ^ 63 := by
  have hleads : ∀ z, Leads z t → (integerCell (integerPrefix t) = integerPrefix t ↔
      ¬(-2 ^ 63 - 1024 ≤ z ∧ z < -2 ^ 63)) := by
    intro z hz
    rw [integerPrefix_of_leads hz]
    split
    · rename_i hfits
      rw [isInt64_iff] at hfits
      exact iff_of_true (integerCell_integer (isInt64_iff.mpr hfits)) (by omega)
    · rename_i hlarge
      rw [integerCell_floatCell_iff, Double.isInt64_toInt_ofInt_iff hlarge]
  by_cases hnone : ∀ z, ¬Leads z t
  · rw [integerPrefix_eq_null hnone]
    exact iff_of_true rfl (not_exists.mpr fun z h => hnone z h.1)
  · obtain ⟨z, hz⟩ := not_forall_not.mp hnone
    constructor
    · rintro hsettled ⟨z', hz', hnear⟩
      exact (hleads z' hz').mp hsettled hnear
    · intro hsettled
      exact (hleads z hz).mpr fun hnear => hsettled ⟨z, hz, hnear⟩

theorem integerCell_integerCell_iff (v : Json) :
    integerCell (integerCell v) = integerCell v ↔
      ¬∃ s z, v = .string s ∧ Leads z s.toList ∧ -2 ^ 63 - 1024 ≤ z ∧ z < -2 ^ 63 := by
  by_cases htext : ∃ s, v = .string s
  · obtain ⟨s, rfl⟩ := htext
    simpa [integerCell] using integerCell_integerPrefix_iff s.toList
  · refine iff_of_true ?_ ?_
    · cases v with
      | null => rfl
      | bool value => rfl
      | array items => rfl
      | object members => rfl
      | string s => exact absurd ⟨s, rfl⟩ htext
      | number n =>
          cases n with
          | float x => exact integerCell_wholeCell x
          | integer n =>
              rw [integerCell]
              split
              · rename_i hfits
                exact integerCell_integer hfits
              · exact integerCell_wholeCell _
    · rintro ⟨s, _, hv, _⟩
      exact htext ⟨s, hv⟩

theorem doubleCell_floatCell (x : Double) : doubleCell (floatCell x) = floatCell x := by
  unfold floatCell
  split
  · rename_i hfinite
    exact if_pos hfinite
  · rfl

theorem doubleCell_doubleCell (v : Json) : doubleCell (doubleCell v) = doubleCell v := by
  cases v with
  | null => rfl
  | bool value => rfl
  | array items => rfl
  | object members => rfl
  | number n => exact doubleCell_floatCell _
  | string s =>
      rw [doubleCell]
      split
      · exact doubleCell_floatCell _
      · rfl

theorem cell_cases (type : Option String) :
    (type = some "int" ∨ type = some "bigint") ∧ cell type = integerCell ∨
      type = some "double" ∧ cell type = doubleCell ∨
      ¬(type = some "int" ∨ type = some "bigint") ∧ type ≠ some "double" ∧ cell type = id := by
  by_cases hinteger : type = some "int" ∨ type = some "bigint"
  · refine .inl ⟨hinteger, ?_⟩
    rcases hinteger with rfl | rfl
    · exact cell_integerType (by simp)
    · exact cell_integerType (by simp)
  · by_cases hdouble : type = some "double"
    · subst hdouble
      exact .inr (.inl ⟨rfl, rfl⟩)
    · refine .inr (.inr ⟨hinteger, hdouble, funext fun v => ?_⟩)
      unfold cell
      split
      · exact absurd (.inl rfl) hinteger
      · exact absurd (.inr rfl) hinteger
      · exact absurd rfl hdouble
      · rfl

theorem cell_cell_eq_iff (type : Option String) (v : Json) :
    cell type (cell type v) = cell type v ↔ ¬IsUnsettled type v := by
  obtain ⟨hinteger, hcell⟩ | ⟨rfl, hcell⟩ | ⟨hother, -, hcell⟩ := cell_cases type
  · rw [hcell, IsUnsettled, integerCell_integerCell_iff, and_iff_right hinteger]
  · rw [hcell]
    exact iff_of_true (doubleCell_doubleCell v) (by simp [IsUnsettled])
  · rw [hcell]
    exact iff_of_true rfl fun h => hother h.1

theorem row_row_eq_iff (types : OrderedMap String) (r : Row) :
    row types (row types r) = row types r ↔ ∀ e ∈ r, ¬IsUnsettled (types.get? e.1) e.2 := by
  rw [row_eq_map, row_eq_map, List.map_map, List.map_inj_left]
  simp only [Function.comp_apply, Prod.mk.injEq, true_and, cell_cell_eq_iff]

theorem floatCell_ne_integer (x : Double) (n : ℤ) : floatCell x ≠ Json.integer n := by
  unfold floatCell
  split <;> simp [Json.integer, Json.float]

theorem exists_integerPrefix_iff {z : ℤ} {t : List Char} (h : Leads z t) :
    (∃ n, integerPrefix t = Json.integer n) ↔ isInt64 z = true := by
  rw [integerPrefix_of_leads h]
  split
  · rename_i hfits
    exact iff_of_true ⟨z, rfl⟩ hfits
  · rename_i hlarge
    exact iff_of_false (not_exists.mpr (floatCell_ne_integer _)) hlarge

theorem exists_integerCell_integer_iff {n : ℤ} (hlow : -2 ^ 63 ≤ n) (hhigh : n < 2 ^ 64) :
    (∃ m, integerCell (Json.integer n) = Json.integer m) ↔ n < 2 ^ 63 := by
  by_cases hfits : isInt64 n = true
  · exact iff_of_true ⟨n, integerCell_integer hfits⟩ (isInt64_iff.mp hfits).2
  · rw [Json.integer, integerCell, if_neg hfits]
    rw [isInt64_iff] at hfits
    rw [wholeCell_ofInt (by omega) hhigh]
    exact iff_of_false (not_exists.mpr (floatCell_ne_integer _)) (by omega)

theorem exists_wholeCell_iff {x : Double} (hfinite : x.isFinite = true) :
    (∃ n, wholeCell x = Json.integer n) ↔ isInt64 (wholePart x.value) = true := by
  rw [← Double.toInt_eq]
  by_cases hfits : isInt64 x.toInt = true
  · exact iff_of_true ⟨_, wholeCell_of_isInt64 hfinite hfits⟩ hfits
  · rw [wholeCell_of_not_isInt64 hfinite hfits]
    exact iff_of_false (not_exists.mpr fun n => by simp [Json.integer, Json.float]) hfits

theorem exists_float_of_near {s : String} {z : ℤ} (h : Leads z s.toList)
    (hlow : -2 ^ 63 - 1024 ≤ z)
    (hhigh : z < -2 ^ 63) : ∃ x : Double, x.value = -2 ^ 63 ∧
      integerCell (.string s) = Json.float x ∧
        integerCell (Json.float x) = Json.integer (-2 ^ 63) := by
  obtain ⟨hfinite, hvalue⟩ := Double.ofInt_of_near hlow hhigh
  have hlarge : isInt64 z ≠ true := by
    rw [Ne, isInt64_iff]
    omega
  refine ⟨Double.ofInt z, hvalue, ?_, ?_⟩
  · rw [integerCell, integerPrefix_of_leads h, if_neg hlarge, floatCell, if_pos hfinite]
  · have hfits := ((Double.isInt64_toInt_ofInt_iff hlarge).mpr ⟨hlow, hhigh⟩).2
    have hread := wholeCell_of_isInt64 hfinite hfits
    rwa [hvalue, wholePart_least] at hread

/-- A second pass changes nothing, save in rows with a text in an integer column of which the
integer is beyond 64 bits but is rounded to the least one of 64 bits. In integer columns a text
becomes an integer if the integer that it denotes fits 64 bits, and a number if its own whole part
does. -/
theorem settles_in_one_pass :
    (∀ (types : OrderedMap String) (r : Row),
      row types (row types r) = row types r ↔ ∀ e ∈ r, ¬IsUnsettled (types.get? e.1) e.2) ∧
    ∀ type ∈ ["int", "bigint"],
      (∀ (s : String) (z : ℤ), Leads z s.toList → -2 ^ 63 - 1024 ≤ z → z < -2 ^ 63 →
        ∃ x : Double, x.value = -2 ^ 63 ∧ cell (some type) (.string s) = Json.float x ∧
          cell (some type) (Json.float x) = Json.integer (-2 ^ 63)) ∧
      (∀ (s : String) (z : ℤ), Leads z s.toList →
        ((∃ n, cell (some type) (.string s) = Json.integer n) ↔ -2 ^ 63 ≤ z ∧ z < 2 ^ 63)) ∧
      (∀ n : ℤ, -2 ^ 63 ≤ n → n < 2 ^ 64 →
        ((∃ m, cell (some type) (Json.integer n) = Json.integer m) ↔ n < 2 ^ 63)) ∧
      ∀ x : Double, x.isFinite = true →
        ((∃ n, cell (some type) (Json.float x) = Json.integer n) ↔
          -2 ^ 63 ≤ wholePart x.value ∧ wholePart x.value < 2 ^ 63) := by
  refine ⟨row_row_eq_iff, ?_⟩
  intro type htype
  simp only [cell_integerType htype, ← isInt64_iff]
  exact ⟨fun s z => exists_float_of_near, fun s z => exists_integerPrefix_iff,
    fun n => exists_integerCell_integer_iff, fun x => exists_wholeCell_iff⟩

theorem settles_in_one_pass_least :
    Leads (-2 ^ 63 - 1) (integerText (-2 ^ 63 - 1)) ∧
      (∃ x : Double, cell (some "bigint") (Json.float x) = Json.integer (-2 ^ 63)) ∧
      (¬∃ n, cell (some "bigint") (.string (String.ofList (integerText (-2 ^ 63 - 1)))) =
        Json.integer n) ∧
      (∃ m, cell (some "bigint") (Json.integer (-2 ^ 63)) = Json.integer m) ∧
      (Double.edge true).isFinite = true ∧
      ∃ n, cell (some "bigint") (Json.float (Double.edge true)) = Json.integer n := by
  have hleads := leads_integerText (-2 ^ 63 - 1)
  have hleads' : Leads (-2 ^ 63 - 1) (String.ofList (integerText (-2 ^ 63 - 1))).toList := by
    rwa [String.toList_ofList]
  obtain ⟨hnear, htext, hinteger, hfloat⟩ := settles_in_one_pass.2 "bigint" (by simp)
  refine ⟨hleads, ?_, ?_, ?_, by decide, ?_⟩
  · obtain ⟨x, -, -, hx⟩ := hnear _ _ hleads' (by norm_num) (by norm_num)
    exact ⟨x, hx⟩
  · rw [htext _ _ hleads']
    norm_num
  · rw [hinteger _ le_rfl (by norm_num)]
    norm_num
  · have hpart : wholePart (Double.edge true).value = -2 ^ 63 := by
      rw [← Double.toInt_eq]
      decide +kernel
    rw [hfloat _ (by decide), hpart]
    norm_num

/-- The integer just below those of 64 bits becomes a floating-point number, and that number an
integer. -/
theorem second_pass_changes_row :
    row (OrderedMap.ofList [("id", "bigint")]) [("id", .string "-9223372036854775809")] =
        [("id", Json.float (Double.edge true))] ∧
      row (OrderedMap.ofList [("id", "bigint")]) [("id", Json.float (Double.edge true))] =
        [("id", Json.integer (-2 ^ 63))] ∧
      ¬∀ (types : OrderedMap String) (r : Row), row types (row types r) = row types r := by
  have hrow : ∀ v, row (OrderedMap.ofList [("id", "bigint")]) [("id", v)] =
      [("id", integerCell v)] :=
    fun v => rfl
  have hfirst : integerCell (.string "-9223372036854775809") = Json.float (Double.edge true) := by
    have htext : "-9223372036854775809".toList = integerText (-2 ^ 63 - 1) := by decide +kernel
    have hrounded : Double.ofInt (-2 ^ 63 - 1) = Double.edge true := by decide +kernel
    rw [integerCell, htext, integerPrefix_integerText, if_neg (by decide), hrounded]
    rfl
  have hsecond : integerCell (Json.float (Double.edge true)) = Json.integer (-2 ^ 63) := by
    have hpart : (Double.edge true).toInt = -2 ^ 63 := by decide +kernel
    have hread := wholeCell_of_isInt64 (x := Double.edge true) (by decide) (by rw [hpart]; decide)
    rwa [← Double.toInt_eq, hpart] at hread
  rw [hrow, hrow, hfirst, hsecond]
  refine ⟨rfl, rfl, ?_⟩
  intro hall
  have hsame := hall (OrderedMap.ofList [("id", "bigint")])
    [("id", .string "-9223372036854775809")]
  rw [hrow, hfirst, hrow, hsecond] at hsame
  simp [Json.integer, Json.float] at hsame

end Coercion

end SqlClient
