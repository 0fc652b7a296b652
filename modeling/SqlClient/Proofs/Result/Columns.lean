import SqlClient.Proofs.Entries
import SqlClient.Proofs.Result.SecondPass

namespace SqlClient

/-- The type with which a column is declared. Of several declarations the last one counts. -/
def ResultMetadata.declaredType? (m : ResultMetadata) (column : String) : Option String :=
  (m.fields.reverse.find? fun f => f.name == column).map ResultField.type

theorem ResultMetadata.get?_columnTypes (m : ResultMetadata) (column : String) :
    m.columnTypes.get? column = m.declaredType? column := by
  rw [columnTypes, OrderedMap.get?_ofList, ← List.map_reverse, lookup?_map, declaredType?]

namespace Coercion

/-- What a cell of a floating-point column can hold. -/
inductive IsDoubleCell : Json → Prop
  | null : IsDoubleCell .null
  | float {x : Double} (hfinite : x.isFinite = true) : IsDoubleCell (Json.float x)

/-- What a cell of an integer column can hold: numbers without a fraction, which are
floating-point numbers only where the size is that of integers beyond 64 bits. -/
inductive IsIntegerCell : Json → Prop
  | null : IsIntegerCell .null
  | integer {n : ℤ} (hlow : -2 ^ 63 ≤ n) (hhigh : n < 2 ^ 63) : IsIntegerCell (Json.integer n)
  | float {x : Double} (hfinite : x.isFinite = true) (hwhole : x.value = wholePart x.value)
      (hlarge : 2 ^ 63 ≤ |x.value|) : IsIntegerCell (Json.float x)

/-- What becomes of a cell, by the type of its column. -/
inductive Becomes : Option String → Json → Json → Prop
  | integer {type : String} {v v' : Json} (htype : type ∈ ["int", "bigint"])
      (h : IsIntegerCell v') :
      Becomes (some type) v v'
  | double {v v' : Json} (h : IsDoubleCell v') : Becomes (some "double") v v'
  | same {type : Option String} {v : Json}
      (htype : ∀ name ∈ type, name ∉ ["int", "bigint", "double"]) :
      Becomes type v v

theorem isDoubleCell_floatCell (x : Double) : IsDoubleCell (floatCell x) := by
  unfold floatCell
  split
  · rename_i hfinite
    exact .float hfinite
  · exact .null

theorem isDoubleCell_doubleCell (v : Json) : IsDoubleCell (doubleCell v) := by
  cases v with
  | null => exact .null
  | bool value => exact .null
  | array items => exact .null
  | object members => exact .null
  | number n => exact isDoubleCell_floatCell _
  | string s =>
      rw [doubleCell]
      split
      · exact isDoubleCell_floatCell _
      · exact .null

theorem isIntegerCell_integer {n : ℤ} (h : isInt64 n = true) : IsIntegerCell (Json.integer n) :=
  .integer (isInt64_iff.mp h).1 (isInt64_iff.mp h).2

theorem isIntegerCell_float {x : Double} (hfinite : x.isFinite = true)
    (h : 2 ^ 63 ≤ x.magnitude) :
    IsIntegerCell (Json.float x) := by
  refine .float hfinite (Double.value_of_large (le_trans (by norm_num) h)) ?_
  rwa [Double.value, Double.abs_signed _ x.magnitude_nonneg]

theorem isIntegerCell_integerPrefix (t : List Char) : IsIntegerCell (integerPrefix t) := by
  by_cases hnone : ∀ z, ¬Leads z t
  · rw [integerPrefix_eq_null hnone]
    exact .null
  · obtain ⟨z, hz⟩ := not_forall_not.mp hnone
    rw [integerPrefix_of_leads hz]
    split
    · rename_i hfits
      exact isIntegerCell_integer hfits
    · rename_i hlarge
      rw [isInt64_iff] at hlarge
      rw [floatCell]
      split
      · rename_i hfinite
        exact isIntegerCell_float hfinite (Double.le_magnitude_ofInt hfinite (by omega))
      · exact .null

theorem isIntegerCell_wholeCell (x : Double) : IsIntegerCell (wholeCell x) := by
  by_cases hfinite : x.isFinite = true
  · by_cases hfits : isInt64 x.toInt = true
    · rw [wholeCell_of_isInt64 hfinite hfits, ← Double.toInt_eq]
      exact isIntegerCell_integer hfits
    · rw [wholeCell_of_not_isInt64 hfinite hfits]
      exact isIntegerCell_float hfinite (Double.le_magnitude_of_not_isInt64 hfits)
  · rw [wholeCell_of_not_isFinite hfinite]
    exact .null

theorem isIntegerCell_integerCell (v : Json) : IsIntegerCell (integerCell v) := by
  cases v with
  | null => exact .null
  | bool value => exact .null
  | array items => exact .null
  | object members => exact .null
  | string s => exact isIntegerCell_integerPrefix s.toList
  | number n =>
      cases n with
      | float x => exact isIntegerCell_wholeCell x
      | integer n =>
          rw [integerCell]
          split
          · rename_i hfits
            exact isIntegerCell_integer hfits
          · exact isIntegerCell_wholeCell _

theorem becomes_cell (type : Option String) (v : Json) : Becomes type v (cell type v) := by
  obtain ⟨hinteger, hcell⟩ | ⟨rfl, hcell⟩ | ⟨hother, hdouble, hcell⟩ := cell_cases type
  · rw [hcell]
    rcases hinteger with rfl | rfl
    · exact .integer (by simp) (isIntegerCell_integerCell v)
    · exact .integer (by simp) (isIntegerCell_integerCell v)
  · rw [hcell]
    exact .double (isDoubleCell_doubleCell v)
  · rw [hcell]
    refine .same ?_
    rintro name rfl
    simpa [and_assoc] using And.intro hother hdouble

/-- Rows come back in the same number and order, each with the same columns in the same order,
also where its cells are put together again as a map. A cell stays as it is unless the last type
declared for its column is numeric. Cells of floating-point columns are then null or finite
floating-point numbers, and cells of integer columns null, integers of 64 bits, or finite
floating-point numbers without a fraction. -/
theorem coerces_in_place (m : ResultMetadata) (rs : List Row) :
    List.Forall₂ (List.Forall₂ fun e e' => e'.1 = e.1 ∧ Becomes (m.declaredType? e.1) e.2 e'.2) rs
        (rows m.columnTypes rs) ∧
      ∀ r : OrderedMap Json, (OrderedMap.ofList (row m.columnTypes r.entries)).entries =
        row m.columnTypes r.entries := by
  constructor
  · rw [rows, List.forall₂_map_right_iff, List.forall₂_same]
    intro r _
    rw [row_eq_map, List.forall₂_map_right_iff, List.forall₂_same]
    intro e _
    rw [m.get?_columnTypes]
    exact ⟨rfl, becomes_cell _ _⟩
  · intro r
    apply OrderedMap.entries_ofList_of_nodup
    rw [keys_row]
    exact r.nodup

example : (ResultMetadata.mk [⟨"n", "int"⟩, ⟨"n", "string"⟩]).declaredType? "n" =
    some "string" := by
  decide

end Coercion

end SqlClient
