import SqlClient.Proofs.Number.LargeText
import SqlClient.Proofs.Statement.Comparison

namespace SqlClient

/-- A place in a JSON value: the value itself, or one in an item of an array. -/
inductive JsonPlace
  | here
  | item (before : List Json) (place : JsonPlace) (after : List Json)

namespace JsonPlace

/-- The value with the given one in the place. -/
def fill : JsonPlace → Json → Json
  | here, v => v
  | item before place after, v => .array (before ++ place.fill v :: after)

end JsonPlace

/-- A place in a condition in JSON: in the value that the column has to equal, or in the operand
of the operator that the first member of an object names. -/
inductive ConditionPlace
  | value (place : JsonPlace)
  | operand (key : String) (place : JsonPlace) (others : List (String × Json))

namespace ConditionPlace

def fill : ConditionPlace → Json → Json
  | value place, v => place.fill v
  | operand key place others, v => .object ((key, place.fill v) :: others)

/-- The names of the operators. -/
def operatorNames : List String :=
  ["between", "like", "ne", "in", "notIn", "gt", "lt"]

/-- Whether the place is read: that of an unknown operator is not, and neither is one behind the
first two items of a range. -/
def IsRead : ConditionPlace → Prop
  | value _ => True
  | operand key .here _ => Operator.bareName key ∈ operatorNames
  | operand key (.item before _ _) _ => Operator.bareName key ∈ operatorNames ∧
      (Operator.bareName key = "between" → before.length < 2)

end ConditionPlace

/-- Whether a text arises from another one by adding the same texts around it, whichever it is. -/
def Surrounds (text inner : ℤ → String) : Prop :=
  ∃ left right, ∀ n, text n = left ++ inner n ++ right

namespace Surrounds

variable {text inner outer : ℤ → String}

theorem refl (text : ℤ → String) : Surrounds text text :=
  ⟨"", "", fun n => by simp⟩

theorem trans (houter : Surrounds outer text) (hinner : Surrounds text inner) :
    Surrounds outer inner := by
  obtain ⟨left, right, houter⟩ := houter
  obtain ⟨left', right', hinner⟩ := hinner
  refine ⟨left ++ left', right' ++ right, fun n => ?_⟩
  rw [houter, hinner]
  simp only [String.append_assoc]

theorem of_eq (h : ∀ n, text n = inner n) : Surrounds text inner :=
  ⟨"", "", fun n => by simp [h n]⟩

theorem around (left right : String) (text : ℤ → String) :
    Surrounds (fun n => left ++ text n ++ right) text :=
  ⟨left, right, fun _ => rfl⟩

theorem intercalate (sep : String) (before after : List String) (text : ℤ → String) :
    Surrounds (fun n => sep.intercalate (before ++ text n :: after)) text := by
  induction before with
  | nil =>
      rcases eq_or_ne after [] with rfl | hafter
      · exact of_eq fun n => String.intercalate_singleton
      · refine ⟨"", sep ++ sep.intercalate after, fun n => ?_⟩
        dsimp only
        rw [List.nil_append, String.intercalate_cons_of_ne_nil hafter, String.empty_append,
          String.append_assoc]
  | cons first before ih =>
      refine trans ⟨first ++ sep, "", fun n => ?_⟩ ih
      dsimp only
      rw [List.cons_append, String.intercalate_cons_of_ne_nil (by simp), String.append_empty]

end Surrounds

namespace SqlValue

theorem ofJsonItems_eq_map (items : List Json) : ofJsonItems items = items.map ofJson := by
  induction items with
  | nil => rfl
  | cons v rest ih => rw [ofJsonItems, ih, List.map_cons]

theorem itemLiteral_ofInteger (n : ℤ) : (ofInteger n).itemLiteral = (ofInteger n).literal := by
  unfold ofInteger
  split <;> rfl

end SqlValue

namespace JsonPlace

open SqlValue

theorem ofJson_fill_item (before : List Json) (place : JsonPlace) (after : List Json) (v : Json) :
    ofJson ((item before place after).fill v) =
      list (before.map ofJson ++ ofJson (place.fill v) :: after.map ofJson) := by
  rw [fill, ofJson, ofJsonItems_eq_map, List.map_append, List.map_cons]

theorem surrounds_itemLiteral (place : JsonPlace) :
    Surrounds (fun n => (ofJson (place.fill (Json.integer n))).itemLiteral)
      (fun n => (ofJson (place.fill (Json.integer n))).literal) := by
  cases place with
  | here => exact .of_eq itemLiteral_ofInteger
  | item before place after => exact .around "(" ")" _

theorem surrounds_literal (place : JsonPlace) :
    Surrounds (fun n => (ofJson (place.fill (Json.integer n))).literal)
      (fun n => (ofInteger n).literal) := by
  induction place with
  | here => exact .refl _
  | item before place after ih =>
      refine .trans (.of_eq fun n => ?_)
        ((Surrounds.intercalate ", " (before.map (itemLiteral ∘ ofJson))
        (after.map (itemLiteral ∘ ofJson)) _).trans (place.surrounds_itemLiteral.trans ih))
      rw [ofJson_fill_item, literal_list, List.map_append, List.map_cons, List.map_map,
        List.map_map]

theorem surrounds_plainText (place : JsonPlace) :
    Surrounds (fun n => (ofJson (place.fill (Json.integer n))).plainText)
      (fun n => (ofInteger n).plainText) := by
  induction place with
  | here => exact .refl _
  | item before place after ih =>
      refine .trans (.of_eq fun n => ?_)
        ((Surrounds.intercalate "," (before.map (plainText ∘ ofJson))
        (after.map (plainText ∘ ofJson)) _).trans ih)
      rw [ofJson_fill_item, plainText, plainTexts_eq_map, List.map_append, List.map_cons,
        List.map_map, List.map_map]

end JsonPlace

namespace ConditionPlace

open SqlValue

theorem isRead_operand_iff {key : String} {place : JsonPlace} {others : List (String × Json)} :
    (operand key place others).IsRead ↔ Operator.bareName key ∈ operatorNames ∧
      (Operator.bareName key = "between" →
        ∀ before inner after, place = .item before inner after → before.length < 2) := by
  cases place with
  | here => simp [IsRead]
  | item before inner after =>
      refine and_congr_right fun _ => forall_congr' fun _ =>
        ⟨?_, fun h => h before inner after rfl⟩
      rintro hlength _ _ _ ⟨⟩
      exact hlength

theorem exists_ofKey_eq {key : String} (hkey : Operator.bareName key ∈ operatorNames)
    (hne : Operator.bareName key ≠ "between") :
    ∃ (make : SqlValue → Operator) (opening closing : String),
      (∀ operand, Operator.ofKey? key operand = some (make (ofJson operand))) ∧
        ∀ column v, (make v).render column = column ++ opening ++ v.literal ++ closing := by
  simp only [operatorNames, List.mem_cons, List.not_mem_nil, or_false] at hkey
  unfold Operator.ofKey?
  rcases hkey with hkey | hkey | hkey | hkey | hkey | hkey | hkey
  · exact absurd hkey hne
  all_goals rw [hkey]
  · exact ⟨.like, " like ", "", fun _ => rfl, fun _ _ => String.append_empty.symm⟩
  · exact ⟨.notEqual, " != ", "", fun _ => rfl, fun _ _ => String.append_empty.symm⟩
  · exact ⟨.oneOf, " in (", ")", fun _ => rfl, fun _ _ => rfl⟩
  · exact ⟨.noneOf, " not in (", ")", fun _ => rfl, fun _ _ => rfl⟩
  · exact ⟨.greater, " > ", "", fun _ => rfl, fun _ _ => String.append_empty.symm⟩
  · exact ⟨.less, " < ", "", fun _ => rfl, fun _ _ => String.append_empty.symm⟩

theorem surrounds_low (low : ℤ → SqlValue) (high : SqlValue) (column : String) :
    Surrounds (fun n => (Operator.between (low n) high).render column)
      (fun n => (low n).literal) :=
  ⟨column ++ " between ", " and " ++ high.literal,
    fun n => by simp [Operator.render, String.append_assoc]⟩

theorem surrounds_high (low : SqlValue) (high : ℤ → SqlValue) (column : String) :
    Surrounds (fun n => (Operator.between low (high n)).render column)
      (fun n => (high n).literal) :=
  ⟨column ++ " between " ++ low.literal ++ " and ", "", fun n => by simp [Operator.render]⟩

theorem exists_bounds_eq {place : JsonPlace}
    (h : ∀ before inner after, place = .item before inner after → before.length < 2) :
    ∃ low high : ℤ → SqlValue,
      (∀ n, Operator.bounds (place.fill (Json.integer n)) = (low n, high n)) ∧
      ∀ column, Surrounds (fun n => (Operator.between (low n) (high n)).render column)
        (fun n => (ofInteger n).literal) := by
  cases place with
  | here => exact ⟨ofInteger, fun _ => .null, fun n => rfl, surrounds_low _ _⟩
  | item before place after =>
      rcases before with _ | ⟨low, before⟩
      · cases after with
        | nil =>
            exact ⟨fun n => ofJson (place.fill (Json.integer n)), fun _ => .null, fun n => rfl,
              fun column => (surrounds_low _ _ column).trans place.surrounds_literal⟩
        | cons high after =>
            exact ⟨fun n => ofJson (place.fill (Json.integer n)), fun _ => ofJson high,
              fun n => rfl,
              fun column => (surrounds_low _ _ column).trans place.surrounds_literal⟩
      · have hlength := h (low :: before) place after rfl
        obtain rfl : before = [] := List.eq_nil_of_length_eq_zero (by simpa using hlength)
        exact ⟨fun _ => ofJson low, fun n => ofJson (place.fill (Json.integer n)), fun n => rfl,
          fun column => (surrounds_high _ _ column).trans place.surrounds_literal⟩

theorem exists_surrounds_render {place : ConditionPlace} (h : place.IsRead) :
    ∃ p : ℤ → Predicate, (∀ n, Predicate.ofJson? (place.fill (Json.integer n)) = some (p n)) ∧
      ∀ column, Surrounds (fun n => (p n).render column) (fun n => (ofInteger n).literal) := by
  cases place with
  | value place =>
      refine ⟨fun n => .equals (ofJson (place.fill (Json.integer n))), fun n => ?_,
        fun column => ?_⟩
      · cases place <;> rfl
      · refine Surrounds.trans ⟨column ++ " = ", "", fun n => ?_⟩ place.surrounds_literal
        simp [Predicate.render]
  | operand key place others =>
      obtain ⟨hkey, hbounds⟩ := isRead_operand_iff.mp h
      by_cases hrange : Operator.bareName key = "between"
      · obtain ⟨low, high, hread, hrender⟩ := exists_bounds_eq (hbounds hrange)
        refine ⟨fun n => .compares (.between (low n) (high n)), fun n => ?_, hrender⟩
        rw [fill, Predicate.ofJson?, Operator.ofKey?, hrange, hread]
        rfl
      · obtain ⟨make, opening, closing, hread, hrender⟩ := exists_ofKey_eq hkey hrange
        refine ⟨fun n => .compares (make (ofJson (place.fill (Json.integer n)))), fun n => ?_,
          fun column => ?_⟩
        · rw [fill, Predicate.ofJson?, hread]
          rfl
        · refine Surrounds.trans ⟨column ++ opening, closing, fun n => ?_⟩ place.surrounds_literal
          exact hrender column _

end ConditionPlace

theorem ofInteger_of_large {n : ℤ} (hlow : 2 ^ 63 ≤ n) (hhigh : n < 2 ^ 64) :
    ∃ (x : Double) (m : ℕ), SqlValue.ofInteger n = .float x ∧
      Double.IsNearest false n x ∧ 100 ∣ m ∧
      Double.IsNearest false m x ∧ SqlValue.floatText x = SqlValue.intText m := by
  have hnot : isInt64 n ≠ true := by
    rw [Ne, isInt64_iff]
    omega
  obtain ⟨k, rfl⟩ := Int.eq_ofNat_of_zero_le (show 0 ≤ n by omega)
  have hnearest := Double.isNearest_ofInt k
  rw [Int.natAbs_natCast, decide_eq_false (by omega)] at hnearest
  have hk : (2 : ℚ) ^ 63 ≤ k := by exact_mod_cast hlow
  have hk' : (k : ℚ) < 2 ^ 64 := by exact_mod_cast hhigh
  have hfinite := Double.isFinite_ofInt (show (k : ℤ).natAbs < 2 ^ 64 by omega)
  have hlarge := Double.le_magnitude_ofInt hfinite (by omega)
  obtain ⟨-, hedge, -⟩ := Double.edge_spec false
  have hnear := hnearest.abs_magnitude_sub_le hfinite hedge
  rw [Double.magnitude_edge, abs_sub_comm (2 ^ 63), abs_of_nonneg (sub_nonneg.mpr hk)] at hnear
  have hsmall : (Double.ofInt k).magnitude ≤ 2 ^ 65 := by
    linarith [le_abs_self ((Double.ofInt k).magnitude - k)]
  obtain ⟨m, hzeros, hm, htext⟩ :=
    SqlValue.floatText_of_large hfinite hnearest.sign hlarge hsmall
  exact ⟨Double.ofInt k, m, if_neg hnot, by exact_mod_cast hnearest, hzeros, hm, htext⟩

/-- An integer of 64 bits is written with all its digits. Beyond, up to those without a sign, it
is written as the floating-point number that is nearest to it, with the digits of an integer that
is rounded alike and ends with two zeros. In lists, in equality and in the operands of all
operators an integer is written as it is alone. -/
theorem writes_integers :
    (∀ n : ℤ, SqlValue.ofJson (Json.integer n) = SqlValue.ofInteger n) ∧
    (∀ n : ℤ, -2 ^ 63 ≤ n → n < 2 ^ 63 →
      (SqlValue.ofInteger n).literal = SqlValue.intText n ∧
        (SqlValue.ofInteger n).plainText = SqlValue.intText n) ∧
    (∀ n : ℤ, 2 ^ 63 ≤ n → n < 2 ^ 64 → ∃ (x : Double) (m : ℕ), SqlValue.ofInteger n = .float x ∧
      Double.IsNearest false n x ∧ 100 ∣ m ∧ Double.IsNearest false m x ∧
        (SqlValue.ofInteger n).literal = SqlValue.intText m ∧
          (SqlValue.ofInteger n).plainText = SqlValue.intText m) ∧
    (∀ place : JsonPlace,
      Surrounds (fun n => (SqlValue.ofJson (place.fill (Json.integer n))).literal)
        (fun n => (SqlValue.ofInteger n).literal) ∧
      Surrounds (fun n => (SqlValue.ofJson (place.fill (Json.integer n))).plainText)
        (fun n => (SqlValue.ofInteger n).plainText)) ∧
    ∀ place : ConditionPlace, place.IsRead → ∃ p : ℤ → Predicate,
      (∀ n, Predicate.ofJson? (place.fill (Json.integer n)) = some (p n)) ∧
        ∀ column, Surrounds (fun n => (p n).render column)
          (fun n => (SqlValue.ofInteger n).literal) := by
  refine ⟨fun n => rfl, ?_, ?_, fun place => ⟨place.surrounds_literal, place.surrounds_plainText⟩,
    fun place => ConditionPlace.exists_surrounds_render⟩
  · intro n hlow hhigh
    rw [SqlValue.ofInteger, if_pos (isInt64_iff.mpr ⟨hlow, hhigh⟩)]
    exact ⟨rfl, rfl⟩
  · intro n hlow hhigh
    obtain ⟨x, m, hvalue, hx, hzeros, hm, htext⟩ := ofInteger_of_large hlow hhigh
    refine ⟨x, m, hvalue, hx, hzeros, hm, ?_, ?_⟩
    · rw [hvalue, SqlValue.literal, htext]
    · rw [hvalue, SqlValue.plainText, htext]

theorem writes_integers_least :
    (SqlValue.ofInteger (-2 ^ 63)).literal = SqlValue.intText (-2 ^ 63) ∧
      (∃ m : ℕ, 100 ∣ m ∧ (SqlValue.ofInteger (2 ^ 63)).literal = SqlValue.intText m) ∧
      (ConditionPlace.operand "$in" (.item [] .here []) []).IsRead ∧
      ∃ p : ℤ → Predicate,
        ∀ column, Surrounds (fun n => (p n).render column)
          (fun n => (SqlValue.ofInteger n).literal) := by
  have hread : (ConditionPlace.operand "$in" (.item [] .here []) []).IsRead :=
    ⟨by decide, fun _ => Nat.zero_lt_two⟩
  obtain ⟨-, hsmall, hlarge, -, hplaces⟩ := writes_integers
  obtain ⟨x, m, -, -, hzeros, -, htext, -⟩ := hlarge (2 ^ 63) le_rfl (by norm_num)
  obtain ⟨p, -, hp⟩ := hplaces _ hread
  exact ⟨(hsmall _ le_rfl (by norm_num)).1, ⟨m, hzeros, htext⟩, hread, p, hp⟩

/-- The integer after the first one beyond 64 bits is not written with its own digits. -/
theorem rounds_large_integer :
    (SqlValue.ofInteger 9223372036854775809).literal = "9223372036854776000" ∧
      (SqlValue.ofInteger 9223372036854775809).plainText = "9223372036854776000" ∧
      ¬∀ n : ℤ, -2 ^ 63 ≤ n → n < 2 ^ 64 →
        (SqlValue.ofInteger n).literal = SqlValue.intText n := by
  have hliteral : (SqlValue.ofInteger 9223372036854775809).literal = "9223372036854776000" := by
    decide +kernel
  have hown : SqlValue.intText 9223372036854775809 = "9223372036854775809" := by decide +kernel
  refine ⟨hliteral, by decide +kernel, ?_⟩
  intro hall
  have hsame := hall 9223372036854775809 (by norm_num) (by norm_num)
  rw [hliteral, hown] at hsame
  exact absurd hsame (by decide)

end SqlClient
