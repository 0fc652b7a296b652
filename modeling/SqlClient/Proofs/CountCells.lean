import SqlClient.Proofs.Paging
import SqlClient.Proofs.Result.Integers

namespace SqlClient

/-- The cells in which a number can be delivered: the number itself, or its text with blanks
around it. -/
inductive Delivers (n : JsonNumber) : Json → Prop
  | number : Delivers n (.number n)
  | text {s : String} {before after : List Char} (hbefore : ∀ c ∈ before, isBlankChar c = true)
      (hafter : ∀ c ∈ after, isBlankChar c = true)
      (hs : s.toList = before ++ (n.chars ++ after)) :
      Delivers n (.string s)

theorem trimBlanks_around {before text after : List Char}
    (hbefore : ∀ c ∈ before, isBlankChar c = true)
    (hafter : ∀ c ∈ after, isBlankChar c = true) (htext : ∀ c ∈ text, isNumeralChar c = true)
    (hne : text ≠ []) : trimBlanks (before ++ (text ++ after)) = text := by
  have hskip : ∀ blanks inner rest : List Char, (∀ c ∈ blanks, isBlankChar c = true) →
      (∀ c ∈ inner, isNumeralChar c = true) → inner ≠ [] →
      Coercion.skipBlanks (blanks ++ (inner ++ rest)) = inner ++ rest := by
    intro blanks inner rest hblanks hinner hinnerNe
    apply Coercion.skipBlanks_append hblanks
    obtain ⟨first, inner, rfl⟩ := List.exists_cons_of_ne_nil hinnerNe
    rintro _ ⟨⟩
    exact isBlankChar_of_isNumeralChar (hinner first List.mem_cons_self)
  have hfront := hskip before text after hbefore htext hne
  have hback := hskip after.reverse text.reverse [] (by simpa using hafter) (by simpa using htext)
    (by simpa using hne)
  change (Coercion.skipBlanks (Coercion.skipBlanks _).reverse).reverse = text
  rw [List.append_nil] at hback
  rw [hfront, List.reverse_append, hback, List.reverse_reverse]

theorem readCounter?_of_digits {cs : List Char} (hne : cs ≠ []) (hdigits : IsDigits cs) :
    readCounter? cs = if ofDigits cs < 2 ^ 64 then some (ofDigits cs) else none := by
  obtain ⟨first, rest, rfl⟩ := List.exists_cons_of_ne_nil hne
  have hplus : first ≠ '+' := by
    rintro rfl
    exact absurd (hdigits '+' List.mem_cons_self) (by decide)
  have hall : (first :: rest).all isDigit = true := List.all_eq_true.mpr hdigits
  unfold readCounter?
  split
  · rename_i heq
    exact absurd (List.cons.inj heq).1 hplus
  · simp [hall, Nat.pow_eq]

theorem readCounter?_eq_none {cs : List Char} {c : Char} (hc : c ∈ cs)
    (hdigit : isDigit c = false)
    (hplus : c ≠ '+') : readCounter? cs = none := by
  have hnot : ∀ ds : List Char, c ∈ ds → ds.all isDigit = false := fun ds hds =>
    List.all_eq_false.mpr ⟨c, hds, by simp [hdigit]⟩
  unfold readCounter?
  split
  · rename_i tail
    have htail : c ∈ tail := (List.mem_cons.mp hc).resolve_left hplus
    simp [hnot tail htail]
  · simp [hnot cs hc]

theorem readCounter?_integerText {n : ℤ} (h : n < 2 ^ 64) :
    (readCounter? (integerText n)).getD 0 = n.toNat := by
  by_cases hn : n < 0
  · rw [integerText, if_pos hn, readCounter?_eq_none List.mem_cons_self (by decide) (by decide)]
    simp only [Option.getD_none]
    omega
  · rw [integerText, if_neg hn, readCounter?_of_digits (digitsOf_ne_nil _) (isDigits_digitsOf _),
      ofDigits_digitsOf, if_pos (by omega), Option.getD_some]
    omega

namespace FloatLayout

variable {l : FloatLayout}

theorem exists_mark_mem_magnitude (hmark : '.' ∈ l.wholeMark) (d : Decimal) :
    ∃ c ∈ l.magnitude d, c = '.' ∨ c = 'e' := by
  unfold magnitude
  split
  · refine ⟨'.', ?_, .inl rfl⟩
    unfold positional
    split
    · simp
    · dsimp only
      split
      · simp [hmark]
      · simp
  · exact ⟨'e', by simp [scientific], .inr rfl⟩

theorem exists_mark_mem_render
    (hmarks : ∀ mark ∈ [l.wholeMark, l.zero, l.negativeZero], '.' ∈ mark)
    {x : Double} (hfinite : x.isFinite = true) : ∃ c ∈ l.render x, c = '.' ∨ c = 'e' := by
  rw [render, Double.isNaN_of_isFinite hfinite, Double.isInfinite_of_isFinite hfinite]
  cases x.isZero with
  | true =>
      refine ⟨'.', ?_, .inl rfl⟩
      cases x.isNegative with
      | true => exact hmarks _ (by simp)
      | false => exact hmarks _ (by simp)
  | false =>
      have hwhole : '.' ∈ l.wholeMark := hmarks _ (by simp)
      obtain ⟨c, hc, hor⟩ := exists_mark_mem_magnitude hwhole (x.shortest l.tie)
      refine ⟨c, ?_, hor⟩
      cases x.isNegative with
      | true => exact List.mem_cons_of_mem _ hc
      | false => exact hc

theorem render_of_finite (l : FloatLayout) {x : Double} (hfinite : x.isFinite = true)
    (infinity nan : List Char) : l.render x = { l with infinity, nan }.render x := by
  rw [render, render, Double.isNaN_of_isFinite hfinite, Double.isInfinite_of_isFinite hfinite]
  rfl

end FloatLayout

namespace JsonNumber

/-- The numbers that JSON can hold: integers of 64 bits with or without a sign, and finite
numbers. -/
def IsValid : JsonNumber → Prop
  | integer n => -2 ^ 63 ≤ n ∧ n < 2 ^ 64
  | float x => x.isFinite = true

variable {n : JsonNumber} {c : Char}

theorem isNumeralChar_of_mem_chars (hn : n.IsValid) (h : c ∈ n.chars) :
    isNumeralChar c = true := by
  cases n with
  | integer n => exact isNumeralChar_of_mem_integerText h
  | float x =>
      rw [chars, FloatLayout.render_of_finite _ hn [] []] at h
      exact FloatLayout.isNumeralChar_of_mem_render (by decide) h

theorem chars_ne_nil (n : JsonNumber) : n.chars ≠ [] := by
  cases n with
  | integer n => exact integerText_ne_nil n
  | float x => exact FloatLayout.render_ne_nil (by decide) x

end JsonNumber

namespace Double

variable {x : Double}

theorem toCounter_eq (hfinite : x.isFinite = true) :
    x.toCounter = min ⌊x.value⌋₊ (2 ^ 64 - 1) := by
  rw [toCounter, isNaN_of_isFinite hfinite, isInfinite_of_isFinite hfinite, value, signed]
  cases x.isNegative with
  | true =>
      have hfloor : ⌊-x.magnitude⌋₊ = 0 :=
        Nat.floor_of_nonpos (neg_nonpos.mpr x.magnitude_nonneg)
      simp [hfloor]
  | false => simp [floorSize_eq, Nat.pow_eq]

end Double

theorem countOf_integer {n : ℤ} (h : n < 2 ^ 64) : countOf (Json.integer n) = n.toNat := by
  rcases lt_or_ge n 0 with hneg | hnatural
  · have hsign : (Double.ofInt n).isNegative = true := by
      rw [(Double.isNearest_ofInt n).sign, decide_eq_true hneg]
    rw [Json.integer, countOf, if_neg fun hfits => absurd hfits.1 (by omega), Double.toCounter,
      hsign, Bool.or_true, if_pos rfl]
    omega
  · lift n to ℕ using hnatural
    exact countOf_natural (Int.ofNat_lt.mp h)

theorem countOf_float {x : Double} (hfinite : x.isFinite = true) :
    countOf (Json.float x) = min ⌊x.value⌋₊ (2 ^ 64 - 1) :=
  Double.toCounter_eq hfinite

theorem countOf_text {n : JsonNumber} (hn : n.IsValid) {s : String} {before after : List Char}
    (hbefore : ∀ c ∈ before, isBlankChar c = true) (hafter : ∀ c ∈ after, isBlankChar c = true)
    (hs : s.toList = before ++ (n.chars ++ after)) :
    countOf (.string s) = (readCounter? n.chars).getD 0 := by
  rw [countOf, hs, trimBlanks_around hbefore hafter
    (fun c => JsonNumber.isNumeralChar_of_mem_chars hn)
    n.chars_ne_nil]

theorem readCounter?_floatChars {x : Double} (hfinite : x.isFinite = true) :
    readCounter? (JsonNumber.float x).chars = none := by
  obtain ⟨c, hc, rfl | rfl⟩ :=
    FloatLayout.exists_mark_mem_render (l := Json.floatLayout) (by decide) hfinite
  · exact readCounter?_eq_none hc (by decide) (by decide)
  · exact readCounter?_eq_none hc (by decide) (by decide)

namespace Model

variable {S : Type} {d : Descriptor} {counted : List Row} {v : Json}

theorem total_of_cell (hgroup : groupClause d.group = "")
    (hcell : counted.head?.bind (lookup? Descriptor.countColumn) = some v) :
    total d counted = countOf v := by
  rw [total_eq, if_pos hgroup, cellTotal, hcell]
  rfl

theorem findAndCountAll_of_cell (m : Model) (e : Executor S) (hgroup : groupClause d.group = "")
    {s s' : S} (hcount : e.query (m.countStatement d) none s = (.ok counted, s'))
    (hcell : counted.head?.bind (lookup? Descriptor.countColumn) = some v) :
    m.findAndCountAll e d s = if countOf v = 0 then (.ok ⟨[], 0⟩, s')
      else ((e.query (m.selectStatement d) none s').1.map fun data => ⟨data, countOf v⟩,
        (e.query (m.selectStatement d) none s').2) := by
  have htotal := total_of_cell hgroup hcell
  split
  · rename_i hzero
    exact findAndCountAll_of_none m e d hcount (htotal.trans hzero)
  · rename_i hzero
    rw [findAndCountAll_of_some m e d hcount (by rwa [htotal]), htotal]

/-- Without grouping a page tells the number in the counting cell. An integer counts alike as a
number and as its text, and a negative one as zero. A floating-point number counts by its whole
part, and its text as zero, so that it makes no difference how a number is delivered exactly if it
is an integer or below one. -/
theorem total_of_delivered (m : Model) (hgroup : groupClause d.group = "") :
    (∀ (S : Type) (e : Executor S) (s s' : S) (counted : List Row) (v : Json),
      e.query (m.countStatement d) none s = (.ok counted, s') →
      counted.head?.bind (lookup? Descriptor.countColumn) = some v →
      m.findAndCountAll e d s = if countOf v = 0 then (.ok ⟨[], 0⟩, s')
        else ((e.query (m.selectStatement d) none s').1.map fun data => ⟨data, countOf v⟩,
          (e.query (m.selectStatement d) none s').2)) ∧
    (∀ n : ℤ, -2 ^ 63 ≤ n → n < 2 ^ 64 → ∀ v, Delivers (.integer n) v → countOf v = n.toNat) ∧
    (∀ x : Double, x.isFinite = true → countOf (Json.float x) = min ⌊x.value⌋₊ (2 ^ 64 - 1) ∧
      ∀ s, Delivers (.float x) (.string s) → countOf (.string s) = 0) ∧
    ∀ n : JsonNumber, n.IsValid →
      ((∀ v, Delivers n v → countOf v = countOf (.number n)) ↔
        ∀ x, n = .float x → x.value < 1) := by
  have hinteger : ∀ n : ℤ, -2 ^ 63 ≤ n → n < 2 ^ 64 → ∀ v, Delivers (.integer n) v →
      countOf v = n.toNat := by
    intro n hlow hhigh v hv
    cases hv with
    | number => exact countOf_integer hhigh
    | text hbefore hafter hs =>
        rw [countOf_text (n := .integer n) ⟨hlow, hhigh⟩ hbefore hafter hs]
        exact readCounter?_integerText hhigh
  have hfloat : ∀ x : Double, x.isFinite = true → ∀ s, Delivers (.float x) (.string s) →
      countOf (.string s) = 0 := by
    intro x hfinite s hv
    cases hv with
    | text hbefore hafter hs =>
        rw [countOf_text (n := .float x) hfinite hbefore hafter hs,
          readCounter?_floatChars hfinite]
        rfl
  refine ⟨fun S e s s' counted v => findAndCountAll_of_cell m e hgroup, hinteger,
    fun x hfinite => ⟨countOf_float hfinite, hfloat x hfinite⟩, ?_⟩
  intro n hn
  cases n with
  | integer n =>
      refine iff_of_true (fun v hv => ?_) (by simp)
      rw [hinteger n hn.1 hn.2 v hv, hinteger n hn.1 hn.2 _ .number]
  | float x =>
      have hcount : countOf (.number (.float x)) = min ⌊x.value⌋₊ (2 ^ 64 - 1) := countOf_float hn
      have hzero : countOf (.number (.float x)) = 0 ↔ x.value < 1 := by
        rw [hcount, ← Nat.floor_eq_zero]
        omega
      simp only [JsonNumber.float.injEq, forall_eq']
      rw [← hzero]
      constructor
      · intro hsame
        have hblanks : ∀ c ∈ ([] : List Char), isBlankChar c = true := by simp
        have hbare : Delivers (.float x) (.string (String.ofList (JsonNumber.float x).chars)) :=
          .text hblanks hblanks (by simp)
        rw [← hsame _ hbare, hfloat x hn _ hbare]
      · intro hnone v hv
        cases hv with
        | number => rfl
        | text hbefore hafter hs => rw [hnone, hfloat x hn _ (.text hbefore hafter hs)]

/-- Answers every statement with one row, which holds a counting cell. -/
def answering (cell : Json) : Executor Unit where
  query _ _ s := (.ok [[(Descriptor.countColumn, cell)]], s)

def sales : Model := ⟨"Sales", "dw.sales"⟩

theorem total_of_delivered_sales :
    groupClause Descriptor.empty.group = "" ∧ Delivers (.integer 42) (.string " 42\n") ∧
      sales.findAndCountAll (answering (.string " 42\n")) .empty () =
        (.ok ⟨[[("count", .string " 42\n")]], 42⟩, ()) := by
  have hgroup : groupClause Descriptor.empty.group = "" := rfl
  have hdelivers : Delivers (.integer 42) (.string " 42\n") :=
    @Delivers.text _ _ [' '] ['\n'] (List.forall_mem_singleton.mpr (by decide))
      (List.forall_mem_singleton.mpr (by decide)) (by decide +kernel)
  obtain ⟨hpage, hinteger, -⟩ := total_of_delivered sales hgroup
  refine ⟨hgroup, hdelivers, ?_⟩
  rw [hpage Unit (answering (.string " 42\n")) () () _ _ rfl rfl,
    hinteger 42 (by norm_num) (by norm_num) _ hdelivers]
  rfl

/-- A count of seven is missed where it is delivered as the text of a floating-point number. -/
theorem float_text_counts_as_zero :
    Delivers (.float (Double.ofInt 7)) (.string "7.0") ∧
      sales.findAndCountAll (answering (.string "7.0")) .empty () = (.ok ⟨[], 0⟩, ()) ∧
      sales.findAndCountAll (answering (Json.float (Double.ofInt 7))) .empty () =
        (.ok ⟨[[("count", Json.float (Double.ofInt 7))]], 7⟩, ()) ∧
      ¬∀ (n : JsonNumber) (v : Json), n.IsValid → Delivers n v →
        countOf v = countOf (.number n) := by
  have hdelivers : Delivers (.float (Double.ofInt 7)) (.string "7.0") :=
    @Delivers.text _ _ [] [] (by simp) (by simp) (by decide +kernel)
  have hfinite : (Double.ofInt 7).isFinite = true := by decide +kernel
  have htext : countOf (.string "7.0") = 0 := by decide +kernel
  have hnumber : countOf (Json.float (Double.ofInt 7)) = 7 := by decide +kernel
  refine ⟨hdelivers, ?_, ?_, ?_⟩
  · rw [findAndCountAll_of_cell (v := .string "7.0") sales (answering _) rfl rfl rfl, htext]
    rfl
  · rw [findAndCountAll_of_cell (v := Json.float (Double.ofInt 7)) sales
      (answering _) rfl rfl rfl,
      hnumber]
    rfl
  · intro hsame
    have hseven := hsame (.float (Double.ofInt 7)) (.string "7.0") hfinite hdelivers
    rw [htext] at hseven
    exact absurd (hseven.trans hnumber) (by decide)

end Model

end SqlClient
