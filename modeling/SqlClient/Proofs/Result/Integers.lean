import SqlClient.Proofs.Number.Layout
import SqlClient.Proofs.Number.Whole
import SqlClient.Result.Coercion

namespace SqlClient

theorem endsDigits_scanDigits (cs : List Char) : EndsDigits (scanDigits cs).2 := by
  intro c hc
  have hhead := List.head?_dropWhile_not isDigit cs
  rw [scanDigits, Option.mem_def] at hc
  rw [hc] at hhead
  exact hhead

/-- An integer at the front of a text: blanks, a sign that may be left out, and all digits that
follow. -/
inductive Leads : ℤ → List Char → Prop
  | intro {blanks signText digits rest : List Char} {negative : Bool}
      (hblanks : ∀ c ∈ blanks, isBlankChar c = true) (hsign : SpellsSign negative signText)
      (hne : digits ≠ []) (hdigits : IsDigits digits) (hrest : EndsDigits rest) :
      Leads (if negative then -(ofDigits digits : ℤ) else ofDigits digits)
        (blanks ++ (signText ++ (digits ++ rest)))

theorem isBlankChar_of_isNumeralChar {c : Char} (h : isNumeralChar c = true) :
    isBlankChar c = false := by
  rw [isNumeralChar, Bool.or_eq_true] at h
  rcases h with h | h
  · rw [isDigit, decide_eq_true_eq] at h
    -- digits stand between the second and the third range
    rw [isBlankChar, blankRanges, inRanges, if_neg (by omega), if_neg (by omega), inRanges,
      if_neg (by omega), if_neg (by omega), inRanges, if_pos (by omega)]
  · have hmarks : (".e+-InfityNa".toList.all fun c => !isBlankChar c) = true := by decide
    have hc := List.all_eq_true.mp hmarks c (by simpa using h)
    simpa using hc

theorem SpellsSign.isNumeralChar_of_mem_head? {negative : Bool} {signText rest : List Char}
    {first c : Char}
    (h : SpellsSign negative signText) (hfirst : isDigit first = true)
    (hc : c ∈ (signText ++ first :: rest).head?) : isNumeralChar c = true := by
  cases h with
  | bare =>
      obtain rfl := Option.some.inj hc
      exact isNumeralChar_of_isDigit hfirst
  | plus =>
      obtain rfl := Option.some.inj hc
      decide
  | minus =>
      obtain rfl := Option.some.inj hc
      decide

theorem Leads.ne_nil {z : ℤ} {t : List Char} (h : Leads z t) : t ≠ [] := by
  cases h with
  | intro _ _ hne => simp [hne]

namespace Coercion

theorem skipBlanks_append {blanks rest : List Char} (hblanks : ∀ c ∈ blanks, isBlankChar c = true)
    (hrest : ∀ c ∈ rest.head?, isBlankChar c = false) : skipBlanks (blanks ++ rest) = rest := by
  rw [skipBlanks, List.dropWhile_append_of_pos hblanks]
  cases rest with
  | nil => rfl
  | cons c rest => rw [List.dropWhile_cons_of_neg (by simp [hrest c rfl])]

theorem skipBlanks_eq_self {cs : List Char} (h : ∀ c ∈ cs, isNumeralChar c = true) :
    skipBlanks cs = cs := by
  have hblanks : ∀ c ∈ ([] : List Char), isBlankChar c = true := by simp
  exact skipBlanks_append hblanks fun c hc =>
    isBlankChar_of_isNumeralChar (h c (List.mem_of_head? hc))

theorem integerPrefix_of_leads {z : ℤ} {t : List Char} (h : Leads z t) :
    integerPrefix t = if isInt64 z then Json.integer z else floatCell (Double.ofInt z) := by
  obtain @⟨blanks, signText, digits, rest, negative, hblanks, hsign, hne, hdigits, hrest⟩ := h
  obtain ⟨first, others, rfl⟩ := List.exists_cons_of_ne_nil hne
  have hfirst := hdigits first List.mem_cons_self
  have hskip : skipBlanks (blanks ++ (signText ++ (first :: others ++ rest))) =
      signText ++ (first :: others ++ rest) :=
    skipBlanks_append hblanks fun c hc =>
      isBlankChar_of_isNumeralChar (hsign.isNumeralChar_of_mem_head? hfirst hc)
  have hends : EndsSign (first :: others ++ rest) := endsSign_of_isDigit hfirst _
  rw [integerPrefix, hskip, scanSign_append hsign hends]
  simp only [scanDigits_append hdigits hrest, List.isEmpty_cons, Bool.false_eq_true, if_false]
  by_cases hfits :
      isInt64 (if negative then -(ofDigits (first :: others) : ℤ) else ofDigits (first :: others))
  · rw [if_pos hfits, if_pos hfits]
  · have hlarge : ofDigits (first :: others) ≠ 0 := by
      intro hzero
      rw [hzero] at hfits
      cases negative <;> exact hfits rfl
    rw [if_neg hfits, if_neg hfits, Double.ofDecimal_eq_ofInt negative hlarge]

theorem integerPrefix_eq_null {t : List Char} (h : ∀ z, ¬Leads z t) :
    integerPrefix t = .null := by
  obtain ⟨signText, hsignCat, hsign⟩ := scanSign_cat (skipBlanks t)
  have hdigitsCat := scanDigits_cat (scanSign (skipBlanks t)).2
  have hempty : (scanDigits (scanSign (skipBlanks t)).2).1 = [] := by
    by_contra hne
    have hblanks : ∀ c ∈ t.takeWhile isBlankChar, isBlankChar c = true :=
      List.all_eq_true.mp List.all_takeWhile
    have hleads := Leads.intro hblanks hsign hne (isDigits_scanDigits _)
      (endsDigits_scanDigits (scanSign (skipBlanks t)).2)
    rw [hdigitsCat, hsignCat, skipBlanks, List.takeWhile_append_dropWhile] at hleads
    exact h _ hleads
  rw [integerPrefix]
  simp only [hempty, List.isEmpty_nil, if_true]

theorem leads_integerText (n : ℤ) : Leads n (integerText n) := by
  have htext : integerText n = signText (decide (n < 0)) ++ digitsOf n.natAbs := by
    by_cases hn : n < 0
    · simp [integerText, signText, hn]
    · simp [integerText, signText, hn]
  have hvalue : (if decide (n < 0) then -(ofDigits (digitsOf n.natAbs) : ℤ)
      else ofDigits (digitsOf n.natAbs)) = n := by
    rw [ofDigits_digitsOf]
    simp only [decide_eq_true_eq]
    split <;> omega
  have hblanks : ∀ c ∈ ([] : List Char), isBlankChar c = true := by simp
  have hrest : EndsDigits [] := by simp [EndsDigits]
  have hleads := Leads.intro hblanks (spellsSign_signText (decide (n < 0)))
    (digitsOf_ne_nil n.natAbs)
    (isDigits_digitsOf n.natAbs) hrest
  rwa [hvalue, List.nil_append, List.append_nil, ← htext] at hleads

theorem integerPrefix_integerText (n : ℤ) :
    integerPrefix (integerText n) =
      if isInt64 n then Json.integer n else floatCell (Double.ofInt n) :=
  integerPrefix_of_leads (leads_integerText n)

variable {x : Double}

theorem value_of_not_isInt64 (h : isInt64 x.toInt ≠ true) : x.value = wholePart x.value :=
  Double.value_of_large (le_trans (by norm_num) (Double.le_magnitude_of_not_isInt64 h))

theorem wholeCell_of_isInt64 (hfinite : x.isFinite = true) (h : isInt64 x.toInt = true) :
    wholeCell x = Json.integer (wholePart x.value) := by
  rw [wholeCell, hfinite, h, ← Double.toInt_eq]
  rfl

theorem wholeCell_of_not_isInt64 (hfinite : x.isFinite = true) (h : isInt64 x.toInt ≠ true) :
    wholeCell x = Json.float x := by
  have hlarge := Double.le_magnitude_of_not_isInt64 h
  have htrunc := Double.trunc_eq_self hfinite (le_trans (by norm_num) hlarge)
  rw [wholeCell, Bool.eq_false_iff.mpr h, Bool.and_false, htrunc, floatCell, if_pos hfinite]
  rfl

theorem wholeCell_ofInt {n : ℤ} (hlow : 2 ^ 63 ≤ n) (hhigh : n < 2 ^ 64) :
    wholeCell (Double.ofInt n) = floatCell (Double.ofInt n) := by
  have hnearest := Double.isNearest_ofInt n
  have hfinite := Double.isFinite_ofInt (show n.natAbs < 2 ^ 64 by omega)
  have hbeyond : isInt64 (Double.ofInt n).toInt ≠ true := by
    rw [Ne, Double.isInt64_toInt_iff (Double.le_magnitude_ofInt hfinite (by omega)),
      hnearest.sign, decide_eq_true_eq]
    omega
  rw [wholeCell_of_not_isInt64 hfinite hbeyond, floatCell, if_pos hfinite]

theorem cell_integerType {type : String} (h : type ∈ ["int", "bigint"]) :
    cell (some type) = integerCell := by
  rcases List.mem_pair.mp h with rfl | rfl
  · rfl
  · rfl

/-- In an integer column a text gives the integer at its front, or the floating-point number
nearest to it if it does not fit 64 bits, and null without one or if that number is an infinity.
An integer of JSON gives what its decimal text gives. A floating-point number gives its whole
part, which stays a floating-point number if it does not fit 64 bits. -/
theorem reads_integers : ∀ type ∈ ["int", "bigint"],
    (∀ (s : String) (z : ℤ), Leads z s.toList → ∃ x : Double,
      Double.IsNearest (decide (z < 0)) z.natAbs x ∧ cell (some type) (.string s) =
        if -2 ^ 63 ≤ z ∧ z < 2 ^ 63 then Json.integer z
        else if x.isFinite then Json.float x else .null) ∧
    (∀ s : String, (∀ z, ¬Leads z s.toList) → cell (some type) (.string s) = .null) ∧
    (∀ n : ℤ, -2 ^ 63 ≤ n → n < 2 ^ 64 →
      cell (some type) (Json.integer n) =
        cell (some type) (.string (String.ofList (integerText n)))) ∧
    ∀ x : Double, x.isFinite = true →
      (-2 ^ 63 ≤ wholePart x.value ∧ wholePart x.value < 2 ^ 63 →
        cell (some type) (Json.float x) = Json.integer (wholePart x.value)) ∧
      (¬(-2 ^ 63 ≤ wholePart x.value ∧ wholePart x.value < 2 ^ 63) → ∃ y : Double,
        y.isFinite = true ∧ y.isNegative = x.isNegative ∧ y.value = wholePart x.value ∧
          cell (some type) (Json.float x) = Json.float y) := by
  intro type htype
  simp only [cell_integerType htype, ← isInt64_iff]
  refine ⟨?_, ?_, ?_, ?_⟩
  · intro s z hs
    exact ⟨Double.ofInt z, Double.isNearest_ofInt z, integerPrefix_of_leads hs⟩
  · intro s hs
    exact integerPrefix_eq_null hs
  · intro n hlow hhigh
    rw [integerCell, String.toList_ofList, integerPrefix_integerText, Json.integer, integerCell]
    split
    · rfl
    · rename_i hlarge
      rw [isInt64_iff] at hlarge
      exact wholeCell_ofInt (by omega) hhigh
  · intro x hfinite
    rw [← Double.toInt_eq]
    constructor
    · intro hfits
      rw [Double.toInt_eq]
      exact wholeCell_of_isInt64 hfinite hfits
    · intro hlarge
      refine ⟨x, hfinite, rfl, ?_, wholeCell_of_not_isInt64 hfinite hlarge⟩
      rw [Double.toInt_eq]
      exact value_of_not_isInt64 hlarge

theorem reads_integers_pixels :
    Leads (-17) "  -17px".toList ∧ (∀ z, ¬Leads z "".toList) ∧
      cell (some "int") (.string "  -17px") = Json.integer (-17) ∧
      cell (some "int") (.string "") = .null ∧
      cell (some "int") (Json.integer (2 ^ 63)) =
        cell (some "int") (.string (String.ofList (integerText (2 ^ 63)))) ∧
      cell (some "int") (Json.float (Double.ofDecimal false 78 (-1))) = Json.integer 7 ∧
      ∃ y : Double, y.value = wholePart (Double.edge false).value ∧
        cell (some "int") (Json.float (Double.edge false)) = Json.float y := by
  have hrest : EndsDigits ['p', 'x'] := by
    rintro _ ⟨⟩
    decide
  have hleads : Leads (-17) "  -17px".toList :=
    @Leads.intro [' ', ' '] ['-'] ['1', '7'] ['p', 'x'] true
      (List.all_eq_true.mp (by decide)) .minus
      (by decide) (List.all_eq_true.mp (by decide)) hrest
  have hnone : ∀ z, ¬Leads z "".toList := fun z h => h.ne_nil rfl
  obtain ⟨htext, hnull, hinteger, hfloat⟩ := reads_integers "int" (by simp)
  refine ⟨hleads, hnone, ?_, hnull "" hnone,
    hinteger (2 ^ 63) (by norm_num) (by norm_num), ?_, ?_⟩
  · obtain ⟨x, -, hx⟩ := htext "  -17px" (-17) hleads
    rw [hx, if_pos (by norm_num)]
  · have hpart : wholePart (Double.ofDecimal false 78 (-1)).value = 7 := by
      rw [← Double.toInt_eq]
      decide +kernel
    have hread := (hfloat (Double.ofDecimal false 78 (-1)) (by decide +kernel)).1
    rw [hpart] at hread
    exact hread (by norm_num)
  · have hpart : wholePart (Double.edge false).value = 2 ^ 63 := by
      rw [← Double.toInt_eq]
      decide +kernel
    obtain ⟨y, -, -, hy, hread⟩ :=
      (hfloat (Double.edge false) (by decide)).2 (by rw [hpart]; norm_num)
    exact ⟨y, hy, hread⟩

end Coercion

end SqlClient
