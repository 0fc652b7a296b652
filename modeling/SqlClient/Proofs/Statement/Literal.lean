import SqlClient.Value.Literal

namespace SqlClient

/-- The characters of numbers: digits, signs, the point, the exponent, and the letters of the
names of infinity and NaN. -/
def isNumeralChar (c : Char) : Bool :=
  isDigit c || ".e+-InfityNa".toList.contains c

theorem digitsOf_ne_nil (n : Nat) : digitsOf n ≠ [] := by
  unfold digitsOf
  split <;> simp

theorem isNumeralChar_of_isDigit {c : Char} (h : isDigit c = true) : isNumeralChar c = true := by
  simp [isNumeralChar, h]

theorem isNumeralChar_of_mem_digitsOf {n : Nat} {c : Char} (h : c ∈ digitsOf n) :
    isNumeralChar c = true :=
  isNumeralChar_of_isDigit (isDigit_of_mem_digitsOf h)

theorem isNumeralChar_of_mem_integerText {n : Int} {c : Char} (h : c ∈ integerText n) :
    isNumeralChar c = true := by
  unfold integerText at h
  split at h
  · rcases List.mem_cons.mp h with rfl | h
    · decide
    · exact isNumeralChar_of_mem_digitsOf h
  · exact isNumeralChar_of_mem_digitsOf h

theorem integerText_ne_nil (n : Int) : integerText n ≠ [] := by
  unfold integerText
  split
  · simp
  · exact digitsOf_ne_nil _

/-- A text without a quote. -/
def QuoteFree (s : String) : Prop :=
  '\'' ∉ s.toList

instance (s : String) : Decidable (QuoteFree s) :=
  inferInstanceAs (Decidable ('\'' ∉ s.toList))

namespace FloatLayout

variable {l : FloatLayout} {c : Char}

theorem isNumeralChar_of_mem_positional {digits : List Char} {order : Int}
    (hmark : ∀ c ∈ l.wholeMark, isNumeralChar c = true)
    (hdigits : ∀ c ∈ digits, isNumeralChar c = true) (h : c ∈ l.positional digits order) :
    isNumeralChar c = true := by
  have hzero : ∀ n, c ∈ List.replicate n '0' → isNumeralChar c = true := by
    intro n hc
    rw [List.eq_of_mem_replicate hc]
    decide
  unfold positional at h
  split at h
  · simp only [List.mem_cons, List.mem_append] at h
    rcases h with rfl | rfl | h | h
    · decide
    · decide
    · exact hzero _ h
    · exact hdigits c h
  · dsimp only at h
    split at h
    · simp only [List.mem_append] at h
      rcases h with (h | h) | h
      · exact hdigits c h
      · exact hzero _ h
      · exact hmark c h
    · simp only [List.mem_append, List.mem_cons] at h
      rcases h with h | rfl | h
      · exact hdigits c (List.mem_of_mem_take h)
      · decide
      · exact hdigits c (List.mem_of_mem_drop h)

theorem isNumeralChar_of_mem_scientific {digits : List Char} {order : Int}
    (hdigits : ∀ c ∈ digits, isNumeralChar c = true) (h : c ∈ scientific digits order) :
    isNumeralChar c = true := by
  unfold scientific at h
  simp only [List.mem_append, List.mem_cons] at h
  rcases h with h | rfl | rfl | h
  · split at h
    · simp only [List.mem_cons] at h
      rcases h with rfl | rfl | h
      · exact hdigits _ List.mem_cons_self
      · decide
      · exact hdigits c (List.mem_cons_of_mem _ (by simpa using h))
    · exact hdigits c h
  · decide
  · split <;> decide
  · exact isNumeralChar_of_mem_digitsOf h

theorem isNumeralChar_of_mem_magnitude {d : Decimal}
    (hmark : ∀ c ∈ l.wholeMark, isNumeralChar c = true) (h : c ∈ l.magnitude d) :
    isNumeralChar c = true := by
  unfold magnitude at h
  split at h
  · exact isNumeralChar_of_mem_positional hmark (fun _ => isNumeralChar_of_mem_digitsOf) h
  · exact isNumeralChar_of_mem_scientific (fun _ => isNumeralChar_of_mem_digitsOf) h

theorem magnitude_ne_nil (l : FloatLayout) (d : Decimal) : l.magnitude d ≠ [] := by
  have hdigits := digitsOf_ne_nil d.digits
  unfold magnitude
  split
  · unfold positional
    split
    · simp
    · dsimp only
      split <;> simp [hdigits]
  · simp [scientific]

theorem isNumeralChar_of_mem_render {x : Double}
    (hmarks :
      [l.wholeMark, l.zero, l.negativeZero, l.infinity, l.nan].all (·.all isNumeralChar) = true)
    (h : c ∈ l.render x) : isNumeralChar c = true := by
  replace hmarks : ∀ mark ∈ [l.wholeMark, l.zero, l.negativeZero, l.infinity, l.nan],
      ∀ c ∈ mark, isNumeralChar c = true :=
    fun mark hmark => List.all_eq_true.mp (List.all_eq_true.mp hmarks mark hmark)
  have hsize : ∀ d, c ∈ (if x.isInfinite = true then l.infinity else l.magnitude d) →
      isNumeralChar c = true := by
    intro d hc
    split at hc
    · exact hmarks _ (by simp) c hc
    · exact isNumeralChar_of_mem_magnitude (hmarks _ (by simp)) hc
  unfold render at h
  split at h
  · exact hmarks _ (by simp) c h
  · split at h
    · split at h
      · exact hmarks _ (by simp) c h
      · exact hmarks _ (by simp) c h
    · dsimp only at h
      split at h
      · rcases List.mem_cons.mp h with rfl | h
        · decide
        · exact hsize _ h
      · exact hsize _ h

theorem render_ne_nil (hmarks : ∀ mark ∈ [l.zero, l.negativeZero, l.infinity, l.nan], mark ≠ [])
    (x : Double) : l.render x ≠ [] := by
  unfold render
  split
  · exact hmarks _ (by simp)
  · split
    · split
      · exact hmarks _ (by simp)
      · exact hmarks _ (by simp)
    · dsimp only
      split
      · simp
      · split
        · exact hmarks _ (by simp)
        · exact l.magnitude_ne_nil _

end FloatLayout

namespace SqlValue

theorem isNumeralChar_of_mem_intText {n : Int} {c : Char} (h : c ∈ (intText n).toList) :
    isNumeralChar c = true := by
  rw [intText, String.toList_ofList] at h
  exact isNumeralChar_of_mem_integerText h

theorem intText_toList_ne_nil (n : Int) : (intText n).toList ≠ [] := by
  rw [intText, String.toList_ofList]
  exact integerText_ne_nil n

theorem isNumeralChar_of_mem_floatText {x : Double} {c : Char} (h : c ∈ (floatText x).toList) :
    isNumeralChar c = true := by
  rw [floatText, String.toList_ofList] at h
  exact FloatLayout.isNumeralChar_of_mem_render (by decide) h

theorem floatText_toList_ne_nil (x : Double) : (floatText x).toList ≠ [] := by
  rw [floatText, String.toList_ofList]
  exact FloatLayout.render_ne_nil (by decide) x

mutual

/-- The texts in a value, from left to right. -/
def texts : SqlValue → List String
  | text s => [s]
  | list items => itemTexts items
  | _ => []

def itemTexts : List SqlValue → List String
  | [] => []
  | v :: rest => v.texts ++ itemTexts rest

end

theorem itemTexts_eq_flatMap (items : List SqlValue) : itemTexts items = items.flatMap texts := by
  induction items with
  | nil => rfl
  | cons v rest ih => rw [itemTexts, ih, List.flatMap_cons]

theorem texts_subset_of_mem {v : SqlValue} {items : List SqlValue} (h : v ∈ items) :
    v.texts ⊆ (list items).texts := by
  intro s hs
  rw [texts, itemTexts_eq_flatMap]
  exact List.mem_flatMap_of_mem h hs

/-- An item of a list as it stands in a predicate. -/
def itemLiteral : SqlValue → String
  | list items => "(" ++ (list items).literal ++ ")"
  | v => v.literal

theorem itemLiterals_eq_map (items : List SqlValue) :
    itemLiterals items = items.map itemLiteral := by
  induction items with
  | nil => simp [itemLiterals]
  | cons v rest ih => cases v <;> simp [itemLiterals, itemLiteral, literal, ih]

theorem literal_list (items : List SqlValue) :
    (list items).literal = ", ".intercalate (items.map itemLiteral) := by
  rw [literal, itemLiterals_eq_map]

theorem plainTexts_eq_map (items : List SqlValue) : plainTexts items = items.map plainText := by
  induction items with
  | nil => rfl
  | cons v rest ih => rw [plainTexts, ih, List.map_cons]

end SqlValue

end SqlClient
