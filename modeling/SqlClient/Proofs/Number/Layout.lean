import SqlClient.Proofs.Number.Grammar
import SqlClient.Proofs.Number.Shortest
import SqlClient.Proofs.Statement.Literal

namespace SqlClient

theorem ofDigits_append (cs ds : List Char) :
    ofDigits (cs ++ ds) = ofDigits cs * 10 ^ ds.length + ofDigits ds := by
  induction ds using List.reverseRecOn with
  | nil => simp [ofDigits]
  | append_singleton ds d ih =>
      rw [← List.append_assoc, ofDigits_append_singleton, ofDigits_append_singleton, ih,
        List.length_append, List.length_singleton, pow_succ]
      ring

theorem ofDigits_replicate_zero (n : ℕ) : ofDigits (List.replicate n '0') = 0 := by
  induction n with
  | zero => rfl
  | succ n ih =>
      rw [List.replicate_succ', ofDigits_append_singleton, ih]
      rfl

/-- The digits after the point together with the point, if there are any. -/
def fractionText : List Char → List Char
  | [] => []
  | fraction => '.' :: fraction

/-- An exponent with its letter and its sign, if there is one. -/
def exponentText : Option ℤ → List Char
  | none => []
  | some e => 'e' :: (if e < 0 then '-' else '+') :: digitsOf e.natAbs

theorem fractionText_of_ne_nil {fraction : List Char} (h : fraction ≠ []) :
    fractionText fraction = '.' :: fraction := by
  cases fraction with
  | nil => contradiction
  | cons c rest => rfl

def signText (negative : Bool) : List Char :=
  if negative then ['-'] else []

theorem isDigits_digitsOf (n : ℕ) : IsDigits (digitsOf n) :=
  fun _ => isDigit_of_mem_digitsOf

theorem spellsSign_signText (negative : Bool) : SpellsSign negative (signText negative) := by
  cases negative with
  | false => exact .bare
  | true => exact .minus

theorem spellsMantissa_fractionText {whole fraction : List Char} (hne : whole ≠ [])
    (hwhole : IsDigits whole) (hfraction : IsDigits fraction) :
    SpellsMantissa whole fraction (whole ++ fractionText fraction) := by
  rcases eq_or_ne fraction [] with rfl | hfractionNe
  · rw [fractionText, List.append_nil]
    exact .bare hne hwhole
  · rw [fractionText_of_ne_nil hfractionNe]
    exact .pointed (by simp [hne]) hwhole hfraction

theorem spellsExponent_exponentText (e : Option ℤ) :
    SpellsExponent (e.getD 0) (exponentText e) := by
  cases e with
  | none => exact .bare
  | some e =>
      have hspelled : ∀ {negative signText}, SpellsSign negative signText →
          SpellsExponent (if negative then -(ofDigits (digitsOf e.natAbs) : ℤ)
            else ofDigits (digitsOf e.natAbs)) ('e' :: (signText ++ digitsOf e.natAbs)) :=
        fun hsign => .marked (.inl rfl) hsign (digitsOf_ne_nil _) (isDigits_digitsOf _)
      rw [ofDigits_digitsOf] at hspelled
      rw [exponentText, Option.getD_some]
      by_cases he : e < 0
      · convert hspelled .minus using 1
        · rw [if_pos rfl]
          omega
        · rw [if_pos he]
          rfl
      · convert hspelled .plus using 1
        · rw [if_neg Bool.false_ne_true]
          omega
        · rw [if_neg he]
          rfl

/-- A text that is a numeral of the given size. -/
def IsNumeral (cs : List Char) (size : ℚ) : Prop :=
  ∃ whole fraction e, cs = whole ++ (fractionText fraction ++ exponentText e) ∧ whole ≠ [] ∧
    (∀ c ∈ whole, isDigit c = true) ∧ (∀ c ∈ fraction, isDigit c = true) ∧
    size = ofDigits (whole ++ fraction) * 10 ^ (e.getD 0 - fraction.length)

theorem IsNumeral.scan {cs : List Char} {size : ℚ} (h : IsNumeral cs size) (negative : Bool) :
    ∃ n, Numeral.scan (signText negative ++ cs) = some (n, []) ∧ n.negative = negative ∧
      n.size = size := by
  obtain ⟨whole, fraction, e, rfl, hne, hwhole, hfraction, rfl⟩ := h
  have hspelled : (⟨negative, whole, fraction, e.getD 0⟩ : Numeral).IsSpelled
      (signText negative ++ (whole ++ (fractionText fraction ++ exponentText e))) :=
    ⟨_, _, _, by rw [List.append_assoc], spellsSign_signText negative,
      spellsMantissa_fractionText hne hwhole hfraction, spellsExponent_exponentText e⟩
  exact ⟨_, hspelled.scan_eq_some, rfl, rfl⟩

namespace FloatLayout

variable {l : FloatLayout} {digits : List Char} {order : ℤ}

theorem isNumeral_positional (hmark : l.wholeMark = []) (hne : digits ≠ [])
    (hdigits : ∀ c ∈ digits, isDigit c = true) :
    IsNumeral (l.positional digits order)
      (ofDigits digits * 10 ^ (order + 1 - digits.length)) := by
  have hzeros : ∀ n, ∀ c ∈ List.replicate n '0', isDigit c = true := by
    intro n c hc
    rw [List.eq_of_mem_replicate hc]
    decide
  unfold positional
  split
  · rename_i horder
    refine ⟨['0'], List.replicate (-order - 1).toNat '0' ++ digits, none, ?_, by simp,
      List.forall_mem_singleton.mpr rfl, ?_, ?_⟩
    · rw [fractionText_of_ne_nil (by simp [hne]), exponentText, List.append_nil]
      rfl
    · intro c hc
      exact (List.mem_append.mp hc).elim (hzeros _ c) (hdigits c)
    · rw [← List.append_assoc, ofDigits_append,
        show ['0'] ++ List.replicate (-order - 1).toNat '0' =
        List.replicate ((-order - 1).toNat + 1) '0' from rfl, ofDigits_replicate_zero]
      rw [Nat.zero_mul, Nat.zero_add, List.length_append, List.length_replicate]
      congr 2
      rw [Option.getD_none]
      omega
  · dsimp only
    split
    · rename_i horder hlength
      refine ⟨digits ++ List.replicate (order.toNat + 1 - digits.length) '0', [], none,
        ?_, ?_, ?_, ?_, ?_⟩
      · rw [hmark]
        rfl
      · simp [hne]
      · intro c hc
        exact (List.mem_append.mp hc).elim (hdigits c) (hzeros _ c)
      · simp
      · rw [List.append_nil, ofDigits_append, ofDigits_replicate_zero, List.length_replicate,
          Nat.add_zero, Nat.cast_mul, Nat.cast_pow, mul_assoc, Nat.cast_ofNat, ← zpow_natCast,
          ← zpow_add₀ (by norm_num)]
        congr 2
        rw [Option.getD_none, List.length_nil]
        omega
    · rename_i horder hlength
      refine ⟨digits.take (order.toNat + 1), digits.drop (order.toNat + 1), none,
        ?_, ?_, ?_, ?_, ?_⟩
      · rw [fractionText_of_ne_nil, exponentText, List.append_nil]
        rw [Ne, List.drop_eq_nil_iff]
        exact hlength
      · simp [hne]
      · exact fun c hc => hdigits c (List.mem_of_mem_take hc)
      · exact fun c hc => hdigits c (List.mem_of_mem_drop hc)
      · rw [List.take_append_drop, List.length_drop]
        congr 2
        rw [Option.getD_none]
        omega

theorem isNumeral_scientific (hne : digits ≠ []) (hdigits : ∀ c ∈ digits, isDigit c = true) :
    IsNumeral (scientific digits order) (ofDigits digits * 10 ^ (order + 1 - digits.length)) := by
  obtain ⟨first, rest, rfl⟩ := List.exists_cons_of_ne_nil hne
  refine ⟨[first], rest, some order, ?_, by simp, ?_, ?_, ?_⟩
  · cases rest with
    | nil => rfl
    | cons second rest => rfl
  · exact List.forall_mem_singleton.mpr (hdigits first List.mem_cons_self)
  · exact fun c hc => hdigits c (List.mem_cons_of_mem _ hc)
  · congr 2
    rw [Option.getD_some, List.length_cons]
    omega

theorem isNumeral_magnitude (hmark : l.wholeMark = []) (d : Decimal) :
    IsNumeral (l.magnitude d) d.value := by
  have hvalue : d.value = ofDigits (digitsOf d.digits) *
      (10 : ℚ) ^ (d.order + 1 - (digitsOf d.digits).length) := by
    rw [ofDigits_digitsOf, length_digitsOf, Decimal.value, Decimal.order]
    congr 2
    omega
  have hdigits : ∀ c ∈ digitsOf d.digits, isDigit c = true := fun c => isDigit_of_mem_digitsOf
  rw [hvalue, magnitude]
  split
  · exact isNumeral_positional hmark (digitsOf_ne_nil _) hdigits
  · exact isNumeral_scientific (digitsOf_ne_nil _) hdigits

theorem scan_render {x : Double} (hmark : l.wholeMark = []) (hfinite : x.isFinite = true)
    (hzero : x.isZero = false) :
    ∃ n, Numeral.scan (l.render x) = some (n, []) ∧ n.toDouble = x := by
  have htext : l.render x = signText x.isNegative ++ l.magnitude (x.shortest l.tie) := by
    rw [render, Double.isNaN_of_isFinite hfinite, hzero, Double.isInfinite_of_isFinite hfinite]
    cases x.isNegative <;> rfl
  obtain ⟨n, hscan, hnegative, hvalue⟩ :=
    (isNumeral_magnitude hmark (x.shortest l.tie)).scan x.isNegative
  refine ⟨n, by rw [htext, hscan], ?_⟩
  rw [Numeral.toDouble, hnegative]
  apply Double.ofDecimal_eq_of_attracts hfinite hzero
  rw [← Numeral.size, hvalue]
  exact Double.attracts_shortest l.tie hzero

end FloatLayout

end SqlClient
