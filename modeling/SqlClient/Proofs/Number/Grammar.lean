import SqlClient.Number.Numeral
import Mathlib.Computability.Language
import Mathlib.Tactic

namespace SqlClient

open scoped Computability

/-- Texts of one character out of a few. -/
def oneOf (marks : List Char) : Language Char :=
  {cs | ∃ c ∈ marks, cs = [c]}

/-- Texts of one digit. -/
def digit : Language Char :=
  {cs | ∃ c, isDigit c = true ∧ cs = [c]}

def sign : Language Char :=
  1 + oneOf ['+', '-']

/-- The texts `[+-]? (d+ ('.' d*)? | '.' d+) ([eE] [+-]? d+)?`. -/
def numeral : Language Char :=
  sign * (digit * digit∗ * (1 + oneOf ['.'] * digit∗) + oneOf ['.'] * (digit * digit∗)) *
    (1 + oneOf ['e', 'E'] * (sign * (digit * digit∗)))

/-- A text of digits only, which may be empty. -/
def IsDigits (cs : List Char) : Prop :=
  ∀ c ∈ cs, isDigit c = true

/-- A sign as it is written; plus may be left out. -/
inductive SpellsSign : Bool → List Char → Prop
  | bare : SpellsSign false []
  | plus : SpellsSign false ['+']
  | minus : SpellsSign true ['-']

/-- The digits around a point as they are written. On one side of the point they may be missing,
and the point may be left out behind the last digit. -/
inductive SpellsMantissa : List Char → List Char → List Char → Prop
  | bare {whole : List Char} (hne : whole ≠ []) (hwhole : IsDigits whole) :
      SpellsMantissa whole [] whole
  | pointed {whole fraction : List Char} (hne : whole ++ fraction ≠ []) (hwhole : IsDigits whole)
      (hfraction : IsDigits fraction) : SpellsMantissa whole fraction (whole ++ '.' :: fraction)

/-- An exponent as it is written; zero may be left out. -/
inductive SpellsExponent : ℤ → List Char → Prop
  | bare : SpellsExponent 0 []
  | marked {mark : Char} {negative : Bool} {sign digits : List Char}
      (hmark : mark = 'e' ∨ mark = 'E')
      (hsign : SpellsSign negative sign) (hne : digits ≠ []) (hdigits : IsDigits digits) :
      SpellsExponent (if negative then -(ofDigits digits : ℤ) else ofDigits digits)
        (mark :: (sign ++ digits))

namespace Numeral

/-- A numeral in parts and as it is written. -/
def IsSpelled (n : Numeral) (cs : List Char) : Prop :=
  ∃ sign mantissa exponent, cs = sign ++ (mantissa ++ exponent) ∧ SpellsSign n.negative sign ∧
    SpellsMantissa n.whole n.fraction mantissa ∧ SpellsExponent n.exponent exponent

/-- The size of a numeral, without its sign. -/
def size (n : Numeral) : ℚ :=
  ofDigits (n.whole ++ n.fraction) * 10 ^ (n.exponent - n.fraction.length)

end Numeral

theorem mem_oneOf_iff {marks cs : List Char} : cs ∈ oneOf marks ↔ ∃ c ∈ marks, cs = [c] :=
  Iff.rfl

theorem mem_digit_star_iff {cs : List Char} : cs ∈ digit∗ ↔ IsDigits cs := by
  rw [Language.mem_kstar]
  constructor
  · rintro ⟨parts, rfl, hparts⟩ c hc
    obtain ⟨part, hpart, hc⟩ := List.mem_flatten.mp hc
    obtain ⟨d, hd, rfl⟩ := hparts part hpart
    rwa [List.mem_singleton.mp hc]
  · intro h
    refine ⟨cs.map fun c => [c], by simp [← List.flatMap_def], ?_⟩
    intro part hpart
    obtain ⟨c, hc, rfl⟩ := List.mem_map.mp hpart
    exact ⟨c, h c hc, rfl⟩

theorem mem_digits_iff {cs : List Char} : cs ∈ digit * digit∗ ↔ cs ≠ [] ∧ IsDigits cs := by
  simp only [Language.mem_mul, mem_digit_star_iff]
  constructor
  · rintro ⟨first, ⟨c, hc, rfl⟩, rest, hrest, rfl⟩
    exact ⟨by simp, List.forall_mem_cons.mpr ⟨hc, hrest⟩⟩
  · rintro ⟨hne, h⟩
    obtain ⟨c, rest, rfl⟩ := List.exists_cons_of_ne_nil hne
    obtain ⟨hc, hrest⟩ := List.forall_mem_cons.mp h
    exact ⟨[c], ⟨c, hc, rfl⟩, rest, hrest, rfl⟩

theorem mem_sign_iff {cs : List Char} : cs ∈ sign ↔ ∃ negative, SpellsSign negative cs := by
  simp only [sign, Language.mem_add, Language.mem_one, mem_oneOf_iff]
  constructor
  · rintro (rfl | ⟨c, hc, rfl⟩)
    · exact ⟨false, .bare⟩
    · rcases List.mem_pair.mp hc with rfl | rfl
      · exact ⟨false, .plus⟩
      · exact ⟨true, .minus⟩
  · rintro ⟨negative, h⟩
    cases h with
    | bare => exact .inl rfl
    | plus => exact .inr ⟨'+', by simp, rfl⟩
    | minus => exact .inr ⟨'-', by simp, rfl⟩

theorem mem_mantissa_iff {cs : List Char} :
    cs ∈ digit * digit∗ * (1 + oneOf ['.'] * digit∗) + oneOf ['.'] * (digit * digit∗) ↔
      ∃ whole fraction, SpellsMantissa whole fraction cs := by
  rw [Language.mem_add, Language.mem_mul, Language.mem_mul]
  constructor
  · rintro (⟨whole, hwhole, tail, htail, rfl⟩ | ⟨point, hpoint, fraction, hfraction, rfl⟩)
    · obtain ⟨hne, hwhole⟩ := mem_digits_iff.mp hwhole
      rcases (Language.mem_add _ _ _).mp htail with htail | htail
      · obtain rfl := (Language.mem_one _).mp htail
        rw [List.append_nil]
        exact ⟨whole, [], .bare hne hwhole⟩
      · obtain ⟨point, ⟨c, hc, rfl⟩, fraction, hfraction, rfl⟩ := Language.mem_mul.mp htail
        obtain rfl := List.mem_singleton.mp hc
        exact ⟨whole, fraction, .pointed (by simp [hne]) hwhole (mem_digit_star_iff.mp hfraction)⟩
    · obtain ⟨c, hc, rfl⟩ := hpoint
      obtain rfl := List.mem_singleton.mp hc
      obtain ⟨hne, hfraction⟩ := mem_digits_iff.mp hfraction
      exact ⟨[], fraction, .pointed hne (by simp [IsDigits]) hfraction⟩
  · rintro ⟨whole, fraction, ⟨hne, hwhole⟩ | ⟨hne, hwhole, hfraction⟩⟩
    · refine .inl ⟨cs, mem_digits_iff.mpr ⟨hne, hwhole⟩, [], ?_, List.append_nil _⟩
      exact (Language.mem_add _ _ _).mpr (.inl ((Language.mem_one _).mpr rfl))
    · rcases eq_or_ne whole [] with rfl | hwholeNe
      · exact .inr ⟨['.'], ⟨'.', by simp, rfl⟩, fraction,
          mem_digits_iff.mpr ⟨hne, hfraction⟩, rfl⟩
      · refine .inl ⟨whole, mem_digits_iff.mpr ⟨hwholeNe, hwhole⟩, '.' :: fraction, ?_, rfl⟩
        refine (Language.mem_add _ _ _).mpr (.inr (Language.mem_mul.mpr ?_))
        exact ⟨['.'], ⟨'.', by simp, rfl⟩, fraction, mem_digit_star_iff.mpr hfraction, rfl⟩

theorem mem_exponent_iff {cs : List Char} :
    cs ∈ 1 + oneOf ['e', 'E'] * (sign * (digit * digit∗)) ↔ ∃ e, SpellsExponent e cs := by
  rw [Language.mem_add, Language.mem_one, Language.mem_mul]
  constructor
  · rintro (rfl | ⟨mark, ⟨c, hc, rfl⟩, tail, htail, rfl⟩)
    · exact ⟨0, .bare⟩
    · obtain ⟨signText, hsign, digits, hdigits, rfl⟩ := Language.mem_mul.mp htail
      obtain ⟨negative, hsign⟩ := mem_sign_iff.mp hsign
      obtain ⟨hne, hdigits⟩ := mem_digits_iff.mp hdigits
      have hspelled := SpellsExponent.marked (List.mem_pair.mp hc) hsign hne hdigits
      exact ⟨_, hspelled⟩
  · rintro ⟨e, h⟩
    cases h with
    | bare => exact .inl rfl
    | marked hmark hsign hne hdigits =>
        refine .inr ⟨[_], ⟨_, List.mem_pair.mpr hmark, rfl⟩, _, Language.mem_mul.mpr ?_, rfl⟩
        exact ⟨_, mem_sign_iff.mpr ⟨_, hsign⟩, _, mem_digits_iff.mpr ⟨hne, hdigits⟩, rfl⟩

theorem mem_numeral_iff {cs : List Char} : cs ∈ numeral ↔ ∃ n : Numeral, n.IsSpelled cs := by
  rw [numeral, Language.mem_mul]
  constructor
  · rintro ⟨front, hfront, exponent, hexponent, rfl⟩
    obtain ⟨signText, hsign, mantissa, hmantissa, rfl⟩ := Language.mem_mul.mp hfront
    obtain ⟨negative, hsign⟩ := mem_sign_iff.mp hsign
    obtain ⟨whole, fraction, hmantissa⟩ := mem_mantissa_iff.mp hmantissa
    obtain ⟨e, hexponent⟩ := mem_exponent_iff.mp hexponent
    exact ⟨⟨negative, whole, fraction, e⟩, signText, mantissa, exponent, List.append_assoc _ _ _,
      hsign, hmantissa, hexponent⟩
  · rintro ⟨n, signText, mantissa, exponent, rfl, hsign, hmantissa, hexponent⟩
    refine ⟨signText ++ mantissa, Language.mem_mul.mpr ?_, exponent,
      mem_exponent_iff.mpr ⟨_, hexponent⟩, List.append_assoc _ _ _⟩
    exact ⟨signText, mem_sign_iff.mpr ⟨_, hsign⟩, mantissa,
      mem_mantissa_iff.mpr ⟨_, _, hmantissa⟩, rfl⟩

/-- What follows a run of digits, if it does not go on with one. -/
def EndsDigits (rest : List Char) : Prop :=
  ∀ c ∈ rest.head?, isDigit c = false

theorem scanDigits_append {digits rest : List Char} (hdigits : IsDigits digits)
    (hrest : EndsDigits rest) : scanDigits (digits ++ rest) = (digits, rest) := by
  have hstop : rest.takeWhile isDigit = [] ∧ rest.dropWhile isDigit = rest := by
    cases rest with
    | nil => exact ⟨rfl, rfl⟩
    | cons c rest => simp [hrest c rfl]
  rw [scanDigits, List.takeWhile_append_of_pos hdigits,
    List.dropWhile_append_of_pos hdigits, hstop.1, hstop.2, List.append_nil]

theorem scanDigits_append_rest {digits : List Char} (hdigits : IsDigits digits)
    (rest : List Char) :
    scanDigits (digits ++ rest) = (digits ++ (scanDigits rest).1, (scanDigits rest).2) := by
  rw [scanDigits, List.takeWhile_append_of_pos hdigits, List.dropWhile_append_of_pos hdigits]
  rfl

theorem scanDigits_cat (cs : List Char) : (scanDigits cs).1 ++ (scanDigits cs).2 = cs :=
  List.takeWhile_append_dropWhile

theorem isDigits_scanDigits (cs : List Char) : IsDigits (scanDigits cs).1 :=
  List.all_eq_true.mp List.all_takeWhile

theorem length_scanDigits_le (cs : List Char) : (scanDigits cs).2.length ≤ cs.length :=
  (List.dropWhile_suffix isDigit).length_le

/-- What cannot be the rest of a sign. -/
def EndsSign (rest : List Char) : Prop :=
  ∀ c ∈ rest.head?, c ≠ '+' ∧ c ≠ '-'

theorem endsSign_of_isDigit {c : Char} (h : isDigit c = true) (rest : List Char) :
    EndsSign (c :: rest) := by
  rintro _ ⟨⟩
  exact ⟨fun hc => absurd (hc ▸ h) (by decide), fun hc => absurd (hc ▸ h) (by decide)⟩

theorem scanSign_append {negative : Bool} {signText rest : List Char}
    (hsign : SpellsSign negative signText) (hrest : EndsSign rest) :
    scanSign (signText ++ rest) = (negative, rest) := by
  cases hsign with
  | plus => rfl
  | minus => rfl
  | bare =>
      rw [List.nil_append]
      unfold scanSign
      split
      · exact absurd rfl (hrest '+' rfl).1
      · exact absurd rfl (hrest '-' rfl).2
      · rfl

theorem scanSign_cat (cs : List Char) :
    ∃ signText, signText ++ (scanSign cs).2 = cs ∧ SpellsSign (scanSign cs).1 signText := by
  unfold scanSign
  split
  · exact ⟨['+'], rfl, .plus⟩
  · exact ⟨['-'], rfl, .minus⟩
  · exact ⟨[], rfl, .bare⟩

theorem length_scanFraction_le (cs : List Char) : (scanFraction cs).2.length ≤ cs.length := by
  unfold scanFraction
  split
  · exact (length_scanDigits_le _).trans (Nat.le_succ _)
  · exact le_rfl

theorem scanFraction_of_head?_ne {cs : List Char} (h : cs.head? ≠ some '.') :
    scanFraction cs = ([], cs) := by
  unfold scanFraction
  split
  · exact absurd rfl h
  · rfl

/-- The digits around a point, and what follows them. -/
def scanMantissa (cs : List Char) : List Char × List Char × List Char :=
  ((scanDigits cs).1, scanFraction (scanDigits cs).2)

/-- What cannot be the rest of a mantissa. -/
def EndsMantissa (rest : List Char) : Prop :=
  ∀ c ∈ rest.head?, isDigit c = false ∧ c ≠ '.'

theorem EndsMantissa.endsDigits {rest : List Char} (h : EndsMantissa rest) : EndsDigits rest :=
  fun c hc => (h c hc).1

theorem scanMantissa_append {whole fraction mantissa rest : List Char}
    (h : SpellsMantissa whole fraction mantissa) (hrest : EndsMantissa rest) :
    scanMantissa (mantissa ++ rest) = (whole, fraction, rest) := by
  cases h with
  | bare _ hwhole =>
      have hfraction := scanFraction_of_head?_ne fun h => (hrest '.' h).2 rfl
      rw [scanMantissa, scanDigits_append hwhole hrest.endsDigits, hfraction]
  | pointed _ hwhole hfraction =>
      have hpoint : EndsDigits ('.' :: (fraction ++ rest)) := by
        rintro _ ⟨⟩
        decide
      rw [List.append_assoc, List.cons_append, scanMantissa, scanDigits_append hwhole hpoint,
        scanFraction, scanDigits_append hfraction hrest.endsDigits]

theorem length_scanMantissa_le {whole fraction mantissa : List Char}
    (h : SpellsMantissa whole fraction mantissa) (rest : List Char) :
    (scanMantissa (mantissa ++ rest)).1 ++ (scanMantissa (mantissa ++ rest)).2.1 ≠ [] ∧
      (scanMantissa (mantissa ++ rest)).2.2.length ≤ rest.length := by
  cases h with
  | bare hne hwhole =>
      rw [scanMantissa, scanDigits_append_rest hwhole]
      exact ⟨by simp [hne], (length_scanFraction_le _).trans (length_scanDigits_le _)⟩
  | pointed hne hwhole hfraction =>
      have hpoint : EndsDigits ('.' :: (fraction ++ rest)) := by
        rintro _ ⟨⟩
        decide
      rw [List.append_assoc, List.cons_append, scanMantissa, scanDigits_append hwhole hpoint,
        scanFraction, scanDigits_append_rest hfraction]
      exact ⟨by simpa using fun hw hf => absurd hf (by simpa [hw] using hne),
        length_scanDigits_le _⟩

theorem scanMantissa_cat {cs : List Char}
    (hne : (scanMantissa cs).1 ++ (scanMantissa cs).2.1 ≠ []) :
    ∃ mantissa, mantissa ++ (scanMantissa cs).2.2 = cs ∧
      SpellsMantissa (scanMantissa cs).1 (scanMantissa cs).2.1 mantissa := by
  have hcat := scanDigits_cat cs
  have hwhole := isDigits_scanDigits cs
  unfold scanMantissa at hne ⊢
  generalize (scanDigits cs).1 = whole at *
  generalize (scanDigits cs).2 = tail at *
  subst hcat
  unfold scanFraction at hne ⊢
  split at hne
  · rename_i tail
    refine ⟨whole ++ '.' :: (scanDigits tail).1, ?_,
      .pointed hne hwhole (isDigits_scanDigits tail)⟩
    rw [List.append_assoc, List.cons_append, scanDigits_cat]
  · rw [List.append_nil] at hne
    exact ⟨whole, rfl, .bare hne hwhole⟩

theorem scanExponent_marked {mark : Char} {negative : Bool} {signText digits : List Char}
    (hmark : mark = 'e' ∨ mark = 'E') (hsign : SpellsSign negative signText) (hne : digits ≠ [])
    (hdigits : IsDigits digits) (rest : List Char) :
    scanExponent (mark :: (signText ++ digits) ++ rest) =
      (if negative then -(ofDigits (digits ++ (scanDigits rest).1) : ℤ)
        else ofDigits (digits ++ (scanDigits rest).1), (scanDigits rest).2) := by
  obtain ⟨first, others, rfl⟩ := List.exists_cons_of_ne_nil hne
  have hfirst := hdigits first List.mem_cons_self
  have htail : scanSign (signText ++ (first :: others) ++ rest) =
      (negative, first :: others ++ rest) := by
    rw [List.append_assoc]
    exact scanSign_append hsign (endsSign_of_isDigit hfirst _)
  have hmore : (first :: others ++ (scanDigits rest).1).isEmpty = false := rfl
  rw [List.cons_append, scanExponent]
  simp only [hmark, if_true, htail, scanDigits_append_rest hdigits, hmore,
    Bool.false_eq_true, if_false]

theorem scanExponent_of_spellsExponent {e : ℤ} {exponent : List Char}
    (h : SpellsExponent e exponent) :
    scanExponent exponent = (e, []) := by
  cases h with
  | bare => rfl
  | marked hmark hsign hne hdigits =>
      have hscan := scanExponent_marked hmark hsign hne hdigits []
      rwa [List.append_nil, show scanDigits [] = ([], []) from rfl, List.append_nil] at hscan

theorem scanExponent_cat (cs : List Char) :
    ∃ exponent, exponent ++ (scanExponent cs).2 = cs ∧
      SpellsExponent (scanExponent cs).1 exponent := by
  cases cs with
  | nil => exact ⟨[], rfl, .bare⟩
  | cons mark tail =>
      rw [scanExponent]
      split
      · rename_i hmark
        obtain ⟨signText, hcat, hsign⟩ := scanSign_cat tail
        have hdigits := scanDigits_cat (scanSign tail).2
        have hall := isDigits_scanDigits (scanSign tail).2
        dsimp only
        split
        · exact ⟨[], rfl, .bare⟩
        · rename_i hne
          refine ⟨mark :: (signText ++ (scanDigits (scanSign tail).2).1), ?_,
            .marked hmark hsign ?_ hall⟩
          · rw [List.cons_append, List.append_assoc, hdigits, hcat]
          · simpa using hne
      · exact ⟨[], rfl, .bare⟩

theorem length_scanExponent_le (cs : List Char) : (scanExponent cs).2.length ≤ cs.length := by
  obtain ⟨exponent, hcat, -⟩ := scanExponent_cat cs
  have hlength := congrArg List.length hcat
  rw [List.length_append] at hlength
  omega

theorem length_scanExponent_append_le {e : ℤ} {exponent : List Char}
    (h : SpellsExponent e exponent)
    (rest : List Char) : (scanExponent (exponent ++ rest)).2.length ≤ rest.length := by
  cases h with
  | bare => exact length_scanExponent_le rest
  | marked hmark hsign hne hdigits =>
      rw [scanExponent_marked hmark hsign hne hdigits]
      exact length_scanDigits_le rest

theorem SpellsExponent.endsMantissa {e : ℤ} {exponent : List Char} (h : SpellsExponent e exponent)
    (hne : exponent ≠ []) (rest : List Char) : EndsMantissa (exponent ++ rest) := by
  cases h with
  | bare => contradiction
  | marked hmark =>
      rintro _ ⟨⟩
      rcases hmark with rfl | rfl
      · decide
      · decide

theorem SpellsMantissa.ne_nil {whole fraction mantissa : List Char}
    (h : SpellsMantissa whole fraction mantissa) : whole ++ fraction ≠ [] := by
  cases h with
  | bare hne => simpa using hne
  | pointed hne => exact hne

theorem SpellsMantissa.exists_cons {whole fraction mantissa : List Char}
    (h : SpellsMantissa whole fraction mantissa) :
    ∃ first tail, mantissa = first :: tail ∧ (isDigit first = true ∨ first = '.') := by
  have hdigits : ∀ {cs : List Char}, cs ≠ [] → IsDigits cs → ∃ first tail, cs = first :: tail ∧
      isDigit first = true := by
    intro cs hne hcs
    obtain ⟨first, tail, rfl⟩ := List.exists_cons_of_ne_nil hne
    exact ⟨first, tail, rfl, hcs first List.mem_cons_self⟩
  cases h with
  | bare hne hwhole =>
      obtain ⟨first, tail, rfl, hfirst⟩ := hdigits hne hwhole
      exact ⟨first, tail, rfl, .inl hfirst⟩
  | pointed _ hwhole =>
      rcases eq_or_ne whole [] with rfl | hne
      · exact ⟨'.', fraction, rfl, .inr rfl⟩
      · obtain ⟨first, tail, rfl, hfirst⟩ := hdigits hne hwhole
        exact ⟨first, tail ++ '.' :: fraction, rfl, .inl hfirst⟩

theorem SpellsMantissa.endsSign {whole fraction mantissa : List Char}
    (h : SpellsMantissa whole fraction mantissa) (rest : List Char) :
    EndsSign (mantissa ++ rest) := by
  obtain ⟨first, tail, rfl, hfirst | rfl⟩ := h.exists_cons
  · exact endsSign_of_isDigit hfirst _
  · rintro _ ⟨⟩
    decide

namespace Numeral

theorem scan_eq (cs : List Char) :
    scan cs =
      if (scanMantissa (scanSign cs).2).1 ++ (scanMantissa (scanSign cs).2).2.1 = [] then none
      else some (⟨(scanSign cs).1, (scanMantissa (scanSign cs).2).1,
        (scanMantissa (scanSign cs).2).2.1, (scanExponent (scanMantissa (scanSign cs).2).2.2).1⟩,
        (scanExponent (scanMantissa (scanSign cs).2).2.2).2) := by
  rw [scan]
  simp only [scanMantissa, Bool.and_eq_true, List.isEmpty_iff, List.append_eq_nil_iff]

theorem isSpelled_of_scan {cs rest : List Char} {n : Numeral} (h : scan cs = some (n, rest)) :
    ∃ p, p ++ rest = cs ∧ n.IsSpelled p := by
  rw [scan_eq] at h
  split at h
  · contradiction
  · rename_i hne
    cases h
    obtain ⟨signText, hsignCat, hsign⟩ := scanSign_cat cs
    obtain ⟨mantissa, hmantissaCat, hmantissa⟩ := scanMantissa_cat hne
    obtain ⟨exponent, hexponentCat, hexponent⟩ :=
      scanExponent_cat (scanMantissa (scanSign cs).2).2.2
    refine ⟨signText ++ (mantissa ++ exponent), ?_, signText, mantissa, exponent, rfl,
      hsign, hmantissa, hexponent⟩
    rw [List.append_assoc, List.append_assoc, hexponentCat, hmantissaCat, hsignCat]

theorem IsSpelled.scan_eq_some {n : Numeral} {p : List Char} (h : n.IsSpelled p) :
    scan p = some (n, []) := by
  obtain ⟨signText, mantissa, exponent, rfl, hsign, hmantissa, hexponent⟩ := h
  have hends : EndsMantissa exponent := by
    rcases eq_or_ne exponent [] with rfl | hne
    · rintro _ ⟨⟩
    · rw [← List.append_nil exponent]
      exact hexponent.endsMantissa hne []
  rw [scan_eq, scanSign_append hsign (hmantissa.endsSign _), scanMantissa_append hmantissa hends,
    scanExponent_of_spellsExponent hexponent, if_neg hmantissa.ne_nil]

/-- If a text begins with a numeral, then scanning takes one at least as long. -/
theorem IsSpelled.exists_scan_append {n : Numeral} {p : List Char} (h : n.IsSpelled p)
    (rest : List Char) :
    ∃ n' rest', scan (p ++ rest) = some (n', rest') ∧ rest'.length ≤ rest.length := by
  obtain ⟨signText, mantissa, exponent, rfl, hsign, hmantissa, hexponent⟩ := h
  obtain ⟨hne, hlength⟩ := length_scanMantissa_le hmantissa (exponent ++ rest)
  rw [scan_eq, List.append_assoc, List.append_assoc, scanSign_append hsign (hmantissa.endsSign _),
    if_neg hne]
  refine ⟨_, _, rfl, ?_⟩
  rcases eq_or_ne exponent [] with rfl | hmarked
  · exact (length_scanExponent_le _).trans hlength
  · rw [scanMantissa_append hmantissa (hexponent.endsMantissa hmarked rest)]
    exact length_scanExponent_append_le hexponent rest

end Numeral

end SqlClient
