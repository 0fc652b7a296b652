import SqlClient.Proofs.Number.Nearest
import SqlClient.Proofs.Number.Offsets
import SqlClient.Result.Coercion

namespace SqlClient

/-- The longest numeral at the front of a text. -/
structure IsLongest (p t : List Char) : Prop where
  front : p <+: t
  mem_numeral : p ∈ numeral
  longest : ∀ q, q <+: t → q ∈ numeral → q.length ≤ p.length

theorem IsLongest.unique {p q t : List Char} (hp : IsLongest p t) (hq : IsLongest q t) :
    p = q := by
  have hlength := hp.longest q hq.front hq.mem_numeral
  have hfront := List.prefix_of_prefix_length_le hq.front hp.front hlength
  exact (hfront.eq_of_length_le (hq.longest p hp.front hp.mem_numeral)).symm

theorem ne_nil_of_mem_numeral {p : List Char} (h : p ∈ numeral) : p ≠ [] := by
  obtain ⟨n, signText, mantissa, exponent, rfl, -, hmantissa, -⟩ := mem_numeral_iff.mp h
  obtain ⟨first, tail, rfl, -⟩ := hmantissa.exists_cons
  simp

namespace Numeral

variable {t rest : List Char} {n : Numeral}

theorem scan_eq_none_iff : scan t = none ↔ ∀ p, p <+: t → p ∉ numeral := by
  constructor
  · rintro hscan p ⟨rest, rfl⟩ hp
    obtain ⟨n, hn⟩ := mem_numeral_iff.mp hp
    obtain ⟨n', rest', hfound, -⟩ := hn.exists_scan_append rest
    simp [hscan] at hfound
  · intro hnone
    rw [Option.eq_none_iff_forall_ne_some]
    rintro ⟨n, rest⟩ hscan
    obtain ⟨p, hcat, hn⟩ := isSpelled_of_scan hscan
    exact hnone p ⟨rest, hcat⟩ (mem_numeral_iff.mpr ⟨n, hn⟩)

theorem isLongest_of_scan (h : scan t = some (n, rest)) :
    ∃ p, p ++ rest = t ∧ n.IsSpelled p ∧ IsLongest p t := by
  obtain ⟨p, rfl, hn⟩ := isSpelled_of_scan h
  refine ⟨p, rfl, hn, ⟨rest, rfl⟩, mem_numeral_iff.mpr ⟨n, hn⟩, ?_⟩
  rintro q ⟨more, hq⟩ hmem
  obtain ⟨n', hn'⟩ := mem_numeral_iff.mp hmem
  obtain ⟨m, rest', hscan, hlength⟩ := hn'.exists_scan_append more
  rw [hq, h] at hscan
  cases hscan
  have hcount := congrArg List.length hq
  rw [List.length_append, List.length_append] at hcount
  omega

theorem IsSpelled.unique {n' : Numeral} {p : List Char} (hn : n.IsSpelled p)
    (hn' : n'.IsSpelled p) :
    n = n' := by
  have hscan := hn.scan_eq_some
  rw [hn'.scan_eq_some] at hscan
  cases hscan
  rfl

theorem scan_of_isLongest {p : List Char} (h : IsLongest p t) (hn : n.IsSpelled p) :
    ∃ rest, scan t = some (n, rest) := by
  cases hscan : scan t with
  | none => exact absurd h.mem_numeral (scan_eq_none_iff.mp hscan p h.front)
  | some e =>
      obtain ⟨n', rest⟩ := e
      obtain ⟨q, -, hn', hq⟩ := isLongest_of_scan hscan
      rw [h.unique hq] at hn
      exact ⟨rest, by rw [hn.unique hn']⟩

theorem isNearest_toDouble (n : Numeral) : Double.IsNearest n.negative n.size n.toDouble :=
  Double.isNearest_ofDecimal _ _ _

theorem IsSpelled.readDouble?_eq {p : List Char} (h : n.IsSpelled p) :
    readDouble? p = some n.toDouble := by
  have hscan := h.scan_eq_some
  obtain ⟨signText, mantissa, exponent, rfl, hsign, hmantissa, -⟩ := h
  obtain ⟨first, tail, rfl, hfirst⟩ := hmantissa.exists_cons
  have hcode : first.toNat < 65 := by
    rcases hfirst with hdigit | rfl
    · rw [isDigit, decide_eq_true_eq] at hdigit
      omega
    · decide
  have hlower : lowerAscii first = first := if_neg (by omega)
  have hword : ∀ name : String, (∃ c cs, name.toList = c :: cs ∧ 65 ≤ c.toNat) →
      String.ofList (List.map lowerAscii (first :: tail ++ exponent)) ≠ name := by
    rintro name ⟨c, cs, hname, hc⟩ heq
    rw [← heq, String.toList_ofList, List.cons_append, List.map_cons, hlower] at hname
    rw [← (List.cons.inj hname).1] at hc
    omega
  rw [readDouble?, scanSign_append hsign (hmantissa.endsSign exponent), hscan]
  dsimp only
  rw [if_neg, if_neg]
  · exact hword _ ⟨'n', ['a', 'n'], rfl, by decide⟩
  · exact not_or.mpr ⟨hword _ ⟨'i', _, rfl, by decide⟩, hword _ ⟨'i', _, rfl, by decide⟩⟩

end Numeral

namespace Coercion

/-- The floating-point number at the front of a text. -/
def floatPrefix? (s : String) : Option Double :=
  (Numeral.scan (skipBlanks s.toList)).map fun e => e.1.toDouble

theorem doubleCell_string (s : String) :
    doubleCell (.string s) = ((floatPrefix? s).map floatCell).getD .null := by
  rw [doubleCell, floatPrefix?]
  cases Numeral.scan (skipBlanks s.toList) with
  | none => rfl
  | some e => rfl

/-- Text in a floating-point column is read up to the end of the longest numeral at its front,
which is rounded to the nearest number; without a numeral there is none. The scanner by offsets of
bytes finds the same end, reading what stands before it does not fail, and every offset up to
where it looks ahead lies in the text and on a boundary of characters. No text with the same
longest numeral is read differently. -/
theorem reads_longest_numeral (s : String) :
    doubleCell (.string s) = ((floatPrefix? s).map floatCell).getD .null ∧
      (floatPrefix? s = none ↔ ∀ p, p ≠ [] → p <+: skipBlanks s.toList → p ∉ numeral) ∧
      (∀ x, floatPrefix? s = some x → ∃ (p : List Char) (n : Numeral),
        IsLongest p (skipBlanks s.toList) ∧ n.IsSpelled p ∧ Double.IsNearest n.negative n.size x ∧
        (∀ s' : String, IsLongest p (skipBlanks s'.toList) → floatPrefix? s' = some x) ∧
        Offset.numeralEnd (utf8 (skipBlanks s.toList)) = some p.length ∧
        (utf8 (skipBlanks s.toList)).take p.length = utf8 p ∧ readDouble? p = some x) ∧
      ∀ i ≤ Offset.lastOffset (utf8 (skipBlanks s.toList)),
        String.Pos.Raw.IsValid (String.ofList (skipBlanks s.toList)) ⟨i⟩ := by
  refine ⟨doubleCell_string s, ?_, ?_, fun i hi => Offset.isValid_of_le_lastOffset _ hi⟩
  · rw [floatPrefix?, Option.map_eq_none_iff, Numeral.scan_eq_none_iff]
    exact ⟨fun h p _ => h p, fun h p hp hmem => h p (ne_nil_of_mem_numeral hmem) hp hmem⟩
  · intro x hx
    obtain ⟨⟨n, rest⟩, hscan, rfl⟩ := Option.map_eq_some_iff.mp hx
    obtain ⟨p, hcat, hn, hp⟩ := Numeral.isLongest_of_scan hscan
    rw [← hcat] at hscan
    obtain ⟨hend, hbytes⟩ := Offset.take_utf8_of_scan hscan
    rw [hcat] at hend hbytes
    refine ⟨p, n, hp, hn, n.isNearest_toDouble, ?_, hend, hbytes, hn.readDouble?_eq⟩
    intro s' hp'
    obtain ⟨rest', hscan'⟩ := Numeral.scan_of_isLongest hp' hn
    rw [floatPrefix?, hscan', Option.map_some]

theorem reads_longest_numeral_kilograms :
    floatPrefix? " 1.5e3kg" = some (Double.ofInt 1500) ∧
      ∃ (p : List Char) (n : Numeral), IsLongest p (skipBlanks " 1.5e3kg".toList) ∧
        n.IsSpelled p ∧
        Double.IsNearest n.negative n.size (Double.ofInt 1500) := by
  have hread : floatPrefix? " 1.5e3kg" = some (Double.ofInt 1500) := by decide +kernel
  obtain ⟨p, n, hp, hn, hnearest, -⟩ := (reads_longest_numeral " 1.5e3kg").2.2.1 _ hread
  exact ⟨hread, p, n, hp, hn, hnearest⟩

end Coercion

end SqlClient
