import SqlClient.Proofs.Number.Grammar

/-!
Scanning by byte offsets. A scanner that walks over the bytes of a text, with an offset that it
moves on and from which it looks ahead, finds the end of the same numeral, and all its offsets are
boundaries of characters. Main statements: `numeralEnd_utf8`, `isValid_of_le_lastOffset`.
-/

namespace SqlClient

/-- The bytes of a text. -/
def utf8 (cs : List Char) : List UInt8 :=
  (String.ofList cs).toUTF8.data.toList

def isAscii (c : Char) : Bool :=
  decide (c.toNat < 128)

/-- The ASCII character that a byte stands for. -/
def ascii? (byte : UInt8) : Option Char :=
  if byte.toNat < 128 then some (Char.ofNat byte.toNat) else none

namespace Offset

/-- The ASCII character at an offset, if there is one. -/
def peek (bytes : List UInt8) (i : ℕ) : Option Char :=
  bytes[i]?.bind ascii?

/-- Moves an offset over a sign. -/
def skipSign (bytes : List UInt8) (i : ℕ) : ℕ :=
  if peek bytes i = some '+' ∨ peek bytes i = some '-' then i + 1 else i

/-- Moves an offset over digits, byte by byte. -/
def skipDigits (bytes : List UInt8) (i : ℕ) : ℕ :=
  if i < bytes.length then
    if (peek bytes i).any isDigit then skipDigits bytes (i + 1) else i
  else i
termination_by bytes.length - i

/-- Moves an offset over a point and the digits behind it. -/
def skipFraction (bytes : List UInt8) (i : ℕ) : ℕ :=
  if peek bytes i = some '.' then skipDigits bytes (i + 1) else i

/-- Looks ahead from an offset over the letter of an exponent, its sign and its digits. -/
def exponentEnd (bytes : List UInt8) (i : ℕ) : ℕ :=
  if peek bytes i = some 'e' ∨ peek bytes i = some 'E' then
    skipDigits bytes (skipSign bytes (i + 1))
  else i

/-- Moves an offset over an exponent. It stays before the letter if no digits follow. -/
def skipExponent (bytes : List UInt8) (i : ℕ) : ℕ :=
  if skipSign bytes (i + 1) < exponentEnd bytes i then exponentEnd bytes i else i

/-- The number of digits from `start` to `stop` and behind a point at `stop`. -/
def digitCount (bytes : List UInt8) (start stop : ℕ) : ℕ :=
  stop - start + (skipFraction bytes stop - (stop + 1))

/-- The offset at which the longest numeral at the front of the bytes ends. -/
def numeralEnd (bytes : List UInt8) : Option ℕ :=
  let start := skipSign bytes 0
  let stop := skipDigits bytes start
  if digitCount bytes start stop = 0 then none
  else some (skipExponent bytes (skipFraction bytes stop))

/-- The greatest offset to which the scanner looks ahead. -/
def lastOffset (bytes : List UInt8) : ℕ :=
  exponentEnd bytes (skipFraction bytes (skipDigits bytes (skipSign bytes 0)))

end Offset

theorem utf8_eq_flatMap (cs : List Char) : utf8 cs = cs.flatMap String.utf8EncodeChar := by
  rw [utf8, String.toUTF8, String.toByteArray_ofList, List.utf8Encode, List.data_toByteArray]

theorem utf8_append (cs ds : List Char) : utf8 (cs ++ ds) = utf8 cs ++ utf8 ds := by
  simp only [utf8_eq_flatMap, List.flatMap_append]

theorem isAscii_of_isDigit {c : Char} (h : isDigit c = true) : isAscii c = true := by
  rw [isDigit, decide_eq_true_eq] at h
  rw [isAscii, decide_eq_true_eq]
  omega

theorem exists_utf8EncodeChar (c : Char) :
    ∃ byte more, String.utf8EncodeChar c = byte :: more ∧
      ascii? byte = (if isAscii c then some c else none) ∧ (isAscii c = true → more = []) := by
  have hlt := c.val.toNat_lt
  have hcode : c.val.toNat = c.toNat := rfl
  have hascii : isAscii c = true ↔ c.toNat < 128 := decide_eq_true_iff
  unfold String.utf8EncodeChar
  rw [hcode] at *
  dsimp only
  split
  · refine ⟨_, _, rfl, ?_, fun _ => rfl⟩
    rw [ascii?, UInt8.toNat_ofNat', Nat.mod_eq_of_lt (by omega), if_pos (by omega),
      if_pos (hascii.mpr (by omega)), Char.ofNat_toNat]
  · have hbeyond : isAscii c ≠ true := mt hascii.mp (by omega)
    rw [if_neg hbeyond]
    have hlead : ∀ (byte : UInt8) (more : List UInt8), 128 ≤ byte.toNat → ∃ byte' more',
        byte :: more = byte' :: more' ∧ ascii? byte' = none ∧
          (isAscii c = true → more' = []) := by
      intro byte more hbyte
      exact ⟨byte, more, rfl, if_neg (by omega), fun h => absurd h hbeyond⟩
    split
    · apply hlead
      rw [UInt8.toNat_ofNat']
      omega
    · split
      · apply hlead
        rw [UInt8.toNat_ofNat']
        omega
      · apply hlead
        rw [UInt8.toNat_ofNat']
        omega

theorem length_utf8 {cs : List Char} (h : ∀ c ∈ cs, isAscii c = true) :
    (utf8 cs).length = cs.length := by
  rw [utf8_eq_flatMap]
  induction cs with
  | nil => rfl
  | cons c cs ih =>
      obtain ⟨hc, hcs⟩ := List.forall_mem_cons.mp h
      obtain ⟨byte, more, hbytes, -, hmore⟩ := exists_utf8EncodeChar c
      rw [List.flatMap_cons, hbytes, hmore hc, List.length_append, ih hcs, List.length_cons]
      simp [Nat.add_comm]

/-- After the given number of bytes, all of them ASCII characters, a text goes on with the given
rest. -/
def StandsAt (t : List Char) (i : ℕ) (cs : List Char) : Prop :=
  ∃ front, front ++ cs = t ∧ (∀ c ∈ front, isAscii c = true) ∧ front.length = i

namespace StandsAt

open Offset

variable {t cs : List Char} {i : ℕ}

theorem zero (t : List Char) : StandsAt t 0 t :=
  ⟨[], rfl, by simp, rfl⟩

theorem add {ds : List Char} (h : StandsAt t i (ds ++ cs)) (hds : ∀ c ∈ ds, isAscii c = true) :
    StandsAt t (i + ds.length) cs := by
  obtain ⟨front, rfl, hfront, rfl⟩ := h
  refine ⟨front ++ ds, List.append_assoc _ _ _, ?_, List.length_append⟩
  exact fun c hc => (List.mem_append.mp hc).elim (hfront c) (hds c)

theorem add_one {c : Char} (h : StandsAt t i (c :: cs)) (hc : isAscii c = true) :
    StandsAt t (i + 1) cs :=
  h.add (List.forall_mem_singleton.mpr hc)

theorem eq_sub (h : StandsAt t i cs) : i = t.length - cs.length := by
  obtain ⟨front, rfl, -, rfl⟩ := h
  rw [List.length_append, Nat.add_sub_cancel]

theorem isValid (h : StandsAt t i cs) {j : ℕ} (hj : j ≤ i) :
    String.Pos.Raw.IsValid (String.ofList t) ⟨j⟩ := by
  obtain ⟨front, rfl, hfront, rfl⟩ := h
  rw [String.Pos.Raw.isValid_ofList]
  refine ⟨j, ?_⟩
  have htake : ∀ c ∈ front.take j, isAscii c = true :=
    fun c hc => hfront c (List.mem_of_mem_take hc)
  have hlength := length_utf8 htake
  rw [List.length_take, min_eq_left hj] at hlength
  rw [List.take_append_of_le_length hj]
  exact hlength.symm

theorem peek_eq (h : StandsAt t i cs) : peek (utf8 t) i = cs.head?.filter isAscii := by
  obtain ⟨front, rfl, hfront, rfl⟩ := h
  rw [peek, utf8_append, ← length_utf8 hfront, List.getElem?_append_right le_rfl, Nat.sub_self]
  cases cs with
  | nil => rfl
  | cons c cs =>
      obtain ⟨byte, more, hbytes, hascii, -⟩ := exists_utf8EncodeChar c
      rw [utf8_eq_flatMap, List.flatMap_cons, hbytes, List.cons_append, List.getElem?_cons_zero]
      exact hascii

theorem peek_eq_some_iff (h : StandsAt t i cs) {c : Char} (hc : isAscii c = true) :
    peek (utf8 t) i = some c ↔ cs.head? = some c := by
  rw [h.peek_eq, Option.filter_eq_some_iff]
  exact and_iff_left hc

theorem lt_length {c : Char} (h : StandsAt t i (c :: cs)) : i < (utf8 t).length := by
  obtain ⟨front, rfl, hfront, rfl⟩ := h
  obtain ⟨byte, more, hbytes, -⟩ := exists_utf8EncodeChar c
  rw [utf8_append, List.length_append, length_utf8 hfront, utf8_eq_flatMap,
    List.flatMap_cons, hbytes]
  simp

theorem skipSign (h : StandsAt t i cs) : StandsAt t (skipSign (utf8 t) i) (scanSign cs).2 := by
  have hplus := h.peek_eq_some_iff (show isAscii '+' = true by decide)
  have hminus := h.peek_eq_some_iff (show isAscii '-' = true by decide)
  unfold Offset.skipSign
  rw [ite_congr (propext (or_congr hplus hminus)) (fun _ => rfl) (fun _ => rfl)]
  split
  · rename_i hsign
    rcases hsign with hc | hc
    · obtain ⟨tail, rfl⟩ := List.head?_eq_some_iff.mp hc
      exact h.add_one (by decide)
    · obtain ⟨tail, rfl⟩ := List.head?_eq_some_iff.mp hc
      exact h.add_one (by decide)
  · rename_i hsign
    have hends : EndsSign cs := by
      intro c hc
      exact ⟨fun heq => hsign (.inl (heq ▸ hc)), fun heq => hsign (.inr (heq ▸ hc))⟩
    have hscan := scanSign_append .bare hends
    rw [List.nil_append] at hscan
    rwa [hscan]

theorem skipDigits_eq (h : StandsAt t i cs) :
    Offset.skipDigits (utf8 t) i = i + (scanDigits cs).1.length := by
  rw [scanDigits]
  induction cs generalizing i with
  | nil =>
      have hstop : peek (utf8 t) i = none := h.peek_eq
      rw [Offset.skipDigits, hstop]
      split <;> rfl
  | cons c cs ih =>
      rw [Offset.skipDigits, if_pos h.lt_length]
      by_cases hc : isDigit c = true
      · have hascii := isAscii_of_isDigit hc
        have hpeek := (h.peek_eq_some_iff hascii).mpr rfl
        have htail := ih (h.add_one hascii)
        rw [hpeek, Option.any_some, if_pos hc, htail, List.takeWhile_cons_of_pos hc,
          List.length_cons]
        dsimp only
        omega
      · have hpeek : (peek (utf8 t) i).any isDigit = false := by
          rw [h.peek_eq, Option.any_eq_false]
          intro d hd
          obtain ⟨hhead, -⟩ := Option.filter_eq_some_iff.mp hd
          rw [← Option.some.inj hhead]
          simpa using hc
        rw [hpeek, if_neg Bool.false_ne_true, List.takeWhile_cons_of_neg hc]
        rfl

theorem skipDigits (h : StandsAt t i cs) :
    StandsAt t (skipDigits (utf8 t) i) (scanDigits cs).2 := by
  rw [h.skipDigits_eq]
  rw [← scanDigits_cat cs] at h
  exact h.add fun c hc => isAscii_of_isDigit (isDigits_scanDigits cs c hc)

theorem skipFraction (h : StandsAt t i cs) :
    StandsAt t (skipFraction (utf8 t) i) (scanFraction cs).2 ∧
      Offset.skipFraction (utf8 t) i - (i + 1) = (scanFraction cs).1.length := by
  have hpoint := h.peek_eq_some_iff (show isAscii '.' = true by decide)
  unfold Offset.skipFraction
  split
  · rename_i hpeek
    obtain ⟨tail, rfl⟩ := List.head?_eq_some_iff.mp (hpoint.mp hpeek)
    have htail : StandsAt t (i + 1) tail := h.add_one (by decide)
    refine ⟨htail.skipDigits, ?_⟩
    rw [htail.skipDigits_eq, Nat.add_sub_cancel_left]
    rfl
  · rename_i hpeek
    rw [scanFraction_of_head?_ne (mt hpoint.mpr hpeek)]
    exact ⟨h, by simp⟩

theorem peek_mark_iff (h : StandsAt t i cs) :
    (peek (utf8 t) i = some 'e' ∨ peek (utf8 t) i = some 'E') ↔
      ∃ mark tail, cs = mark :: tail ∧ (mark = 'e' ∨ mark = 'E') := by
  rw [h.peek_eq_some_iff (by decide), h.peek_eq_some_iff (by decide), List.head?_eq_some_iff,
    List.head?_eq_some_iff]
  constructor
  · rintro (⟨tail, rfl⟩ | ⟨tail, rfl⟩)
    · exact ⟨'e', tail, rfl, .inl rfl⟩
    · exact ⟨'E', tail, rfl, .inr rfl⟩
  · rintro ⟨mark, tail, rfl, rfl | rfl⟩
    · exact .inl ⟨tail, rfl⟩
    · exact .inr ⟨tail, rfl⟩

theorem exponentEnd (h : StandsAt t i cs) : ∃ rest, StandsAt t (exponentEnd (utf8 t) i) rest := by
  unfold Offset.exponentEnd
  split
  · rename_i hpeek
    obtain ⟨mark, tail, rfl, hmark⟩ := h.peek_mark_iff.mp hpeek
    have htail : StandsAt t (i + 1) tail := h.add_one (by rcases hmark with rfl | rfl <;> decide)
    exact ⟨_, htail.skipSign.skipDigits⟩
  · exact ⟨cs, h⟩

theorem skipExponent (h : StandsAt t i cs) :
    StandsAt t (skipExponent (utf8 t) i) (scanExponent cs).2 := by
  by_cases hpeek : peek (utf8 t) i = some 'e' ∨ peek (utf8 t) i = some 'E'
  · obtain ⟨mark, tail, rfl, hmark⟩ := h.peek_mark_iff.mp hpeek
    have htail : StandsAt t (i + 1) tail := h.add_one (by rcases hmark with rfl | rfl <;> decide)
    have hdigits := htail.skipSign.skipDigits_eq
    have hrest := htail.skipSign.skipDigits
    rw [Offset.skipExponent, Offset.exponentEnd, if_pos hpeek, scanExponent, if_pos hmark]
    dsimp only
    by_cases hempty : (scanDigits (scanSign tail).2).1 = []
    · have hback : ¬Offset.skipSign (utf8 t) (i + 1) <
          Offset.skipDigits (utf8 t) (Offset.skipSign (utf8 t) (i + 1)) := by
        rw [hdigits, hempty]
        exact Nat.lt_irrefl _
      rw [hempty, if_neg hback]
      exact h
    · have hlength := List.length_pos_of_ne_nil hempty
      rw [if_pos (by omega), if_neg (by simpa using hempty)]
      exact hrest
  · have hscan : scanExponent cs = (0, cs) := by
      cases cs with
      | nil => rfl
      | cons mark tail =>
          rw [scanExponent, if_neg fun hmark =>
            hpeek (h.peek_mark_iff.mpr ⟨mark, tail, rfl, hmark⟩)]
    have hstay : ¬Offset.skipSign (utf8 t) (i + 1) < i := by
      unfold Offset.skipSign
      split <;> omega
    rw [Offset.skipExponent, Offset.exponentEnd, if_neg hpeek, if_neg hstay, hscan]
    exact h

end StandsAt

namespace Offset

variable (t : List Char)

/-- All that the scanner reads are characters of the text, and all its offsets their
boundaries. -/
theorem isValid_of_le_lastOffset {j : ℕ} (hj : j ≤ lastOffset (utf8 t)) :
    String.Pos.Raw.IsValid (String.ofList t) ⟨j⟩ := by
  obtain ⟨rest, hrest⟩ := (StandsAt.zero t).skipSign.skipDigits.skipFraction.1.exponentEnd
  exact hrest.isValid hj

theorem numeralEnd_utf8 :
    numeralEnd (utf8 t) = (Numeral.scan t).map fun e => t.length - e.2.length := by
  have hstart := (StandsAt.zero t).skipSign
  obtain ⟨hfraction, hcount⟩ := hstart.skipDigits.skipFraction
  have hend := hfraction.skipExponent.eq_sub
  have hwhole := hstart.skipDigits_eq
  have hempty : digitCount (utf8 t) (skipSign (utf8 t) 0)
      (skipDigits (utf8 t) (skipSign (utf8 t) 0)) = 0 ↔
      (scanMantissa (scanSign t).2).1 ++ (scanMantissa (scanSign t).2).2.1 = [] := by
    rw [digitCount, hcount, hwhole, Nat.add_sub_cancel_left, scanMantissa, ← List.length_append,
      List.length_eq_zero_iff]
  unfold numeralEnd
  rw [Numeral.scan_eq]
  dsimp only
  by_cases hnone : (scanMantissa (scanSign t).2).1 ++ (scanMantissa (scanSign t).2).2.1 = []
  · rw [if_pos (hempty.mpr hnone), if_pos hnone, Option.map_none]
  · rw [if_neg (mt hempty.mp hnone), if_neg hnone, Option.map_some, hend]
    rfl

theorem take_utf8_of_scan {n : Numeral} {p rest : List Char}
    (h : Numeral.scan (p ++ rest) = some (n, rest)) :
    numeralEnd (utf8 (p ++ rest)) = some p.length ∧
      (utf8 (p ++ rest)).take p.length = utf8 p := by
  have hend : numeralEnd (utf8 (p ++ rest)) = some p.length := by
    rw [numeralEnd_utf8, h, Option.map_some, List.length_append, Nat.add_sub_cancel]
  refine ⟨hend, ?_⟩
  have hstands := (StandsAt.zero (p ++ rest)).skipSign.skipDigits.skipFraction.1.skipExponent
  rw [Numeral.scan_eq] at h
  split at h
  · contradiction
  · have hrest := (Prod.mk.inj (Option.some.inj h)).2
    rw [scanMantissa] at hrest
    obtain ⟨front, hcat, hfront, -⟩ := hstands
    rw [hrest] at hcat
    obtain rfl := List.append_cancel_right hcat
    rw [utf8_append, ← length_utf8 hfront, List.take_left]

end Offset

end SqlClient
