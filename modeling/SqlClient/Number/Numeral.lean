import SqlClient.Number.Rounding

/-!
Reading numbers from text. `Numeral.scan` takes the longest decimal numeral at the front of a
text, `[+-]? (digits ('.' digits?)? | '.' digits) ([eE] [+-]? digits)?`, and leaves the rest;
whole texts are read as floating-point numbers, signed integers and unsigned counters.
-/

namespace SqlClient

/-- A decimal numeral in parts. -/
structure Numeral where
  negative : Bool
  whole : List Char
  fraction : List Char
  exponent : Int

/-- Splits a sign off; no sign counts as plus. -/
def scanSign : List Char → Bool × List Char
  | '+' :: cs => (false, cs)
  | '-' :: cs => (true, cs)
  | cs => (false, cs)

/-- Splits the leading digits off. -/
def scanDigits (cs : List Char) : List Char × List Char :=
  (cs.takeWhile isDigit, cs.dropWhile isDigit)

/-- Splits the digits after a point off; a text without a point has none. -/
def scanFraction : List Char → List Char × List Char
  | '.' :: cs => scanDigits cs
  | cs => ([], cs)

/-- Splits an exponent off. A letter that no digits follow is not an exponent and stays. -/
def scanExponent (cs : List Char) : Int × List Char :=
  match cs with
  | c :: tail =>
    if c = 'e' ∨ c = 'E' then
      let (negative, tail) := scanSign tail
      let (digits, rest) := scanDigits tail
      if digits.isEmpty then (0, cs)
      else (if negative then -(ofDigits digits : Int) else ofDigits digits, rest)
    else (0, cs)
  | [] => (0, cs)

namespace Numeral

/-- The longest numeral at the front of a text and what follows it. -/
def scan (cs : List Char) : Option (Numeral × List Char) :=
  let (negative, cs) := scanSign cs
  let (whole, cs) := scanDigits cs
  let (fraction, afterFraction) := scanFraction cs
  if whole.isEmpty && fraction.isEmpty then none
  else
    let (exponent, rest) := scanExponent afterFraction
    some (⟨negative, whole, fraction, exponent⟩, rest)

/-- The floating-point number nearest to a numeral. -/
def toDouble (n : Numeral) : Double :=
  Double.ofDecimal n.negative (ofDigits (n.whole ++ n.fraction)) (n.exponent - n.fraction.length)

end Numeral

/-- An ASCII letter in lower case; other characters are unchanged. -/
def lowerAscii (c : Char) : Char :=
  if 65 ≤ c.toNat ∧ c.toNat ≤ 90 then Char.ofNat (c.toNat + 32) else c

/-- Reads a whole text as a floating-point number: a numeral, or an infinity or NaN by name. -/
def readDouble? (cs : List Char) : Option Double :=
  let (negative, word) := scanSign cs
  let word := String.ofList (word.map lowerAscii)
  if word = "inf" ∨ word = "infinity" then some (Double.infinity negative)
  else if word = "nan" then some Double.nan
  else
    match Numeral.scan cs with
    | some (n, []) => some n.toDouble
    | _ => none

/-- Whether an integer is one of the signed integers of 64 bits. -/
def isInt64 (n : Int) : Bool :=
  decide (-Int.pow 2 63 ≤ n ∧ n < Int.pow 2 63)

/-- Reads a whole text as a signed integer of 64 bits. -/
def readInt64? (cs : List Char) : Option Int :=
  let (negative, digits) := scanSign cs
  if digits.isEmpty || !digits.all isDigit then none
  else
    let n : Int := if negative then -(ofDigits digits : Int) else ofDigits digits
    if isInt64 n then some n else none

/-- Reads a whole text as an unsigned counter of 64 bits. A plus sign may stand in front. -/
def readCounter? (cs : List Char) : Option Nat :=
  let digits :=
    match cs with
    | '+' :: tail => tail
    | _ => cs
  if digits.isEmpty || !digits.all isDigit then none
  else if ofDigits digits < Nat.pow 2 64 then some (ofDigits digits) else none

end SqlClient
