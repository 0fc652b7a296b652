import SqlClient.Json.Parser
import SqlClient.Settings.Toml.Value

namespace SqlClient

namespace Toml

/-- Digits that may be separated by single underscores, without the underscores. -/
def plainDigits? (allowed : Char → Bool) : List Char → Option (List Char)
  | [] => none
  | [c] => if allowed c then some [c] else none
  | c :: '_' :: cs => if allowed c then (plainDigits? allowed cs).map (c :: ·) else none
  | c :: cs => if allowed c then (plainDigits? allowed cs).map (c :: ·) else none

/-- The digits in front of a point: a zero stands alone. -/
def wholeDigits? (cs : List Char) : Option (List Char) :=
  match plainDigits? isDigit cs with
  | some ('0' :: _ :: _) => none
  | digits => digits

/-- The value of digits in a base. -/
def valueIn (base : Nat) (digits : List Char) : Nat :=
  digits.foldl (fun value c => base * value + (Json.hexValue? c).getD 0) 0

def isDigitIn (base : Nat) (c : Char) : Bool :=
  (Json.hexValue? c).any (· < base)

def boundedInt? (n : Int) : Option Value :=
  if isInt64 n then some (.int n) else none

/-- An integer in a base other than ten. -/
def based? (base : Nat) (cs : List Char) : Option Value :=
  match plainDigits? (isDigitIn base) cs with
  | some digits => boundedInt? (valueIn base digits)
  | none => none

/-- A floating-point number in parts: digits before the point, digits after it if there is one,
and the exponent if there is one. A number that is too large is refused, one that is too small is
not. -/
def float? (negative : Bool) (cs : List Char) : Option Value :=
  let isMark (c : Char) : Bool := c == '.' || c == 'e' || c == 'E'
  let wholeText := cs.takeWhile fun c => !isMark c
  let afterWhole := cs.drop wholeText.length
  let fractionText : Option (List Char) :=
    match afterWhole with
    | '.' :: rest => some (rest.takeWhile fun c => !isMark c)
    | _ => none
  let afterFraction :=
    match fractionText with
    | some text => afterWhole.drop (text.length + 1)
    | none => afterWhole
  let fraction : Option (List Char) :=
    match fractionText with
    | some text => plainDigits? isDigit text
    | none => some []
  let exponent : Option Int :=
    match afterFraction with
    | [] => some 0
    | '.' :: _ => none
    | _ :: rest =>
      let (negative, digits) := scanSign rest
      (plainDigits? isDigit digits).map fun digits =>
        if negative then -(ofDigits digits : Int) else ofDigits digits
  match wholeDigits? wholeText, fraction, exponent with
  | some whole, some fraction, some exponent =>
    let x := (Numeral.mk negative whole fraction exponent).toDouble
    if x.isInfinite && !negative then none else some (.float x)
  | _, _, _ => none

/-- A number: an integer in one of four bases, or a floating-point number. -/
def number? (cs : List Char) : Option Value :=
  match cs with
  | '0' :: 'x' :: digits => based? 16 digits
  | '0' :: 'o' :: digits => based? 8 digits
  | '0' :: 'b' :: digits => based? 2 digits
  | _ =>
    let (negative, size) := scanSign cs
    if size = "inf".toList then some (.float (Double.infinity negative))
    else if size = "nan".toList then some (.float Double.nan)
    else if size.any fun c => c == '.' || c == 'e' || c == 'E' then float? negative size
    else
      match wholeDigits? size with
      | some digits =>
        boundedInt? (if negative then -(ofDigits digits : Int) else ofDigits digits)
      | none => none

end Toml

end SqlClient
