import SqlClient.Number.Digits

namespace SqlClient

namespace Toml

/-- The latest hour of the day and the largest parts of an offset. -/
structure MomentBounds where
  hour : Nat
  offsetHour : Nat
  offsetMinute : Nat

/-- A moment written as such keeps to the clock. -/
def MomentBounds.clock : MomentBounds := ⟨23, 23, 59⟩

/-- A moment given as a text may have the hour 24, and an offset is held only to a day as a
whole. -/
def MomentBounds.loose : MomentBounds := ⟨24, 99, 99⟩

/-- Two digits with a value between two bounds. -/
def twoDigits? (low high : Nat) (a b : Char) : Option Nat :=
  if isDigit a && isDigit b then
    let n := 10 * digitValue a + digitValue b
    if low ≤ n ∧ n ≤ high then some n else none
  else none

def isLeapYear (year : Nat) : Bool :=
  year % 4 == 0 && (year % 100 != 0 || year % 400 == 0)

def daysIn (year month : Nat) : Nat :=
  if month = 2 then if isLeapYear year then 29 else 28
  else if month = 4 ∨ month = 6 ∨ month = 9 ∨ month = 11 then 30 else 31

/-- A date, as it stands, and what follows it. -/
def date? : List Char → Option (List Char × List Char)
  | y1 :: y2 :: y3 :: y4 :: '-' :: m1 :: m2 :: '-' :: d1 :: d2 :: rest =>
    if [y1, y2, y3, y4].all isDigit then
      match twoDigits? 1 12 m1 m2 with
      | some month =>
        match twoDigits? 1 (daysIn (ofDigits [y1, y2, y3, y4]) month) d1 d2 with
        | some _ => some ([y1, y2, y3, y4, '-', m1, m2, '-', d1, d2], rest)
        | none => none
      | none => none
    else none
  | _ => none

/-- A fraction of a second in at most nine digits, without zeros at its end. -/
def fractionText (digits : List Char) : List Char :=
  match ((digits.take 9).reverse.dropWhile (· == '0')).reverse with
  | [] => []
  | digits => '.' :: digits

/-- A time of day and what follows it. -/
def time? (b : MomentBounds) : List Char → Option (List Char × List Char)
  | h1 :: h2 :: ':' :: m1 :: m2 :: ':' :: s1 :: s2 :: rest =>
    match twoDigits? 0 b.hour h1 h2, twoDigits? 0 59 m1 m2, twoDigits? 0 60 s1 s2 with
    | some _, some _, some _ =>
      let text := [h1, h2, ':', m1, m2, ':', s1, s2]
      match rest with
      | '.' :: rest =>
        let digits := rest.takeWhile isDigit
        if digits.isEmpty then none
        else some (text ++ fractionText digits, rest.drop digits.length)
      | _ => some (text, rest)
    | _, _, _ => none
  | _ => none

/-- A number below a hundred in two digits. -/
def twoDigits (n : Nat) : List Char :=
  [digitChar (n / 10), digitChar (n % 10)]

/-- The text of an offset in minutes; no offset at all has a plus sign. -/
def offsetText (sign : Char) (minutes : Nat) : List Char :=
  (if minutes = 0 then '+' else sign) ::
    (twoDigits (minutes / 60) ++ ':' :: twoDigits (minutes % 60))

/-- The distance to universal time that follows a time, if there is one, to the end of the
text. -/
def offset? (b : MomentBounds) : List Char → Option (List Char)
  | [] => some []
  | ['Z'] => some ['Z']
  | ['z'] => some ['Z']
  | [sign, h1, h2, ':', m1, m2] =>
    if sign = '+' ∨ sign = '-' then
      match twoDigits? 0 b.offsetHour h1 h2, twoDigits? 0 b.offsetMinute m1 m2 with
      | some hour, some minute =>
        if 60 * hour + minute ≤ 24 * 60 then some (offsetText sign (60 * hour + minute)) else none
      | _, _ => none
    else none
  | _ => none

/-- A date, a time of day or both, in their usual form. A capital or small letter or a blank
separates them, and only both together have an offset. -/
def moment? (b : MomentBounds) (cs : List Char) : Option (List Char) :=
  match date? cs with
  | some (date, []) => some date
  | some (date, c :: rest) =>
    if c = 'T' ∨ c = 't' ∨ c = ' ' then
      match time? b rest with
      | some (time, rest) => (offset? b rest).map fun offset => date ++ 'T' :: time ++ offset
      | none => none
    else none
  | none =>
    match time? b cs with
    | some (time, []) => some time
    | _ => none

end Toml

end SqlClient
