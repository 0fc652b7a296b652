import SqlClient.Number.Shortest

namespace SqlClient

/-- The decisions of a text format about floating-point numbers. A number is written positionally
when the exponent of its leading digit lies between `least` and `most`. -/
structure FloatLayout where
  tie : Tie
  least : Option Int
  most : Option Int
  wholeMark : List Char
  zero : List Char
  negativeZero : List Char
  infinity : List Char
  nan : List Char

namespace FloatLayout

def isPositional (l : FloatLayout) (order : Int) : Bool :=
  l.least.all (fun least => decide (least ≤ order)) &&
    l.most.all (fun most => decide (order ≤ most))

/-- Digits with the point after the digit of exponent zero. -/
def positional (l : FloatLayout) (digits : List Char) (order : Int) : List Char :=
  if order < 0 then
    '0' :: '.' :: (List.replicate (-order - 1).toNat '0' ++ digits)
  else
    let before := order.toNat + 1
    if digits.length ≤ before then
      digits ++ List.replicate (before - digits.length) '0' ++ l.wholeMark
    else digits.take before ++ '.' :: digits.drop before

/-- Digits with the point after the first and an explicit sign in the exponent. -/
def scientific (digits : List Char) (order : Int) : List Char :=
  let mantissa :=
    match digits with
    | first :: second :: rest => first :: '.' :: second :: rest
    | _ => digits
  mantissa ++ 'e' :: (if order < 0 then '-' else '+') :: digitsOf order.natAbs

/-- The text of a decimal value other than zero. -/
def magnitude (l : FloatLayout) (d : Decimal) : List Char :=
  if l.isPositional d.order then l.positional (digitsOf d.digits) d.order
  else scientific (digitsOf d.digits) d.order

/-- The text of a floating-point number. -/
def render (l : FloatLayout) (x : Double) : List Char :=
  if x.isNaN then l.nan
  else if x.isZero then if x.isNegative then l.negativeZero else l.zero
  else
    let size := if x.isInfinite then l.infinity else l.magnitude (x.shortest l.tie)
    if x.isNegative then '-' :: size else size

end FloatLayout

end SqlClient
