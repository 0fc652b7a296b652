import SqlClient.Json.Printer
import SqlClient.Number.Numeral

namespace SqlClient

/-- A value that can be written into a statement. -/
inductive SqlValue
  | null
  | bool (value : Bool)
  | int (value : Int)
  | float (value : Double)
  | text (value : String)
  | list (items : List SqlValue)
deriving Inhabited

namespace SqlValue

/-- An integer, or the nearest floating-point number if it does not fit 64 bits. -/
def ofInteger (n : Int) : SqlValue :=
  if isInt64 n then int n else float (Double.ofInt n)

mutual

def ofJson : Json → SqlValue
  | .null => null
  | .bool b => bool b
  | .number (.integer n) => ofInteger n
  | .number (.float x) => float x
  | .string s => text s
  | .array items => list (ofJsonItems items)
  | .object members => text (Json.object members).render

def ofJsonItems : List Json → List SqlValue
  | [] => []
  | v :: rest => ofJson v :: ofJsonItems rest

end

/-- A number in at least `width` digits. -/
def padded (width n : Nat) : List Char :=
  List.replicate (width - (digitsOf n).length) '0' ++ digitsOf n

/-- A year in four digits. Years that need a fifth digit or lie before the year zero carry a
sign. -/
def yearText (year : Int) : List Char :=
  if year < 0 then '-' :: padded 4 year.natAbs
  else if 9999 < year then '+' :: padded 4 year.natAbs
  else padded 4 year.natAbs

def dateText (year : Int) (month day : Nat) : List Char :=
  yearText year ++ '-' :: padded 2 month ++ '-' :: padded 2 day

def timeText (hour minute second : Nat) : List Char :=
  padded 2 hour ++ ':' :: padded 2 minute ++ ':' :: padded 2 second

def ofDate (year : Int) (month day : Nat) : SqlValue :=
  text (String.ofList (dateText year month day))

def ofDateTime (year : Int) (month day hour minute second : Nat) : SqlValue :=
  text (String.ofList (dateText year month day ++ ' ' :: timeText hour minute second))

end SqlValue

end SqlClient
