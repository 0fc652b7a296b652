import SqlClient.Number.Numeral
import SqlClient.Result.Schema
import SqlClient.Text.Blank

/-!
Numbers in result rows. Servers deliver numbers as text; a cell of a column with a numeric type
becomes the number at the front of its text, or null if there is none. Integer columns hold
integers of 64 bits, and whole floating-point numbers beyond them; cells of columns with other
types stay as they are.
-/

namespace SqlClient

/-- A row of a result: cells by column, in order. -/
abbrev Row := List (String × Json)

def Row.toJson (r : Row) : Json :=
  .object r

namespace Coercion

def skipBlanks (cs : List Char) : List Char :=
  cs.dropWhile isBlankChar

/-- A floating-point number as a cell. What is not finite is null. -/
def floatCell (x : Double) : Json :=
  if x.isFinite then Json.float x else .null

/-- A whole number as a cell of an integer column. -/
def wholeCell (x : Double) : Json :=
  if x.isFinite && isInt64 x.toInt then Json.integer x.toInt else floatCell x.trunc

/-- The integer at the front of a text; one that does not fit 64 bits becomes the nearest
floating-point number. -/
def integerPrefix (text : List Char) : Json :=
  let (negative, cs) := scanSign (skipBlanks text)
  let (digits, _) := scanDigits cs
  if digits.isEmpty then .null
  else
    let n : Int := if negative then -(ofDigits digits : Int) else ofDigits digits
    if isInt64 n then Json.integer n
    else floatCell (Double.ofDecimal negative (ofDigits digits) 0)

/-- A cell of an integer column. -/
def integerCell : Json → Json
  | .string s => integerPrefix s.toList
  | .number (.integer n) => if isInt64 n then Json.integer n else wholeCell (Double.ofInt n)
  | .number (.float x) => wholeCell x
  | _ => .null

/-- A cell of a floating-point column. -/
def doubleCell : Json → Json
  | .string s =>
    match Numeral.scan (skipBlanks s.toList) with
    | some (n, _) => floatCell n.toDouble
    | none => .null
  | .number n => floatCell n.toDouble
  | _ => .null

/-- A cell of a column with the given type. -/
def cell (type : Option String) (v : Json) : Json :=
  match type with
  | some "int" => integerCell v
  | some "bigint" => integerCell v
  | some "double" => doubleCell v
  | _ => v

def row (types : OrderedMap String) (r : Row) : Row :=
  r.map fun (column, v) => (column, cell (types.get? column) v)

def rows (types : OrderedMap String) (rs : List Row) : List Row :=
  rs.map (row types)

theorem row_eq_map (types : OrderedMap String) (r : Row) :
    row types r = r.map fun e => (e.1, cell (types.get? e.1) e.2) :=
  rfl

theorem keys_row (types : OrderedMap String) (r : Row) :
    (row types r).map Prod.fst = r.map Prod.fst := by
  rw [row_eq_map, List.map_map]
  rfl

/-- Each cell stays in its row and column and becomes what the type of the column makes of it. -/
theorem getElem?_rows (types : OrderedMap String) (rs : List Row) (i j : Nat) :
    ((rows types rs)[i]?.bind fun r => r[j]?) =
      (rs[i]?.bind fun r => r[j]?).map fun e => (e.1, cell (types.get? e.1) e.2) := by
  rw [rows, List.getElem?_map]
  cases rs[i]? with
  | none => rfl
  | some r => simp [row_eq_map]

end Coercion

end SqlClient
