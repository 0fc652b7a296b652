import SqlClient.Value

/-!
Two texts of a value. The literal stands in a predicate: text in single quotes, lists separated by
a comma and a blank, lists inside lists in parentheses. The plain text stands in a template:
nothing for null, no quotes, lists separated by bare commas. Quotes inside a text are not doubled
in either.
-/

namespace SqlClient

namespace SqlValue

/-- Numbers from `1e-6` up to but not including `1e21` are positional, whole numbers have no
point, and a tie between two shortest decimals goes up. Both zeros are written alike. -/
def floatLayout : FloatLayout where
  tie := .up
  least := some (-6)
  most := some 20
  wholeMark := []
  zero := ['0']
  negativeZero := ['0']
  infinity := "Infinity".toList
  nan := "NaN".toList

def floatText (x : Double) : String :=
  String.ofList (floatLayout.render x)

def intText (n : Int) : String :=
  String.ofList (integerText n)

def boolText (b : Bool) : String :=
  if b then "true" else "false"

mutual

/-- The value as it stands in a predicate. -/
def literal : SqlValue → String
  | null => "NULL"
  | bool b => boolText b
  | int n => intText n
  | float x => floatText x
  | text s => "'" ++ s ++ "'"
  | list items => ", ".intercalate (itemLiterals items)

/-- The literals of a list's items, where an item that is a list stands in parentheses. -/
def itemLiterals : List SqlValue → List String
  | [] => []
  | list items :: rest =>
    ("(" ++ ", ".intercalate (itemLiterals items) ++ ")") :: itemLiterals rest
  | v :: rest => literal v :: itemLiterals rest

end

mutual

/-- The value as it stands in a template. -/
def plainText : SqlValue → String
  | null => ""
  | bool b => boolText b
  | int n => intText n
  | float x => floatText x
  | text s => s
  | list items => ",".intercalate (plainTexts items)

def plainTexts : List SqlValue → List String
  | [] => []
  | v :: rest => plainText v :: plainTexts rest

end

end SqlValue

end SqlClient
