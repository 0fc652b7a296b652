import SqlClient.Number.Rounding

namespace SqlClient

/-- A JSON number. -/
inductive JsonNumber
  | integer (value : Int)
  | float (value : Double)
deriving DecidableEq

/-- A JSON value. -/
inductive Json
  | null
  | bool (value : Bool)
  | number (value : JsonNumber)
  | string (value : String)
  | array (items : List Json)
  | object (members : List (String × Json))
deriving Inhabited

/-- The number nearest among the floating-point numbers. -/
def JsonNumber.toDouble : JsonNumber → Double
  | integer n => Double.ofInt n
  | float x => x

namespace Json

def integer (n : Int) : Json := .number (.integer n)

def float (x : Double) : Json := .number (.float x)

end Json

end SqlClient
