import SqlClient.Value.Literal

/-!
Conditions on one column. A condition in JSON is a plain value, which the column has to equal, or
an object whose first key names an operator; a dollar sign in front of the operator is optional.
An object without a known operator is no condition and is dropped.
-/

namespace SqlClient

/-- A comparison other than equality. -/
inductive Operator
  | between (low high : SqlValue)
  | like (pattern : SqlValue)
  | notEqual (value : SqlValue)
  | oneOf (values : SqlValue)
  | noneOf (values : SqlValue)
  | greater (value : SqlValue)
  | less (value : SqlValue)

/-- A condition on a column. -/
inductive Predicate
  | equals (value : SqlValue)
  | compares (operator : Operator)

namespace Operator

/-- The name of an operator without the optional dollar sign in front. -/
def bareName (key : String) : String :=
  match key.toList with
  | '$' :: rest => String.ofList rest
  | _ => key

/-- The bounds of a range: the first two items of an array, a bound that is missing being null. -/
def bounds : Json → SqlValue × SqlValue
  | .array [] => (.null, .null)
  | .array [low] => (SqlValue.ofJson low, .null)
  | .array (low :: high :: _) => (SqlValue.ofJson low, SqlValue.ofJson high)
  | low => (SqlValue.ofJson low, .null)

/-- The operator with the given name, if there is one. -/
def ofKey? (key : String) (operand : Json) : Option Operator :=
  match bareName key with
  | "between" => some (between (bounds operand).1 (bounds operand).2)
  | "like" => some (like (SqlValue.ofJson operand))
  | "ne" => some (notEqual (SqlValue.ofJson operand))
  | "in" => some (oneOf (SqlValue.ofJson operand))
  | "notIn" => some (noneOf (SqlValue.ofJson operand))
  | "gt" => some (greater (SqlValue.ofJson operand))
  | "lt" => some (less (SqlValue.ofJson operand))
  | _ => none

/-- The comparison of a column as it stands in a statement. -/
def render (column : String) : Operator → String
  | between low high => column ++ " between " ++ low.literal ++ " and " ++ high.literal
  | like v => column ++ " like " ++ v.literal
  | notEqual v => column ++ " != " ++ v.literal
  | oneOf v => column ++ " in (" ++ v.literal ++ ")"
  | noneOf v => column ++ " not in (" ++ v.literal ++ ")"
  | greater v => column ++ " > " ++ v.literal
  | less v => column ++ " < " ++ v.literal

end Operator

namespace Predicate

/-- The condition that a JSON value describes. -/
def ofJson? : Json → Option Predicate
  | .object [] => none
  | .object ((key, operand) :: _) => (Operator.ofKey? key operand).map compares
  | v => some (equals (SqlValue.ofJson v))

/-- The operator name for which a JSON value is dropped. -/
def unknownOperator? : Json → Option String
  | .object ((key, operand) :: _) =>
    if (Operator.ofKey? key operand).isNone then some key else none
  | _ => none

def render (column : String) : Predicate → String
  | equals v => column ++ " = " ++ v.literal
  | compares op => op.render column

/-- Whether a condition on the partition column also holds of its flag column: equality and
ranges. -/
def isMirrored : Predicate → Bool
  | equals _ => true
  | compares (.between _ _) => true
  | compares _ => false

end Predicate

end SqlClient
