import SqlClient.Error
import SqlClient.Log
import SqlClient.OrderedMap
import SqlClient.Predicate

namespace SqlClient

/-- Conditions by column. -/
abbrev Conditions := OrderedMap Predicate

namespace Conditions

/-- The column by which tables are partitioned. -/
def partitionColumn : String := "report_date"

/-- The column that repeats the partition in another form. -/
def flagColumn : String := "date_flag"

/-- The conditions that the members of an object describe. Members without a condition are
dropped. -/
def ofMembers (members : List (String × Json)) : Conditions :=
  OrderedMap.ofList (members.filterMap fun (column, v) =>
    (Predicate.ofJson? v).map fun p => (column, p))

/-- The conditions that a JSON value describes; null describes none. -/
def ofJson : Json → Except ClientError Conditions
  | .null => .ok OrderedMap.empty
  | .object members => .ok (ofMembers members)
  | v => .error (.invalidDescriptor ("where must be an object, got " ++ v.render))

/-- What is logged about the members that are dropped for their operator. -/
def droppedLines : Json → List LogLine
  | .object members => members.filterMap fun (_, v) =>
    (Predicate.unknownOperator? v).map fun key =>
      ⟨.debug, "Ignoring unsupported operator '" ++ key ++ "'"⟩
  | _ => []

/-- The fragments of one entry: two for a mirrored condition on the partition column, else one. -/
def fragments (column : String) (p : Predicate) : List String :=
  if column = partitionColumn ∧ p.isMirrored then [p.render column, p.render flagColumn]
  else [p.render column]

/-- The clause, which is empty if there is no condition. -/
def clause (c : Conditions) : String :=
  match c.entries.flatMap fun (column, p) => fragments column p with
  | [] => ""
  | parts => "where " ++ " and ".intercalate parts

end Conditions

end SqlClient
