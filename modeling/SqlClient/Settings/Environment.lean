import SqlClient.Settings.Layer

/-!
Settings in environment variables. A variable counts if its name starts with the client's own, in
any case; in the rest of the name two underscores stand for a point. Its value is a truth value,
an integer or a floating-point number if it reads as one, tried in this order, and otherwise a
text.
-/

namespace SqlClient

namespace Environment

/-- What the names of the client's variables start with, in lower case. -/
def namePrefix : List Char := "impala_lite__".toList

/-- A name with a point for every two underscores, from left to right. -/
def dotted : List Char → List Char
  | '_' :: '_' :: cs => '.' :: dotted cs
  | c :: cs => c :: dotted cs
  | [] => []

/-- The path of a variable, if it is one of the client's. -/
def settingName? (name : String) : Option String :=
  let name := name.toList.map lowerNameChar
  if namePrefix.isPrefixOf name then some (String.ofList (dotted (name.drop namePrefix.length)))
  else none

/-- What the text of a variable means. -/
def scalar (value : String) : ConfigScalar :=
  match lowerName value with
  | "true" => .bool true
  | "false" => .bool false
  | _ =>
    match readInt64? value.toList with
    | some n => .int n
    | none =>
      match readDouble? value.toList with
      | some x => .float x
      | none => .text value

/-- The named values that an environment gives. -/
def source (env : List (String × String)) : List (String × ConfigValue) :=
  env.filterMap fun (name, value) =>
    (settingName? name).map fun setting =>
      (setting, .scalar (some .environment) (scalar value))

end Environment

end SqlClient
