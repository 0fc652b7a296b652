import SqlClient.Json.Printer
import SqlClient.Text.Quoted
import SqlClient.Error
import SqlClient.OrderedMap

/-!
Reading typed data from JSON values. A record may come as an object, whose members are read in the
order in which they stand, or as an array of its fields in declaration order. The first field that
cannot be read gives the failure; fields that are missing are noticed after those that are
present.
-/

namespace SqlClient

/-- Why a JSON value is not of the expected form. -/
inductive ReadError
  | wrongType (found : Json) (expected : String)
  | outOfRange (n : Int) (expected : String)
  | unknownField (name : String) (fields : List String)
  | missingField (name : String)
  | wrongLength (length : Nat) (expected : String)
  /-- The value has none of the forms that are allowed for the named kind of data. -/
  | noForm (kind : String)

namespace ReadError

/-- A value as a message describes it. -/
def describe : Json → String
  | .null => "null"
  | .bool b => "boolean `" ++ (if b then "true" else "false") ++ "`"
  | .number (.integer n) => "integer `" ++ String.ofList (integerText n) ++ "`"
  | .number (.float x) => "floating point `" ++ String.ofList (Json.floatLayout.render x) ++ "`"
  | .string s => "string " ++ quoted s
  | .array _ => "sequence"
  | .object _ => "map"

/-- Names in backquotes. -/
def listed (names : List String) : String :=
  ", ".intercalate (names.map fun name => "`" ++ name ++ "`")

def message : ReadError → String
  | wrongType found expected => "invalid type: " ++ describe found ++ ", expected " ++ expected
  | outOfRange n expected =>
    "invalid value: integer `" ++ String.ofList (integerText n) ++ "`, expected " ++ expected
  | unknownField name fields =>
    "unknown field `" ++ name ++ "`, expected one of " ++ listed fields
  | missingField name => "missing field `" ++ name ++ "`"
  | wrongLength length expected =>
    "invalid length " ++ natText length ++ ", expected " ++ expected
  | noForm kind => "data did not match any variant of untagged enum " ++ kind

end ReadError

/-- A field of a record: its name, and whether it may be left out of an object and of an array. -/
structure FieldShape where
  name : String
  inObject : Bool
  inArray : Bool

/-- The form of a record. A closed record refuses fields of other names. -/
structure RecordShape where
  name : String
  fields : List FieldShape
  closed : Bool

namespace RecordShape

/-- How a message names the record with its number of fields. -/
def counted (s : RecordShape) : String :=
  "struct " ++ s.name ++ " with " ++ natText s.fields.length ++
    (if s.fields.length = 1 then " element" else " elements")

/-- A step that takes the value of one field into a record read in part. -/
abbrev Step (ρ : Type) := ρ → String → Json → Except ReadError ρ

/-- Reads the members of an object in order. -/
def readMembers {ρ : Type} (s : RecordShape) (step : Step ρ) : ρ → List (String × Json) →
    Except ReadError ρ
  | r, [] => .ok r
  | r, (name, v) :: rest =>
    if s.fields.any (·.name = name) then
      match step r name v with
      | .ok r => readMembers s step r rest
      | .error e => .error e
    else if s.closed then .error (.unknownField name (s.fields.map (·.name)))
    else readMembers s step r rest

/-- Reads the items of an array as the fields in order, where `seen` fields have been read. -/
def readItems {ρ : Type} (s : RecordShape) (step : Step ρ) : ρ → Nat → List FieldShape →
    List Json → Except ReadError ρ
  | r, _, [], _ => .ok r
  | r, seen, field :: fields, v :: rest =>
    match step r field.name v with
    | .ok r => readItems s step r (seen + 1) fields rest
    | .error e => .error e
  | r, seen, field :: fields, [] =>
    if field.inArray then readItems s step r (seen + 1) fields []
    else .error (.wrongLength seen s.counted)

/-- The first field that an object lacks. -/
def missing? (s : RecordShape) (members : List (String × Json)) : Option FieldShape :=
  s.fields.find? fun field => !field.inObject && (lookup? field.name members).isNone

/-- Reads a record, starting from the values of fields that are left out. -/
def read {ρ : Type} (s : RecordShape) (step : Step ρ) (initial : ρ) : Json → Except ReadError ρ
  | .object members =>
    match s.readMembers step initial members with
    | .error e => .error e
    | .ok r =>
      match s.missing? members with
      | some field => .error (.missingField field.name)
      | none => .ok r
  | .array items =>
    match s.readItems step initial 0 s.fields items with
    | .error e => .error e
    | .ok r =>
      if s.fields.length < items.length then
        .error (.wrongLength items.length "fewer elements in array")
      else .ok r
  | v => .error (.wrongType v ("struct " ++ s.name))

end RecordShape

namespace Json

def readText : Json → Except ReadError String
  | .string s => .ok s
  | v => .error (.wrongType v "a string")

/-- Reads an integer below a bound; `kind` names the integers in messages. -/
def readBounded (bound : Nat) (kind : String) : Json → Except ReadError Nat
  | .number (.integer n) =>
    if 0 ≤ n ∧ n < bound then .ok n.toNat else .error (.outOfRange n kind)
  | v => .error (.wrongType v kind)

/-- Reads each item of an array. -/
def readList {α : Type} (readItem : Json → Except ReadError α) : Json → Except ReadError (List α)
  | .array items => items.mapM readItem
  | v => .error (.wrongType v "a sequence")

/-- Reads a value that may be null. -/
def readOptional {α : Type} (readValue : Json → Except ReadError α) :
    Json → Except ReadError (Option α)
  | .null => .ok none
  | v => (readValue v).map some

end Json

end SqlClient
