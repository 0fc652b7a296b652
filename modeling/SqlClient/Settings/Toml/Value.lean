import SqlClient.Settings.Layer
import SqlClient.Settings.Toml.Moment

namespace SqlClient

namespace Toml

/-- A value of the configuration file. -/
inductive Value
  | bool (value : Bool)
  | int (value : Int)
  | float (value : Double)
  | text (value : String)
  /-- A date, a time or both, in their usual form. -/
  | moment (text : String)
  | array (items : List Value)
  | table (entries : List (String × Value))
deriving Inhabited

/-- The key that makes a table a moment. -/
def momentKey : String := "$__toml_private_datetime"

/-- Whether a table begins with the key of moments. Elsewhere the key is like any other. -/
def holdsMoment : List (String × Value) → Bool
  | (key, _) :: _ => key == momentKey
  | [] => false

/-- The moment whose text stands first in a table; what follows it does not count. -/
def heldMoment? : List (String × Value) → Option String
  | (_, .text s) :: _ => (moment? .loose s.toList).map String.ofList
  | _ => none

namespace Value

mutual

/-- The value as one of a source. A table that should hold a moment and does not is refused. -/
def toConfig? (origin : Option Origin) : Value → Option ConfigValue
  | bool b => some (.scalar origin (.bool b))
  | int n => some (.scalar origin (.int n))
  | float x => some (.scalar origin (.float x))
  | text s => some (.scalar origin (.text s))
  | moment s => some (.scalar origin (.text s))
  | array items => (toItems? origin items).map (.array origin)
  | table entries =>
    if holdsMoment entries then (heldMoment? entries).map fun s => .scalar origin (.text s)
    else (toEntries? origin entries).map (.table origin)

def toItems? (origin : Option Origin) : List Value → Option (List ConfigValue)
  | [] => some []
  | v :: rest =>
    match toConfig? origin v, toItems? origin rest with
    | some v, some rest => some (v :: rest)
    | _, _ => none

def toEntries? (origin : Option Origin) :
    List (String × Value) → Option (List (String × ConfigValue))
  | [] => some []
  | (key, v) :: rest =>
    match toConfig? origin v, toEntries? origin rest with
    | some v, some rest => some ((key, v) :: rest)
    | _, _ => none

end

end Value

/-- The named values of a whole document, which must not be a moment itself. -/
def source? (origin : Option Origin) (entries : List (String × Value)) :
    Option (List (String × ConfigValue)) :=
  if holdsMoment entries then none else Value.toEntries? origin entries

end Toml

end SqlClient
