import SqlClient.Json
import SqlClient.Number.Numeral
import SqlClient.OrderedMap

/-!
Layers of configuration. A source gives values under names; later sources lie above earlier ones.
Tables merge deeply, every other value replaces what lies below. Names of settings are compared
without regard to case. A name is a path: points descend into tables, numbers in brackets into
arrays, and what stands in the way of a path is replaced.
-/

namespace SqlClient

/-- Where a value was given. -/
inductive Origin
  | file
  | environment
deriving DecidableEq

/-- A value of a configuration source that holds no others. -/
inductive ConfigScalar
  | nil
  | bool (value : Bool)
  | int (value : Int)
  | float (value : Double)
  | text (value : String)

/-- A value of a configuration source with its origin, where that is known. -/
inductive ConfigValue
  | scalar (origin : Option Origin) (value : ConfigScalar)
  | array (origin : Option Origin) (items : List ConfigValue)
  | table (origin : Option Origin) (entries : List (String × ConfigValue))
deriving Inhabited

/-- A character of a name in lower case, as far as that is an ASCII letter, the only ones in the
names of settings. Besides the ASCII capitals the Kelvin sign has one. -/
def lowerNameChar (c : Char) : Char :=
  if c.toNat = 0x212A then 'k' else lowerAscii c

/-- A name in lower case. -/
def lowerName (name : String) : String :=
  String.ofList (name.toList.map lowerNameChar)

/-- A step from a value to one inside it. -/
inductive PathStep
  | child (name : String)
  | index (position : Int)
deriving DecidableEq

namespace PathStep

def isNameChar (c : Char) : Bool :=
  isDigit c || decide (97 ≤ c.toNat ∧ c.toNat ≤ 122) || decide (65 ≤ c.toNat ∧ c.toNat ≤ 90) ||
    c == ' ' || c == '_' || c == '-'

/-- A position of 64 bits in brackets, where the opening bracket has been read. -/
def readIndex (cs : List Char) : Option (Int × List Char) :=
  let isSpace (c : Char) : Bool := c == ' ' || c == '\t'
  let cs := cs.dropWhile isSpace
  let negative := cs.head? == some '-'
  let (digits, rest) := scanDigits (if negative then cs.drop 1 else cs)
  let position : Int := if negative then -(ofDigits digits : Int) else ofDigits digits
  match rest.dropWhile isSpace with
  | ']' :: rest => if digits.isEmpty || !isInt64 position then none else some (position, rest)
  | _ => none

/-- The steps that follow the first name of a path. Each takes at least one character, so the fuel
is the length of the text. -/
def readSteps : Nat → List Char → Option (List PathStep)
  | _, [] => some []
  | 0, _ => none
  | fuel + 1, '.' :: cs =>
    let name := cs.takeWhile isNameChar
    if name.isEmpty then none
    else (readSteps fuel (cs.dropWhile isNameChar)).map (child (String.ofList name) :: ·)
  | fuel + 1, '[' :: cs =>
    match readIndex cs with
    | some (i, rest) => (readSteps fuel rest).map (index i :: ·)
    | none => none
  | _ + 1, _ => none

/-- The path that a name describes. A name that is no path is one step as it stands. -/
def ofName (name : String) : List PathStep :=
  let cs := name.toList
  let first := cs.takeWhile isNameChar
  if first.isEmpty then [child name]
  else
    match readSteps cs.length (cs.dropWhile isNameChar) with
    | some steps => child (String.ofList first) :: steps
    | none => [child name]

end PathStep

namespace ConfigValue

def nil : ConfigValue := .scalar none .nil

def emptyTable : ConfigValue := .table none []

/-- The entry of a table under a name. -/
def entry? (v : ConfigValue) (name : String) : Option ConfigValue :=
  match v with
  | .table _ entries => lookup? (lowerName name) entries
  | _ => none

/-- The value with an entry under a name. What is no table becomes one. -/
def withEntry (v : ConfigValue) (name : String) (entry : ConfigValue) : ConfigValue :=
  match v with
  | .table origin entries => .table origin (insertEntry (lowerName name) entry entries)
  | _ => .table none [(lowerName name, entry)]

mutual

/-- Lays a value over what stands under a name. -/
def set (root : ConfigValue) (name : String) : ConfigValue → ConfigValue
  | .table _ entries => root.withEntry name (setAll ((root.entry? name).getD emptyTable) entries)
  | .array origin items => root.withEntry name (.array origin items)
  | .scalar origin value => root.withEntry name (.scalar origin value)

/-- Lays entries over a table one after the other. -/
def setAll (root : ConfigValue) : List (String × ConfigValue) → ConfigValue
  | [] => root
  | (name, v) :: rest => setAll (set root name v) rest

end

/-- The items of an array; what is none counts as empty. -/
def items : ConfigValue → List ConfigValue
  | .array _ items => items
  | _ => []

/-- The origin of an array; what is none has to become one and has no origin. -/
def arrayOrigin : ConfigValue → Option Origin
  | .array origin _ => origin
  | _ => none

/-- The place that a position means in an array of the given length; negative positions count from
the end. -/
def place (position : Int) (length : Nat) : Nat :=
  if position < 0 then length - position.natAbs else position.toNat

/-- The value with one item changed. The array grows as far as needed. -/
def withItem (v : ConfigValue) (position : Int) (change : ConfigValue → ConfigValue) :
    ConfigValue :=
  let i := place position v.items.length
  let grown := v.items ++ List.replicate (i + 1 - v.items.length) nil
  .array v.arrayOrigin (grown.modify i change)

/-- Lays a value over what stands at the end of a path. -/
def setPath (value : ConfigValue) : List PathStep → ConfigValue → ConfigValue
  | [], _ => value
  | [.child name], root => root.set name value
  | [.index i], root => root.withItem i fun _ => value
  | .child name :: rest, root =>
    root.withEntry name (setPath value rest ((root.entry? name).getD nil))
  | .index i :: rest, root => root.withItem i (setPath value rest)

/-- Lays the named values of a source over a configuration. -/
def addLayer (root : ConfigValue) (source : List (String × ConfigValue)) : ConfigValue :=
  source.foldl (fun root e => setPath e.2 (PathStep.ofName e.1) root) root

mutual

/-- The value of a JSON source. Integers beyond 64 bits with a sign become floating-point
numbers. -/
def ofJson (origin : Option Origin) : Json → ConfigValue
  | .null => .scalar origin .nil
  | .bool b => .scalar origin (.bool b)
  | .number (.integer n) =>
    .scalar origin (if isInt64 n then .int n else .float (Double.ofInt n))
  | .number (.float x) => .scalar origin (.float x)
  | .string s => .scalar origin (.text s)
  | .array items => .array origin (ofJsonItems origin items)
  | .object members => .table origin (ofJsonMembers origin members)

def ofJsonItems (origin : Option Origin) : List Json → List ConfigValue
  | [] => []
  | v :: rest => ofJson origin v :: ofJsonItems origin rest

def ofJsonMembers (origin : Option Origin) : List (String × Json) → List (String × ConfigValue)
  | [] => []
  | (name, v) :: rest => (name, ofJson origin v) :: ofJsonMembers origin rest

end

end ConfigValue

end SqlClient
