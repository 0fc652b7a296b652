import SqlClient.Json.Reader
import SqlClient.Statement

namespace SqlClient

/-- An attribute as it is written: a column alone, or a list that should hold a column and a
name. -/
inductive WrittenAttribute
  | column (name : String)
  | parts (items : List (Option String))

/-- The fields of a descriptor as they are written. -/
structure WrittenDescriptor where
  attributes : List WrittenAttribute
  conditions : Json
  group : Option (List String)
  order : Option (List String)
  limit : Option Nat
  offset : Option Nat

namespace WrittenAttribute

/-- The items of an array of texts and nulls. -/
def textsOrNulls? : List Json → Option (List (Option String))
  | [] => some []
  | .null :: rest => (textsOrNulls? rest).map (none :: ·)
  | .string s :: rest => (textsOrNulls? rest).map (some s :: ·)
  | _ :: _ => none

def ofJson : Json → Except ReadError WrittenAttribute
  | .string s => .ok (column s)
  | .array items =>
    match textsOrNulls? items with
    | some items => .ok (parts items)
    | none => .error (.noForm "RawAttribute")
  | _ => .error (.noForm "RawAttribute")

/-- The attribute that is meant. An empty name counts as none. -/
def resolve : WrittenAttribute → Except ClientError Attribute
  | column c => .ok ⟨c, none⟩
  | parts [some c] => .ok ⟨c, none⟩
  | parts [some c, name] => .ok ⟨c, name.filter (· ≠ "")⟩
  | parts [none] => .error (.invalidDescriptor "attribute column cannot be null")
  | parts [none, _] => .error (.invalidDescriptor "attribute column cannot be null")
  | parts items =>
    .error (.invalidDescriptor ("attribute must be [column] or [column, alias], got " ++
      natText items.length ++ " elements"))

end WrittenAttribute

namespace WrittenDescriptor

/-- The items of an array of texts. -/
def texts? : List Json → Option (List String)
  | [] => some []
  | .string s :: rest => (texts? rest).map (s :: ·)
  | _ :: _ => none

/-- One text or an array of texts. -/
def readTexts : Json → Except ReadError (List String)
  | .string s => .ok [s]
  | .array items =>
    match texts? items with
    | some items => .ok items
    | none => .error (.noForm "OneOrMany")
  | _ => .error (.noForm "OneOrMany")

def shape : RecordShape where
  name := "RawDescriptor"
  fields := [⟨"attributes", true, true⟩, ⟨"where", true, true⟩, ⟨"group", true, false⟩,
    ⟨"order", true, false⟩, ⟨"limit", true, false⟩, ⟨"offset", true, false⟩]
  closed := true

def initial : WrittenDescriptor := ⟨[], .null, none, none, none, none⟩

def readCount (v : Json) : Except ReadError (Option Nat) :=
  Json.readOptional (Json.readBounded (Nat.pow 2 64) "u64") v

def step (r : WrittenDescriptor) (name : String) (v : Json) :
    Except ReadError WrittenDescriptor :=
  match name with
  | "attributes" =>
    (Json.readList WrittenAttribute.ofJson v).map fun x => { r with attributes := x }
  | "where" => .ok { r with conditions := v }
  | "group" => (Json.readOptional readTexts v).map fun x => { r with group := x }
  | "order" => (Json.readOptional readTexts v).map fun x => { r with order := x }
  | "limit" => (readCount v).map fun x => { r with limit := x }
  | "offset" => (readCount v).map fun x => { r with offset := x }
  | _ => .ok r

def ofJson (v : Json) : Except ReadError WrittenDescriptor :=
  shape.read step initial v

/-- The descriptor that is meant. Empty texts in the group and the order are dropped. -/
def descriptor (r : WrittenDescriptor) : Except ClientError Descriptor :=
  match r.attributes.mapM WrittenAttribute.resolve with
  | .error e => .error e
  | .ok attributes =>
    match Conditions.ofJson r.conditions with
    | .error e => .error e
    | .ok conditions => .ok {
        attributes
        conditions
        group := (r.group.getD []).filter (· ≠ "")
        order := (r.order.getD []).filter (· ≠ "")
        limit := r.limit
        offset := r.offset }

end WrittenDescriptor

namespace Descriptor

/-- Reads a descriptor. A refusal of its content is reported as the reason for the failure to read
it, so its message carries the prefix of such failures twice. -/
def ofJson (v : Json) : Except ClientError Descriptor :=
  match WrittenDescriptor.ofJson v with
  | .error e => .error (.invalidDescriptor e.message)
  | .ok written =>
    match written.descriptor with
    | .error e => .error (.invalidDescriptor e.message)
    | .ok d => .ok d

/-- What is logged while a descriptor is read. -/
def readingLines (v : Json) : List LogLine :=
  match WrittenDescriptor.ofJson v with
  | .error _ => []
  | .ok written =>
    match written.descriptor with
    | .error _ => []
    | .ok _ => Conditions.droppedLines written.conditions

end Descriptor

end SqlClient
