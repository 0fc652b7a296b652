import SqlClient.Json.Reader

namespace SqlClient

/-- A column of a result with its declared type. -/
structure ResultField where
  name : String
  type : String
deriving DecidableEq

/-- The columns of a result. -/
structure ResultMetadata where
  fields : List ResultField
deriving DecidableEq

namespace ResultField

def shape : RecordShape where
  name := "FieldSchema"
  fields := [⟨"name", false, false⟩, ⟨"type", false, false⟩]
  closed := false

def step (r : ResultField) (name : String) (v : Json) : Except ReadError ResultField :=
  match name with
  | "name" => (Json.readText v).map fun s => { r with name := s }
  | "type" => (Json.readText v).map fun s => { r with type := s }
  | _ => .ok r

def ofJson (v : Json) : Except ReadError ResultField :=
  shape.read step ⟨"", ""⟩ v

def toJson (r : ResultField) : Json :=
  .object [("name", .string r.name), ("type", .string r.type)]

end ResultField

namespace ResultMetadata

def fieldsShape : RecordShape where
  name := "ResultSchema"
  fields := [⟨"fieldSchemas", false, false⟩]
  closed := false

def readFields (v : Json) : Except ReadError (List ResultField) :=
  fieldsShape.read (fun _ _ v => Json.readList ResultField.ofJson v) [] v

def shape : RecordShape where
  name := "ResultsMetadata"
  fields := [⟨"schema", false, false⟩]
  closed := false

def ofJson (v : Json) : Except ReadError ResultMetadata :=
  shape.read (fun _ _ v => (readFields v).map ResultMetadata.mk) ⟨[]⟩ v

def toJson (m : ResultMetadata) : Json :=
  .object [("schema", .object [("fieldSchemas", .array (m.fields.map ResultField.toJson))])]

/-- The types by column. Of a column that is named twice the last type counts. -/
def columnTypes (m : ResultMetadata) : OrderedMap String :=
  OrderedMap.ofList (m.fields.map fun f => (f.name, f.type))

end ResultMetadata

end SqlClient
