import SqlClient.Log
import SqlClient.Model

namespace SqlClient

/-- Models by name. -/
abbrev Registry := OrderedMap Model

namespace Registry

def empty : Registry :=
  OrderedMap.empty

/-- Puts a model under its name, and gives the model that it replaces. -/
def put (r : Registry) (m : Model) : Registry × Option Model :=
  r.exchange m.name m

def register (r : Registry) (m : Model) : Registry :=
  (r.put m).1

/-- The model that is replaced when a model is registered. -/
def replaced? (r : Registry) (m : Model) : Option Model :=
  (r.put m).2

/-- What is logged when a model is registered. -/
def registerLines (r : Registry) (m : Model) : List LogLine :=
  match r.replaced? m with
  | some old => [⟨.debug, "Model '" ++ old.name ++ "' replaced (was table " ++ old.table ++ ")"⟩]
  | none => []

/-- Registers models one after the other. On the empty registry this collects them. -/
def registerAll (r : Registry) (models : List Model) : Registry :=
  models.foldl register r

/-- What is logged when models are registered one after the other. -/
def registerAllLines (r : Registry) : List Model → List LogLine
  | [] => []
  | m :: rest => r.registerLines m ++ registerAllLines (r.register m) rest

def models (r : Registry) : List Model :=
  r.entries.map Prod.snd

end Registry

end SqlClient
