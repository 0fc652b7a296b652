import SqlClient.Error
import SqlClient.Result.Coercion
import SqlClient.Template

namespace SqlClient

/-- Options that accompany a statement. -/
abbrev QueryOptions := List (String × String)

/-- A way to run statements, with the state that it keeps between them. -/
structure Executor (S : Type) where
  query : String → Option QueryOptions → S → Except ClientError (List Row) × S

namespace Executor

/-- Runs a template, in which the values are put in literal mode. -/
def queryTemplate {S : Type} (e : Executor S) (template : String) (bindings : Bindings) (s : S) :
    Except ClientError (List Row) × S :=
  e.query (Template.fill template bindings) none s

end Executor

end SqlClient
