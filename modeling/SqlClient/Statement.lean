import SqlClient.Where

namespace SqlClient

/-- A column with the name under which it is returned. -/
structure Attribute where
  column : String
  alias? : Option String

/-- The name under which a column is returned. An empty name counts as none. -/
def Attribute.name (a : Attribute) : String :=
  match a.alias? with
  | some "" => a.column
  | some name => name
  | none => a.column

theorem Attribute.name_eq (a : Attribute) :
    a.name = (a.alias?.filter (· ≠ "")).getD a.column := by
  obtain ⟨column, _ | given⟩ := a
  · rfl
  · by_cases hempty : given = ""
    · subst hempty
      rfl
    · simp [name, Option.filter, hempty]

theorem Attribute.name_eq_column_or (a : Attribute) :
    a.name = a.column ∨ a.alias? = some a.name := by
  unfold name
  split
  · exact .inl rfl
  · exact .inr (by assumption)
  · exact .inl rfl

def selectClause (attributes : List Attribute) : String :=
  "select " ++ ", ".intercalate (attributes.map fun a => a.column ++ " as " ++ a.name)

/-- A keyword in front of the items that are not empty, or nothing if all are. -/
def listClause (keyword : String) (items : List String) : String :=
  match items.filter (· ≠ "") with
  | [] => ""
  | items => keyword ++ " " ++ ", ".intercalate items

def groupClause (columns : List String) : String :=
  listClause "group by" columns

def orderClause (expressions : List String) : String :=
  listClause "order by" expressions

/-- A keyword in front of a positive number. -/
def countPart (keyword : String) : Option Nat → List String
  | some (n + 1) => [keyword ++ " " ++ natText (n + 1)]
  | _ => []

/-- The limit and the offset; zero counts as none. -/
def limitClause (limit offset : Option Nat) : String :=
  " ".intercalate (countPart "limit" limit ++ countPart "offset" offset)

/-- The clauses that are not empty, one to a line. -/
def assemble (clauses : List String) : String :=
  "\n".intercalate (clauses.filter (· ≠ ""))

/-- What to read from a table. -/
structure Descriptor where
  attributes : List Attribute
  conditions : Conditions
  group : List String
  order : List String
  limit : Option Nat
  offset : Option Nat

namespace Descriptor

def empty : Descriptor where
  attributes := []
  conditions := OrderedMap.empty
  group := []
  order := []
  limit := none
  offset := none

def select (d : Descriptor) (a : Attribute) : Descriptor :=
  { d with attributes := d.attributes ++ [a] }

/-- Sets the condition on a column. -/
def filter (d : Descriptor) (column : String) (p : Predicate) : Descriptor :=
  { d with conditions := d.conditions.insert column p }

/-- Adds a column to group by, unless it is empty. -/
def groupBy (d : Descriptor) (column : String) : Descriptor :=
  if column = "" then d else { d with group := d.group ++ [column] }

/-- Adds an expression to order by, unless it is empty. -/
def orderBy (d : Descriptor) (expression : String) : Descriptor :=
  if expression = "" then d else { d with order := d.order ++ [expression] }

def withLimit (d : Descriptor) (n : Nat) : Descriptor :=
  { d with limit := some n }

def withOffset (d : Descriptor) (n : Nat) : Descriptor :=
  { d with offset := some n }

/-- The clauses that the selecting and the counting statement share. -/
def sharedClauses (table : String) (d : Descriptor) : List String :=
  ["from " ++ table, d.conditions.clause, groupClause d.group]

/-- The statement that returns the rows. -/
def selectStatement (table : String) (d : Descriptor) : String :=
  assemble (selectClause d.attributes :: d.sharedClauses table ++
    [orderClause d.order, limitClause d.limit d.offset])

/-- The first clause of a counting statement. -/
def countClause : String := "select count(1) as count"

/-- The column in which a counting statement returns its result. -/
def countColumn : String := "count"

/-- The statement that counts the rows. -/
def countStatement (table : String) (d : Descriptor) : String :=
  assemble (countClause :: d.sharedClauses table)

end Descriptor

end SqlClient
