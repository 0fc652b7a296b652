import SqlClient.Proofs.Statement.Comparison
import SqlClient.Statement

namespace SqlClient

/-- A value by its list structure. -/
inductive Item
  | null
  | bool (value : Bool)
  | number (text : String)
  | text (value : String)
  | list (items : List Item)

namespace SqlValue

mutual

def item : SqlValue → Item
  | null => .null
  | bool b => .bool b
  | int n => .number (intText n)
  | float x => .number (floatText x)
  | text s => .text s
  | list items => .list (itemsOf items)

def itemsOf : List SqlValue → List Item
  | [] => []
  | v :: rest => v.item :: itemsOf rest

end

theorem itemsOf_eq_map (values : List SqlValue) : itemsOf values = values.map item := by
  induction values with
  | nil => rfl
  | cons v rest ih => rw [itemsOf, ih, List.map_cons]

/-- The values in a list; a value that is no list stands alone. -/
def members : SqlValue → List SqlValue
  | list items => items
  | v => [v]

/-- A value as the operand of a condition. -/
def operand (v : SqlValue) : List Item :=
  v.members.map item

theorem literal_eq_members (v : SqlValue) :
    v.literal = ", ".intercalate (v.members.map itemLiteral) := by
  cases v with
  | list items => exact literal_list items
  | _ => simp [members, itemLiteral]

end SqlValue

/-- A comparison by its column, its kind and its operands. -/
abbrev NormalComparison := String × PredicateKind × List (List Item)

namespace Conditions

def comparison (column : String) (p : Predicate) : NormalComparison :=
  (column, p.kind, p.operands.map SqlValue.operand)

def normalForm (c : Conditions) : List NormalComparison :=
  c.entries.map fun (column, p) => comparison column p

end Conditions

/-- What a descriptor asks for. -/
structure NormalForm where
  /-- The columns with the names under which they are returned. -/
  attributes : List (String × String)
  conditions : List NormalComparison
  group : List String
  order : List String
  limit : Option Nat
  offset : Option Nat

namespace Descriptor

def normalForm (d : Descriptor) : NormalForm where
  attributes := d.attributes.map fun a => (a.column, a.name)
  conditions := d.conditions.normalForm
  group := d.group.filter (· ≠ "")
  order := d.order.filter (· ≠ "")
  limit := d.limit.filter (0 < ·)
  offset := d.offset.filter (0 < ·)

end Descriptor

end SqlClient
