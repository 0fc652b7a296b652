import SqlClient.Proofs.Statement.Literal
import SqlClient.Where

namespace SqlClient

/-- Equality and the operators, without their operands. -/
inductive PredicateKind
  | equals
  | between
  | like
  | notEqual
  | oneOf
  | noneOf
  | greater
  | less
deriving DecidableEq

namespace PredicateKind

/-- What stands between the column and the first operand. -/
def opening : PredicateKind → String
  | equals => " = "
  | between => " between "
  | like => " like "
  | notEqual => " != "
  | oneOf => " in ("
  | noneOf => " not in ("
  | greater => " > "
  | less => " < "

/-- What stands after the last operand. -/
def closing : PredicateKind → String
  | oneOf => ")"
  | noneOf => ")"
  | _ => ""

/-- The number of operands. -/
def arity : PredicateKind → Nat
  | between => 2
  | _ => 1

def isMirrored : PredicateKind → Bool
  | equals => true
  | between => true
  | _ => false

end PredicateKind

namespace Predicate

def kind : Predicate → PredicateKind
  | equals _ => .equals
  | compares (.between _ _) => .between
  | compares (.like _) => .like
  | compares (.notEqual _) => .notEqual
  | compares (.oneOf _) => .oneOf
  | compares (.noneOf _) => .noneOf
  | compares (.greater _) => .greater
  | compares (.less _) => .less

/-- The operands from left to right. -/
def operands : Predicate → List SqlValue
  | equals v => [v]
  | compares (.between low high) => [low, high]
  | compares (.like v) => [v]
  | compares (.notEqual v) => [v]
  | compares (.oneOf v) => [v]
  | compares (.noneOf v) => [v]
  | compares (.greater v) => [v]
  | compares (.less v) => [v]

/-- The texts in the operands, from left to right. -/
def texts (p : Predicate) : List String :=
  p.operands.flatMap SqlValue.texts

/-- The predicate of the same kind with other operands. -/
def mapOperands (f : SqlValue → SqlValue) : Predicate → Predicate
  | equals v => equals (f v)
  | compares (.between low high) => compares (.between (f low) (f high))
  | compares (.like v) => compares (.like (f v))
  | compares (.notEqual v) => compares (.notEqual (f v))
  | compares (.oneOf v) => compares (.oneOf (f v))
  | compares (.noneOf v) => compares (.noneOf (f v))
  | compares (.greater v) => compares (.greater (f v))
  | compares (.less v) => compares (.less (f v))

theorem render_eq (column : String) (p : Predicate) :
    p.render column = column ++ (p.kind.opening ++
      (" and ".intercalate (p.operands.map SqlValue.literal) ++ p.kind.closing)) := by
  rcases p with v | (_ | _ | _ | _ | _ | _ | _) <;>
    simp [render, Operator.render, kind, operands, PredicateKind.opening, PredicateKind.closing,
      String.append_assoc]

theorem length_operands (p : Predicate) : p.operands.length = p.kind.arity := by
  rcases p with v | (_ | _ | _ | _ | _ | _ | _) <;> rfl

theorem isMirrored_eq (p : Predicate) : p.isMirrored = p.kind.isMirrored := by
  rcases p with v | (_ | _ | _ | _ | _ | _ | _) <;> rfl

@[simp] theorem kind_mapOperands (f : SqlValue → SqlValue) (p : Predicate) :
    (p.mapOperands f).kind = p.kind := by
  rcases p with v | (_ | _ | _ | _ | _ | _ | _) <;> rfl

@[simp] theorem operands_mapOperands (f : SqlValue → SqlValue) (p : Predicate) :
    (p.mapOperands f).operands = p.operands.map f := by
  rcases p with v | (_ | _ | _ | _ | _ | _ | _) <;> rfl

end Predicate

namespace Conditions

/-- The comparisons of one entry, each with the column that it is about. -/
def mirrored (column : String) (p : Predicate) : List (String × Predicate) :=
  if column = partitionColumn ∧ p.isMirrored then [(column, p), (flagColumn, p)]
  else [(column, p)]

/-- The comparisons of a where clause. -/
def comparisons (c : Conditions) : List (String × Predicate) :=
  c.entries.flatMap fun (column, p) => mirrored column p

theorem fragments_eq (column : String) (p : Predicate) :
    fragments column p = (mirrored column p).map fun (column, p) => p.render column := by
  unfold fragments mirrored
  split <;> rfl

theorem forall_mem_comparisons {c : Conditions} {P : String → Predicate → Prop}
    (h : ∀ e ∈ c.entries, P e.1 e.2) (hflag : ∀ column p, P column p → P flagColumn p) :
    ∀ e ∈ c.comparisons, P e.1 e.2 := by
  intro e he
  obtain ⟨⟨column, p⟩, hentry, he⟩ := List.mem_flatMap.mp he
  have hp : P column p := h _ hentry
  dsimp only [mirrored] at he
  split at he
  · simp only [List.mem_cons, List.not_mem_nil, or_false] at he
    rcases he with rfl | rfl
    · exact hp
    · exact hflag column p hp
  · obtain rfl := List.mem_singleton.mp he
    exact hp

theorem clause_eq (c : Conditions) : c.clause = if c.comparisons = [] then "" else
    "where " ++ " and ".intercalate (c.comparisons.map fun (column, p) => p.render column) := by
  have hparts : (c.entries.flatMap fun (column, p) => fragments column p) =
      c.comparisons.map fun (column, p) => p.render column := by
    simp only [comparisons, List.map_flatMap, fragments_eq]
  unfold clause
  rw [hparts]
  cases c.comparisons <;> rfl

end Conditions

end SqlClient
