import SqlClient.Executor
import SqlClient.Statement

namespace SqlClient

/-- A table with the name under which it is known. -/
structure Model where
  name : String
  table : String
deriving DecidableEq

/-- Rows together with the total number. -/
structure Page where
  data : List Row
  total : Nat

def Page.toJson (p : Page) : Json :=
  .object [("data", .array (p.data.map Row.toJson)), ("total", Json.integer p.total)]

/-- A text without the blanks at both ends. -/
def trimBlanks (cs : List Char) : List Char :=
  ((cs.dropWhile isBlankChar).reverse.dropWhile isBlankChar).reverse

/-- The number that a counting cell holds. What is no number, or a negative one, counts as
zero. -/
def countOf : Json → Nat
  | .number (.integer n) =>
    if 0 ≤ n ∧ n < Int.pow 2 64 then n.toNat else (Double.ofInt n).toCounter
  | .number (.float x) => x.toCounter
  | .string s => (readCounter? (trimBlanks s.toList)).getD 0
  | _ => 0

theorem countOf_natural {n : Nat} (h : n < Nat.pow 2 64) : countOf (Json.integer n) = n := by
  have hfits : (0 : Int) ≤ n ∧ (n : Int) < Int.pow 2 64 := ⟨by omega, Int.ofNat_lt.mpr h⟩
  rw [Json.integer, countOf, if_pos hfits, Int.toNat_natCast]

theorem countOf_eq_zero {v : Json} (hnumber : ∀ n, v ≠ .number n) (htext : ∀ s, v ≠ .string s) :
    countOf v = 0 := by
  cases v with
  | number n => exact absurd rfl (hnumber n)
  | string s => exact absurd rfl (htext s)
  | _ => rfl

namespace Model

def selectStatement (m : Model) (d : Descriptor) : String :=
  d.selectStatement m.table

def countStatement (m : Model) (d : Descriptor) : String :=
  d.countStatement m.table

/-- Whether rows are grouped, so that the counting statement returns a row for each group. -/
def isGrouped (d : Descriptor) : Bool :=
  !d.group.all (· = "")

/-- The total that the rows of a counting statement tell. -/
def total (d : Descriptor) (counted : List Row) : Nat :=
  if isGrouped d then counted.length
  else
    match counted with
    | [] => 0
    | first :: _ =>
      match lookup? Descriptor.countColumn first with
      | some v => countOf v
      | none => 0

variable {S : Type}

/-- Reads the rows of a descriptor. -/
def findAll (m : Model) (e : Executor S) (d : Descriptor) (s : S) :
    Except ClientError (List Row) × S :=
  e.query (m.selectStatement d) none s

/-- Reads the rows of a descriptor with their total number. -/
def findAndCountAll (m : Model) (e : Executor S) (d : Descriptor) (s : S) :
    Except ClientError Page × S :=
  match e.query (m.countStatement d) none s with
  | (.error err, s) => (.error err, s)
  | (.ok counted, s) =>
    if total d counted = 0 then (.ok ⟨[], 0⟩, s)
    else
      match m.findAll e d s with
      | (.error err, s) => (.error err, s)
      | (.ok data, s) => (.ok ⟨data, total d counted⟩, s)

end Model

end SqlClient
