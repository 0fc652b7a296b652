import SqlClient.Statement

namespace SqlClient

/-- A clause on a line of its own, or nothing if there is no clause. -/
def lineText (clause : String) : String :=
  if clause = "" then "" else "\n" ++ clause

/-- The lines that follow the first clause of a statement. -/
def linesText (clauses : List String) : String :=
  String.join (clauses.map lineText)

@[simp] theorem lineText_empty : lineText "" = "" := rfl

theorem lineText_of_ne {clause : String} (h : clause ≠ "") : lineText clause = "\n" ++ clause :=
  if_neg h

theorem lineText_injective {a b : String} (h : lineText a = lineText b) : a = b := by
  by_cases ha : a = "" <;> by_cases hb : b = ""
  · rw [ha, hb]
  · rw [ha, lineText_of_ne hb] at h
    simp at h
  · rw [hb, lineText_of_ne ha] at h
    simp at h
  · rwa [lineText_of_ne ha, lineText_of_ne hb, String.append_right_inj] at h

@[simp] theorem linesText_nil : linesText [] = "" := rfl

@[simp] theorem linesText_cons (clause : String) (clauses : List String) :
    linesText (clause :: clauses) = lineText clause ++ linesText clauses := by
  simp [linesText]

theorem linesText_append (xs ys : List String) :
    linesText (xs ++ ys) = linesText xs ++ linesText ys := by
  rw [linesText, List.map_append, String.join_append]
  rfl

theorem assemble_cons {first : String} (h : first ≠ "") (rest : List String) :
    assemble (first :: rest) = first ++ linesText rest := by
  unfold assemble
  rw [List.filter_cons_of_pos (by simpa using h)]
  induction rest generalizing first with
  | nil => simp
  | cons clause rest ih =>
      by_cases hempty : clause = ""
      · subst hempty
        simpa using ih h
      · rw [List.filter_cons_of_pos (by simpa using hempty), linesText_cons,
          lineText_of_ne hempty]
        apply String.toList_inj.mp
        have hrest := congrArg String.toList (ih hempty)
        simp only [String.toList_intercalate, List.map_cons, List.intercalate_cons_cons,
          String.toList_append] at hrest ⊢
        rw [hrest]
        simp

theorem selectClause_ne_empty (attributes : List Attribute) : selectClause attributes ≠ "" := by
  simp [selectClause]

namespace Descriptor

theorem selectStatement_eq (table : String) (d : Descriptor) :
    d.selectStatement table = selectClause d.attributes ++ linesText (d.sharedClauses table) ++
      linesText [orderClause d.order, limitClause d.limit d.offset] := by
  rw [selectStatement, List.cons_append, assemble_cons (selectClause_ne_empty d.attributes),
    linesText_append, String.append_assoc]

theorem countStatement_eq (table : String) (d : Descriptor) :
    d.countStatement table = countClause ++ linesText (d.sharedClauses table) :=
  assemble_cons (by simp [countClause]) _

end Descriptor

end SqlClient
