import SqlClient.Model
import SqlClient.Proofs.Statement.Lines

namespace SqlClient

variable {S : Type}

/-- The same executor, with a record of what was sent to it. -/
def Executor.recorded (e : Executor S) : Executor (S × List (String × Option QueryOptions)) where
  query sql options s :=
    ((e.query sql options s.1).1, (e.query sql options s.1).2, s.2 ++ [(sql, options)])

theorem groupClause_eq_empty_iff (columns : List String) :
    groupClause columns = "" ↔ ∀ column ∈ columns, column = "" := by
  unfold groupClause listClause
  split
  · rename_i hnone
    simpa [List.filter_eq_nil_iff] using hnone
  · rename_i items hsome
    obtain ⟨column, hcolumn⟩ := List.exists_mem_of_ne_nil _ hsome
    rw [List.mem_filter, decide_eq_true_eq] at hcolumn
    constructor
    · intro hempty
      simp at hempty
    · intro hall
      exact absurd (hall column hcolumn.1) hcolumn.2

namespace Model

/-- The number in the counting cell of the first row. -/
def cellTotal (counted : List Row) : Nat :=
  ((counted.head?.bind (lookup? Descriptor.countColumn)).map countOf).getD 0

theorem cellTotal_of_none {counted : List Row}
    (hcell : counted.head?.bind (lookup? Descriptor.countColumn) = none) :
    cellTotal counted = 0 := by
  rw [cellTotal, hcell]
  rfl

theorem cellTotal_natural {counted : List Row} {n : Nat} (h : n < Nat.pow 2 64)
    (hcell : counted.head?.bind (lookup? Descriptor.countColumn) = some (Json.integer n)) :
    cellTotal counted = n := by
  rw [cellTotal, hcell, Option.map_some, Option.getD_some, countOf_natural h]

theorem isGrouped_iff (d : Descriptor) : isGrouped d = true ↔ groupClause d.group ≠ "" := by
  rw [Ne, groupClause_eq_empty_iff]
  simp [isGrouped]

theorem total_eq (d : Descriptor) (counted : List Row) :
    total d counted = if groupClause d.group = "" then cellTotal counted else counted.length := by
  unfold total
  by_cases hgroup : groupClause d.group = ""
  · rw [if_pos hgroup, if_neg (by rw [isGrouped_iff]; exact not_not_intro hgroup)]
    cases counted with
    | nil => rfl
    | cons first rest =>
        cases hcell : lookup? Descriptor.countColumn first <;> simp [cellTotal, hcell]
  · rw [if_neg hgroup, if_pos ((isGrouped_iff d).mpr hgroup)]

variable (m : Model) (e : Executor S) (d : Descriptor) {s s' : S}

theorem findAndCountAll_of_refused {err : ClientError}
    (hcount : e.query (m.countStatement d) none s = (.error err, s')) :
    m.findAndCountAll e d s = (.error err, s') := by
  rw [findAndCountAll, hcount]

theorem findAndCountAll_of_none {counted : List Row}
    (hcount : e.query (m.countStatement d) none s = (.ok counted, s'))
    (htotal : total d counted = 0) : m.findAndCountAll e d s = (.ok ⟨[], 0⟩, s') := by
  rw [findAndCountAll, hcount]
  exact if_pos htotal

theorem findAndCountAll_of_some {counted : List Row}
    (hcount : e.query (m.countStatement d) none s = (.ok counted, s'))
    (htotal : total d counted ≠ 0) :
    m.findAndCountAll e d s =
      ((e.query (m.selectStatement d) none s').1.map fun data => ⟨data, total d counted⟩,
        (e.query (m.selectStatement d) none s').2) := by
  rw [findAndCountAll, hcount]
  simp only [if_neg htotal, findAll]
  rcases e.query (m.selectStatement d) none s' with ⟨_ | data, s''⟩ <;> rfl

/-- A page takes the counting statement, and the selecting one after it exactly if the first was
answered with a total other than zero; nothing else is sent, and a refusal comes back as it is.
The total is the number of rows if the counting statement groups, and else the number in the first
row. The counting statement takes its lines from the selecting one, so that attributes, order,
limit and offset do not show in it. -/
theorem page_after_count (sent : List (String × Option QueryOptions)) :
    (∃ result s' more,
      m.findAndCountAll e d s = (result, s') ∧
      m.findAndCountAll e.recorded d (s, sent) =
        (result, s', sent ++ (m.countStatement d, none) :: more) ∧
      (∀ err, (e.query (m.countStatement d) none s).1 = .error err →
        result = .error err ∧ more = []) ∧
      (∀ counted s₁, e.query (m.countStatement d) none s = (.ok counted, s₁) →
        ∀ n, n = (if groupClause d.group = "" then cellTotal counted else counted.length) →
        (n = 0 → result = .ok ⟨[], 0⟩ ∧ more = []) ∧
        (n ≠ 0 → result = (e.query (m.selectStatement d) none s₁).1.map (fun data => ⟨data, n⟩) ∧
          more = [(m.selectStatement d, none)]))) ∧
    (∃ shared tail,
      shared = linesText ["from " ++ m.table, d.conditions.clause, groupClause d.group] ∧
      m.countStatement d = "select count(1) as count" ++ shared ∧
      m.selectStatement d = selectClause d.attributes ++ shared ++ tail) ∧
    (∀ d' : Descriptor, d'.conditions = d.conditions → d'.group = d.group →
      m.countStatement d' = m.countStatement d) := by
  refine ⟨?_, ?_, ?_⟩
  · cases hcount : e.query (m.countStatement d) none s with
    | mk answer s₁ =>
        have hrecorded : e.recorded.query (m.countStatement d) none (s, sent) =
            (answer, s₁, sent ++ [(m.countStatement d, none)]) := by
          simp [Executor.recorded, hcount]
        cases answer with
        | error err =>
            refine ⟨.error err, s₁, [], findAndCountAll_of_refused m e d hcount,
              findAndCountAll_of_refused m e.recorded d hrecorded, ?_, ?_⟩
            · intro err' herr
              obtain rfl := Except.error.inj herr
              exact ⟨rfl, rfl⟩
            · intro counted s₂ hcounted
              simp at hcounted
        | ok counted =>
            by_cases htotal : total d counted = 0
            · refine ⟨.ok ⟨[], 0⟩, s₁, [], findAndCountAll_of_none m e d hcount htotal,
                findAndCountAll_of_none m e.recorded d hrecorded htotal, ?_, ?_⟩
              · intro err herr
                simp at herr
              · intro counted' s₂ hcounted n hn
                obtain ⟨rfl, rfl⟩ : counted = counted' ∧ s₁ = s₂ := by simpa using hcounted
                rw [← total_eq, htotal] at hn
                exact ⟨fun _ => ⟨rfl, rfl⟩, fun hne => absurd hn hne⟩
            · have hpage := findAndCountAll_of_some m e.recorded d hrecorded htotal
              refine ⟨_, _, [(m.selectStatement d, none)],
                findAndCountAll_of_some m e d hcount htotal, ?_, ?_, ?_⟩
              · simpa [Executor.recorded] using hpage
              · intro err herr
                simp at herr
              · intro counted' s₂ hcounted n hn
                obtain ⟨rfl, rfl⟩ : counted = counted' ∧ s₁ = s₂ := by simpa using hcounted
                rw [← total_eq] at hn
                exact ⟨fun hzero => absurd (hn ▸ hzero) htotal, fun _ => ⟨hn ▸ rfl, rfl⟩⟩
  · exact ⟨_, _, rfl, d.countStatement_eq m.table, d.selectStatement_eq m.table⟩
  · intro d' hconditions hgroup
    simp only [countStatement, Descriptor.countStatement, Descriptor.sharedClauses, hconditions,
      hgroup]

end Model

end SqlClient
