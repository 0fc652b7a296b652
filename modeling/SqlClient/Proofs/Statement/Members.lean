import SqlClient.Proofs.Entries
import SqlClient.Proofs.Statement.Comparison
import SqlClient.Proofs.Statement.Integers

namespace SqlClient

open ConditionPlace (operatorNames)

namespace Operator

/-- The key in its other spelling: without its dollar sign, or with one if it has none. -/
def otherKey (key : String) : String :=
  match key.toList with
  | '$' :: rest => String.ofList rest
  | _ => "$" ++ key

/-- An array as exactly two bounds: further items are cut off, and missing ones are null. -/
def fitBounds : Json → Json
  | .array items => .array ((items ++ [Json.null, Json.null]).take 2)
  | v => v

theorem bareName_ofList_dollar (rest : List Char) :
    bareName (String.ofList ('$' :: rest)) = String.ofList rest := by
  rw [bareName, String.toList_ofList]
  rfl

theorem bareName_eq_self {key : String} (h : key.toList.head? ≠ some '$') :
    bareName key = key := by
  unfold bareName
  split
  · rename_i rest hkey
    rw [hkey] at h
    exact absurd rfl h
  · rfl

theorem bareName_otherKey {key : String} (h : bareName key ∈ operatorNames) :
    bareName (otherKey key) = bareName key := by
  have hbare : ∀ name ∈ operatorNames, name.toList.head? ≠ some '$' := by decide
  by_cases hkey : key.toList.head? = some '$'
  · obtain ⟨rest, hrest⟩ := List.head?_eq_some_iff.mp hkey
    rw [← String.ofList_toList (s := key), hrest, bareName_ofList_dollar] at h
    have hother : otherKey (String.ofList ('$' :: rest)) = String.ofList rest := by
      rw [otherKey, String.toList_ofList]
      rfl
    rw [← String.ofList_toList (s := key), hrest, bareName_ofList_dollar, hother,
      bareName_eq_self (hbare _ h)]
  · have hother : otherKey key = String.ofList ('$' :: key.toList) := by
      unfold otherKey
      split
      · rename_i rest hrest
        rw [hrest] at hkey
        exact absurd rfl hkey
      · simp
    rw [hother, bareName_ofList_dollar, String.ofList_toList, bareName_eq_self hkey]

theorem bounds_fitBounds (v : Json) : bounds (fitBounds v) = bounds v := by
  cases v with
  | array items =>
      rcases items with _ | ⟨low, _ | ⟨high, rest⟩⟩
      · simp [fitBounds, bounds, SqlValue.ofJson]
      · simp [fitBounds, bounds, SqlValue.ofJson]
      · simp [fitBounds, bounds]
  | _ => rfl

theorem isSome_ofKey? (key : String) (operand : Json) :
    (ofKey? key operand).isSome = operatorNames.contains (bareName key) := by
  unfold ofKey?
  split <;> simp_all [operatorNames]

end Operator

namespace Predicate

/-- Whether a value is a condition: it is no object, or the first key is that of an operator. -/
def isCondition : Json → Bool
  | .object [] => false
  | .object ((key, _) :: _) => operatorNames.contains (Operator.bareName key)
  | _ => true

/-- Whether a value asks for equality or for a range. -/
def isEqualityOrRange : Json → Bool
  | .object [] => false
  | .object ((key, _) :: _) => Operator.bareName key = "between"
  | _ => true

/-- The value with the first key only. -/
def firstKeyOnly : Json → Json
  | .object (member :: _) => .object [member]
  | v => v

/-- The value with the first key in its other spelling. -/
def respelled : Json → Json
  | .object ((key, operand) :: rest) => .object ((Operator.otherKey key, operand) :: rest)
  | v => v

/-- The value with exactly two bounds if it asks for a range. -/
def withTwoBounds : Json → Json
  | .object ((key, operand) :: rest) =>
    .object
      ((key, if Operator.bareName key = "between" then Operator.fitBounds operand else operand) ::
        rest)
  | v => v

theorem isCondition_eq (v : Json) : isCondition v = (ofJson? v).isSome := by
  cases v with
  | object members =>
      rcases members with _ | ⟨⟨key, operand⟩, rest⟩
      · rfl
      · rw [isCondition, ofJson?, Option.isSome_map, Operator.isSome_ofKey?]
  | _ => rfl

theorem isMirrored_of_ofJson? {v : Json} {p : Predicate} (h : ofJson? v = some p) :
    p.isMirrored = isEqualityOrRange v := by
  cases v with
  | object members =>
      rcases members with _ | ⟨⟨key, operand⟩, rest⟩
      · simp [ofJson?] at h
      · obtain ⟨op, hop, rfl⟩ := Option.map_eq_some_iff.mp h
        unfold Operator.ofKey? at hop
        split at hop <;> rename_i hname <;> cases hop <;>
          simp [isEqualityOrRange, isMirrored, hname]
  | _ =>
      obtain rfl := Option.some.inj h
      rfl

theorem ofJson?_firstKeyOnly (v : Json) : ofJson? (firstKeyOnly v) = ofJson? v := by
  cases v with
  | object members => cases members <;> rfl
  | _ => rfl

theorem ofJson?_respelled {v : Json} (h : isCondition v = true) :
    ofJson? (respelled v) = ofJson? v := by
  cases v with
  | object members =>
      rcases members with _ | ⟨⟨key, operand⟩, rest⟩
      · rfl
      · have hname : Operator.bareName key ∈ operatorNames := by simpa [isCondition] using h
        rw [respelled, ofJson?, ofJson?, Operator.ofKey?, Operator.ofKey?,
          Operator.bareName_otherKey hname]
  | _ => rfl

theorem ofJson?_withTwoBounds (v : Json) : ofJson? (withTwoBounds v) = ofJson? v := by
  cases v with
  | object members =>
      rcases members with _ | ⟨⟨key, operand⟩, rest⟩
      · rfl
      · by_cases hrange : Operator.bareName key = "between"
        · rw [withTwoBounds, if_pos hrange, ofJson?, ofJson?, Operator.ofKey?,
            Operator.ofKey?, hrange, Operator.bounds_fitBounds]
          rfl
        · rw [withTwoBounds, if_neg hrange]
  | _ => rfl

theorem ofJson?_edited {edits : List (Json → Json)}
    (hedits : edits ⊆ [firstKeyOnly, respelled, withTwoBounds]) {v : Json}
    (h : isCondition v = true) :
    ofJson? (edits.foldl (fun v edit => edit v) v) = ofJson? v := by
  induction edits generalizing v with
  | nil => rfl
  | cons edit edits ih =>
      obtain ⟨hedit, hedits⟩ := List.cons_subset.mp hedits
      have hsame : ofJson? (edit v) = ofJson? v := by
        simp only [List.mem_cons, List.not_mem_nil, or_false] at hedit
        rcases hedit with rfl | rfl | rfl
        · exact ofJson?_firstKeyOnly v
        · exact ofJson?_respelled h
        · exact ofJson?_withTwoBounds v
      rw [isCondition_eq, ← hsame, ← isCondition_eq] at h
      rw [List.foldl_cons, ih hedits h, hsame]

end Predicate

namespace Conditions

open Predicate

/-- The members that describe a condition. -/
def conditionsOnly (members : List (String × Json)) : List (String × Json) :=
  members.filter fun e => isCondition e.2

/-- The fragments of one member. A member without a condition has none. -/
def memberFragments (e : String × Json) : List String :=
  ((Predicate.ofJson? e.2).map (fragments e.1)).getD []

/-- The clause that is made of fragments. -/
def whereText (parts : List String) : String :=
  if parts = [] then "" else "where " ++ " and ".intercalate parts

theorem memberFragments_of_ofJson? {e : String × Json} {p : Predicate}
    (h : Predicate.ofJson? e.2 = some p) :
    memberFragments e = if e.1 = partitionColumn ∧ isEqualityOrRange e.2 = true then
      [p.render e.1, p.render flagColumn] else [p.render e.1] := by
  rw [memberFragments, h, Option.map_some, Option.getD_some, fragments, isMirrored_of_ofJson? h]

theorem memberFragments_eq_nil_iff {e : String × Json} :
    memberFragments e = [] ↔ isCondition e.2 = false := by
  rw [isCondition_eq]
  cases hp : Predicate.ofJson? e.2 with
  | none => simp [memberFragments, hp]
  | some p =>
      rw [memberFragments_of_ofJson? hp]
      split <;> simp

theorem whereText_eq_empty_iff {parts : List String} : whereText parts = "" ↔ parts = [] := by
  rw [whereText]
  split
  · simp [*]
  · simp [*, String.ext_iff]

theorem ofMembers_eq (members : List (String × Json)) :
    ofMembers members = OrderedMap.ofList (members.filterMap fun e =>
      (Predicate.ofJson? e.2).map fun p => (e.1, p)) :=
  rfl

theorem ofMembers_edited (members : List (String × Json)) {edits : List (Json → Json)}
    (hedits : edits ⊆ [firstKeyOnly, respelled, withTwoBounds]) :
    ofMembers ((conditionsOnly members).map fun e =>
      (e.1, edits.foldl (fun v edit => edit v) e.2)) = ofMembers members := by
  rw [ofMembers_eq, ofMembers_eq, conditionsOnly, List.filterMap_map, List.filterMap_filter]
  congr 1
  apply List.filterMap_congr
  intro e _
  split
  · rename_i hcondition
    rw [Function.comp_apply, ofJson?_edited hedits hcondition]
  · rename_i hcondition
    rw [isCondition_eq, Bool.not_eq_true, Option.isSome_eq_false_iff, Option.isNone_iff_eq_none]
      at hcondition
    rw [hcondition]
    rfl

theorem entries_ofMembers {members : List (String × Json)}
    (hnodup : (members.map Prod.fst).Nodup) :
    (ofMembers members).entries =
      members.filterMap fun e => (Predicate.ofJson? e.2).map fun p => (e.1, p) := by
  rw [ofMembers_eq, OrderedMap.entries_ofList_of_nodup]
  refine hnodup.sublist ?_
  clear hnodup
  induction members with
  | nil => exact List.Sublist.slnil
  | cons e members ih =>
      rw [List.filterMap_cons]
      cases hp : Predicate.ofJson? e.2 with
      | none => exact ih.cons _
      | some p => exact ih.cons_cons _

theorem clause_eq_whereText (c : Conditions) :
    c.clause = whereText (c.entries.flatMap fun e => fragments e.1 e.2) := by
  unfold clause
  split
  · rename_i hparts
    exact (if_pos hparts).symm
  · rename_i hparts
    exact (if_neg hparts).symm

theorem clause_ofMembers {members : List (String × Json)}
    (hnodup : (members.map Prod.fst).Nodup) :
    (ofMembers members).clause = whereText (members.flatMap memberFragments) := by
  rw [clause_eq_whereText, entries_ofMembers hnodup, List.filterMap_eq_flatMap_toList,
    List.flatMap_assoc]
  congr 2
  funext e
  rw [memberFragments]
  cases Predicate.ofJson? e.2 <;> simp

theorem flatMap_conditionsOnly (members : List (String × Json)) :
    (conditionsOnly members).flatMap memberFragments = members.flatMap memberFragments := by
  induction members with
  | nil => rfl
  | cons e members ih =>
      cases he : isCondition e.2 with
      | true =>
          rw [conditionsOnly, List.filter_cons_of_pos (by simpa using he), List.flatMap_cons,
            List.flatMap_cons]
          exact congrArg _ ih
      | false =>
          rw [conditionsOnly, List.filter_cons_of_neg (by simp [he]), List.flatMap_cons,
            memberFragments_eq_nil_iff.mpr he]
          exact ih

theorem flatMap_memberFragments_eq_nil_iff {members : List (String × Json)} :
    members.flatMap memberFragments = [] ↔ conditionsOnly members = [] := by
  simp [conditionsOnly, memberFragments_eq_nil_iff]

/-- A where object may be freed of the members that are no conditions, and the others may be
spelled otherwise. The clause is empty if no condition is left. Otherwise it holds the fragments
of the conditions in order: one for each, and behind equality and ranges on the partition column
the same one on the flag column. Objects one after the other give their fragments one after the
other. -/
theorem clause_member_by_member {members : List (String × Json)}
    (hnodup : (members.map Prod.fst).Nodup) :
    (∀ edits ⊆ [firstKeyOnly, respelled, withTwoBounds],
      (ofMembers ((conditionsOnly members).map fun e =>
        (e.1, edits.foldl (fun v edit => edit v) e.2))).clause = (ofMembers members).clause) ∧
    ((ofMembers members).clause = "" ↔ conditionsOnly members = []) ∧
    (conditionsOnly members ≠ [] → (ofMembers members).clause =
      "where " ++ " and ".intercalate ((conditionsOnly members).flatMap memberFragments)) ∧
    (∀ e ∈ conditionsOnly members, ∃ p, Predicate.ofJson? e.2 = some p ∧
      memberFragments e = if e.1 = partitionColumn ∧ isEqualityOrRange e.2 = true then
        [p.render e.1, p.render flagColumn] else [p.render e.1]) ∧
    ∀ others : List (String × Json), ((members ++ others).map Prod.fst).Nodup →
      (ofMembers (members ++ others)).clause = whereText
        ((conditionsOnly members).flatMap memberFragments ++
          (conditionsOnly others).flatMap memberFragments) := by
  simp only [flatMap_conditionsOnly]
  refine ⟨?_, ?_, ?_, ?_, ?_⟩
  · intro edits hedits
    rw [ofMembers_edited members hedits]
  · rw [clause_ofMembers hnodup, whereText_eq_empty_iff, flatMap_memberFragments_eq_nil_iff]
  · intro hne
    rw [clause_ofMembers hnodup, whereText, if_neg (hne ∘ flatMap_memberFragments_eq_nil_iff.mp)]
  · intro e he
    have hcondition : isCondition e.2 = true := (List.mem_filter.mp he).2
    rw [isCondition_eq, Option.isSome_iff_exists] at hcondition
    obtain ⟨p, hp⟩ := hcondition
    exact ⟨p, hp, memberFragments_of_ofJson? hp⟩
  · intro others hboth
    rw [clause_ofMembers hboth, List.flatMap_append]

/-- A range of days with too many bounds and keys, two members that are no conditions, and one on
the flag column. -/
def dayMembers : List (String × Json) :=
  [("report_date", .object
      [("$between", .array [.integer 1, .integer 2, .integer 3]), ("like", .string "x")]),
    ("shop", .object [("$near", .string "x")]), ("city", .object []), ("date_flag", .integer 5)]

theorem clause_member_by_member_days :
    (dayMembers.map Prod.fst).Nodup ∧
      (ofMembers dayMembers).clause =
        "where report_date between 1 and 2 and date_flag between 1 and 2 and date_flag = 5" ∧
      (ofMembers [("report_date", .object [("between", .array [.integer 1, .integer 2])]),
        ("date_flag", .integer 5)]).clause = (ofMembers dayMembers).clause ∧
      (ofMembers (dayMembers ++ [("country", .null)])).clause = whereText
        (["report_date between 1 and 2", "date_flag between 1 and 2", "date_flag = 5"] ++
          ["country = NULL"]) := by
  have hnodup : (dayMembers.map Prod.fst).Nodup := by decide
  obtain ⟨hedited, -, hparts, -, hboth⟩ := clause_member_by_member hnodup
  refine ⟨hnodup, ?_, ?_, ?_⟩
  · rw [hparts (List.cons_ne_nil _ _)]
    decide +kernel
  · exact hedited [firstKeyOnly, respelled, withTwoBounds] (List.Subset.refl _)
  · rw [hboth _ (by decide)]
    decide +kernel

end Conditions

end SqlClient
