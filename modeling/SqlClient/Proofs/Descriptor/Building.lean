import SqlClient.Proofs.Descriptor.Acceptance
import SqlClient.Proofs.Statement.Comparison

namespace SqlClient

namespace SqlValue

mutual

/-- The JSON value that stands for a value. A number that is not finite has none, and null takes
its place. -/
def toJson : SqlValue → Json
  | null => .null
  | bool b => .bool b
  | int n => Json.integer n
  | float x => if x.isFinite then Json.float x else .null
  | text s => .string s
  | list items => .array (itemsToJson items)

def itemsToJson : List SqlValue → List Json
  | [] => []
  | v :: rest => toJson v :: itemsToJson rest

end

mutual

/-- Integers have 64 bits, and floating-point numbers are finite. -/
def IsWritable : SqlValue → Prop
  | int n => isInt64 n = true
  | float x => x.isFinite = true
  | list items => ItemsWritable items
  | _ => True

def ItemsWritable : List SqlValue → Prop
  | [] => True
  | v :: rest => IsWritable v ∧ ItemsWritable rest

end

mutual

theorem ofJson_toJson : ∀ {v : SqlValue}, v.IsWritable → ofJson v.toJson = v
  | null, _ => rfl
  | bool _, _ => rfl
  | int n, h => if_pos h
  | float x, h => by
      have hfinite : x.isFinite = true := h
      rw [toJson, if_pos hfinite]
      rfl
  | text _, _ => rfl
  | list items, h => by
      rw [toJson, ofJson, ofJsonItems_itemsToJson h]

theorem ofJsonItems_itemsToJson : ∀ {items : List SqlValue}, ItemsWritable items →
    ofJsonItems (itemsToJson items) = items
  | [], _ => rfl
  | v :: rest, h => by
      rw [itemsToJson, ofJsonItems, ofJson_toJson h.1, ofJsonItems_itemsToJson h.2]

end

end SqlValue

namespace Operator

def key : Operator → String
  | between _ _ => "between"
  | like _ => "like"
  | notEqual _ => "ne"
  | oneOf _ => "in"
  | noneOf _ => "notIn"
  | greater _ => "gt"
  | less _ => "lt"

def operandJson : Operator → Json
  | between low high => .array [low.toJson, high.toJson]
  | like v => v.toJson
  | notEqual v => v.toJson
  | oneOf v => v.toJson
  | noneOf v => v.toJson
  | greater v => v.toJson
  | less v => v.toJson

theorem bareName_key (op : Operator) (dollar : Bool) :
    bareName ((if dollar then "$" else "") ++ op.key) = op.key := by
  cases dollar with
  | false =>
      rw [if_neg Bool.false_ne_true, String.empty_append]
      cases op <;> simp [bareName, key]
  | true => simp [bareName, String.toList_append]

end Operator

namespace Predicate

/-- A condition in JSON, with or without a dollar sign in front of its operator. -/
def toJson (dollar : Bool) : Predicate → Json
  | equals v => v.toJson
  | compares op => .object [((if dollar then "$" else "") ++ op.key, op.operandJson)]

def IsWritable (p : Predicate) : Prop :=
  ∀ v ∈ p.operands, v.IsWritable

theorem ofJson?_toJson {p : Predicate} (h : p.IsWritable) (dollar : Bool) :
    ofJson? (p.toJson dollar) = some p := by
  cases p with
  | equals v =>
      have hread := SqlValue.ofJson_toJson (h v (by simp [operands]))
      have hplain : ∀ members, v.toJson ≠ .object members := by
        intro members
        cases v <;> simp [SqlValue.toJson, Json.integer]
        split <;> simp [Json.float]
      unfold ofJson?
      split
      · exact absurd ‹_› (hplain _)
      · exact absurd ‹_› (hplain _)
      · rw [toJson, hread]
  | compares op =>
      have hread : ∀ v ∈ (compares op).operands, SqlValue.ofJson v.toJson = v :=
        fun v hv => SqlValue.ofJson_toJson (h v hv)
      suffices hop : Operator.ofKey? ((if dollar then "$" else "") ++ op.key) op.operandJson =
          some op by
        rw [toJson, ofJson?, hop]
        rfl
      rw [Operator.ofKey?, op.bareName_key]
      cases op <;> simp_all [Operator.key, Operator.operandJson, Operator.bounds, operands]

end Predicate

/-- One step of building a descriptor. -/
inductive BuildStep
  | select (column : String) (alias? : Option String)
  | filter (column : String) (p : Predicate)
  | groupBy (column : String)
  | orderBy (expression : String)
  | limit (n : Nat)
  | offset (n : Nat)

namespace BuildStep

@[simp]
def apply (d : Descriptor) : BuildStep → Descriptor
  | select column alias? => d.select ⟨column, alias?⟩
  | filter column p => d.filter column p
  | groupBy column => d.groupBy column
  | orderBy expression => d.orderBy expression
  | limit n => d.withLimit n
  | offset n => d.withOffset n

@[simp]
def attribute? : BuildStep → Option Attribute
  | select column alias? => some ⟨column, alias?⟩
  | _ => none

@[simp]
def filter? : BuildStep → Option (String × Predicate)
  | filter column p => some (column, p)
  | _ => none

@[simp]
def group? : BuildStep → Option String
  | groupBy column => some column
  | _ => none

@[simp]
def order? : BuildStep → Option String
  | orderBy expression => some expression
  | _ => none

@[simp]
def limit? : BuildStep → Option Nat
  | limit n => some n
  | _ => none

@[simp]
def offset? : BuildStep → Option Nat
  | offset n => some n
  | _ => none

/-- Counters have 64 bits, and the values of conditions can be written. -/
def IsWritable : BuildStep → Prop
  | filter _ p => p.IsWritable
  | limit n => n < 2 ^ 64
  | offset n => n < 2 ^ 64
  | _ => True

end BuildStep

theorem BuildStep.forall_mem_filterMap {β : Type} {part? : BuildStep → Option β} {P : β → Prop}
    (hpart : ∀ step b, part? step = some b → step.IsWritable → P b) {steps : List BuildStep}
    (h : ∀ step ∈ steps, step.IsWritable) : ∀ b ∈ steps.filterMap part?, P b := by
  intro b hb
  obtain ⟨step, hstep, hb⟩ := List.mem_filterMap.mp hb
  exact hpart step b hb (h step hstep)

theorem BuildStep.isWritable_of_filter? {steps : List BuildStep}
    (h : ∀ step ∈ steps, step.IsWritable) : ∀ e ∈ steps.filterMap filter?, e.2.IsWritable := by
  refine forall_mem_filterMap (fun step e he hstep => ?_) h
  cases step with
  | filter column p => exact Option.some.inj he ▸ hstep
  | _ => contradiction

theorem BuildStep.lt_of_limit? {steps : List BuildStep} (h : ∀ step ∈ steps, step.IsWritable) :
    ∀ n ∈ steps.filterMap limit?, n < 2 ^ 64 := by
  refine forall_mem_filterMap (fun step n hn hstep => ?_) h
  cases step with
  | limit m => exact Option.some.inj hn ▸ hstep
  | _ => contradiction

theorem BuildStep.lt_of_offset? {steps : List BuildStep} (h : ∀ step ∈ steps, step.IsWritable) :
    ∀ n ∈ steps.filterMap offset?, n < 2 ^ 64 := by
  refine forall_mem_filterMap (fun step n hn hstep => ?_) h
  cases step with
  | offset m => exact Option.some.inj hn ▸ hstep
  | _ => contradiction

/-- The condition of each column in JSON: each column stands where it came first, with the
condition that it was given last. -/
def conditionMembers (dollar : String → Bool) (filters : List (String × Predicate)) :
    List (String × Json) :=
  (filters.map Prod.fst).eraseDups.filterMap fun column =>
    (lookup? column filters.reverse).map fun p => (column, p.toJson (dollar column))

theorem conditionMembers_eq (dollar : String → Bool) (filters : List (String × Predicate)) :
    conditionMembers dollar filters =
      (OrderedMap.ofList filters).entries.map fun e => (e.1, e.2.toJson (dollar e.1)) := by
  rw [OrderedMap.entries_ofList, List.map_filterMap, conditionMembers]
  simp only [Option.map_map, Function.comp_def]

theorem ofMembers_conditionMembers {filters : List (String × Predicate)}
    (h : ∀ e ∈ filters, e.2.IsWritable) (dollar : String → Bool) :
    Conditions.ofMembers (conditionMembers dollar filters) = OrderedMap.ofList filters := by
  rw [Conditions.ofMembers, conditionMembers_eq, List.filterMap_map,
    List.filterMap_congr (g := some), List.filterMap_some, OrderedMap.ofList_entries]
  intro e he
  simp [Predicate.ofJson?_toJson (h e (OrderedMap.mem_of_mem_ofList he))]

def Attribute.toJson : Attribute → Json
  | ⟨column, none⟩ => .string column
  | ⟨column, some name⟩ => .array [.string column, .string name]

namespace Descriptor

open WrittenDescriptor

/-- The descriptor that steps build from nothing. -/
def build (steps : List BuildStep) : Descriptor :=
  steps.foldl BuildStep.apply empty

/-- The member for a counter, if it is given at all. -/
def countMembers (name : String) (counts : List Nat) : List (String × Json) :=
  counts.getLast?.toList.map fun n => (name, Json.integer n)

def builtMembers (dollar : String → Bool) (steps : List BuildStep) : List (String × Json) :=
  [("attributes", .array ((steps.filterMap BuildStep.attribute?).map Attribute.toJson)),
    ("where", .object (conditionMembers dollar (steps.filterMap BuildStep.filter?))),
    ("group", .array ((steps.filterMap BuildStep.group?).map .string)),
    ("order", .array ((steps.filterMap BuildStep.order?).map .string))] ++
  countMembers "limit" (steps.filterMap BuildStep.limit?) ++
  countMembers "offset" (steps.filterMap BuildStep.offset?)

/-- The description of what steps build. -/
def buildJson (dollar : String → Bool) (steps : List BuildStep) : Json :=
  .object (builtMembers dollar steps)

theorem build_eq (steps : List BuildStep) : build steps = {
    attributes := steps.filterMap BuildStep.attribute?
    conditions := OrderedMap.ofList (steps.filterMap BuildStep.filter?)
    group := (steps.filterMap BuildStep.group?).filter (· ≠ "")
    order := (steps.filterMap BuildStep.order?).filter (· ≠ "")
    limit := (steps.filterMap BuildStep.limit?).getLast?
    offset := (steps.filterMap BuildStep.offset?).getLast? } := by
  induction steps using List.reverseRecOn with
  | nil => rfl
  | append_singleton steps step ih =>
      rw [build, List.foldl_append, List.foldl_cons, List.foldl_nil, ← build, ih]
      simp only [List.filterMap_append, List.filterMap_cons, List.filterMap_nil]
      cases step with
      | select column alias? => simp [select]
      | filter column p => simp [filter, OrderedMap.ofList_concat]
      | groupBy column => by_cases h : column = "" <;> simp [groupBy, h]
      | orderBy expression => by_cases h : expression = "" <;> simp [orderBy, h]
      | limit n => simp [withLimit]
      | offset n => simp [withOffset]

/-- The same descriptor, where an empty name counts as none. -/
def withoutBlankNames (d : Descriptor) : Descriptor :=
  { d with attributes := d.attributes.map fun a => { a with alias? := a.alias?.filter (· ≠ "") } }

theorem form_toJson (a : Attribute) :
    AttributeForm a.toJson { a with alias? := a.alias?.filter (· ≠ "") } := by
  obtain ⟨column, _ | name⟩ := a
  · exact .bare column
  · by_cases hname : name = ""
    · subst hname
      exact .blank column
    · rw [Option.filter_some, if_pos (by simpa using hname)]
      exact .named column name hname

theorem selectClause_withoutBlankNames (d : Descriptor) :
    selectClause d.withoutBlankNames.attributes = selectClause d.attributes := by
  have hname : ∀ a : Attribute,
      Attribute.name { a with alias? := a.alias?.filter (· ≠ "") } = a.name := by
    intro a
    simp [Attribute.name_eq]
  simp only [selectClause, withoutBlankNames, List.map_map, Function.comp_def, hname]

theorem keys_countMembers (name : String) (counts : List Nat) :
    ((countMembers name counts).map Prod.fst).Sublist [name] := by
  rw [countMembers]
  cases counts.getLast? with
  | none => exact List.nil_sublist _
  | some n => exact List.Sublist.refl _

theorem keys_builtMembers (dollar : String → Bool) (steps : List BuildStep) :
    ((builtMembers dollar steps).map Prod.fst).Sublist shape.fieldNames := by
  rw [builtMembers, List.map_append, List.map_append]
  exact ((List.Sublist.refl ["attributes", "where", "group", "order"]).append
    (keys_countMembers "limit" _)).append (keys_countMembers "offset" _)

theorem hasDistinctNames_buildJson (dollar : String → Bool) (steps : List BuildStep) :
    (buildJson dollar steps).HasDistinctNames :=
  (keys_builtMembers dollar steps).nodup (by decide)

theorem isShaped_buildJson (dollar : String → Bool) (steps : List BuildStep) :
    IsShaped (buildJson dollar steps) := by
  intro e he
  exact (keys_builtMembers dollar steps).subset (List.mem_map_of_mem he)

theorem lookup?_countMembers (key name : String) (counts : List Nat) :
    lookup? key (countMembers name counts) =
      if name = key then counts.getLast?.map fun n => Json.integer n else none := by
  rw [countMembers]
  cases counts.getLast? with
  | none => exact (ite_self _).symm
  | some n => rfl

theorem given_limit (dollar : String → Bool) (steps : List BuildStep) :
    given (buildJson dollar steps) "limit" =
      ((steps.filterMap BuildStep.limit?).getLast?.map fun n => Json.integer n).getD .null := by
  rw [given, buildJson, given?, builtMembers, lookup?_append, lookup?_append,
    lookup?_countMembers, lookup?_countMembers, if_pos rfl, if_neg (by decide), Option.or_none]
  rfl

theorem given_offset (dollar : String → Bool) (steps : List BuildStep) :
    given (buildJson dollar steps) "offset" =
      ((steps.filterMap BuildStep.offset?).getLast?.map fun n => Json.integer n).getD .null := by
  rw [given, buildJson, given?, builtMembers, lookup?_append, lookup?_append,
    lookup?_countMembers, lookup?_countMembers, if_neg (by decide), if_pos rfl, Option.or_none]
  rfl

theorem countForm_getLast? {counts : List Nat} (h : ∀ n ∈ counts, n < 2 ^ 64) :
    CountForm ((counts.getLast?.map fun n => Json.integer n).getD .null) counts.getLast? := by
  cases hlast : counts.getLast? with
  | none => exact .null
  | some n => exact .count n (h n (List.mem_of_getLast? hlast))

theorem describes_buildJson {steps : List BuildStep} (h : ∀ step ∈ steps, step.IsWritable)
    (dollar : String → Bool) :
    Describes (buildJson dollar steps) (build steps).withoutBlankNames := by
  rw [build_eq]
  constructor
  case attributes =>
    refine ⟨_, rfl, ?_⟩
    rw [withoutBlankNames, List.forall₂_map_left_iff, List.forall₂_map_right_iff,
      List.forall₂_same]
    exact fun a _ => form_toJson a
  case conditions =>
    rw [withoutBlankNames,
      ← ofMembers_conditionMembers (BuildStep.isWritable_of_filter? h) dollar]
    exact .object _
  case group => exact ⟨_, .many _, rfl⟩
  case order => exact ⟨_, .many _, rfl⟩
  case limit =>
    rw [given_limit]
    exact countForm_getLast? (BuildStep.lt_of_limit? h)
  case offset =>
    rw [given_offset]
    exact countForm_getLast? (BuildStep.lt_of_offset? h)

/-- The description of what steps build is read as the descriptor that they build, but for empty
names, and both give the same statements. -/
theorem reads_what_is_built {steps : List BuildStep} (h : ∀ step ∈ steps, step.IsWritable)
    (dollar : String → Bool) :
    Descriptor.ofJson (buildJson dollar steps) = .ok (build steps).withoutBlankNames ∧
      ∀ table, (build steps).withoutBlankNames.selectStatement table =
          (build steps).selectStatement table ∧
        (build steps).withoutBlankNames.countStatement table =
          (build steps).countStatement table := by
  constructor
  · rw [ofJson_eq_ok_iff (hasDistinctNames_buildJson dollar steps)]
    exact ⟨isShaped_buildJson dollar steps, describes_buildJson h dollar⟩
  · intro table
    constructor
    · rw [selectStatement, selectClause_withoutBlankNames]
      rfl
    · rfl

/-- Steps with an empty name, a column that is given two conditions, and counters that are given
twice. -/
def repeating : List BuildStep :=
  [.limit 5, .filter "city" (.equals (.text "Bonn")), .select "city" (some ""),
    .filter "amount" (.compares (.between (.int (-3)) (.float (Double.ofSize true 1)))),
    .groupBy "", .limit 0,
    .filter "city" (.compares (.oneOf (.list [.null, .text "Ulm"]))), .orderBy "city", .offset 7]

theorem reads_what_is_built_repeating :
    (∀ step ∈ repeating, step.IsWritable) ∧
      ∃ d, Descriptor.ofJson (buildJson (· == "amount") repeating) = .ok d ∧
        d.attributes = [⟨"city", none⟩] ∧ d.conditions.keys = ["city", "amount"] ∧ d.group = [] ∧
        d.order = ["city"] ∧ d.limit = some 0 ∧ d.offset = some 7 := by
  have hwritable : ∀ step ∈ repeating, step.IsWritable := by
    have hfloat : (Double.ofSize true 1).isFinite = true := by decide
    have hint : isInt64 (-3) = true := by decide
    simp [repeating, BuildStep.IsWritable, Predicate.IsWritable, Predicate.operands,
      SqlValue.IsWritable, SqlValue.ItemsWritable, hint, hfloat]
  exact ⟨hwritable, _, (reads_what_is_built hwritable (· == "amount")).1,
    rfl, rfl, rfl, rfl, rfl, rfl⟩

end Descriptor

end SqlClient
