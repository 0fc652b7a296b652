namespace SqlClient

/-- Puts a value at its name's place, or at the end if the name is new. -/
def insertEntry {α : Type} (key : String) (value : α) : List (String × α) → List (String × α)
  | [] => [(key, value)]
  | (k, v) :: rest =>
    if k = key then (key, value) :: rest else (k, v) :: insertEntry key value rest

/-- The value of the first entry of a name. -/
def lookup? {α : Type} (key : String) : List (String × α) → Option α
  | [] => none
  | (k, v) :: rest => if k = key then some v else lookup? key rest

/-- Puts a value as `insertEntry` does, and gives the value whose place it takes. -/
def exchangeEntry {α : Type} (key : String) (value : α) :
    List (String × α) → List (String × α) × Option α
  | [] => ([(key, value)], none)
  | (k, v) :: rest =>
    if k = key then ((key, value) :: rest, some v)
    else
      let (rest, old) := exchangeEntry key value rest
      ((k, v) :: rest, old)

theorem exchangeEntry_eq {α : Type} (key : String) (value : α) (entries : List (String × α)) :
    exchangeEntry key value entries = (insertEntry key value entries, lookup? key entries) := by
  induction entries with
  | nil => rfl
  | cons e rest ih =>
      obtain ⟨k, v⟩ := e
      by_cases hk : k = key
      · simp [exchangeEntry, insertEntry, lookup?, hk]
      · simp [exchangeEntry, insertEntry, lookup?, hk, ih]

theorem mem_keys_insertEntry {α : Type} {key k : String} {value : α}
    {entries : List (String × α)} :
    k ∈ (insertEntry key value entries).map Prod.fst ↔ k = key ∨ k ∈ entries.map Prod.fst := by
  induction entries with
  | nil => simp [insertEntry]
  | cons e rest ih =>
      obtain ⟨k', v⟩ := e
      by_cases h : k' = key
      · subst h
        simp [insertEntry]
      · simp only [insertEntry, h, if_false, List.map_cons, List.mem_cons, ih]
        grind

theorem nodup_keys_insertEntry {α : Type} {key : String} {value : α} {entries : List (String × α)}
    (h : (entries.map Prod.fst).Nodup) :
    ((insertEntry key value entries).map Prod.fst).Nodup := by
  induction entries with
  | nil => simp [insertEntry]
  | cons e rest ih =>
      obtain ⟨k', v⟩ := e
      simp only [List.map_cons, List.nodup_cons] at h
      by_cases hk : k' = key
      · subst hk
        simpa [insertEntry] using h
      · simp only [insertEntry, hk, if_false, List.map_cons, List.nodup_cons]
        refine ⟨?_, ih h.2⟩
        rw [mem_keys_insertEntry]
        exact not_or.mpr ⟨hk, h.1⟩

/-- A map whose names keep their first place. -/
structure OrderedMap (α : Type) where
  entries : List (String × α)
  nodup : (entries.map Prod.fst).Nodup

namespace OrderedMap

variable {α : Type}

def empty : OrderedMap α :=
  ⟨[], List.nodup_nil⟩

instance : Inhabited (OrderedMap α) :=
  ⟨empty⟩

def insert (m : OrderedMap α) (key : String) (value : α) : OrderedMap α :=
  ⟨insertEntry key value m.entries, nodup_keys_insertEntry m.nodup⟩

/-- Inserts a value, and gives the value whose place it takes. -/
def exchange (m : OrderedMap α) (key : String) (value : α) : OrderedMap α × Option α :=
  (⟨(exchangeEntry key value m.entries).1, by
      rw [exchangeEntry_eq]
      exact nodup_keys_insertEntry m.nodup⟩,
    (exchangeEntry key value m.entries).2)

def get? (m : OrderedMap α) (key : String) : Option α :=
  lookup? key m.entries

def keys (m : OrderedMap α) : List String :=
  m.entries.map Prod.fst

def size (m : OrderedMap α) : Nat :=
  m.entries.length

def isEmpty (m : OrderedMap α) : Bool :=
  m.entries.isEmpty

/-- Inserts entries one after the other. -/
def insertAll (m : OrderedMap α) (entries : List (String × α)) : OrderedMap α :=
  entries.foldl (fun m e => m.insert e.1 e.2) m

/-- The map of a list of entries, where a later value of a name replaces an earlier one. -/
def ofList (entries : List (String × α)) : OrderedMap α :=
  empty.insertAll entries

end OrderedMap

end SqlClient
