import SqlClient.OrderedMap
import SqlClient.Settings.Toml.Value

namespace SqlClient

namespace Toml

/-- How a table came to be: by a header below it, by a dotted key, or by its own header. -/
inductive TableStyle
  | implied
  | dotted
  | defined
deriving DecidableEq

/-- What stands under a key. The tables of an array are kept with the last one apart, to which
headers and keys refer, and the others in reverse. -/
inductive Entry
  | value (v : Value)
  | table (style : TableStyle) (entries : List (String × Entry))
  | tables (earlier : List (List (String × Entry))) (last : List (String × Entry))

abbrev Entries := List (String × Entry)

/-- Changes the table at the end of a path and makes the tables on the way. A dotted key must not
reach into a table that has a header of its own. -/
def update (dotted : Bool) (change : TableStyle → Entries → Option Entries) :
    List String → TableStyle → Entries → Option Entries
  | [], style, entries => change style entries
  | key :: keys, _, entries =>
    match lookup? key entries with
    | none =>
      let style := if dotted then TableStyle.dotted else .implied
      (update dotted change keys style []).map fun inner =>
        insertEntry key (.table style inner) entries
    | some (.value _) => none
    | some (.table style inner) =>
      if dotted && style == .defined then none
      else (update dotted change keys style inner).map fun inner =>
        insertEntry key (.table style inner) entries
    | some (.tables earlier last) =>
      (update dotted change keys .defined last).map fun last =>
        insertEntry key (.tables earlier last) entries

/-- Puts a value under a key that is new. Behind a dotted key the table has to stem from dotted
keys too. -/
def putNew (isDotted : Bool) (key : String) (v : Value) (style : TableStyle) (entries : Entries) :
    Option Entries :=
  if (style == .dotted) != isDotted then none
  else if (lookup? key entries).isSome then none
  else some (insertEntry key (.value v) entries)

/-- Puts a value under a dotted key, of which the last part is given apart. -/
def put (keys : List String) (key : String) (v : Value) (style : TableStyle) (entries : Entries) :
    Option Entries :=
  update true (putNew (!keys.isEmpty) key v) keys style entries

/-- Defines the table of a header. A table that was implied so far keeps its entries and moves to
the end. -/
def define (key : String) (entries : Entries) : Option Entries :=
  match lookup? key entries with
  | none => some (insertEntry key (.table .defined []) entries)
  | some (.table .implied inner) =>
    some (insertEntry key (.table .defined inner) (entries.filter (·.1 ≠ key)))
  | _ => none

/-- Adds a table to the array of a header. -/
def extend (key : String) (entries : Entries) : Option Entries :=
  match lookup? key entries with
  | none => some (insertEntry key (.tables [] []) entries)
  | some (.tables earlier last) => some (insertEntry key (.tables (last :: earlier) []) entries)
  | _ => none

mutual

def Entry.toValue : Entry → Value
  | .value v => v
  | .table _ entries => .table (entryValues entries)
  | .tables earlier last => .array ((tableValues earlier).reverse ++ [.table (entryValues last)])

def entryValues : List (String × Entry) → List (String × Value)
  | [] => []
  | (key, e) :: rest => (key, e.toValue) :: entryValues rest

def tableValues : List (List (String × Entry)) → List Value
  | [] => []
  | entries :: rest => .table (entryValues entries) :: tableValues rest

end

end Toml

end SqlClient
