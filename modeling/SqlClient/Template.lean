import SqlClient.OrderedMap
import SqlClient.Text.Word
import SqlClient.Value.Literal

/-!
Statement templates. A placeholder is a dollar sign and a name; the values bound to names are put
in one name after the other, in the order of the bindings. The literal mode replaces every
occurrence of a placeholder, also at the front of a longer one. The strict mode asks for a word
boundary behind a name that ends in a letter, a digit or an underscore.
-/

namespace SqlClient

/-- How a bound value is written: as text in quotes or as a bare number. -/
inductive BindKind
  | text
  | number
deriving DecidableEq

/-- A value bound to a placeholder. -/
structure Binding where
  kind : BindKind
  value : SqlValue

namespace BindKind

/-- The kind with the given name; every name but that of numbers means text. -/
def ofName (name : String) : BindKind :=
  if name = "number" then number else text

def name : BindKind → String
  | text => "string"
  | number => "number"

end BindKind

namespace Binding

/-- The binding that a JSON value describes: an object holds the kind and the value under keys of
their own, every other value is text. -/
def ofJson : Json → Binding
  | .object members =>
    let kind :=
      match lookup? "type" members with
      | some (.string name) => BindKind.ofName name
      | _ => .text
    let value :=
      match lookup? "value" members with
      | some v => SqlValue.ofJson v
      | none => .null
    ⟨kind, value⟩
  | v => ⟨.text, SqlValue.ofJson v⟩

/-- The plain texts of the items of a list, or of a value that is no list. -/
def items : SqlValue → List String
  | .list values => SqlValue.plainTexts values
  | v => [v.plainText]

/-- The text that takes the place of a placeholder. -/
def render (b : Binding) : String :=
  match b.kind with
  | .text => "'" ++ "','".intercalate (items b.value) ++ "'"
  | .number => ",".intercalate (items b.value)

end Binding

/-- Bindings by name. -/
abbrev Bindings := OrderedMap Binding

def Bindings.ofMembers (members : List (String × Json)) : Bindings :=
  OrderedMap.ofList (members.map fun (name, v) => (name, Binding.ofJson v))

namespace Template

/-- Replaces the occurrences of a pattern that `accepts` what follows them, from left to right and
without overlap. The first `skip` characters belong to an occurrence already replaced. -/
def replace (pattern value : List Char) (accepts : List Char → Bool) : Nat → List Char → List Char
  | _, [] => []
  | skip + 1, _ :: cs => replace pattern value accepts skip cs
  | 0, c :: cs =>
    if pattern.isPrefixOf (c :: cs) && accepts ((c :: cs).drop pattern.length) then
      value ++ replace pattern value accepts (pattern.length - 1) cs
    else c :: replace pattern value accepts 0 cs

/-- Whether a word begins or ends between two places. -/
def isBoundary (before : Option Char) (after : List Char) : Bool :=
  before.any isWord != after.head?.any isWord

/-- Whether a name ends in a letter, a digit or an underscore. -/
def endsInWord (name : List Char) : Bool :=
  name.getLast?.any fun c => isAlphanumeric c || c == '_'

/-- What the strict mode asks of the text that follows a placeholder. -/
def strictEnd (name : List Char) (after : List Char) : Bool :=
  if endsInWord name then isBoundary name.getLast? after else true

/-- Puts one value in. -/
def substitute (accepts : List Char → List Char → Bool) (template : List Char) (name : String)
    (b : Binding) : List Char :=
  replace ('$' :: name.toList) b.render.toList (accepts name.toList) 0 template

/-- Puts the values in, one after the other. -/
def fillWith (accepts : List Char → List Char → Bool) (template : String) (bindings : Bindings) :
    String :=
  String.ofList (bindings.entries.foldl (fun t e => substitute accepts t e.1 e.2) template.toList)

/-- The template in literal mode. -/
def fill (template : String) (bindings : Bindings) : String :=
  fillWith (fun _ _ => true) template bindings

/-- The template in strict mode. -/
def fillStrict (template : String) (bindings : Bindings) : String :=
  fillWith strictEnd template bindings

end Template

end SqlClient
