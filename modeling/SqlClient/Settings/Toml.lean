import SqlClient.Settings.Toml.Number
import SqlClient.Settings.Toml.Table
import SqlClient.Settings.Toml.Text

/-!
The format of the configuration file: TOML 1.0. A document is read line by line; headers and
dotted keys say where a value goes, and a table or key that is defined twice is refused, as is one
that lies too deep.
-/

namespace SqlClient

namespace Toml

/-! Keys. -/

def isBareKeyChar (c : Char) : Bool :=
  isDigit c || decide (97 ≤ c.toNat ∧ c.toNat ≤ 122) || decide (65 ≤ c.toNat ∧ c.toNat ≤ 90) ||
    c == '_' || c == '-'

def readSimpleKey : List Char → Option (String × List Char)
  | '"' :: cs => (readBasic (cs.length + 1) cs).map fun (key, rest) => (String.ofList key, rest)
  | '\'' :: cs => (readLiteral cs).map fun (key, rest) => (String.ofList key, rest)
  | cs =>
    let key := cs.takeWhile isBareKeyChar
    if key.isEmpty then none else some (String.ofList key, cs.dropWhile isBareKeyChar)

/-- A key and the keys that follow it after points. Each takes at least one character, so the fuel
is the length of the text. -/
def readKey : Nat → List Char → Option (List String × List Char)
  | 0, _ => none
  | fuel + 1, cs =>
    match readSimpleKey (skipSpaces cs) with
    | none => none
    | some (key, rest) =>
      match skipSpaces rest with
      | '.' :: rest => (readKey fuel rest).map fun (keys, rest) => (key :: keys, rest)
      | rest => some ([key], rest)

/-- How deep a document may go: the keys of one path, and the brackets around one value. -/
def levelLimit : Nat := 79

/-- The keys of a path. -/
def readPath (cs : List Char) : Option (List String × List Char) :=
  match readKey (cs.length + 1) cs with
  | some (keys, rest) => if keys.length ≤ levelLimit then some (keys, rest) else none
  | none => none

/-! Values without quotes or brackets. -/

def isTokenChar (c : Char) : Bool :=
  isBareKeyChar c || c == '+' || c == '.' || c == ':'

/-- The characters of a value without quotes or brackets. A date and a time may be separated by a
blank. -/
def readToken (cs : List Char) : List Char × List Char :=
  let token := cs.takeWhile isTokenChar
  let rest := cs.drop token.length
  match rest with
  | ' ' :: a :: b :: ':' :: _ =>
    if (date? token).any (·.2.isEmpty) && isDigit a && isDigit b then
      let time := (rest.drop 1).takeWhile isTokenChar
      (token ++ ' ' :: time, rest.drop (time.length + 1))
    else (token, rest)
  | _ => (token, rest)

def token? (cs : List Char) : Option Value :=
  if cs = "true".toList then some (.bool true)
  else if cs = "false".toList then some (.bool false)
  else
    match moment? .clock cs with
    | some text => some (.moment (String.ofList text))
    | none => number? cs

/-! Values. -/

/-- A dotted key with its last part apart. -/
def splitKey (keys : List String) : List String × String :=
  (keys.dropLast, keys.getLast?.getD "")

mutual

/-- A value at the front of a text, where `levels` more brackets may be opened. -/
def readValue : Nat → Nat → List Char → Option (Value × List Char)
  | 0, _, _ => none
  | fuel + 1, levels, cs =>
    match cs with
    | '"' :: '"' :: '"' :: rest =>
      (readLongText '"' true rest).map fun (text, rest) => (.text (String.ofList text), rest)
    | '\'' :: '\'' :: '\'' :: rest =>
      (readLongText '\'' false rest).map fun (text, rest) => (.text (String.ofList text), rest)
    | '"' :: rest =>
      (readBasic (rest.length + 1) rest).map fun (text, rest) =>
        (.text (String.ofList text), rest)
    | '\'' :: rest =>
      (readLiteral rest).map fun (text, rest) => (.text (String.ofList text), rest)
    | '[' :: rest =>
      match levels with
      | 0 => none
      | levels + 1 =>
        (readItems fuel levels [] rest).map fun (items, rest) => (.array items, rest)
    | '{' :: rest =>
      match levels with
      | 0 => none
      | levels + 1 =>
        match skipSpaces rest with
        | '}' :: rest => some (.table [], rest)
        | rest =>
          (readPairs fuel levels [] rest).map fun (entries, rest) =>
            (.table (entryValues entries), rest)
    | _ =>
      let (token, rest) := readToken cs
      (token? token).map fun v => (v, rest)

/-- The items of an array that follow those read so far, which are kept in reverse. Line ends may
stand between them, and a comma may follow the last one. -/
def readItems : Nat → Nat → List Value → List Char → Option (List Value × List Char)
  | 0, _, _, _ => none
  | fuel + 1, levels, read, cs =>
    match skipLines cs.length cs with
    | ']' :: rest => some (read.reverse, rest)
    | cs =>
      match readValue fuel levels cs with
      | none => none
      | some (v, rest) =>
        match skipLines rest.length rest with
        | ',' :: rest => readItems fuel levels (v :: read) rest
        | ']' :: rest => some ((v :: read).reverse, rest)
        | _ => none

/-- The pairs of a table on one line that follow those read so far. -/
def readPairs : Nat → Nat → Entries → List Char → Option (Entries × List Char)
  | 0, _, _, _ => none
  | fuel + 1, levels, read, cs =>
    match readPath cs with
    | some (keys, '=' :: rest) =>
      match readValue fuel levels (skipSpaces rest) with
      | none => none
      | some (v, rest) =>
        let (path, key) := splitKey keys
        match put path key v .defined read with
        | none => none
        | some read =>
          match skipSpaces rest with
          | ',' :: rest => readPairs fuel levels read rest
          | '}' :: rest => some (read, rest)
          | _ => none
    | _ => none

end

/-! Documents. -/

/-- A document read in part: its tables, and the path of the table to which keys belong now. -/
structure Document where
  entries : Entries
  path : List String

/-- Reads a header: its keys between brackets, and the rest of the line. -/
def readHeader (closing cs : List Char) : Option (List String × List Char) :=
  match readPath cs with
  | some (keys, rest) => (Json.expect closing rest).map fun rest => (keys, rest)
  | none => none

/-- Reads what stands on one line, or on several if a value extends over them. -/
def readEntry (d : Document) (cs : List Char) : Option (Document × List Char) :=
  match cs with
  | '[' :: '[' :: rest =>
    match readHeader [']', ']'] rest with
    | some (keys, rest) =>
      let (path, key) := splitKey keys
      (update false (fun _ entries => extend key entries) path .defined d.entries).map
        fun entries => (⟨entries, keys⟩, rest)
    | none => none
  | '[' :: rest =>
    match readHeader [']'] rest with
    | some (keys, rest) =>
      let (path, key) := splitKey keys
      (update false (fun _ entries => define key entries) path .defined d.entries).map
        fun entries => (⟨entries, keys⟩, rest)
    | none => none
  | _ =>
    match readPath cs with
    | some (keys, '=' :: rest) =>
      match readValue (2 * cs.length + 2) levelLimit (skipSpaces rest) with
      | some (v, rest) =>
        let (path, key) := splitKey keys
        (update false (put path key v) d.path .defined d.entries).map fun entries =>
          (⟨entries, d.path⟩, rest)
      | none => none
    | _ => none

/-- Reads the rest of a document. Each round takes at least one character off, so the fuel is the
length of the text. -/
def readDocument : Nat → Document → List Char → Option Entries
  | 0, _, _ => none
  | fuel + 1, d, cs =>
    match skipLines cs.length cs with
    | '#' :: rest => if (endLine? ('#' :: rest)).isSome then some d.entries else none
    | [] => some d.entries
    | cs =>
      match readEntry d cs with
      | none => none
      | some (d, rest) =>
        match endLine? rest with
        | some rest => readDocument fuel d rest
        | none => none

/-- Reads a document. A byte order mark in front of it is skipped. -/
def parse? (text : String) : Option (List (String × Value)) :=
  let cs :=
    match text.toList with
    | c :: rest => if c.toNat = 0xFEFF then rest else c :: rest
    | [] => []
  (readDocument (cs.length + 1) ⟨[], []⟩ cs).map entryValues

end Toml

end SqlClient
