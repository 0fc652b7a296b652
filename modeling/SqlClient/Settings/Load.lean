import SqlClient.Number.Layout
import SqlClient.Settings
import SqlClient.Settings.Environment
import SqlClient.Settings.Toml
import SqlClient.Json.Parser
import SqlClient.Text.Quoted

/-!
Loading settings. The file is the lower layer and the environment the upper one; a setting that
neither gives has its default. A file that cannot be read as a whole is left aside. Values are
converted where their meaning is plain: truth values and floating-point numbers count as integers,
numbers as texts.
-/

namespace SqlClient

/-- What a configuration holds where something else was expected. -/
inductive ConfigFinding
  | text (value : String)
  | negative (value : Int)
  | counter (value : Nat)
  | integer (value : Int)
  | boolean (value : Bool)
  | float (value : Double)
  | unit
  | sequence
  | map

/-- A value that cannot be converted, with its key and its origin where they are known. -/
structure ConfigError where
  found : ConfigFinding
  expected : String
  key : Option String
  origin : Option Origin

/-- Floating-point numbers as texts are positional throughout; whole numbers have no point. -/
def configFloatLayout : FloatLayout where
  tie := .up
  least := none
  most := none
  wholeMark := []
  zero := ['0']
  negativeZero := ['-', '0']
  infinity := "inf".toList
  nan := "NaN".toList

/-- In messages a whole floating-point number keeps a fraction. -/
def messageFloatLayout : FloatLayout :=
  { configFloatLayout with
    wholeMark := ['.', '0'], zero := ['0', '.', '0'], negativeZero := ['-', '0', '.', '0'] }

def ConfigFinding.message : ConfigFinding → String
  | text s => "string " ++ quoted s
  | negative n => "64-bit integer `" ++ String.ofList (integerText n) ++ "`"
  | counter n => "64-bit unsigned integer `" ++ natText n ++ "`"
  | integer n => "integer `" ++ String.ofList (integerText n) ++ "`"
  | boolean b => "boolean `" ++ (if b then "true" else "false") ++ "`"
  | float x => "floating point `" ++ String.ofList (messageFloatLayout.render x) ++ "`"
  | unit => "unit value"
  | sequence => "sequence"
  | map => "map"

def Origin.name : Origin → String
  | file => "config/config.toml"
  | environment => "the environment"

def ConfigError.message (e : ConfigError) : String :=
  let key :=
    match e.key with
    | some key => " for key `" ++ key ++ "`"
    | none => ""
  let origin :=
    match e.origin with
    | some origin => " in " ++ origin.name
    | none => ""
  "invalid type: " ++ e.found.message ++ ", expected " ++ e.expected ++ key ++ origin

namespace ConfigValue

/-- Reads a value as a counter of 64 bits. Floating-point numbers are rounded. -/
def readCounter (key : String) : ConfigValue → Except ConfigError Nat
  | .scalar origin (.int n) =>
    if 0 ≤ n then .ok n.toNat
    else .error ⟨.negative n, "an unsigned 64 bit or less integer", some key, origin⟩
  | .scalar _ (.bool b) => .ok (if b then 1 else 0)
  | .scalar _ (.float x) => .ok x.roundCounter
  | .scalar origin (.text s) =>
    let word := lowerName s
    if word = "true" ∨ word = "on" ∨ word = "yes" then .ok 1
    else if word = "false" ∨ word = "off" ∨ word = "no" then .ok 0
    else
      match readCounter? s.toList with
      | some n => .ok n
      | none => .error ⟨.text s, "an integer", some key, origin⟩
  | .scalar origin .nil => .error ⟨.unit, "an integer", some key, origin⟩
  | .array origin _ => .error ⟨.sequence, "an integer", some key, origin⟩
  | .table origin _ => .error ⟨.map, "an integer", some key, origin⟩

/-- Reads a value as a port. -/
def readPort (key : String) (v : ConfigValue) : Except ConfigError Nat :=
  match v.readCounter key with
  | .error e => .error e
  | .ok n =>
    if n < Nat.pow 2 16 then .ok n
    else .error ⟨.counter n, "an unsigned 16 bit integer", some key, none⟩

/-- Reads a value as a text. -/
def readText (key : String) : ConfigValue → Except ConfigError String
  | .scalar _ (.text s) => .ok s
  | .scalar _ (.int n) => .ok (String.ofList (integerText n))
  | .scalar _ (.bool b) => .ok (if b then "true" else "false")
  | .scalar _ (.float x) => .ok (String.ofList (configFloatLayout.render x))
  | .scalar origin .nil => .error ⟨.unit, "a string", some key, origin⟩
  | .array origin _ => .error ⟨.sequence, "a string", some key, origin⟩
  | .table origin _ => .error ⟨.map, "a string", some key, origin⟩

theorem readText_text (key s : String) (origin : Option Origin) :
    (scalar origin (.text s)).readText key = .ok s :=
  rfl

theorem exists_readText_iff {key : String} {v : ConfigValue} :
    (∃ s, v.readText key = .ok s) ↔ ∃ origin x, v = .scalar origin x ∧ x ≠ .nil := by
  cases v with
  | scalar origin x =>
      cases x with
      | nil => simp [readText]
      | _ => exact ⟨fun _ => ⟨_, _, rfl, nofun⟩, fun _ => ⟨_, rfl⟩⟩
  | _ => simp [readText]

theorem key_of_readText {key : String} {v : ConfigValue} {e : ConfigError}
    (h : v.readText key = .error e) : e.key = some key ∧ e.expected = "a string" := by
  unfold readText at h
  split at h <;> cases h <;> exact ⟨rfl, rfl⟩

theorem key_of_readCounter {key : String} {v : ConfigValue} {e : ConfigError}
    (h : v.readCounter key = .error e) : e.key = some key := by
  cases v with
  | array origin items => cases h; rfl
  | table origin entries => cases h; rfl
  | scalar origin x =>
      cases x with
      | nil => cases h; rfl
      | bool value => cases h
      | float value => cases h
      | int n =>
          rw [readCounter] at h
          split at h
          · cases h
          · cases h
            rfl
      | text s =>
          simp only [readCounter] at h
          split at h
          · cases h
          · split at h
            · cases h
            · split at h
              · cases h
              · cases h
                rfl

theorem key_of_readPort {key : String} {v : ConfigValue} {e : ConfigError}
    (h : v.readPort key = .error e) : e.key = some key := by
  unfold readPort at h
  split at h
  · rename_i hcounter
    cases h
    exact key_of_readCounter hcounter
  · split at h
    · cases h
    · cases h
      rfl

/-- A section's settings: by name in a table, by position in an array. -/
def section? (record : String) : ConfigValue →
    Except ConfigError (String → Nat → Option (String × ConfigValue))
  | .table _ entries => .ok fun name _ => (lookup? name entries).map fun v => ("." ++ name, v)
  | .array _ items => .ok fun _ i => items[i]?.map fun v => ("[" ++ natText i ++ "]", v)
  | .scalar _ .nil => .error ⟨.unit, "struct " ++ record, none, none⟩
  | .scalar _ (.bool b) => .error ⟨.boolean b, "struct " ++ record, none, none⟩
  | .scalar _ (.int n) => .error ⟨.integer n, "struct " ++ record, none, none⟩
  | .scalar _ (.float x) => .error ⟨.float x, "struct " ++ record, none, none⟩
  | .scalar _ (.text s) => .error ⟨.text s, "struct " ++ record, none, none⟩

end ConfigValue

/-- Reads one setting of a section, or takes its default. -/
def readSetting {α : Type} (sectionName : String)
    (find : String → Nat → Option (String × ConfigValue)) (name : String) (position : Nat)
    (read : String → ConfigValue → Except ConfigError α) (default : α) : Except ConfigError α :=
  match find name position with
  | some (suffix, v) => read (sectionName ++ suffix) v
  | none => .ok default

def ConnectionSettings.ofConfig (v : ConfigValue) : Except ConfigError ConnectionSettings := do
  let find ← v.section? "ConnectionConfig"
  let d : ConnectionSettings := {}
  let host ← readSetting "connection" find "host" 0 ConfigValue.readText d.host
  let port ← readSetting "connection" find "port" 1 ConfigValue.readPort d.port
  let resultType ← readSetting "connection" find "result_type" 2 ConfigValue.readText d.resultType
  let timeoutMs ← readSetting "connection" find "timeout_ms" 3 ConfigValue.readCounter d.timeoutMs
  return { host, port, resultType, timeoutMs }

def PoolSettings.ofConfig (v : ConfigValue) : Except ConfigError PoolSettings := do
  let find ← v.section? "PoolConfig"
  let d : PoolSettings := {}
  let count (name : String) (position : Nat) (default : Nat) : Except ConfigError Nat :=
    readSetting "pool" find name position ConfigValue.readCounter default
  let max ← count "max" 0 d.max
  let min ← count "min" 1 d.min
  let evictionRunIntervalMs ← count "eviction_run_interval_ms" 2 d.evictionRunIntervalMs
  let softIdleTimeoutMs ← count "soft_idle_timeout_ms" 3 d.softIdleTimeoutMs
  let idleTimeoutMs ← count "idle_timeout_ms" 4 d.idleTimeoutMs
  let acquireTimeoutMs ← count "acquire_timeout_ms" 5 d.acquireTimeoutMs
  let evictionsPerRun ← count "evictions_per_run" 6 d.evictionsPerRun
  let drainTimeoutMs ← count "drain_timeout_ms" 7 d.drainTimeoutMs
  return { max, min, evictionRunIntervalMs, softIdleTimeoutMs, idleTimeoutMs, acquireTimeoutMs,
           evictionsPerRun, drainTimeoutMs }

namespace Settings

/-- Reads the settings out of a configuration, without regard to whether they are usable. -/
def read (root : ConfigValue) : Except ConfigError Settings := do
  let connection ←
    match root.entry? "connection" with
    | some v => ConnectionSettings.ofConfig v
    | none => .ok {}
  let pool ←
    match root.entry? "pool" with
    | some v => PoolSettings.ofConfig v
    | none => .ok {}
  return { connection, pool }

/-- The settings of a configuration, of which the pool has to be usable. -/
def ofConfig (root : ConfigValue) : Except ClientError Settings :=
  match read root with
  | .error e => .error (.configuration e.message)
  | .ok settings =>
    match settings.pool.check with
    | .error e => .error (.configuration e.message)
    | .ok () => .ok settings

/-- The configuration of sources that lie one above the other, the lowest first. -/
def layers (sources : List (List (String × ConfigValue))) : ConfigValue :=
  sources.foldl ConfigValue.addLayer ConfigValue.emptyTable

/-- The named values of a text in the format of the configuration file. -/
def tomlSource? (origin : Option Origin) (text : String) : Option (List (String × ConfigValue)) :=
  (Toml.parse? text).bind (Toml.source? origin)

/-- The named values of a JSON text, which has to be an object. -/
def jsonSource? (text : String) : Option (List (String × ConfigValue)) :=
  match Json.parse? text with
  | some (.object members) => some (ConfigValue.ofJsonMembers none members)
  | _ => none

/-- The text of a file without a byte order mark in front. The mark belongs to the file; the
format of its text skips a mark of its own. -/
def fileText (text : String) : String :=
  match text.toList with
  | c :: rest => if c.toNat = 0xFEFF then String.ofList rest else text
  | [] => text

/-- The settings that a file, if there is one, and an environment give, and whether the file had
to be left aside. -/
def load (file : Option String) (env : List (String × String)) :
    Except ClientError Settings × Bool :=
  let environment := Environment.source env
  match file with
  | none => (ofConfig (layers [environment]), false)
  | some text =>
    match tomlSource? (some .file) (fileText text) with
    | some source => (ofConfig (layers [source, environment]), false)
    | none => (ofConfig (layers [environment]), true)

end Settings

end SqlClient
