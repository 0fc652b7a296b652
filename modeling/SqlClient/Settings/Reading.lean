import SqlClient.Json.Reader
import SqlClient.Settings

namespace SqlClient

/-- The form of a record of which every field may be left out. -/
def optionalShape (name : String) (fields : List String) : RecordShape where
  name := name
  fields := fields.map fun field => ⟨field, true, true⟩
  closed := false

namespace ConnectionSettings

def fieldNames : List String := ["host", "port", "result_type", "timeout_ms"]

def step (s : ConnectionSettings) (name : String) (v : Json) :
    Except ReadError ConnectionSettings :=
  match name with
  | "host" => (Json.readText v).map fun x => { s with host := x }
  | "port" => (Json.readBounded (Nat.pow 2 16) "u16" v).map fun x => { s with port := x }
  | "result_type" => (Json.readText v).map fun x => { s with resultType := x }
  | "timeout_ms" =>
    (Json.readBounded (Nat.pow 2 64) "u64" v).map fun x => { s with timeoutMs := x }
  | _ => .ok s

def ofJson (v : Json) : Except ReadError ConnectionSettings :=
  (optionalShape "ConnectionConfig" fieldNames).read step {} v

end ConnectionSettings

namespace PoolSettings

def fieldNames : List String :=
  ["max", "min", "eviction_run_interval_ms", "soft_idle_timeout_ms", "idle_timeout_ms",
    "acquire_timeout_ms", "evictions_per_run", "drain_timeout_ms"]

def readSize (v : Json) : Except ReadError Nat :=
  Json.readBounded (Nat.pow 2 64) "usize" v

def readMillis (v : Json) : Except ReadError Nat :=
  Json.readBounded (Nat.pow 2 64) "u64" v

def step (s : PoolSettings) (name : String) (v : Json) : Except ReadError PoolSettings :=
  match name with
  | "max" => (readSize v).map fun x => { s with max := x }
  | "min" => (readSize v).map fun x => { s with min := x }
  | "eviction_run_interval_ms" =>
    (readMillis v).map fun x => { s with evictionRunIntervalMs := x }
  | "soft_idle_timeout_ms" => (readMillis v).map fun x => { s with softIdleTimeoutMs := x }
  | "idle_timeout_ms" => (readMillis v).map fun x => { s with idleTimeoutMs := x }
  | "acquire_timeout_ms" => (readMillis v).map fun x => { s with acquireTimeoutMs := x }
  | "evictions_per_run" => (readSize v).map fun x => { s with evictionsPerRun := x }
  | "drain_timeout_ms" => (readMillis v).map fun x => { s with drainTimeoutMs := x }
  | _ => .ok s

def ofJson (v : Json) : Except ReadError PoolSettings :=
  (optionalShape "PoolConfig" fieldNames).read step {} v

end PoolSettings

end SqlClient
