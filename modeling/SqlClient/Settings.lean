import SqlClient.Error
import SqlClient.Text.Blank

namespace SqlClient

/-- How sessions are opened. -/
structure ConnectionSettings where
  host : String := "localhost"
  port : Nat := 21000
  resultType : String := "json-array"
  timeoutMs : Nat := 5000
deriving DecidableEq

/-- How large the pool is and how long things may take. A soft idle timeout of zero means that
there is none, and so does an eviction interval of zero. -/
structure PoolSettings where
  max : Nat := 20
  min : Nat := 0
  evictionRunIntervalMs : Nat := 10000
  softIdleTimeoutMs : Nat := 9000
  idleTimeoutMs : Nat := 9000
  acquireTimeoutMs : Nat := 10000
  evictionsPerRun : Nat := 3
  drainTimeoutMs : Nat := 30000
deriving DecidableEq

/-- All settings of the client. -/
structure Settings where
  connection : ConnectionSettings := {}
  pool : PoolSettings := {}
deriving DecidableEq

namespace ConnectionSettings

/-- Sessions can be opened if the host is not blank and the port is not zero. -/
def check (s : ConnectionSettings) : Except ClientError Unit :=
  if s.host.toList.all isBlankChar then .error (.connectFailed "host cannot be empty")
  else if s.port = 0 then .error (.connectFailed "port cannot be 0")
  else .ok ()

end ConnectionSettings

namespace PoolSettings

/-- A pool needs room for one session, and its minimum must fit into its maximum. -/
def check (s : PoolSettings) : Except ClientError Unit :=
  if s.max = 0 then .error (.configuration "pool.max must be at least 1")
  else if s.max < s.min then
    .error (.configuration
      ("pool.min (" ++ natText s.min ++ ") cannot exceed pool.max (" ++ natText s.max ++ ")"))
  else .ok ()

/-- The sizes for which a pool can be built. -/
def Usable (s : PoolSettings) : Prop :=
  1 ≤ s.max ∧ s.min ≤ s.max

theorem check_eq_ok_iff (s : PoolSettings) : s.check = .ok () ↔ s.Usable := by
  unfold check Usable
  by_cases hmax : s.max = 0
  · simp [hmax]
  · by_cases hmin : s.max < s.min
    · simp [hmax, hmin]
    · simp only [hmax, hmin, if_false, true_iff]
      omega

end PoolSettings

end SqlClient
