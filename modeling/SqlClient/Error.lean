import SqlClient.Number.Digits

namespace SqlClient

/-- The decimal text of a natural number. -/
def natText (n : Nat) : String :=
  String.ofList (digitsOf n)

/-- A failure of the client. Where the cause lies outside, its own message is kept. -/
inductive ClientError
  /-- A session could not be opened. -/
  | connectFailed (reason : String)
  /-- No session became free within the given number of microseconds. -/
  | acquireTimeout (waited : Nat)
  /-- The pool issues no more sessions. -/
  | poolClosed
  | metadataFailed (reason : String)
  | queryFailed (reason : String)
  | releaseFailed (reason : String)
  /-- Part of a shutdown did not succeed. -/
  | drainFailed (reason : String)
  | invalidDescriptor (reason : String)
  | configuration (reason : String)
deriving DecidableEq

/-- The message of a failure. Waiting times are given in whole milliseconds. -/
def ClientError.message : ClientError → String
  | connectFailed reason => "Connect failed: " ++ reason
  | acquireTimeout waited =>
    "Acquire timeout: no connection available after " ++ natText (waited / 1000) ++ "ms"
  | poolClosed => "Pool closed: no new connections are issued"
  | metadataFailed reason => "Metadata fetch failed: " ++ reason
  | queryFailed reason => "Query failed: " ++ reason
  | releaseFailed reason => "Release failed: " ++ reason
  | drainFailed reason => "Drain failed: " ++ reason
  | invalidDescriptor reason => "Invalid query descriptor: " ++ reason
  | configuration reason => "Configuration error: " ++ reason

end SqlClient
