import SqlClient.Pool.Call

namespace SqlClient

namespace Scenario

/-- What happens when a session is opened. -/
structure Opening where
  /-- The pool is shut down first. -/
  drains : Bool := false
  refusal : Option String := none
  /-- The message with which the session fails to close later. -/
  closeFailure : Option String := none

/-- What is answered to statements that contain a mark. -/
structure Answer where
  mark : String
  metadataFailure : Option String
  fields : List ResultField
  failure : Option String
  rows : List Row

/-- What a server was asked. -/
inductive Event
  | drained (clean : Bool)
  | refused (reason : String)
  | connect (session : Nat) (host : String) (port : Nat)
  | metadata (session : Nat) (sql : String)
  | query (session : Nat) (sql : String) (options : Option QueryOptions)
  | close (session : Nat)

/-- The script that is left, and the record of what was asked. Sessions are numbered from one. -/
structure Script where
  openings : List Opening
  answers : List Answer
  sessions : Nat := 0
  closeFailures : List (Nat × String) := []
  events : List Event := []
  /-- The pool that is shut down by openings exists only after it was built. -/
  hasPool : Bool := false

/-- Whether a text occurs in another. -/
def occurs (mark : List Char) : List Char → Bool
  | [] => mark.isEmpty
  | c :: cs => mark.isPrefixOf (c :: cs) || occurs mark cs

namespace Script

def record (s : Script) (e : Event) : Script :=
  { s with events := s.events ++ [e] }

def answer? (s : Script) (sql : String) : Option Answer :=
  s.answers.find? fun a => occurs a.mark.toList sql.toList

/-- The next opening; a script that has run out opens sessions without incident. -/
def opening (s : Script) : Opening :=
  s.openings.head?.getD {}

def interrupts (s : Script) : Bool :=
  s.hasPool && s.opening.drains

def connect (settings : ConnectionSettings) (drained : Option Bool) (s : Script) :
    Except String Nat × Script :=
  let opening := s.opening
  let s := { s with openings := s.openings.drop 1 }
  let s :=
    match drained with
    | some clean => s.record (.drained clean)
    | none => s
  match opening.refusal with
  | some reason => (.error reason, s.record (.refused reason))
  | none =>
    let session := s.sessions + 1
    let failures :=
      match opening.closeFailure with
      | some reason => (session, reason) :: s.closeFailures
      | none => s.closeFailures
    (.ok session,
      { s with sessions := session, closeFailures := failures }.record
        (.connect session settings.host settings.port))

def metadata (session : Nat) (sql : String) (s : Script) :
    Except String ResultMetadata × Script :=
  let s := s.record (.metadata session sql)
  match s.answer? sql with
  | some a =>
    match a.metadataFailure with
    | some reason => (.error reason, s)
    | none => (.ok ⟨a.fields⟩, s)
  | none => (.ok ⟨[]⟩, s)

def query (session : Nat) (sql : String) (options : Option QueryOptions) (s : Script) :
    Except String (List Row) × Script :=
  let s := s.record (.query session sql options)
  match s.answer? sql with
  | some a =>
    match a.failure with
    | some reason => (.error reason, s)
    | none => (.ok a.rows, s)
  | none => (.error ("AnalysisException: unexpected statement: " ++ sql), s)

def close (session : Nat) (s : Script) : Option String × Script :=
  (s.closeFailures.lookup session, s.record (.close session))

/-- The server that follows a script. -/
def server : Server Script Nat where
  interrupts := interrupts
  connect := connect
  metadata := metadata
  query := query
  close := close

end Script

end Scenario

end SqlClient
