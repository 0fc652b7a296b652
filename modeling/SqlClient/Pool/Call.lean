import SqlClient.Executor
import SqlClient.Log
import SqlClient.Pool.Task

namespace SqlClient

/-- A server of sessions, with the state that it keeps. -/
structure Server (δ σ : Type) where
  /-- Whether the pool is shut down while the server opens the next session. -/
  interrupts : δ → Bool
  /-- Opens a session; told whether the shutdown in between, if there was one, was clean. -/
  connect : ConnectionSettings → Option Bool → δ → Except String σ × δ
  metadata : σ → String → δ → Except String ResultMetadata × δ
  query : σ → String → Option QueryOptions → δ → Except String (List Row) × δ
  /-- Closes a session, with a message if that fails. -/
  close : σ → δ → Option String × δ

/-- A pool at its server, the time in microseconds, and the log. -/
structure Client (δ σ : Type) where
  settings : PoolSettings
  connection : ConnectionSettings
  pool : Pool σ
  server : δ
  now : Nat
  log : List LogLine

variable {δ σ : Type}

namespace Client

def logLine (c : Client δ σ) (level : LogLevel) (text : String) : Client δ σ :=
  { c with log := c.log ++ [⟨level, text⟩] }

end Client

namespace Server

/-- Opens a session, unless the settings rule it out. -/
def openSession (v : Server δ σ) (s : ConnectionSettings) (drained : Option Bool) (state : δ) :
    Except ClientError σ × δ × List LogLine :=
  match s.check with
  | .error e => (.error e, state, [])
  | .ok () =>
    match v.connect s drained state with
    | (.ok session, state) => (.ok session, state, [])
    | (.error reason, state) =>
      (.error (.connectFailed reason), state,
        [⟨.warn, "Impala connection create error: " ++ reason⟩])

/-- Closes a session for a task. -/
def closeSession (v : Server δ σ) (t : Task σ) (session : σ) (c : Client δ σ) :
    Signal σ × Client δ σ :=
  let (failure, state) := v.close session c.server
  let c := { c with server := state }
  match failure with
  | some reason =>
    if t.logsClosing then
      (.closed (some reason), c.logLine .warn ("Impala connection close error: " ++ reason))
    else (.closed (some reason), c)
  | none => (.closed none, c)

/-- Takes one step of a task, given how sessions are opened for it. -/
def stepWith (v : Server δ σ) (opens : Client δ σ → Signal σ × Client δ σ) (t : Task σ)
    (c : Client δ σ) : Option (Task σ × Client δ σ) :=
  let take (signal : Signal σ) (c : Client δ σ) : Option (Task σ × Client δ σ) :=
    (t.step c.settings c.now c.pool signal).map fun (t, p) => (t, { c with pool := p })
  match t.demand with
  | .finished => none
  | .proceed => take .proceed c
  | .openSession =>
    let (signal, c) := opens c
    take signal c
  | .closeSession session =>
    let (signal, c) := v.closeSession t session c
    take signal c

/-- Takes steps of a task until it is finished or has to wait, at most `fuel` of them. -/
def runWith (v : Server δ σ) (opens : Client δ σ → Signal σ × Client δ σ) :
    Nat → Task σ → Client δ σ → Task σ × Client δ σ
  | 0, t, c => (t, c)
  | fuel + 1, t, c =>
    match v.stepWith opens t c with
    | some (t, c) => runWith v opens fuel t c
    | none => (t, c)

/-- More steps than any call takes: each session that is opened or closed accounts for a few. -/
def enoughSteps (c : Client δ σ) : Nat :=
  8 * (c.settings.min + c.pool.idle.length + 2)

/-- For tasks that open no sessions. -/
def opensNothing (c : Client δ σ) : Signal σ × Client δ σ :=
  (.proceed, c)

/-- Shuts the pool down. The wait for sessions in hand, which nobody gives back meanwhile, lasts
until its time is up. -/
def runDrain (v : Server δ σ) (c : Client δ σ) : Task σ × Client δ σ :=
  let fuel := enoughSteps c
  match v.runWith opensNothing fuel (.drain .start) c with
  | (.drain (.polling since), c) =>
    v.runWith opensNothing fuel (.drain (.polling since))
      { c with now := max c.now (since + c.settings.drainTimeout) }
  | result => result

/-- Shuts the pool down and reports what became of it. -/
def drain (v : Server δ σ) (c : Client δ σ) : DrainReport × Client δ σ :=
  match v.runDrain c with
  | (.drain (.done report), c) =>
    let complain (c : Client δ σ) (part : String) (e : Option ClientError) : Client δ σ :=
      match e with
      | some e => c.logLine .info ("Impala pool " ++ part ++ " error: " ++ e.message)
      | none => c
    (report, complain (complain c "drain" report.drain) "clear" report.clear)
  | (_, c) => (⟨none, none⟩, c)

/-- Opens a session, with a shutdown before if the server asks for one. -/
def opens (v : Server δ σ) (c : Client δ σ) : Signal σ × Client δ σ :=
  let (drained, c) :=
    if v.interrupts c.server then
      let (report, c) := v.drain c
      (some report.isClean, c)
    else (none, c)
  let (result, state, lines) := v.openSession c.connection drained c.server
  let c := { c with server := state, log := c.log ++ lines }
  match result with
  | .ok session => (.opened session, c)
  | .error e => (.refused e, c)

/-- Takes steps of a task until it is finished or has to wait. -/
def run (v : Server δ σ) (t : Task σ) (c : Client δ σ) : Task σ × Client δ σ :=
  v.runWith v.opens (enoughSteps c) t c

/-- What became of a request for a session that is finished. A failure is logged. -/
def acquired (t : Task σ) (c : Client δ σ) : Except ClientError σ × Client δ σ :=
  match t with
  | .acquire (.holding session) => (.ok session, c)
  | .acquire (.failed e) =>
    (.error e, c.logLine .warn ("Impala pool acquire error: " ++ e.message))
  | _ => (.error .poolClosed, c)

/-- Ends a request whose wait for a permit has lasted too long. -/
def expire (v : Server δ σ) (c : Client δ σ) : Except ClientError σ × Client δ σ :=
  let (t, c) := v.run (.acquire .expired) c
  acquired t c

/-- Asks for a session. If there is no permit, the whole timeout passes. -/
def acquire (v : Server δ σ) (c : Client δ σ) : Except ClientError σ × Client δ σ :=
  match v.run (.acquire .start) c with
  | (.acquire .waiting, c) => v.expire { c with now := c.now + c.settings.acquireTimeout }
  | (t, c) => acquired t c

/-- Gives a session back. -/
def giveBack (v : Server δ σ) (session : σ) (c : Client δ σ) : Client δ σ :=
  (v.run (.giveBack (.start session)) c).2

/-- Closes the parked sessions that have to go, and says how many. -/
def sweep (v : Server δ σ) (c : Client δ σ) : Nat × Client δ σ :=
  match v.run (.sweep .start) c with
  | (.sweep (.done 0), c) => (0, c)
  | (.sweep (.done count), c) =>
    (count, c.logLine .info ("Impala pool evicted " ++ natText count ++ " idle connection(s)"))
  | (_, c) => (0, c)

/-- Opens sessions up to the minimum. -/
def refill (v : Server δ σ) (c : Client δ σ) : Client δ σ :=
  (v.run (.refill .start) c).2

/-- A new pool with the minimum of sessions opened, if the settings allow. The server cannot have
it shut down before it exists. -/
def start (v : Server δ σ) (settings : PoolSettings) (connection : ConnectionSettings)
    (state : δ) :
    Except ClientError (Client δ σ) :=
  match settings.check with
  | .error e => .error e
  | .ok () =>
    match connection.check with
    | .error e => .error e
    | .ok () =>
      let quiet : Server δ σ := { v with interrupts := fun _ => false }
      .ok (quiet.refill ⟨settings, connection, Pool.fresh settings, state, 0, []⟩)

/-- Runs a statement on a session: its columns are asked for first, then its rows, which are
coerced by the columns. -/
def runOn (v : Server δ σ) (session : σ) (sql : String) (options : Option QueryOptions)
    (state : δ) :
    Except ClientError (List Row) × δ :=
  match v.metadata session sql state with
  | (.error reason, state) => (.error (.metadataFailed reason), state)
  | (.ok metadata, state) =>
    match v.query session sql options state with
    | (.error reason, state) => (.error (.queryFailed reason), state)
    | (.ok rows, state) => (.ok (Coercion.rows metadata.columnTypes rows), state)

/-- Runs a statement on a session of the pool. The session is given back also after a failure. -/
def execute (v : Server δ σ) (sql : String) (options : Option QueryOptions) (c : Client δ σ) :
    Except ClientError (List Row) × Client δ σ :=
  match v.acquire c with
  | (.error e, c) => (.error e, c)
  | (.ok session, c) =>
    let c := c.logLine .info ("Executing: " ++ sql)
    let (result, state) := v.runOn session sql options c.server
    let c := { c with server := state }
    let c :=
      match result with
      | .error e => c.logLine .warn ("Impala query exception: " ++ e.message)
      | .ok _ => c
    (result, v.giveBack session c)

/-- The executor that takes its sessions from the pool. -/
def executor (v : Server δ σ) : Executor (Client δ σ) where
  query := v.execute

end Server

end SqlClient
