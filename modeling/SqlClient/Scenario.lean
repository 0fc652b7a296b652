import SqlClient.Descriptor.Reading
import SqlClient.Model
import SqlClient.Scenario.Server

/-!
Scenarios: commands to a pool and its executor at a scripted server, one after the other. Requests
for sessions may wait beside the commands; they are served first come, first served, as soon as a
permit is free, and give up when their time is over. Time passes only where a command lets it
pass, but no two commands fall on the same moment. If the settings ask for it, the pool is swept
and refilled in the background at regular intervals until it is shut down.
-/

namespace SqlClient

namespace Scenario

/-- A request for a session that waits for a permit, with what was logged for it. -/
structure Waiter where
  name : String
  deadline : Nat
  log : List LogLine

/-- A request for a session that has come to its end. -/
structure Finished where
  name : String
  result : Except ClientError Nat
  log : List LogLine

inductive Command
  | acquire (name : String)
  | release (name : String)
  /-- Gives a session back and reports whether that worked. -/
  | releaseSession (name : String)
  | evict
  | ensureMinimum
  | sleep (ms : Nat)
  | config
  | drain
  | connects (openings : List Opening)
  | query (sql : String) (options : Option QueryOptions)
  | queryTemplate (template : String) (bindings : Bindings)
  | queryOn (name : String) (sql : String)
  | findAll (table : String) (descriptor : Json)
  | findAndCountAll (table : String) (descriptor : Json)
  | spawn (name : String)
  | join (name : String)

inductive Outcome
  | nothing
  | started
  | session (id : Nat)
  | failed (error : ClientError)
  | refused (reason : String)
  | busy
  | absent
  | ok
  | count (n : Nat)
  | settings (s : PoolSettings)
  | report (r : DrainReport)
  | rows (rs : List Row)
  | page (p : Page)
  | spawned
  | joined (result : Except ClientError Nat) (log : List LogLine)

/-- What is told about a command: its outcome and log, and, where it can be told, the status of
the pool with the events at the server. -/
structure Entry where
  outcome : Outcome
  log : List LogLine
  status : Option (PoolStatus × List Event)

/-- A scenario in progress. Requests that wait are in the order in which they came. -/
structure State where
  client : Client Script Nat
  held : List (String × Nat)
  waiting : List Waiter
  finished : List Finished
  nextSweep : Option Nat

namespace State

def server : Server Script Nat := Script.server

/-- Runs something with a log of its own. -/
def apart {α : Type} (log : List LogLine) (c : Client Script Nat)
    (run : Client Script Nat → α × Client Script Nat) : α × List LogLine × Client Script Nat :=
  let (a, after) := run { c with log := log }
  (a, after.log, { after with log := c.log })

/-- Serves requests that wait while there are permits. -/
def serve (s : State) : List Waiter → State
  | [] => { s with waiting := [] }
  | w :: rest =>
    if s.client.pool.permits = 0 then { s with waiting := w :: rest }
    else
      let (result, log, client) := apart w.log s.client fun c =>
        let (t, c) := server.run (.acquire .waiting) c
        Server.acquired t c
      serve { s with client, finished := s.finished ++ [⟨w.name, result, log⟩] } rest

/-- Lets the first request that waits give up. -/
def expireFirst (s : State) : State :=
  match s.waiting with
  | [] => s
  | w :: rest =>
    let (result, log, client) := apart w.log s.client server.expire
    { s with client, waiting := rest, finished := s.finished ++ [⟨w.name, result, log⟩] }

/-- Sweeps and refills the pool in the background. After a shutdown there is nothing left to
do. -/
def sweepInBackground (s : State) : State :=
  if s.client.pool.closed then { s with nextSweep := none }
  else
    let (_, _, client) := apart [] s.client fun c => ((), server.refill (server.sweep c).2)
    { s with client, nextSweep := some (s.client.now + s.client.settings.evictionRunInterval) }

/-- The moment of the next thing that happens by itself. -/
def nextMoment? (s : State) : Option Nat :=
  match s.nextSweep, s.waiting.head?.map Waiter.deadline with
  | some a, some b => some (min a b)
  | some a, none => some a
  | none, b => b

/-- Lets happen what is due up to a moment, at most `fuel` things. -/
def passUntil (moment : Nat) : Nat → State → State
  | 0, s => { s with client.now := max s.client.now moment }
  | fuel + 1, s =>
    match s.nextMoment? with
    | none => { s with client.now := max s.client.now moment }
    | some next =>
      if moment < next then { s with client.now := max s.client.now moment }
      else
        let now := s.client.now
        let s := { s with client.now := next }
        let s := if s.nextSweep = some next then s.sweepInBackground else s.expireFirst
        let s := { s with client.now := max now s.client.now }
        passUntil moment fuel (s.serve s.waiting)

/-- More than can be due up to a moment. -/
def enoughMoments (s : State) (moment : Nat) : Nat :=
  match s.nextSweep with
  | some next => (moment - next) / (max 1 s.client.settings.evictionRunInterval) +
      s.waiting.length + 2
  | none => s.waiting.length + 2

def pass (s : State) (moment : Nat) : State :=
  passUntil moment (s.enoughMoments moment) s

def session? (s : State) (name : String) : Option Nat :=
  lookup? name s.held

def drop (s : State) (name : String) : State :=
  { s with held := s.held.filter (·.1 ≠ name) }

/-- The outcome of a request for a session, which is kept under a name. -/
def keep (s : State) (name : String) (result : Except ClientError Nat) : Outcome × State :=
  match result with
  | .ok id => (.session id, { s with held := s.held ++ [(name, id)] })
  | .error e => (.failed e, s)

def rowsOutcome : Except ClientError (List Row) → Outcome
  | .ok rs => .rows rs
  | .error e => .failed e

def pageOutcome : Except ClientError Page → Outcome
  | .ok p => .page p
  | .error e => .failed e

/-- Gives a held session back. -/
def giveBack (s : State) (name : String) (outcome : Outcome) : Outcome × State :=
  match s.session? name with
  | none => (.absent, s)
  | some id => (outcome, { s.drop name with client := server.giveBack id s.client })

/-- Runs something that reads a descriptor. What was dropped from the descriptor is logged
first. -/
def withDescriptor (s : State) (v : Json)
    (run : Descriptor → Client Script Nat → Outcome × Client Script Nat) : Outcome × State :=
  match Descriptor.ofJson v with
  | .error e => (.failed e, s)
  | .ok d =>
    let c := { s.client with log := s.client.log ++ Descriptor.readingLines v }
    let (outcome, client) := run d c
    (outcome, { s with client })

/-- Starts a request for a session beside the commands. -/
def spawn (s : State) (name : String) : State :=
  let now := s.client.now
  let (t, log, client) := apart [] s.client (server.run (.acquire .start))
  match t with
  | .acquire .waiting =>
    { s with client, waiting := s.waiting ++ [⟨name, now + client.settings.acquireTimeout, log⟩] }
  | _ =>
    let (result, log, client) := apart log client (Server.acquired t)
    { s with client, finished := s.finished ++ [⟨name, result, log⟩] }

/-- Lets the time pass in which a request that waits comes to its end. -/
def await (s : State) (name : String) : State :=
  match s.waiting.find? (·.name = name) with
  | some w => s.pass w.deadline
  | none => s

def join (s : State) (name : String) : Outcome × State :=
  if (s.session? name).isSome then (.busy, s)
  else
    let s := s.await name
    match s.finished.find? (·.name = name) with
    | none => (.absent, s)
    | some f =>
      let s := { s with finished := s.finished.filter (·.name ≠ name) }
      (.joined f.result f.log, (s.keep name f.result).2)

/-- Carries a command out. -/
def run (s : State) : Command → Outcome × State
  | .acquire name =>
    if (s.session? name).isSome then (.busy, s)
    else
      let (result, client) := server.acquire s.client
      { s with client }.keep name result
  | .release name => s.giveBack name .nothing
  | .releaseSession name => s.giveBack name .ok
  | .evict =>
    let (count, client) := server.sweep s.client
    (.count count, { s with client })
  | .ensureMinimum => (.nothing, { s with client := server.refill s.client })
  | .sleep ms => (.nothing, s.pass (s.client.now + PoolSettings.micros ms))
  | .config => (.settings s.client.settings, s)
  | .drain =>
    let (report, client) := server.drain s.client
    (.report report, { s with client })
  | .connects openings =>
    let script := s.client.server
    (.nothing, { s with client.server :=
      { script with openings := script.openings ++ openings } })
  | .query sql options =>
    let (result, client) := server.execute sql options s.client
    (rowsOutcome result, { s with client })
  | .queryTemplate template bindings =>
    let (result, client) := server.executor.queryTemplate template bindings s.client
    (rowsOutcome result, { s with client })
  | .queryOn name sql =>
    match s.session? name with
    | none => (.absent, s)
    | some id =>
      let (result, script) := server.query id sql none s.client.server
      let s := { s with client.server := script }
      match result with
      | .ok rs => (.rows rs, s)
      | .error reason => (.refused reason, s)
  | .findAll table v =>
    s.withDescriptor v fun d c =>
      let (result, c) := (Model.mk "model" table).findAll server.executor d c
      (rowsOutcome result, c)
  | .findAndCountAll table v =>
    s.withDescriptor v fun d c =>
      let (result, c) := (Model.mk "model" table).findAndCountAll server.executor d c
      (pageOutcome result, c)
  | .spawn name => if (s.session? name).isSome then (.busy, s) else (.spawned, s.spawn name)
  | .join name => s.join name

/-- Whether some request beside the commands has not been joined. -/
def hasCompany (s : State) : Bool :=
  !s.waiting.isEmpty || !s.finished.isEmpty

def isSpawned : Outcome → Bool
  | .spawned => true
  | _ => false

/-- The entry of a command. Beside requests that are not joined only the outcome and the log can
be told, and events are told with the next full entry; the start of a request waits until it can
be told. -/
def tell (s : State) (isFull : Bool) (outcome : Outcome) : Entry × State :=
  let log := s.client.log
  let s := { s with client.log := [] }
  if isFull then
    (⟨outcome, log, some (s.client.pool.status, s.client.server.events)⟩,
      { s with client.server.events := [] })
  else (⟨outcome, log, none⟩, s)

/-- Carries a command out at a moment of its own, and then lets happen what has become due. -/
def next (s : State) (command : Command) : Entry × State :=
  let s := s.pass (s.client.now + 1)
  let (outcome, s) := s.run command
  let s := s.serve s.waiting
  let s := s.pass s.client.now
  s.tell (isSpawned outcome || !s.hasCompany) outcome

/-- Carries commands out one after the other. -/
def runAll (s : State) : List Command → List Entry
  | [] => []
  | command :: rest =>
    let (entry, s) := s.next command
    entry :: runAll s rest

end State

/-- Builds the pool and carries the commands out. -/
def play (settings : PoolSettings) (connection : ConnectionSettings) (script : Script)
    (commands : List Command) : Except ClientError (List Entry) :=
  match Script.server.start settings connection script with
  | .error e => .error e
  | .ok client =>
    let interval := settings.evictionRunInterval
    let s : State := {
      client := { client with server.hasPool := true }
      held := []
      waiting := []
      finished := []
      nextSweep := if interval = 0 then none else some interval }
    let (entry, s) := s.tell true .started
    .ok (entry :: s.runAll commands)

end Scenario

end SqlClient
