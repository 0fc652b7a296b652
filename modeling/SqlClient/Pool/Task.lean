import SqlClient.Pool

/-!
The operations on a pool, divided at the points where others may come between. A task stands
before its next step, which is one block of the bookkeeping, one operation on the permits, or one
call to the server; `Task.step` says what the step does, given what the server answers.
-/

namespace SqlClient

/-- What a task learns from outside in one step. -/
inductive Signal (σ : Type)
  /-- Nothing: the step is the task's own. -/
  | proceed
  /-- The wait for a permit has lasted too long. -/
  | timeout
  | opened (session : σ)
  | refused (error : ClientError)
  /-- A session has been closed, with a message if that failed. -/
  | closed (failure : Option String)

/-- What a task asks for before it can take its next step. -/
inductive Demand (σ : Type)
  | proceed
  | openSession
  | closeSession (session : σ)
  | finished

/-- Asking for a session. -/
inductive Acquire (σ : Type)
  | start
  | announcing
  | waiting
  | granted
  | expired
  | claiming
  | opening
  | retracting (error : ClientError)
  | posting (error : ClientError)
  | failed (error : ClientError)
  | holding (session : σ)

/-- Giving a session back. -/
inductive GiveBack (σ : Type)
  | start (session : σ)
  | closing (session : σ)
  | posting
  | done

/-- Closing the parked sessions that have to go. -/
inductive Sweep (σ : Type)
  | start
  | closing (rest : List σ) (count : Nat)
  | done (count : Nat)

/-- Opening sessions up to the minimum. -/
inductive Refill (σ : Type)
  | start
  | reserving
  | opening
  | parking (session : σ)
  | unreserving
  | closing (session : σ)
  | posting (again : Bool)
  | done

/-- What became of the two parts of a shutdown: waiting for the sessions in hand, and closing the
parked ones. -/
structure DrainReport where
  drain : Option ClientError
  clear : Option ClientError
deriving DecidableEq

def DrainReport.isClean (r : DrainReport) : Bool :=
  r.drain.isNone && r.clear.isNone

/-- Shutting the pool down. -/
inductive Drain (σ : Type)
  | start
  | polling (since : Nat)
  | clearing (late : Option ClientError)
  | closing (late : Option ClientError) (rest : List σ) (failures : List String)
  | done (report : DrainReport)

/-- An operation in progress. -/
inductive Task (σ : Type)
  | acquire (phase : Acquire σ)
  | giveBack (phase : GiveBack σ)
  | sweep (phase : Sweep σ)
  | refill (phase : Refill σ)
  | drain (phase : Drain σ)

variable {σ : Type}

namespace Acquire

def demand : Acquire σ → Demand σ
  | opening => .openSession
  | failed _ => .finished
  | holding _ => .finished
  | _ => .proceed

def step (s : PoolSettings) (p : Pool σ) : Acquire σ → Signal σ → Option (Acquire σ × Pool σ)
  | start, .proceed => some (if p.closed then failed .poolClosed else announcing, p)
  | announcing, .proceed => some (waiting, p.announce)
  | waiting, .proceed => p.takePermit?.map fun p => (granted, p)
  | waiting, .timeout => some (expired, p)
  | granted, .proceed => some (claiming, p.withdraw)
  | expired, .proceed => some (failed (.acquireTimeout s.acquireTimeout), p.withdraw)
  | claiming, .proceed =>
    match p.claim with
    | (.closed, p) => some (posting .poolClosed, p)
    | (.reused session, p) => some (holding session, p)
    | (.reserved, p) => some (opening, p)
  | opening, .opened session => some (holding session, p)
  | opening, .refused e => some (retracting e, p)
  | retracting e, .proceed => some (posting e, p.retract)
  | posting e, .proceed => some (failed e, p.postPermit)
  | _, _ => none

end Acquire

namespace GiveBack

def demand : GiveBack σ → Demand σ
  | closing session => .closeSession session
  | done => .finished
  | _ => .proceed

def step (now : Nat) (p : Pool σ) : GiveBack σ → Signal σ → Option (GiveBack σ × Pool σ)
  | start session, .proceed =>
    match p.giveBack session now with
    | (some session, p) => some (closing session, p)
    | (none, p) => some (posting, p)
  | closing _, .closed _ => some (posting, p)
  | posting, .proceed => some (done, p.postPermit)
  | _, _ => none

end GiveBack

namespace Sweep

/-- The phase in which the given sessions are still to be closed. -/
def next (count : Nat) : List σ → Sweep σ
  | [] => done count
  | rest => closing rest count

def demand : Sweep σ → Demand σ
  | closing (session :: _) _ => .closeSession session
  | done _ => .finished
  | _ => .proceed

def step (s : PoolSettings) (now : Nat) (p : Pool σ) :
    Sweep σ → Signal σ → Option (Sweep σ × Pool σ)
  | start, .proceed =>
    let (gone, p) := p.sweep s now
    some (next gone.length gone, p)
  | closing (_ :: rest) count, .closed _ => some (next count rest, p)
  | _, _ => none

end Sweep

namespace Refill

def demand : Refill σ → Demand σ
  | opening => .openSession
  | closing session => .closeSession session
  | done => .finished
  | _ => .proceed

def step (s : PoolSettings) (now : Nat) (p : Pool σ) :
    Refill σ → Signal σ → Option (Refill σ × Pool σ)
  | start, .proceed =>
    match p.takePermit? with
    | some p => some (reserving, p)
    | none => some (done, p)
  | reserving, .proceed =>
    match p.reserve? s with
    | some p => some (opening, p)
    | none => some (posting false, p)
  | opening, .opened session => some (parking session, p)
  | opening, .refused _ => some (unreserving, p)
  | parking session, .proceed =>
    match p.park session now with
    | (some session, p) => some (closing session, p)
    | (none, p) => some (posting true, p)
  | unreserving, .proceed => some (posting false, p.unreserve)
  | closing _, .closed _ => some (posting false, p)
  | posting again, .proceed => some (if again then start else done, p.postPermit)
  | _, _ => none

end Refill

namespace Drain

/-- The failure of a shutdown for which sessions stayed in hand too long. -/
def lateError (s : PoolSettings) (borrowed : Nat) : ClientError :=
  .drainFailed (natText borrowed ++ " connection(s) still borrowed after " ++
    natText s.drainTimeoutMs ++ "ms")

/-- The failure of a shutdown that could not close some sessions. -/
def clearError : List String → Option ClientError
  | [] => none
  | failures =>
    some (.drainFailed (natText failures.length ++ " connection(s) failed to close: " ++
      "; ".intercalate failures))

/-- The phase in which the given sessions are still to be closed; failures are kept in order. -/
def next (late : Option ClientError) (failures : List String) : List σ → Drain σ
  | [] => done ⟨late, clearError failures⟩
  | rest => closing late rest failures

def demand : Drain σ → Demand σ
  | closing _ (session :: _) _ => .closeSession session
  | done _ => .finished
  | _ => .proceed

/-- A poll that finds sessions in hand before the time is up changes nothing, so it is no step. -/
def step (s : PoolSettings) (now : Nat) (p : Pool σ) :
    Drain σ → Signal σ → Option (Drain σ × Pool σ)
  | start, .proceed => some (polling now, p.close)
  | polling since, .proceed =>
    if p.borrowed = 0 then some (clearing none, p)
    else if s.drainTimeout ≤ now - since then some (clearing (some (lateError s p.borrowed)), p)
    else none
  | clearing late, .proceed =>
    let (sessions, p) := p.takeIdle
    some (next late [] sessions, p)
  | closing late (_ :: rest) failures, .closed failure =>
    some (next late (failures ++ failure.toList) rest, p)
  | _, _ => none

end Drain

namespace Task

def demand : Task σ → Demand σ
  | acquire a => a.demand
  | giveBack g => g.demand
  | sweep k => k.demand
  | refill r => r.demand
  | drain d => d.demand

/-- One step of a task at a moment, or nothing if the task cannot take a step on that signal. -/
def step (s : PoolSettings) (now : Nat) (p : Pool σ) (t : Task σ) (signal : Signal σ) :
    Option (Task σ × Pool σ) :=
  match t with
  | acquire a => (a.step s p signal).map fun (a, p) => (acquire a, p)
  | giveBack g => (g.step now p signal).map fun (g, p) => (giveBack g, p)
  | sweep k => (k.step s now p signal).map fun (k, p) => (sweep k, p)
  | refill r => (r.step s now p signal).map fun (r, p) => (refill r, p)
  | drain d => (d.step s now p signal).map fun (d, p) => (drain d, p)

/-- Whether a session that cannot be closed is logged at once. A shutdown reports it at its
end. -/
def logsClosing : Task σ → Bool
  | drain _ => false
  | _ => true

end Task

end SqlClient
