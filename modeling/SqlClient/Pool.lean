import SqlClient.Settings

/-!
The bookkeeping of a session pool. A permit is held by everyone who has a session in hand or is
about to open one; parked sessions hold none. Each operation on the pool is a sequence of the
blocks below, and no block waits for a server, so a block is never divided.
-/

namespace SqlClient

/-- A parked session and the moment at which it was parked, in microseconds. -/
structure IdleSession (σ : Type) where
  session : σ
  since : Nat

/-- The bookkeeping that the users of a pool share. Parked sessions are queued, the one parked
longest in front; `size` counts the sessions that are parked, in hand or about to be opened. -/
structure Pool (σ : Type) where
  permits : Nat
  pending : Nat
  idle : List (IdleSession σ)
  size : Nat
  borrowed : Nat
  closed : Bool

/-- What someone finds who asks for a session. -/
inductive Claim (σ : Type)
  | closed
  | reused (session : σ)
  | reserved

/-- The counts that a pool reports. -/
structure PoolStatus where
  size : Nat
  idle : Nat
  borrowed : Nat
  pending : Nat
deriving DecidableEq

namespace PoolSettings

/-- Milliseconds in microseconds. -/
def micros (ms : Nat) : Nat := ms * 1000

def acquireTimeout (s : PoolSettings) : Nat := micros s.acquireTimeoutMs
def idleTimeout (s : PoolSettings) : Nat := micros s.idleTimeoutMs
def softIdleTimeout (s : PoolSettings) : Nat := micros s.softIdleTimeoutMs
def evictionRunInterval (s : PoolSettings) : Nat := micros s.evictionRunIntervalMs
def drainTimeout (s : PoolSettings) : Nat := micros s.drainTimeoutMs

/-- Whether a parked session has to go, where `others` more are parked: always when it was parked
for longer than the idle timeout, and from the soft timeout on while more than the minimum are
parked. -/
def isExpired (s : PoolSettings) (idleFor others : Nat) : Bool :=
  (decide (0 < s.softIdleTimeout) && decide (s.softIdleTimeout < idleFor) &&
    decide (s.min < others + 1)) ||
    decide (s.idleTimeout < idleFor)

end PoolSettings

namespace Pool

variable {σ : Type}

/-- An open pool without sessions. -/
def fresh (s : PoolSettings) : Pool σ where
  permits := s.max
  pending := 0
  idle := []
  size := 0
  borrowed := 0
  closed := false

def status (p : Pool σ) : PoolStatus :=
  ⟨p.size, p.idle.length, p.borrowed, p.pending⟩

def takePermit? (p : Pool σ) : Option (Pool σ) :=
  match p.permits with
  | 0 => none
  | n + 1 => some { p with permits := n }

def postPermit (p : Pool σ) : Pool σ :=
  { p with permits := p.permits + 1 }

/-- Counts someone who begins to wait for a permit. -/
def announce (p : Pool σ) : Pool σ :=
  { p with pending := p.pending + 1 }

/-- Counts someone who no longer waits. -/
def withdraw (p : Pool σ) : Pool σ :=
  { p with pending := p.pending - 1 }

/-- Hands out the session parked longest. If none is parked, a place for a new one is reserved, so
that others see it while it is opened. -/
def claim (p : Pool σ) : Claim σ × Pool σ :=
  if p.closed then (.closed, p)
  else
    match p.idle with
    | i :: rest => (.reused i.session, { p with idle := rest, borrowed := p.borrowed + 1 })
    | [] => (.reserved, { p with size := p.size + 1, borrowed := p.borrowed + 1 })

/-- Gives up a place for a session that was about to be handed out. -/
def retract (p : Pool σ) : Pool σ :=
  { p with size := p.size - 1, borrowed := p.borrowed - 1 }

/-- Takes a session back. An open pool parks it; from a closed pool it comes back to be closed. -/
def giveBack (session : σ) (now : Nat) (p : Pool σ) : Option σ × Pool σ :=
  if p.closed then (some session, { p with borrowed := p.borrowed - 1, size := p.size - 1 })
  else (none, { p with borrowed := p.borrowed - 1, idle := p.idle ++ [⟨session, now⟩] })

/-- Parts parked sessions into those that have to go and those that stay. At most `budget` of them
are examined, and `kept` that were examined before stay. -/
def sweepIdle (s : PoolSettings) (now : Nat) :
    Nat → Nat → List (IdleSession σ) → List σ × List (IdleSession σ)
  | _, _, [] => ([], [])
  | 0, _, idle => ([], idle)
  | budget + 1, kept, i :: rest =>
    if s.isExpired (now - i.since) (rest.length + kept) then
      let (gone, stay) := sweepIdle s now budget kept rest
      (i.session :: gone, stay)
    else
      let (gone, stay) := sweepIdle s now budget (kept + 1) rest
      (gone, i :: stay)

/-- Takes the parked sessions out that have to go. -/
def sweep (s : PoolSettings) (now : Nat) (p : Pool σ) : List σ × Pool σ :=
  if p.closed then ([], p)
  else
    let (gone, stay) := sweepIdle s now s.evictionsPerRun 0 p.idle
    (gone, { p with idle := stay, size := p.size - gone.length })

/-- Reserves a place for a session that is to be parked, if the pool is open and below its
minimum. -/
def reserve? (s : PoolSettings) (p : Pool σ) : Option (Pool σ) :=
  if p.closed || decide (s.min ≤ p.size) then none else some { p with size := p.size + 1 }

/-- Parks a new session. From a closed pool it comes back to be closed. -/
def park (session : σ) (now : Nat) (p : Pool σ) : Option σ × Pool σ :=
  if p.closed then (some session, { p with size := p.size - 1 })
  else (none, { p with idle := p.idle ++ [⟨session, now⟩] })

/-- Gives up a place for a session that was to be parked. -/
def unreserve (p : Pool σ) : Pool σ :=
  { p with size := p.size - 1 }

def close (p : Pool σ) : Pool σ :=
  { p with closed := true }

/-- Takes all parked sessions out. -/
def takeIdle (p : Pool σ) : List σ × Pool σ :=
  (p.idle.map IdleSession.session, { p with idle := [], size := p.size - p.idle.length })

end Pool

end SqlClient
