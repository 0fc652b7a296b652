import SqlClient.Pool.Call
import SqlClient.Proofs.Pool.Move

namespace SqlClient

variable {δ σ : Type}

namespace Client

def withPool (c : Client δ σ) (p : Pool σ) : Client δ σ :=
  { c with pool := p }

/-- A client after the server was asked for a session. -/
def asked (c : Client δ σ) (state : δ) (lines : List LogLine) : Client δ σ :=
  { c with server := state, log := c.log ++ lines }

end Client

namespace Server

variable {v : Server δ σ} {opens : Client δ σ → Signal σ × Client δ σ} {t t' : Task σ}
  {c c' : Client δ σ} {p p' : Pool σ} {signal : Signal σ}

theorem runWith_of_finished (ht : t.demand = .finished) (fuel : Nat) :
    v.runWith opens fuel t c = (t, c) := by
  cases fuel with
  | zero => rfl
  | succ fuel => simp [runWith, stepWith, ht]

theorem runWith_of_stuck (ht : t.demand = .proceed)
    (hstuck : t.step c.settings c.now c.pool .proceed = none) (fuel : Nat) :
    v.runWith opens fuel t c = (t, c) := by
  cases fuel with
  | zero => rfl
  | succ fuel => simp [runWith, stepWith, ht, hstuck]

theorem runWith_proceed (ht : t.demand = .proceed)
    (hmove : Task.Move c.settings c.now p t .proceed t' p') (fuel : Nat) :
    v.runWith opens (fuel + 1) t (c.withPool p) = v.runWith opens fuel t' (c.withPool p') := by
  simp [runWith, stepWith, Client.withPool, ht, Task.step_eq_some_iff.mpr hmove]

theorem runWith_openSession (ht : t.demand = .openSession)
    (hopens : opens (c.withPool p) = (signal, c'.withPool p))
    (hmove : Task.Move c'.settings c'.now p t signal t' p') (fuel : Nat) :
    v.runWith opens (fuel + 1) t (c.withPool p) = v.runWith opens fuel t' (c'.withPool p') := by
  have hstep := Task.step_eq_some_iff.mpr hmove
  simp only [Client.withPool] at hopens ⊢
  simp [runWith, stepWith, ht, hopens, hstep]

theorem exists_enoughSteps_eq (c : Client δ σ) : ∃ fuel, enoughSteps c = fuel + 16 := by
  refine ⟨8 * (c.settings.min + c.pool.idle.length), ?_⟩
  unfold enoughSteps
  omega

/-- The end of a request that fails. -/
def failed (e : ClientError) (c : Client δ σ) : Except ClientError σ × Client δ σ :=
  (.error e, c.logLine .warn ("Impala pool acquire error: " ++ e.message))

theorem acquire_of_closed (hc : c.pool.closed = true) : v.acquire c = failed .poolClosed c := by
  obtain ⟨fuel, hfuel⟩ := exists_enoughSteps_eq c
  have hrun : v.run (.acquire .start) c = (.acquire (.failed .poolClosed), c) :=
    calc v.run (.acquire .start) c
        = v.runWith v.opens (fuel + 16) (.acquire .start) (c.withPool c.pool) := by
          rw [run, hfuel]
          rfl
      _ = v.runWith v.opens (fuel + 15) (.acquire (.failed .poolClosed)) (c.withPool c.pool) :=
          runWith_proceed rfl (.turnAway hc) _
      _ = (.acquire (.failed .poolClosed), c) := runWith_of_finished rfl _
  rw [acquire, hrun]
  rfl

theorem run_acquire_eq (hc : c.pool.closed = false) :
    ∃ fuel, v.run (.acquire .start) c =
      v.runWith v.opens (fuel + 14) (.acquire .waiting) (c.withPool c.pool.announce) := by
  obtain ⟨fuel, hfuel⟩ := exists_enoughSteps_eq c
  refine ⟨fuel, ?_⟩
  calc v.run (.acquire .start) c
      = v.runWith v.opens (fuel + 16) (.acquire .start) (c.withPool c.pool) := by
        rw [run, hfuel]
        rfl
    _ = v.runWith v.opens (fuel + 15) (.acquire .announcing) (c.withPool c.pool) :=
        runWith_proceed rfl (.enter hc) _
    _ = v.runWith v.opens (fuel + 14) (.acquire .waiting) (c.withPool c.pool.announce) :=
        runWith_proceed rfl .announce _

theorem expire_eq (c : Client δ σ) :
    v.expire c =
      failed (.acquireTimeout c.settings.acquireTimeout) (c.withPool c.pool.withdraw) := by
  obtain ⟨fuel, hfuel⟩ := exists_enoughSteps_eq c
  have hrun : v.run (.acquire .expired) c =
      (.acquire (.failed (.acquireTimeout c.settings.acquireTimeout)),
        c.withPool c.pool.withdraw) :=
    calc v.run (.acquire .expired) c
        = v.runWith v.opens (fuel + 16) (.acquire .expired) (c.withPool c.pool) := by
          rw [run, hfuel]
          rfl
      _ = v.runWith v.opens (fuel + 15)
            (.acquire (.failed (.acquireTimeout c.settings.acquireTimeout)))
            (c.withPool c.pool.withdraw) := runWith_proceed rfl .giveUp _
      _ = _ := runWith_of_finished rfl _
  rw [expire, hrun]
  rfl

theorem acquire_of_exhausted (hc : c.pool.closed = false) (hp : c.pool.permits = 0) :
    v.acquire c = failed (.acquireTimeout c.settings.acquireTimeout)
      { c with now := c.now + c.settings.acquireTimeout } := by
  obtain ⟨fuel, hrun⟩ := run_acquire_eq (v := v) hc
  have hstuck : (Task.acquire (σ := σ) .waiting).step c.settings c.now c.pool.announce .proceed =
      none := by
    simp [Task.step, Acquire.step, Pool.takePermit?, hp]
  rw [acquire, hrun, runWith_of_stuck (c := c.withPool c.pool.announce) rfl hstuck]
  exact expire_eq _

theorem run_acquire_of_permit (hc : c.pool.closed = false) {n : Nat}
    (hp : c.pool.permits = n + 1) :
    ∃ fuel, v.run (.acquire .start) c =
      v.runWith v.opens (fuel + 12) (.acquire .claiming)
        (c.withPool { c.pool with permits := n }) := by
  obtain ⟨fuel, hrun⟩ := run_acquire_eq (v := v) hc
  refine ⟨fuel, hrun.trans ?_⟩
  calc v.runWith v.opens (fuel + 14) (.acquire .waiting) (c.withPool c.pool.announce)
      = v.runWith v.opens (fuel + 13) (.acquire .granted)
          (c.withPool { c.pool.announce with permits := n }) :=
          runWith_proceed rfl (.grant (p := c.pool.announce) hp) _
    _ = v.runWith v.opens (fuel + 12) (.acquire .claiming)
          (c.withPool { c.pool with permits := n }) := runWith_proceed rfl .endWait _

theorem acquire_of_idle {n : Nat} {i : IdleSession σ} {rest : List (IdleSession σ)}
    (hc : c.pool.closed = false) (hp : c.pool.permits = n + 1) (hi : c.pool.idle = i :: rest) :
    v.acquire c = (.ok i.session, c.withPool { c.pool with
      permits := n, idle := rest, borrowed := c.pool.borrowed + 1 }) := by
  obtain ⟨fuel, hpermit⟩ := run_acquire_of_permit (v := v) hc hp
  have hrun : v.run (.acquire .start) c = (.acquire (.holding i.session), c.withPool { c.pool with
      permits := n, idle := rest, borrowed := c.pool.borrowed + 1 }) :=
    calc v.run (.acquire .start) c
        = v.runWith v.opens (fuel + 12) (.acquire .claiming)
            (c.withPool { c.pool with permits := n }) := hpermit
      _ = v.runWith v.opens (fuel + 11) (.acquire (.holding i.session)) (c.withPool { c.pool with
            permits := n, idle := rest, borrowed := c.pool.borrowed + 1 }) :=
          runWith_proceed rfl (.claimIdle (p := { c.pool with permits := n }) hc hi) _
      _ = _ := runWith_of_finished rfl _
  rw [acquire, hrun]
  rfl

section Opening

variable {session : σ} {e : ClientError} {state : δ} {lines : List LogLine} {n : Nat}

theorem opens_of_opened (hquiet : v.interrupts c.server = false)
    (hopen : v.openSession c.connection none c.server = (.ok session, state, lines)) :
    v.opens (c.withPool p) = (.opened session, (c.asked state lines).withPool p) := by
  simp [Server.opens, Client.withPool, Client.asked, hquiet, hopen]

theorem opens_of_refused (hquiet : v.interrupts c.server = false)
    (hopen : v.openSession c.connection none c.server = (.error e, state, lines)) :
    v.opens (c.withPool p) = (.refused e, (c.asked state lines).withPool p) := by
  simp [Server.opens, Client.withPool, Client.asked, hquiet, hopen]

theorem run_acquire_of_empty (hc : c.pool.closed = false) (hp : c.pool.permits = n + 1)
    (hi : c.pool.idle = []) :
    ∃ fuel, v.run (.acquire .start) c =
      v.runWith v.opens (fuel + 11) (.acquire .opening) (c.withPool { c.pool with
        permits := n, size := c.pool.size + 1, borrowed := c.pool.borrowed + 1 }) := by
  obtain ⟨fuel, hpermit⟩ := run_acquire_of_permit (v := v) hc hp
  exact ⟨fuel, hpermit.trans
    (runWith_proceed rfl (.claimPlace (p := { c.pool with permits := n }) hc hi) _)⟩

theorem acquire_of_opened (hc : c.pool.closed = false) (hp : c.pool.permits = n + 1)
    (hi : c.pool.idle = []) (hquiet : v.interrupts c.server = false)
    (hopen : v.openSession c.connection none c.server = (.ok session, state, lines)) :
    v.acquire c = (.ok session, (c.asked state lines).withPool { c.pool with
      permits := n, size := c.pool.size + 1, borrowed := c.pool.borrowed + 1 }) := by
  obtain ⟨fuel, hopening⟩ := run_acquire_of_empty (v := v) hc hp hi
  have hrun : v.run (.acquire .start) c =
      (.acquire (.holding session), (c.asked state lines).withPool { c.pool with
        permits := n, size := c.pool.size + 1, borrowed := c.pool.borrowed + 1 }) :=
    calc v.run (.acquire .start) c
        = _ := hopening
      _ = v.runWith v.opens (fuel + 10) (.acquire (.holding session))
            ((c.asked state lines).withPool { c.pool with
              permits := n, size := c.pool.size + 1, borrowed := c.pool.borrowed + 1 }) :=
          runWith_openSession rfl (opens_of_opened hquiet hopen) .opened _
      _ = _ := runWith_of_finished rfl _
  rw [acquire, hrun]
  rfl

theorem acquire_of_refused (hc : c.pool.closed = false) (hp : c.pool.permits = n + 1)
    (hi : c.pool.idle = []) (hquiet : v.interrupts c.server = false)
    (hopen : v.openSession c.connection none c.server = (.error e, state, lines)) :
    v.acquire c = failed e (c.asked state lines) := by
  obtain ⟨fuel, hopening⟩ := run_acquire_of_empty (v := v) hc hp hi
  have hpool : { c.pool with permits := n + 1 } = c.pool := by rw [← hp]
  have hrun : v.run (.acquire .start) c =
      (.acquire (.failed e), (c.asked state lines).withPool c.pool) :=
    calc v.run (.acquire .start) c
        = _ := hopening
      _ = v.runWith v.opens (fuel + 10) (.acquire (.retracting e))
            ((c.asked state lines).withPool { c.pool with
              permits := n, size := c.pool.size + 1, borrowed := c.pool.borrowed + 1 }) :=
          runWith_openSession rfl (opens_of_refused hquiet hopen) .refused _
      _ = v.runWith v.opens (fuel + 9) (.acquire (.posting e))
            ((c.asked state lines).withPool { c.pool with permits := n }) :=
          runWith_proceed rfl .retract _
      _ = v.runWith v.opens (fuel + 8) (.acquire (.failed e))
            ((c.asked state lines).withPool { c.pool with permits := n + 1 }) :=
          runWith_proceed rfl .fail _
      _ = (.acquire (.failed e), (c.asked state lines).withPool c.pool) := by
          rw [hpool]
          exact runWith_of_finished rfl _
  rw [acquire, hrun]
  rfl

end Opening

theorem giveBack_of_open (hc : c.pool.closed = false) (session : σ) :
    v.giveBack session c = c.withPool { c.pool with
      permits := c.pool.permits + 1
      borrowed := c.pool.borrowed - 1
      idle := c.pool.idle ++ [⟨session, c.now⟩] } := by
  obtain ⟨fuel, hfuel⟩ := exists_enoughSteps_eq c
  have hrun : v.run (.giveBack (.start session)) c = (.giveBack .done, c.withPool { c.pool with
      permits := c.pool.permits + 1
      borrowed := c.pool.borrowed - 1
      idle := c.pool.idle ++ [⟨session, c.now⟩] }) :=
    calc v.run (.giveBack (.start session)) c
        = v.runWith v.opens (fuel + 16) (.giveBack (.start session)) (c.withPool c.pool) := by
          rw [run, hfuel]
          rfl
      _ = v.runWith v.opens (fuel + 15) (.giveBack .posting) (c.withPool { c.pool with
            borrowed := c.pool.borrowed - 1, idle := c.pool.idle ++ [⟨session, c.now⟩] }) :=
          runWith_proceed rfl (.park hc) _
      _ = v.runWith v.opens (fuel + 14) (.giveBack .done) (c.withPool { c.pool with
            permits := c.pool.permits + 1
            borrowed := c.pool.borrowed - 1
            idle := c.pool.idle ++ [⟨session, c.now⟩] }) := runWith_proceed rfl .givenBack _
      _ = _ := runWith_of_finished rfl _
  rw [giveBack, hrun]

end Server

end SqlClient
