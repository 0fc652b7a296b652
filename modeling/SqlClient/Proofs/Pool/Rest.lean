import SqlClient.Proofs.Pool.Conservation
import SqlClient.Proofs.Pool.Execution

namespace SqlClient

variable {δ σ : Type}

/-- How the counts of a pool stand to one another where no operation is in progress. -/
structure Pool.Settled (s : PoolSettings) (p : Pool σ) : Prop where
  permits : p.permits + p.borrowed = s.max
  pending : p.pending = 0
  size : p.size = p.idle.length + p.borrowed

theorem Pool.Settled.permits_eq_zero_iff {s : PoolSettings} {p : Pool σ} (h : p.Settled s) :
    p.permits = 0 ↔ p.borrowed = s.max := by
  have hpermits := h.permits
  omega

theorem Task.shares_of_finished {t : Task σ} (h : t.demand = .finished) :
    t.holdsPermit = t.borrows ∧ t.isWaiting = false ∧ t.reserves = false := by
  by_cases hhands : ∃ session, t = .acquire (.holding session)
  · obtain ⟨session, rfl⟩ := hhands
    exact ⟨rfl, rfl, rfl⟩
  · rw [not_exists] at hhands
    obtain ⟨hholds, hwaits, hborrows, hreserves⟩ := has_no_share_of_finished h hhands
    exact ⟨hholds.trans hborrows.symm, hwaits, hreserves⟩

namespace Traffic

variable {s : PoolSettings} {w : Traffic σ}

theorem Reachable.settled (h : Reachable s w) (hfinished : ∀ t ∈ w.tasks, t.demand = .finished) :
    w.pool.Settled s := by
  have hw := h.accounted
  have hholds : w.count Task.holdsPermit = w.count Task.borrows := by
    refine List.countP_congr fun t ht => ?_
    rw [(Task.shares_of_finished (hfinished t ht)).1]
  have hwaits : w.count Task.isWaiting = 0 :=
    List.countP_eq_zero.mpr fun t ht =>
      Bool.eq_false_iff.mp (Task.shares_of_finished (hfinished t ht)).2.1
  have hreserves : w.count Task.reserves = 0 :=
    List.countP_eq_zero.mpr fun t ht =>
      Bool.eq_false_iff.mp (Task.shares_of_finished (hfinished t ht)).2.2
  constructor
  · have hpermits := hw.permits
    rwa [hholds, ← hw.borrowed] at hpermits
  · rw [hw.pending, hwaits]
  · have hsize := hw.size
    rwa [hreserves, Nat.add_zero] at hsize

end Traffic

/-- A client stands where operations on its pool have led, with none of them in progress any
more. -/
structure Client.RestsAt (c : Client δ σ) (w : Traffic σ) : Prop where
  reachable : Traffic.Reachable c.settings w
  finished : ∀ t ∈ w.tasks, t.demand = .finished
  pool : c.pool = w.pool
  clock : w.clock ≤ c.now

theorem Client.RestsAt.settled {c : Client δ σ} {w : Traffic σ} (h : c.RestsAt w) :
    c.pool.Settled c.settings := by
  rw [h.pool]
  exact h.reachable.settled h.finished

namespace Server

variable {v : Server δ σ}

theorem openSession_of_opened {settings : ConnectionSettings} {drained : Option Bool}
    {s state : δ}
    {session : σ} (hcheck : settings.check = .ok ())
    (h : v.connect settings drained s = (.ok session, state)) :
    v.openSession settings drained s = (.ok session, state, []) := by
  simp [openSession, hcheck, h]

theorem openSession_of_refused {settings : ConnectionSettings} {drained : Option Bool}
    {s state : δ}
    {reason : String} (hcheck : settings.check = .ok ())
    (h : v.connect settings drained s = (.error reason, state)) :
    v.openSession settings drained s = (.error (.connectFailed reason), state,
      [⟨.warn, "Impala connection create error: " ++ reason⟩]) := by
  simp [openSession, hcheck, h]

theorem connect_recorded {settings : ConnectionSettings} {drained : Option Bool}
    {s : δ × List (ServerCall σ)} {result : Except String σ} {state : δ}
    (h : v.connect settings drained s.1 = (result, state)) :
    v.recorded.connect settings drained s = (result, (state, s.2 ++ [.connect])) := by
  simp [recorded, h]

/-- How a request for a session ends, and which client it leaves, if nobody comes between and the
settings do not rule sessions out. -/
inductive Ends (v : Server δ σ) (c : Client δ σ) : Except ClientError σ → Client δ σ → Prop
  | closed (hc : c.pool.closed = true) : Ends v c (.error .poolClosed) (failed .poolClosed c).2
  | exhausted (hc : c.pool.closed = false) (hp : c.pool.permits = 0) :
      Ends v c (.error (.acquireTimeout c.settings.acquireTimeout))
        (failed (.acquireTimeout c.settings.acquireTimeout)
          { c with now := c.now + c.settings.acquireTimeout }).2
  | reused {n : Nat} {i : IdleSession σ} {rest : List (IdleSession σ)}
      (hc : c.pool.closed = false)
      (hp : c.pool.permits = n + 1) (hi : c.pool.idle = i :: rest) :
      Ends v c (.ok i.session) (c.withPool { c.pool with
        permits := n, idle := rest, borrowed := c.pool.borrowed + 1 })
  | opened {n : Nat} {session : σ} {state : δ} (hc : c.pool.closed = false)
      (hp : c.pool.permits = n + 1) (hi : c.pool.idle = [])
      (hconnect : v.connect c.connection none c.server = (.ok session, state)) :
      Ends v c (.ok session) ((c.asked state []).withPool { c.pool with
        permits := n, size := c.pool.size + 1, borrowed := c.pool.borrowed + 1 })
  | refused {n : Nat} {reason : String} {state : δ} (hc : c.pool.closed = false)
      (hp : c.pool.permits = n + 1) (hi : c.pool.idle = [])
      (hconnect : v.connect c.connection none c.server = (.error reason, state)) :
      Ends v c (.error (.connectFailed reason)) (failed (.connectFailed reason)
        (c.asked state [⟨.warn, "Impala connection create error: " ++ reason⟩])).2

theorem ends_of_acquire {c c' : Client δ σ} {result : Except ClientError σ}
    (hcheck : c.connection.check = .ok ()) (hquiet : v.interrupts c.server = false)
    (h : v.acquire c = (result, c')) : Ends v c result c' := by
  cases hc : c.pool.closed with
  | true =>
      rw [acquire_of_closed hc] at h
      obtain ⟨rfl, rfl⟩ := Prod.mk.inj h
      exact .closed hc
  | false =>
      cases hp : c.pool.permits with
      | zero =>
          rw [acquire_of_exhausted hc hp] at h
          obtain ⟨rfl, rfl⟩ := Prod.mk.inj h
          exact .exhausted hc hp
      | succ n =>
          cases hi : c.pool.idle with
          | cons i rest =>
              rw [acquire_of_idle hc hp hi] at h
              obtain ⟨rfl, rfl⟩ := Prod.mk.inj h
              exact .reused hc hp hi
          | nil =>
              rcases hconnect : v.connect c.connection none c.server with
                ⟨reason | session, state⟩
              · rw [acquire_of_refused hc hp hi hquiet
                  (openSession_of_refused hcheck hconnect)] at h
                obtain ⟨rfl, rfl⟩ := Prod.mk.inj h
                exact .refused hc hp hi hconnect
              · rw [acquire_of_opened hc hp hi hquiet
                  (openSession_of_opened hcheck hconnect)] at h
                obtain ⟨rfl, rfl⟩ := Prod.mk.inj h
                exact .opened hc hp hi hconnect

namespace Ends

variable {c c' : Client δ σ} {result : Except ClientError σ}

theorem poolClosed_iff (h : Ends v c result c') :
    result = .error .poolClosed ↔ c.pool.closed = true := by
  cases h <;> simp [*]

theorem acquireTimeout_iff (h : Ends v c result c') (hopen : c.pool.closed = false) :
    result = .error (.acquireTimeout c.settings.acquireTimeout) ↔ c.pool.permits = 0 := by
  cases h <;> simp_all

theorem server_eq (h : Ends v c result c') (hnone : c.pool.closed = true ∨ c.pool.permits = 0) :
    c'.server = c.server := by
  cases h with
  | closed hc => rfl
  | exhausted hc hp => rfl
  | reused hc hp hi => rfl
  | opened hc hp hi hconnect => simp [hc, hp] at hnone
  | refused hc hp hi hconnect => simp [hc, hp] at hnone

theorem of_idle (h : Ends v c result c') (hopen : c.pool.closed = false)
    (hpermit : c.pool.permits ≠ 0) {i : IdleSession σ} {rest : List (IdleSession σ)}
    (hidle : c.pool.idle = i :: rest) :
    result = .ok i.session ∧ c'.server = c.server ∧ c'.pool = { c.pool with
      permits := c.pool.permits - 1, idle := rest, borrowed := c.pool.borrowed + 1 } := by
  cases h with
  | closed hc => simp [hopen] at hc
  | exhausted hc hp => exact absurd hp hpermit
  | reused hc hp hi =>
      obtain ⟨rfl, rfl⟩ := List.cons.inj (hi.symm.trans hidle)
      exact ⟨rfl, rfl, by simp [Client.withPool, hp]⟩
  | opened hc hp hi hconnect => simp [hidle] at hi
  | refused hc hp hi hconnect => simp [hidle] at hi

theorem of_opened (h : Ends v c result c') (hopen : c.pool.closed = false)
    (hpermit : c.pool.permits ≠ 0) (hidle : c.pool.idle = []) {session : σ} {state : δ}
    (hasked : v.connect c.connection none c.server = (.ok session, state)) :
    result = .ok session ∧ c'.server = state ∧ c'.pool = { c.pool with
      permits := c.pool.permits - 1
      size := c.pool.size + 1
      borrowed := c.pool.borrowed + 1 } := by
  cases h with
  | closed hc => simp [hopen] at hc
  | exhausted hc hp => exact absurd hp hpermit
  | reused hc hp hi => simp [hidle] at hi
  | opened hc hp hi hconnect =>
      have hsame := hasked.symm.trans hconnect
      simp only [Prod.mk.injEq, Except.ok.injEq] at hsame
      obtain ⟨rfl, rfl⟩ := hsame
      exact ⟨rfl, rfl, by simp [Client.withPool, hp]⟩
  | refused hc hp hi hconnect => simp [hasked] at hconnect

theorem of_refused (h : Ends v c result c') (hopen : c.pool.closed = false)
    (hpermit : c.pool.permits ≠ 0) (hidle : c.pool.idle = []) {reason : String} {state : δ}
    (hasked : v.connect c.connection none c.server = (.error reason, state)) :
    result = .error (.connectFailed reason) ∧ c'.server = state := by
  cases h with
  | closed hc => simp [hopen] at hc
  | exhausted hc hp => exact absurd hp hpermit
  | reused hc hp hi => simp [hidle] at hi
  | opened hc hp hi hconnect => simp [hasked] at hconnect
  | refused hc hp hi hconnect =>
      have hsame := hasked.symm.trans hconnect
      simp only [Prod.mk.injEq, Except.error.injEq] at hsame
      obtain ⟨rfl, rfl⟩ := hsame
      exact ⟨rfl, rfl⟩

theorem error_frame {e : ClientError} (h : Ends v c (.error e) c') :
    c' = { c with server := c'.server, now := c'.now, log := c'.log } := by
  cases h <;> rfl

end Ends

/-- A request for a session while no operation is in progress fails at once if the pool is closed,
and after the whole timeout if as many sessions are in hand as there may be. Otherwise it is given
the session parked longest, for which the server is asked nothing, or, if none is parked, the
server is asked once to open one, and what it answers decides. A request that fails leaves the
client as it was, apart from the server, the time and the log, so that it makes no difference to
those that follow. -/
theorem acquire_outcome {c c' : Client (δ × List (ServerCall σ)) σ} {w : Traffic σ}
    {result : Except ClientError σ} (hc : c.RestsAt w) (hcheck : c.connection.check = .ok ())
    (hquiet : v.interrupts c.server.1 = false) (h : v.recorded.acquire c = (result, c')) :
    (result = .error .poolClosed ↔ c.pool.closed = true) ∧
    (c.pool.closed = false →
      (result = .error (.acquireTimeout c.settings.acquireTimeout) ↔
        c.pool.borrowed = c.settings.max) ∧
      (c.pool.borrowed ≠ c.settings.max →
        (∀ i rest, c.pool.idle = i :: rest →
          result = .ok i.session ∧ c'.server = c.server ∧
            c'.pool = { c.pool with
              permits := c.pool.permits - 1, idle := rest, borrowed := c.pool.borrowed + 1 }) ∧
        (c.pool.idle = [] →
          (∀ session state, v.connect c.connection none c.server.1 = (.ok session, state) →
            result = .ok session ∧ c'.server = (state, c.server.2 ++ [.connect]) ∧
              c'.pool = { c.pool with
                permits := c.pool.permits - 1
                size := c.pool.size + 1
                borrowed := c.pool.borrowed + 1 }) ∧
          (∀ reason state, v.connect c.connection none c.server.1 = (.error reason, state) →
            result = .error (.connectFailed reason) ∧
              c'.server = (state, c.server.2 ++ [.connect]))))) ∧
    (c.pool.closed = true ∨ c.pool.borrowed = c.settings.max → c'.server = c.server) ∧
    (∀ e, result = .error e →
      c' = { c with server := c'.server, now := c'.now, log := c'.log } ∧
      ∀ state now log, v.recorded.acquire { c' with server := state, now := now, log := log } =
        v.recorded.acquire { c with server := state, now := now, log := log }) := by
  have hend : Ends v.recorded c result c' := ends_of_acquire hcheck hquiet h
  have hfull : c.pool.permits = 0 ↔ c.pool.borrowed = c.settings.max :=
    hc.settled.permits_eq_zero_iff
  refine ⟨hend.poolClosed_iff, ?_, ?_, ?_⟩
  · intro hopen
    refine ⟨(hend.acquireTimeout_iff hopen).trans hfull, fun hroom => ?_⟩
    have hpermit : c.pool.permits ≠ 0 := mt hfull.mp hroom
    refine ⟨fun i rest hidle => hend.of_idle hopen hpermit hidle, fun hidle => ⟨?_, ?_⟩⟩
    · intro session state hconnect
      exact hend.of_opened hopen hpermit hidle (connect_recorded hconnect)
    · intro reason state hconnect
      exact hend.of_refused hopen hpermit hidle (connect_recorded hconnect)
  · rintro (hclosed | hmax)
    · exact hend.server_eq (Or.inl hclosed)
    · exact hend.server_eq (Or.inr (hfull.mpr hmax))
  · rintro e rfl
    have hframe := hend.error_frame
    refine ⟨hframe, fun state now log => ?_⟩
    rw [hframe]

/-- The only session that there may be is in hand. -/
def exhausted : Traffic Nat where
  pool := { permits := 0, pending := 0, idle := [], size := 1, borrowed := 1, closed := false }
  clock := 0
  tasks := [.acquire (.holding 0)]
  opened := {0}
  closed := 0

def exhaustedClient : Client (Nat × List (ServerCall Nat)) Nat where
  settings := { max := 1 }
  connection := {}
  pool := exhausted.pool
  server := (1, [])
  now := 3
  log := []

theorem restsAt_exhausted : exhaustedClient.RestsAt exhausted where
  reachable := Traffic.Runs.request .refl rfl rfl rfl (Multiset.notMem_zero 0)
  finished := by simp [exhausted, Task.demand]
  pool := rfl
  clock := by decide

theorem acquire_outcome_exhausted :
    exhaustedClient.RestsAt exhausted ∧ exhaustedClient.connection.check = .ok () ∧
    failing.interrupts 1 = false ∧
    ∃ c', failing.recorded.acquire exhaustedClient = (.error (.acquireTimeout 10000000), c') ∧
      c'.pool = exhaustedClient.pool ∧ c'.server = (1, []) := by
  have hcheck : exhaustedClient.connection.check = .ok () := by decide +kernel
  rcases hrun : failing.recorded.acquire exhaustedClient with ⟨result, c'⟩
  obtain ⟨-, hopen, hasked, hfails⟩ := acquire_outcome restsAt_exhausted hcheck rfl hrun
  obtain rfl : result = .error (.acquireTimeout 10000000) := (hopen rfl).1.mpr rfl
  refine ⟨restsAt_exhausted, hcheck, rfl, c', rfl, ?_, hasked (Or.inr rfl)⟩
  rw [(hfails _ rfl).1]

end Server

end SqlClient
