import SqlClient.Proofs.Pool.Eviction
import SqlClient.Proofs.Pool.Rest

namespace SqlClient

variable {δ σ : Type}

theorem Pool.settled_fresh (s : PoolSettings) : (Pool.fresh (σ := σ) s).Settled s where
  permits := rfl
  pending := rfl
  size := rfl

theorem Pool.Settled.permits_ne_zero {s : PoolSettings} {p : Pool σ} (h : p.Settled s)
    (hmin : s.min ≤ s.max) (hlt : p.size < s.min) : p.permits ≠ 0 := by
  have hpermits := h.permits
  have hsize := h.size
  omega

theorem Pool.TookFirst.settled {s : PoolSettings} {k : Nat} {p p' : Pool σ} {gone : List σ}
    (h : TookFirst k p gone p') (hp : p.Settled s) : p'.Settled s where
  permits := by rw [h.permits, h.borrowed, hp.permits]
  pending := by rw [h.pending, hp.pending]
  size := by
    have hcount := h.count
    rw [h.sessions, List.length_map, List.length_take] at hcount
    rw [h.size, h.idle, h.borrowed, hp.size, List.length_drop]
    omega

/-- What came of opening several sessions: those that were opened, why the last one was refused,
if it was, and the state of the server afterwards. -/
structure Openings (δ σ : Type) where
  sessions : List σ
  refusal : Option String
  state : δ

namespace Openings

/-- How often the server was asked. -/
def attempts (o : Openings δ σ) : Nat :=
  o.sessions.length + o.refusal.toList.length

/-- The line that is logged for the session that was refused. -/
def lines (o : Openings δ σ) : List LogLine :=
  o.refusal.toList.map fun reason => ⟨.warn, "Impala connection create error: " ++ reason⟩

end Openings

namespace Server

/-- Opens sessions one after the other until there are as many as wanted or one is refused. -/
def openings (v : Server δ σ) (settings : ConnectionSettings) : Nat → δ → Openings δ σ
  | 0, state => ⟨[], none, state⟩
  | n + 1, state =>
    match v.connect settings none state with
    | (.ok session, state) =>
      let rest := v.openings settings n state
      { rest with sessions := session :: rest.sessions }
    | (.error reason, state) => ⟨[], some reason, state⟩

variable {v : Server δ σ} {settings : ConnectionSettings}

theorem openings_of_opened {s state : δ} {session : σ}
    (h : v.connect settings none s = (.ok session, state)) (n : Nat) :
    v.openings settings (n + 1) s = { v.openings settings n state with
      sessions := session :: (v.openings settings n state).sessions } := by
  simp [openings, h]

theorem openings_of_refused {s state : δ} {reason : String}
    (h : v.connect settings none s = (.error reason, state)) (n : Nat) :
    v.openings settings (n + 1) s = ⟨[], some reason, state⟩ := by
  simp [openings, h]

theorem openings_length (n : Nat) (s : δ) :
    (v.openings settings n s).sessions.length ≤ n ∧
      ((v.openings settings n s).refusal = none ↔
        (v.openings settings n s).sessions.length = n) := by
  induction n generalizing s with
  | zero => simp [openings]
  | succ n ih =>
      rcases hconnect : v.connect settings none s with ⟨reason | session, state⟩
      · simp [openings_of_refused hconnect]
      · obtain ⟨hle, hall⟩ := ih state
        rw [openings_of_opened hconnect]
        simpa using ⟨hle, hall⟩

theorem openings_recorded (n : Nat) (s : δ × List (ServerCall σ)) :
    v.recorded.openings settings n s =
      ⟨(v.openings settings n s.1).sessions, (v.openings settings n s.1).refusal,
        ((v.openings settings n s.1).state,
          s.2 ++ List.replicate (v.openings settings n s.1).attempts .connect)⟩ := by
  induction n generalizing s with
  | zero => simp [openings, Openings.attempts]
  | succ n ih =>
      rcases hconnect : v.connect settings none s.1 with ⟨reason | session, state⟩
      · rw [openings_of_refused (connect_recorded hconnect), openings_of_refused hconnect]
        rfl
      · rw [openings_of_opened (connect_recorded hconnect), openings_of_opened hconnect, ih]
        simp [Openings.attempts, Nat.add_right_comm _ 1, List.replicate_succ]

end Server

/-- A client after a refill for which sessions were opened: they are parked last. -/
def Client.refilled (c : Client δ σ) (o : Openings δ σ) : Client δ σ :=
  { c with
    pool := { c.pool with
      size := c.pool.size + o.sessions.length
      idle := c.pool.idle ++ o.sessions.map fun session => ⟨session, c.now⟩ }
    server := o.state
    log := c.log ++ o.lines }

theorem Client.refilled_nothing (c : Client δ σ) : c.refilled ⟨[], none, c.server⟩ = c := by
  simp [Client.refilled, Openings.lines]

namespace Server

variable {v : Server δ σ}

theorem runWith_refill_nothing {c : Client δ σ}
    (h : c.pool.closed = true ∨ c.settings.min ≤ c.pool.size) {fuel : Nat} (hfuel : 3 ≤ fuel) :
    v.runWith v.opens fuel (.refill .start) c = (.refill .done, c) := by
  obtain ⟨fuel, rfl⟩ : ∃ rest, fuel = rest + 3 := ⟨fuel - 3, by omega⟩
  cases hp : c.pool.permits with
  | zero =>
      calc v.runWith v.opens (fuel + 3) (.refill .start) c
          = v.runWith v.opens (fuel + 3) (.refill .start) (c.withPool c.pool) := rfl
        _ = v.runWith v.opens (fuel + 2) (.refill .done) (c.withPool c.pool) :=
            runWith_proceed rfl (.skipRefill hp) _
        _ = (.refill .done, c) := runWith_of_finished rfl _
  | succ m =>
      have hpool : { c.pool with permits := m + 1 } = c.pool := by rw [← hp]
      calc v.runWith v.opens (fuel + 3) (.refill .start) c
          = v.runWith v.opens (fuel + 3) (.refill .start) (c.withPool c.pool) := rfl
        _ = v.runWith v.opens (fuel + 2) (.refill .reserving)
              (c.withPool { c.pool with permits := m }) := runWith_proceed rfl (.grantRefill hp) _
        _ = v.runWith v.opens (fuel + 1) (.refill (.posting false))
              (c.withPool { c.pool with permits := m }) :=
            runWith_proceed rfl (.endRefill (p := { c.pool with permits := m }) h) _
        _ = v.runWith v.opens fuel (.refill .done)
          (c.withPool { c.pool with permits := m + 1 }) :=
            runWith_proceed rfl .refilled _
        _ = (.refill .done, c) := by
            rw [hpool]
            exact runWith_of_finished rfl _

section Round

variable {c : Client δ σ} {m : Nat}

theorem runWith_refill_opening (hclosed : c.pool.closed = false) (hp : c.pool.permits = m + 1)
    (hlt : c.pool.size < c.settings.min) (fuel : Nat) :
    v.runWith v.opens (fuel + 5) (.refill .start) c =
      v.runWith v.opens (fuel + 3) (.refill .opening)
        (c.withPool { c.pool with permits := m, size := c.pool.size + 1 }) :=
  calc v.runWith v.opens (fuel + 5) (.refill .start) c
      = v.runWith v.opens (fuel + 5) (.refill .start) (c.withPool c.pool) := rfl
    _ = v.runWith v.opens (fuel + 4) (.refill .reserving)
          (c.withPool { c.pool with permits := m }) := runWith_proceed rfl (.grantRefill hp) _
    _ = _ := runWith_proceed rfl (.reserve (p := { c.pool with permits := m }) hclosed hlt) _

theorem runWith_refill_opened {session : σ} {state : δ} (hquiet : v.interrupts c.server = false)
    (hcheck : c.connection.check = .ok ()) (hclosed : c.pool.closed = false)
    (hp : c.pool.permits = m + 1) (hlt : c.pool.size < c.settings.min)
    (hconnect : v.connect c.connection none c.server = (.ok session, state)) (fuel : Nat) :
    v.runWith v.opens (fuel + 5) (.refill .start) c =
      v.runWith v.opens fuel (.refill .start) (c.refilled ⟨[session], none, state⟩) :=
  calc v.runWith v.opens (fuel + 5) (.refill .start) c
      = v.runWith v.opens (fuel + 3) (.refill .opening)
          (c.withPool { c.pool with permits := m, size := c.pool.size + 1 }) :=
        runWith_refill_opening hclosed hp hlt fuel
    _ = v.runWith v.opens (fuel + 2) (.refill (.parking session)) ((c.asked state []).withPool
          { c.pool with permits := m, size := c.pool.size + 1 }) :=
        runWith_openSession rfl
          (opens_of_opened hquiet (openSession_of_opened hcheck hconnect)) .openedRefill _
    _ = v.runWith v.opens (fuel + 1) (.refill (.posting true)) ((c.asked state []).withPool
          { c.pool with
            permits := m, size := c.pool.size + 1, idle := c.pool.idle ++ [⟨session, c.now⟩] }) :=
        runWith_proceed rfl
          (.parkRefill (p := { c.pool with permits := m, size := c.pool.size + 1 }) hclosed) _
    _ = v.runWith v.opens fuel (.refill .start) ((c.asked state []).withPool { c.pool with
          permits := m + 1, size := c.pool.size + 1,
          idle := c.pool.idle ++ [⟨session, c.now⟩] }) :=
        runWith_proceed rfl .again _
    _ = v.runWith v.opens fuel (.refill .start) (c.refilled ⟨[session], none, state⟩) := by
        rw [← hp]
        rfl

theorem runWith_refill_refused {reason : String} {state : δ}
    (hquiet : v.interrupts c.server = false)
    (hcheck : c.connection.check = .ok ()) (hclosed : c.pool.closed = false)
    (hp : c.pool.permits = m + 1) (hlt : c.pool.size < c.settings.min)
    (hconnect : v.connect c.connection none c.server = (.error reason, state)) (fuel : Nat) :
    v.runWith v.opens (fuel + 5) (.refill .start) c =
      (.refill .done, c.refilled ⟨[], some reason, state⟩) :=
  calc v.runWith v.opens (fuel + 5) (.refill .start) c
      = v.runWith v.opens (fuel + 3) (.refill .opening)
          (c.withPool { c.pool with permits := m, size := c.pool.size + 1 }) :=
        runWith_refill_opening hclosed hp hlt fuel
    _ = v.runWith v.opens (fuel + 2) (.refill .unreserving) ((c.asked state
          (Openings.lines ⟨([] : List σ), some reason, state⟩)).withPool
          { c.pool with permits := m, size := c.pool.size + 1 }) :=
        runWith_openSession rfl
          (opens_of_refused hquiet (openSession_of_refused hcheck hconnect)) .refusedRefill _
    _ = v.runWith v.opens (fuel + 1) (.refill (.posting false)) ((c.asked state
          (Openings.lines ⟨([] : List σ), some reason, state⟩)).withPool
          { c.pool with permits := m }) := runWith_proceed rfl .unreserve _
    _ = v.runWith v.opens fuel (.refill .done) ((c.asked state
          (Openings.lines ⟨([] : List σ), some reason, state⟩)).withPool
          { c.pool with permits := m + 1 }) := runWith_proceed rfl .refilled _
    _ = (.refill .done, c.refilled ⟨[], some reason, state⟩) := by
        rw [← hp, runWith_of_finished rfl]
        simp [Client.refilled, Client.withPool, Client.asked]

end Round

theorem refilled_refilled (c : Client δ σ) (session : σ) (state : δ) (o : Openings δ σ) :
    (c.refilled ⟨[session], none, state⟩).refilled o =
      c.refilled { o with sessions := session :: o.sessions } := by
  simp [Client.refilled, Openings.lines, Nat.add_right_comm _ 1, Nat.add_assoc]

/-- A refill of an open pool ends within a few steps for each session that is opened, provided
that it finds a permit while the minimum is not reached. -/
theorem runWith_refill (hquiet : ∀ state, v.interrupts state = false) {n : Nat} {c : Client δ σ}
    (hcheck : c.connection.check = .ok ()) (hclosed : c.pool.closed = false)
    (hpermit : c.pool.size < c.settings.min → c.pool.permits ≠ 0)
    (hn : c.settings.min - c.pool.size = n) {fuel : Nat} (hfuel : 5 * n + 3 ≤ fuel) :
    v.runWith v.opens fuel (.refill .start) c =
      (.refill .done, c.refilled (v.openings c.connection n c.server)) := by
  induction n generalizing c fuel with
  | zero =>
      rw [openings, Client.refilled_nothing]
      exact runWith_refill_nothing (Or.inr (by omega)) hfuel
  | succ n ih =>
      obtain ⟨fuel, rfl⟩ : ∃ rest, fuel = rest + 5 := ⟨fuel - 5, by omega⟩
      have hlt : c.pool.size < c.settings.min := by omega
      obtain ⟨m, hm⟩ := Nat.exists_eq_succ_of_ne_zero (hpermit hlt)
      rcases hconnect : v.connect c.connection none c.server with ⟨reason | session, state⟩
      · rw [openings_of_refused hconnect]
        exact runWith_refill_refused (hquiet c.server) hcheck hclosed hm hlt hconnect fuel
      · have hleft : c.settings.min - (c.pool.size + 1) = n := by omega
        have hrest : v.runWith v.opens fuel (.refill .start)
            (c.refilled ⟨[session], none, state⟩) =
            (.refill .done, (c.refilled ⟨[session], none, state⟩).refilled
              (v.openings c.connection n state)) :=
          ih (c := c.refilled ⟨[session], none, state⟩) hcheck hclosed
            (fun _ => hpermit hlt) hleft
            (by omega)
        rw [runWith_refill_opened (hquiet c.server) hcheck hclosed hm hlt hconnect, hrest,
          refilled_refilled, openings_of_opened hconnect]

theorem refill_eq (hquiet : ∀ state, v.interrupts state = false) {c : Client δ σ}
    (hcheck : c.connection.check = .ok ()) (hclosed : c.pool.closed = false)
    (hmin : c.settings.min ≤ c.settings.max) (hsettled : c.pool.Settled c.settings) :
    v.refill c =
      c.refilled (v.openings c.connection (c.settings.min - c.pool.size) c.server) := by
  have hfuel : 5 * (c.settings.min - c.pool.size) + 3 ≤ enoughSteps c := by
    unfold enoughSteps
    omega
  rw [refill, run, runWith_refill hquiet hcheck hclosed (hsettled.permits_ne_zero hmin) rfl hfuel]

theorem size_refill (hquiet : ∀ state, v.interrupts state = false) {c : Client δ σ}
    (hcheck : c.connection.check = .ok ()) (hclosed : c.pool.closed = false)
    (hmin : c.settings.min ≤ c.settings.max) (hsettled : c.pool.Settled c.settings)
    (hnone : (v.openings c.connection (c.settings.min - c.pool.size) c.server).refusal = none) :
    (v.refill c).pool.size = max c.pool.size c.settings.min := by
  have hcount := (openings_length _ _).2.mp hnone
  rw [refill_eq hquiet hcheck hclosed hmin hsettled]
  simp only [Client.refilled]
  omega

theorem size_refill_sweep (hquiet : ∀ state, v.interrupts state = false) {c : Client δ σ}
    (hcheck : c.connection.check = .ok ()) (hclosed : c.pool.closed = false)
    (hmin : c.settings.min ≤ c.settings.max) (hsettled : c.pool.Settled c.settings)
    (hsorted : c.pool.idle.Pairwise fun i j => i.since ≤ j.since)
    (hnone : (v.openings c.connection (c.settings.min - (v.sweep c).2.pool.size)
      (v.sweep c).2.server).refusal = none) :
    (v.refill (v.sweep c).2).pool.size = max (c.pool.size - (v.sweep c).1) c.settings.min := by
  have htook := Pool.tookFirst_sweep c.settings hclosed hsorted c.now
  rw [sweep_eq] at hnone ⊢
  rw [htook.count, ← htook.size]
  exact size_refill hquiet hcheck (htook.closed.trans hclosed) hmin (htook.settled hsettled) hnone

theorem start_eq (hquiet : ∀ state, v.interrupts state = false) {settings : PoolSettings}
    {connection : ConnectionSettings} (hs : settings.check = .ok ())
    (hcheck : connection.check = .ok ()) (state : δ) :
    v.start settings connection state =
      .ok (Client.refilled ⟨settings, connection, Pool.fresh settings, state, 0, []⟩
        (v.openings connection settings.min state)) := by
  have hsame : { v with interrupts := fun _ => false } = v := by
    rw [← funext hquiet]
  have hrefill :=
    refill_eq (c := ⟨settings, connection, Pool.fresh settings, state, 0, []⟩) hquiet
    hcheck rfl ((PoolSettings.check_eq_ok_iff settings).mp hs).2 (Pool.settled_fresh settings)
  rw [start, hs, hcheck, hsame]
  exact congrArg Except.ok hrefill

/-- A refill of an open pool on which no operation is in progress asks the server for one session
after the other until the minimum is reached or one is refused, and comes to its end. It never
lacks a permit while the minimum is not reached. The sessions that were opened are parked behind
those that were, the size grows by their number and stays within the maximum, and nothing else of
the pool changes. So if none is refused the size is at least the minimum, also after a sweep, and
a new pool starts with the minimum of sessions parked. On a closed pool, or where the minimum is
reached, nothing is asked. -/
theorem refill_outcome {c : Client (δ × List (ServerCall σ)) σ} {w : Traffic σ}
    (hquiet : ∀ state, v.interrupts state = false) (hc : c.RestsAt w)
    (hs : c.settings.check = .ok ()) (hcheck : c.connection.check = .ok ()) :
    (c.pool.closed = false → ∃ o,
      o = v.openings c.connection (c.settings.min - c.pool.size) c.server.1 ∧
      o.sessions.length ≤ c.settings.min - c.pool.size ∧
      (o.refusal = none ↔ o.sessions.length = c.settings.min - c.pool.size) ∧
      (c.pool.size < c.settings.min → c.pool.permits ≠ 0) ∧
      (∀ fuel, 5 * (c.settings.min - c.pool.size) + 3 ≤ fuel →
        v.recorded.runWith v.recorded.opens fuel (.refill .start) c =
          (.refill .done, v.recorded.refill c)) ∧
      (v.recorded.refill c).server =
        (o.state, c.server.2 ++ List.replicate o.attempts .connect) ∧
      (v.recorded.refill c).pool = { c.pool with
        size := c.pool.size + o.sessions.length
        idle := c.pool.idle ++ o.sessions.map fun session => ⟨session, c.now⟩ } ∧
      (v.recorded.refill c).pool.size ≤ c.settings.max ∧
      (o.refusal = none →
        (v.recorded.refill c).pool.size = max c.pool.size c.settings.min) ∧
      ∀ count c₁, v.recorded.sweep c = (count, c₁) →
        (v.openings c.connection (c.settings.min - c₁.pool.size) c₁.server.1).refusal = none →
        (v.recorded.refill c₁).pool.size = max (c.pool.size - count) c.settings.min) ∧
    (c.pool.closed = true ∨ c.settings.min ≤ c.pool.size →
      v.recorded.refill c = c ∧ ∀ fuel, 3 ≤ fuel →
        v.recorded.runWith v.recorded.opens fuel (.refill .start) c = (.refill .done, c)) ∧
    ∀ settings connection state, settings.check = .ok () → connection.check = .ok () →
      (v.openings connection settings.min state).refusal = none →
      ∃ c', v.start settings connection state = .ok c' ∧ c'.pool.idle.length = settings.min ∧
        c'.pool.size = settings.min ∧ c'.pool.borrowed = 0 := by
  have hquiet' : ∀ state, v.recorded.interrupts state = false := fun state => hquiet state.1
  have hmin := ((PoolSettings.check_eq_ok_iff c.settings).mp hs).2
  have hsettled := hc.settled
  refine ⟨?_, ?_, ?_⟩
  · intro hclosed
    obtain ⟨hle, hall⟩ :=
      @openings_length _ _ v c.connection (c.settings.min - c.pool.size) c.server.1
    have hpermit := hsettled.permits_ne_zero hmin
    have hrefill := refill_eq hquiet' hcheck hclosed hmin hsettled
    have hmax : c.pool.size ≤ c.settings.max := by
      rw [hc.pool]
      exact hc.reachable.size_le hmin
    refine ⟨_, rfl, hle, hall, hpermit, ?_, ?_, ?_, ?_, ?_, ?_⟩
    · intro fuel hfuel
      rw [hrefill]
      exact runWith_refill hquiet' hcheck hclosed hpermit rfl hfuel
    · rw [hrefill, openings_recorded]
      rfl
    · rw [hrefill, openings_recorded]
      rfl
    · rw [hrefill, openings_recorded]
      simp only [Client.refilled]
      omega
    · intro hnone
      refine size_refill hquiet' hcheck hclosed hmin hsettled ?_
      rw [openings_recorded]
      exact hnone
    · intro count c₁ hsweep hnone
      have hsorted := hc.reachable.ordered.sorted
      rw [← hc.pool] at hsorted
      have hsize := size_refill_sweep hquiet' hcheck hclosed hmin hsettled hsorted
      rw [hsweep, openings_recorded] at hsize
      exact hsize hnone
  · intro h
    have hfuel : 3 ≤ enoughSteps c := by
      unfold enoughSteps
      omega
    refine ⟨?_, fun fuel hfuel => runWith_refill_nothing h hfuel⟩
    rw [refill, run, runWith_refill_nothing h hfuel]
  · intro settings connection state hs' hcheck' hnone
    have hcount := (openings_length settings.min state).2.mp hnone
    refine ⟨_, start_eq hquiet hs' hcheck' state, ?_, ?_, rfl⟩
    · simp [Client.refilled, Pool.fresh, hcount]
    · simp [Client.refilled, Pool.fresh, hcount]

/-- A server that opens one session and no more. -/
def scarce : Server Nat Nat where
  interrupts _ := false
  connect _ _ n := if n = 0 then (.ok 0, 1) else (.error "no room", n)
  metadata _ _ n := (.ok ⟨[]⟩, n)
  query _ _ _ n := (.ok [], n)
  close _ n := (none, n)

def scarceClient : Client (Nat × List (ServerCall Nat)) Nat where
  settings := { max := 3, min := 2 }
  connection := {}
  pool := Pool.fresh { max := 3, min := 2 }
  server := (0, [])
  now := 5
  log := []

theorem restsAt_scarceClient :
    scarceClient.RestsAt (.initial { max := 3, min := 2 }) where
  reachable := .refl
  finished := by simp [Traffic.initial]
  pool := rfl
  clock := Nat.zero_le 5

theorem refill_outcome_scarce :
    (∀ state, scarce.interrupts state = false) ∧
    scarceClient.RestsAt (.initial { max := 3, min := 2 }) ∧
    scarceClient.settings.check = .ok () ∧ scarceClient.connection.check = .ok () ∧
    (scarce.recorded.refill scarceClient).server = (1, [.connect, .connect]) ∧
    (scarce.recorded.refill scarceClient).pool =
      { permits := 3, pending := 0, idle := [⟨0, 5⟩], size := 1, borrowed := 0,
        closed := false } := by
  have hcheck : scarceClient.connection.check = .ok () := by decide +kernel
  obtain ⟨hopen, -, -⟩ :=
    refill_outcome (v := scarce) (fun _ => rfl) restsAt_scarceClient rfl hcheck
  obtain ⟨_, rfl, -, -, -, -, hserver, hpool, -⟩ := hopen rfl
  exact ⟨fun _ => rfl, restsAt_scarceClient, rfl, hcheck, hserver, hpool⟩

end Server

end SqlClient
