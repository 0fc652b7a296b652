import SqlClient.Proofs.Pool.Closing
import SqlClient.Proofs.Pool.Eviction
import SqlClient.Proofs.Pool.Rest
import SqlClient.Proofs.Pool.Shutdown

namespace SqlClient

variable {δ σ : Type}

theorem Drain.clearError_eq (failures : List String) :
    Drain.clearError failures = if failures = [] then none else
      some (.drainFailed (natText failures.length ++ " connection(s) failed to close: " ++
        "; ".intercalate failures)) := by
  cases failures <;> rfl

namespace Server

variable {v : Server δ σ}

theorem stepWith_opensNothing {t t' : Task σ} {c c' : Client δ σ}
    (h : v.stepWith opensNothing t c = some (t', c')) :
    ∃ signal : Signal σ, signal.opens = 0 ∧
      t.step c.settings c.now c.pool signal = some (t', c'.pool) ∧
      c'.settings = c.settings ∧ c'.now = c.now := by
  cases hdemand : t.demand with
  | finished => simp [stepWith, hdemand] at h
  | proceed =>
      simp only [stepWith, hdemand, Option.map_eq_some_iff, Prod.mk.injEq] at h
      obtain ⟨⟨u, p⟩, hstep, rfl, rfl⟩ := h
      exact ⟨.proceed, rfl, hstep, rfl, rfl⟩
  | openSession =>
      simp only [stepWith, hdemand, opensNothing, Option.map_eq_some_iff, Prod.mk.injEq] at h
      obtain ⟨⟨u, p⟩, hstep, rfl, rfl⟩ := h
      exact ⟨.proceed, rfl, hstep, rfl, rfl⟩
  | closeSession session =>
      simp only [stepWith, hdemand, closeSession_eq, Option.map_eq_some_iff, Prod.mk.injEq] at h
      obtain ⟨⟨u, p⟩, hstep, rfl, rfl⟩ := h
      exact ⟨_, rfl, hstep, rfl, rfl⟩

/-- What a call comes to for which no session is opened, and which nobody comes between, is one of
the things that operations side by side can come to. -/
theorem runs_of_runWith {fuel : Nat} {t t' : Task σ} {c c' : Client δ σ} {w : Traffic σ}
    {tasks : List (Task σ)} {opened closed : Multiset σ}
    (h : Traffic.Runs c.settings w ⟨c.pool, c.now, tasks ++ [t], opened, closed⟩)
    (hrun : v.runWith opensNothing fuel t c = (t', c')) :
    c'.settings = c.settings ∧ c'.now = c.now ∧
      ∃ closed', Traffic.Runs c.settings w ⟨c'.pool, c.now, tasks ++ [t'], opened, closed'⟩ := by
  induction fuel generalizing t c closed with
  | zero =>
      obtain ⟨rfl, rfl⟩ := Prod.mk.inj hrun
      exact ⟨rfl, rfl, closed, h⟩
  | succ fuel ih =>
      cases hstep : v.stepWith opensNothing t c with
      | none =>
          rw [runWith, hstep] at hrun
          obtain ⟨rfl, rfl⟩ := Prod.mk.inj hrun
          exact ⟨rfl, rfl, closed, h⟩
      | some next =>
          obtain ⟨t₁, c₁⟩ := next
          rw [runWith, hstep] at hrun
          obtain ⟨signal, hopens, htask, hsettings, hnow⟩ := stepWith_opensNothing hstep
          have hnew : Disjoint signal.opens opened := hopens ▸ Multiset.zero_disjoint opened
          have hnext := h.advanceLast (Task.step_eq_some_iff.mp htask) hnew
          rw [hopens, add_zero, ← hsettings, ← hnow] at hnext
          obtain ⟨hsettings', hnow', hend⟩ := ih hnext hrun
          rw [hsettings, hnow] at hend
          exact ⟨hsettings'.trans hsettings, hnow'.trans hnow, hend⟩

/-- What became of the wait for the sessions in hand in a shutdown that begins with a client. -/
def lateness (c : Client δ σ) : Option ClientError :=
  if c.pool.borrowed = 0 then none else some (Drain.lateError c.settings c.pool.borrowed)

/-- What a shutdown that begins with a client reports. -/
def drainReport (v : Server δ σ) (c : Client δ σ) : DrainReport where
  drain := lateness c
  clear := Drain.clearError
    (v.closeAll (c.pool.idle.map IdleSession.session) c.server).1.reduceOption

/-- A client after a shutdown that began with it and came to its end at a moment. -/
def drainedAt (v : Server δ σ) (now : Nat) (c : Client δ σ) : Client δ σ :=
  { c with
    pool := { c.pool with closed := true, idle := [], size := c.pool.size - c.pool.idle.length }
    server := (v.closeAll (c.pool.idle.map IdleSession.session) c.server).2
    now := now }

/-- The moment at which a shutdown no longer waits. If sessions are in hand the whole time
passes. -/
def drainMoment (c : Client δ σ) : Nat :=
  if c.pool.borrowed = 0 then c.now else c.now + c.settings.drainTimeout

theorem runWith_polling {late : Option ClientError} (now : Nat) (c : Client δ σ)
    (hmove : Task.Move c.settings now c.pool.close (.drain (.polling c.now)) .proceed
      (.drain (.clearing late)) c.pool.close) (fuel : Nat) :
    v.runWith opensNothing (fuel + c.pool.idle.length + 2) (.drain (.polling c.now))
        { c with pool := c.pool.close, now := now } =
      (.drain (.done { v.drainReport c with drain := late }), v.drainedAt now c) := by
  have hlength : (c.pool.idle.map IdleSession.session).length = c.pool.idle.length :=
    List.length_map _
  calc v.runWith opensNothing (fuel + c.pool.idle.length + 2) (.drain (.polling c.now))
        { c with pool := c.pool.close, now := now }
      = v.runWith opensNothing (fuel + c.pool.idle.length + 1) (.drain (.clearing late))
          (Client.withPool { c with now := now } c.pool.close) :=
        runWith_proceed (c := { c with now := now }) rfl hmove _
    _ = v.runWith opensNothing (fuel + c.pool.idle.length)
          (.drain (.next late [] (c.pool.idle.map IdleSession.session)))
          (Client.withPool { c with now := now } c.pool.close.takeIdle.2) :=
        runWith_proceed rfl .clear _
    _ = (.drain (.done { v.drainReport c with drain := late }),
          (Client.withPool { c with now := now } c.pool.close.takeIdle.2).asked
            (v.closeAll (c.pool.idle.map IdleSession.session) c.server).2 []) := by
        rw [← hlength]
        exact ((closesInTurn_drain late).runWith_eq _ [] _ fuel).trans (runWith_of_finished rfl _)
    _ = _ := by
        simp [drainedAt, Client.withPool, Client.asked]

theorem runDrain_eq (c : Client δ σ) :
    v.runDrain c = (.drain (.done (v.drainReport c)), v.drainedAt (drainMoment c) c) := by
  obtain ⟨fuel, hfuel⟩ : ∃ fuel, enoughSteps c = fuel + c.pool.idle.length + 3 := by
    refine ⟨enoughSteps c - c.pool.idle.length - 3, ?_⟩
    unfold enoughSteps
    omega
  have hshut : v.runWith opensNothing (enoughSteps c) (.drain .start) c =
      v.runWith opensNothing (fuel + c.pool.idle.length + 2) (.drain (.polling c.now))
        (c.withPool c.pool.close) := by
    rw [hfuel]
    exact runWith_proceed (p := c.pool) rfl .shut _
  unfold runDrain
  by_cases hb : c.pool.borrowed = 0
  · have hback := runWith_polling (v := v) c.now c (.allBack hb) fuel
    simp only [hshut.trans hback]
    simp [drainReport, lateness, drainMoment, hb]
  · by_cases ht : c.settings.drainTimeout = 0
    · have hlate := runWith_polling (v := v) c.now c (.late hb (ht ▸ Nat.zero_le _)) fuel
      simp only [hshut.trans hlate]
      simp [drainReport, lateness, drainMoment, hb, ht]
    · have hstuck : (Task.drain (σ := σ) (.polling c.now)).step c.settings c.now c.pool.close
          .proceed = none := by
        simp [Task.step, Drain.step, hb, ht]
      have hwaits : v.runWith opensNothing (fuel + c.pool.idle.length + 2)
          (.drain (.polling c.now)) (c.withPool c.pool.close) =
            (.drain (.polling c.now), c.withPool c.pool.close) := runWith_of_stuck rfl hstuck _
      have hlate := runWith_polling (v := v) (c.now + c.settings.drainTimeout) c
        (.late hb (by omega)) (fuel + 1)
      have hmoment : max c.now (c.now + c.settings.drainTimeout) =
          c.now + c.settings.drainTimeout := Nat.max_eq_right (Nat.le_add_right _ _)
      have hfuel' : enoughSteps c = fuel + 1 + c.pool.idle.length + 2 := by omega
      simp only [hshut.trans hwaits]
      simp only [Client.withPool, hmoment]
      rw [hfuel', hlate]
      simp [drainReport, lateness, drainMoment, hb]

/-- The lines that a shutdown logs at its end. -/
def drainLines (report : DrainReport) : List LogLine :=
  (report.drain.toList.map fun e => ⟨.info, "Impala pool drain error: " ++ e.message⟩) ++
    report.clear.toList.map fun e => ⟨.info, "Impala pool clear error: " ++ e.message⟩

theorem drain_eq (c : Client δ σ) :
    v.drain c = (v.drainReport c,
      { v.drainedAt (drainMoment c) c with log := c.log ++ drainLines (v.drainReport c) }) := by
  rw [drain, runDrain_eq]
  cases hdrain : (v.drainReport c).drain <;> cases hclear : (v.drainReport c).clear <;>
    simp [drainLines, drainedAt, Client.logLine, hdrain, hclear]

theorem runs_of_runDrain {t : Task σ} {c c' : Client δ σ} {w : Traffic σ} {tasks : List (Task σ)}
    {opened closed : Multiset σ}
    (h : Traffic.Runs c.settings w ⟨c.pool, c.now, tasks, opened, closed⟩)
    (hrun : v.runDrain c = (t, c')) :
    ∃ closed', Traffic.Runs c.settings w ⟨c'.pool, c'.now, tasks ++ [t], opened, closed'⟩ := by
  rcases hfirst : v.runWith opensNothing (enoughSteps c) (.drain .start) c with ⟨t₁, c₁⟩
  obtain ⟨hsettings, hnow, closed₁, hpolls⟩ := runs_of_runWith (h.call .drain) hfirst
  simp only [runDrain, hfirst] at hrun
  split at hrun
  · rename_i since c₂ hpolling
    obtain ⟨rfl, rfl⟩ := Prod.mk.inj hpolling
    have hlater : c.now ≤ max c₁.now (since + c₁.settings.drainTimeout) :=
      hnow ▸ Nat.le_max_left _ _
    have hwaited := hpolls.wait hlater
    rw [← hsettings] at hwaited
    obtain ⟨-, hnow', closed₂, hend⟩ := runs_of_runWith hwaited hrun
    rw [← hsettings, hnow']
    exact ⟨closed₂, hend⟩
  · obtain ⟨rfl, rfl⟩ := Prod.mk.inj hrun
    rw [hnow]
    exact ⟨closed₁, hpolls⟩

theorem runs_drain {c : Client δ σ} {w : Traffic σ} (hc : c.RestsAt w) :
    Traffic.Runs c.settings w ⟨(v.drainedAt (drainMoment c) c).pool, drainMoment c,
      w.tasks ++ [.drain (.done (v.drainReport c))], w.opened, w.closed + w.pool.parked⟩ := by
  have hstart : Traffic.Runs c.settings w ⟨c.pool, c.now, w.tasks, w.opened, w.closed⟩ := by
    rw [hc.pool]
    exact Traffic.Runs.wait .refl hc.clock
  obtain ⟨closed, hend⟩ := runs_of_runDrain (v := v) hstart (runDrain_eq c)
  have hreachable : Traffic.Reachable c.settings _ := hc.reachable.trans hend
  have hafter := hreachable.conserved.opened
  have hclosed : closed = w.closed + w.pool.parked := by
    apply add_left_cancel (a := w.held)
    calc w.held + closed = w.opened := by
          rw [hafter]
          simp [Pool.parked, drainedAt, Traffic.held, Task.sessions]
      _ = w.held + (w.closed + w.pool.parked) := by
          rw [hc.reachable.conserved.opened]
          abel
  rw [← hclosed]
  exact hend

theorem drainedAt_of_empty {c : Client δ σ} (hclosed : c.pool.closed = true)
    (hidle : c.pool.idle = []) : v.drainedAt c.now c = c := by
  rcases c with ⟨_, _, ⟨_, _, idle, _, _, closed⟩, _, _, _⟩
  obtain rfl : closed = true := hclosed
  obtain rfl : idle = [] := hidle
  rfl

theorem drain_of_empty {c : Client δ σ} (hclosed : c.pool.closed = true)
    (hidle : c.pool.idle = [])
    (hb : c.pool.borrowed = 0) : v.drain c = (⟨none, none⟩, c) := by
  have hreport : v.drainReport c = ⟨none, none⟩ := by
    simp [drainReport, lateness, hb, hidle, closeAll, Drain.clearError]
  have hmoment : drainMoment c = c.now := if_pos hb
  rw [drain_eq, hreport, hmoment, drainedAt_of_empty hclosed hidle]
  simp [drainLines]

/-- A shutdown of a pool on which no operation is in progress comes to its end. It closes the pool
and then each of the parked sessions once, in the order of the queue, whether or not the others
can be closed and however many sessions are in hand; those are then all that is left. Its report
tells how many stayed in hand, if any did, and how many could not be closed and why, if there are
such. Once all have come back, another shutdown has nothing to report and asks the server for
nothing. -/
theorem drain_outcome {c : Client (δ × List (ServerCall σ)) σ} {w : Traffic σ} (v : Server δ σ)
    (hc : c.RestsAt w) :
    c.pool.borrowed = w.held.card ∧
    ∃ report c', (v.recorded.runDrain c).1 = .drain (.done report) ∧
      v.recorded.drain c = (report, c') ∧
      c'.pool = { c.pool with closed := true, idle := [], size := c.pool.borrowed } ∧
      c'.server = ((v.closeAll (c.pool.idle.map IdleSession.session) c.server.1).2,
        c.server.2 ++ c.pool.idle.map fun i => .close i.session) ∧
      report.drain = (if c.pool.borrowed = 0 then none else
        some (.drainFailed (natText c.pool.borrowed ++ " connection(s) still borrowed after " ++
          natText c.settings.drainTimeoutMs ++ "ms"))) ∧
      (∀ failures,
        failures = (v.closeAll (c.pool.idle.map IdleSession.session) c.server.1).1.reduceOption →
        report.clear = if failures = [] then none else
          some (.drainFailed (natText failures.length ++ " connection(s) failed to close: " ++
            "; ".intercalate failures))) ∧
      ∃ w₁, Traffic.Runs c.settings w w₁ ∧ c'.RestsAt w₁ ∧
        w₁.tasks = w.tasks ++ [.drain (.done report)] ∧ w₁.closed = w.closed + w.pool.parked ∧
        ∀ w₂ c₂, Traffic.Runs c.settings w₁ w₂ → c₂.RestsAt w₂ → c₂.pool.borrowed = 0 →
          v.recorded.drain c₂ = (⟨none, none⟩, c₂) := by
  have hborrowed : c.pool.borrowed = w.held.card := by
    rw [Traffic.card_held_of_finished hc.finished, hc.pool, hc.reachable.accounted.borrowed]
  have hsize : c.pool.size - c.pool.idle.length = c.pool.borrowed := by
    rw [hc.settled.size, Nat.add_sub_cancel_left]
  refine ⟨hborrowed, v.recorded.drainReport c, _, ?_, drain_eq c, ?_, ?_, rfl, ?_, ?_⟩
  · rw [runDrain_eq]
  · simp [drainedAt, hsize]
  · simp only [drainedAt, closeAll_recorded, List.map_map]
    rfl
  · rintro failures rfl
    simp only [drainReport, closeAll_recorded]
    exact Drain.clearError_eq _
  · have hrun := runs_drain (v := v.recorded) hc
    have hfinished : ∀ t ∈ w.tasks ++ [.drain (.done (v.recorded.drainReport c))],
        t.demand = .finished :=
      List.forall_mem_append.mpr ⟨hc.finished, List.forall_mem_singleton.mpr rfl⟩
    refine ⟨_, hrun, ⟨hc.reachable.trans hrun, hfinished, rfl, Nat.le_refl _⟩, rfl, rfl, ?_⟩
    intro w₂ c₂ hlater hc₂ hb
    obtain ⟨hclosed, -, -, hidle⟩ := hlater.of_closed rfl
    rw [← hc₂.pool] at hclosed hidle
    exact drain_of_empty hclosed (List.sublist_nil.mp hidle) hb

theorem restsAt_agedClient : agedClient.RestsAt aged where
  reachable := reachable_aged
  finished := by simp [aged, Task.demand]
  pool := rfl
  clock := by decide

/-- A server that cannot close its first session. -/
def stubborn : Server Nat Nat where
  interrupts _ := false
  connect _ _ n := (.ok n, n + 1)
  metadata _ _ n := (.ok ⟨[]⟩, n)
  query _ _ _ n := (.ok [], n)
  close session n := (if session = 1 then some "reset" else none, n)

theorem drain_outcome_aged :
    agedClient.RestsAt aged ∧
    ∃ report c', stubborn.recorded.drain agedClient = (report, c') ∧
      report.drain = some (.drainFailed "1 connection(s) still borrowed after 30000ms") ∧
      report.clear = some (.drainFailed "1 connection(s) failed to close: reset") ∧
      c'.server = (3, [.close 1, .close 2]) ∧ c'.pool.size = 1 := by
  obtain ⟨-, report, c', -, hdrain, hpool, hserver, hlate, hclear, -⟩ :=
    drain_outcome stubborn restsAt_agedClient
  refine ⟨restsAt_agedClient, report, c', hdrain, ?_, ?_, hserver, by rw [hpool]; rfl⟩
  · rw [hlate]
    decide +kernel
  · rw [hclear _ rfl]
    decide +kernel

end Server

end SqlClient
