import SqlClient.Proofs.Pool.Closing
import SqlClient.Proofs.Pool.Conservation

namespace SqlClient

variable {δ σ : Type}

/-- How many of the sessions that a sweep examines have been parked for longer than a limit. -/
def parkedLonger (now limit budget : Nat) (idle : List (IdleSession σ)) : Nat :=
  (idle.take budget).countP fun i => decide (limit < now - i.since)

/-- How many sessions a sweep takes out that may examine as many as its budget says: those parked
for longer than the idle timeout, and of those parked for longer than the soft one as many as are
parked beyond the minimum. -/
def evictions (s : PoolSettings) (now budget : Nat) (idle : List (IdleSession σ)) : Nat :=
  max (parkedLonger now s.idleTimeout budget idle)
    (min (if s.softIdleTimeout = 0 then 0 else parkedLonger now s.softIdleTimeout budget idle)
      (idle.length - s.min))

theorem PoolSettings.isExpired_iff (s : PoolSettings) (idleFor others : Nat) :
    s.isExpired idleFor others = true ↔
      (s.softIdleTimeout ≠ 0 ∧ s.softIdleTimeout < idleFor ∧ s.min < others + 1) ∨
        s.idleTimeout < idleFor := by
  simp [isExpired, Nat.pos_iff_ne_zero, and_assoc]

theorem PoolSettings.isExpired_mono (s : PoolSettings) {idleFor longer others : Nat}
    (hle : idleFor ≤ longer) (h : s.isExpired longer others = false) :
    s.isExpired idleFor others = false := by
  rw [← Bool.not_eq_true, isExpired_iff] at h ⊢
  omega

section Queue

variable {s : PoolSettings} {now budget : Nat} {i : IdleSession σ}
  {rest : List (IdleSession σ)}

theorem parkedLonger_cons (now limit budget : Nat) (i : IdleSession σ)
    (rest : List (IdleSession σ)) :
    parkedLonger now limit (budget + 1) (i :: rest) =
      parkedLonger now limit budget rest + if limit < now - i.since then 1 else 0 := by
  simp [parkedLonger, List.countP_cons]

theorem parkedLonger_le (now limit budget : Nat) (idle : List (IdleSession σ)) :
    parkedLonger now limit budget idle ≤ idle.length :=
  List.countP_le_length.trans (List.length_take_le' _ _)

theorem parkedLonger_eq_zero (now limit budget : Nat) (hrest : ∀ j ∈ rest, i.since ≤ j.since)
    (hi : ¬limit < now - i.since) : parkedLonger now limit budget rest = 0 := by
  refine List.countP_eq_zero.mpr fun j hj => ?_
  have hlater := hrest j (List.mem_of_mem_take hj)
  simp only [decide_eq_true_eq]
  omega

theorem evictions_le (s : PoolSettings) (now budget : Nat) (idle : List (IdleSession σ)) :
    evictions s now budget idle ≤ idle.length := by
  have hhard := parkedLonger_le now s.idleTimeout budget idle
  unfold evictions
  omega

theorem evictions_zero (s : PoolSettings) (now : Nat) (idle : List (IdleSession σ)) :
    evictions s now 0 idle = 0 := by
  simp [evictions, parkedLonger]

theorem evictions_of_expired (hrest : ∀ j ∈ rest, i.since ≤ j.since)
    (hi : s.isExpired (now - i.since) rest.length = true) :
    evictions s now (budget + 1) (i :: rest) = evictions s now budget rest + 1 := by
  have hhard := parkedLonger_eq_zero now s.idleTimeout budget hrest
  have hsoft := parkedLonger_eq_zero now s.softIdleTimeout budget hrest
  rw [PoolSettings.isExpired_iff] at hi
  simp only [evictions, parkedLonger_cons, List.length_cons]
  split_ifs at * <;> omega

theorem evictions_of_not_expired (hrest : ∀ j ∈ rest, i.since ≤ j.since)
    (hi : s.isExpired (now - i.since) rest.length = false) :
    evictions s now (budget + 1) (i :: rest) = 0 := by
  have hhard := parkedLonger_eq_zero now s.idleTimeout budget hrest
  have hsoft := parkedLonger_eq_zero now s.softIdleTimeout budget hrest
  rw [← Bool.not_eq_true, PoolSettings.isExpired_iff] at hi
  simp only [evictions, parkedLonger_cons, List.length_cons]
  split_ifs at * <;> omega

end Queue

namespace Pool

theorem sweepIdle_of_kept {s : PoolSettings} {now kept : Nat} {idle : List (IdleSession σ)}
    (h : ∀ i ∈ idle, s.isExpired (now - i.since) (idle.length + kept - 1) = false)
    (budget : Nat) :
    sweepIdle s now budget kept idle = ([], idle) := by
  induction idle generalizing budget kept with
  | nil => cases budget <;> rfl
  | cons i rest ih =>
      cases budget with
      | zero => rfl
      | succ budget =>
          have hothers : (i :: rest).length + kept - 1 = rest.length + kept := by
            rw [List.length_cons]
            omega
          rw [hothers] at h
          have hrest : sweepIdle s now budget (kept + 1) rest = ([], rest) := by
            refine ih ?_ budget
            intro j hj
            exact h j (List.mem_cons_of_mem i hj)
          simp [sweepIdle, h i List.mem_cons_self, hrest]

theorem sweepIdle_of_sorted {s : PoolSettings} {now : Nat} {idle : List (IdleSession σ)}
    (h : idle.Pairwise fun i j => i.since ≤ j.since) (budget : Nat) :
    sweepIdle s now budget 0 idle =
      ((idle.take (evictions s now budget idle)).map IdleSession.session,
        idle.drop (evictions s now budget idle)) := by
  induction idle generalizing budget with
  | nil => cases budget <;> simp [sweepIdle]
  | cons i rest ih =>
      obtain ⟨hrest, hsorted⟩ := List.pairwise_cons.mp h
      cases budget with
      | zero => simp [sweepIdle, evictions_zero]
      | succ budget =>
          cases hi : s.isExpired (now - i.since) rest.length with
          | true => simp [sweepIdle, hi, ih hsorted, evictions_of_expired hrest hi]
          | false =>
              have hkept : ∀ j ∈ i :: rest,
                  s.isExpired (now - j.since) ((i :: rest).length + 0 - 1) = false := by
                intro j hj
                have hle : now - j.since ≤ now - i.since := by
                  rcases List.mem_cons.mp hj with rfl | hj
                  · exact Nat.le_refl _
                  · exact Nat.sub_le_sub_left (hrest j hj) now
                exact s.isExpired_mono hle hi
              rw [sweepIdle_of_kept hkept, evictions_of_not_expired hrest hi]
              rfl

/-- What a sweep that takes out the first sessions of the queue leaves of a pool. -/
structure TookFirst (k : Nat) (p : Pool σ) (gone : List σ) (p' : Pool σ) : Prop where
  sessions : gone = (p.idle.take k).map IdleSession.session
  count : gone.length = k
  idle : p'.idle = p.idle.drop k
  size : p'.size = p.size - k
  permits : p'.permits = p.permits
  pending : p'.pending = p.pending
  borrowed : p'.borrowed = p.borrowed
  closed : p'.closed = p.closed

theorem tookFirst_sweep (s : PoolSettings) {p : Pool σ} (hc : p.closed = false)
    (hsorted : p.idle.Pairwise fun i j => i.since ≤ j.since) (now : Nat) :
    TookFirst (evictions s now s.evictionsPerRun p.idle) p (p.sweep s now).1
      (p.sweep s now).2 := by
  have hlength : ((p.idle.take (evictions s now s.evictionsPerRun p.idle)).map
      IdleSession.session).length = evictions s now s.evictionsPerRun p.idle := by
    rw [List.length_map, List.length_take, Nat.min_eq_left (evictions_le s now _ p.idle)]
  have hsweep : p.sweep s now =
      ((p.idle.take (evictions s now s.evictionsPerRun p.idle)).map IdleSession.session,
        { p with
          idle := p.idle.drop (evictions s now s.evictionsPerRun p.idle)
          size := p.size - evictions s now s.evictionsPerRun p.idle }) := by
    rw [sweep, hc, if_neg Bool.false_ne_true, sweepIdle_of_sorted hsorted]
    simp only [hlength]
  rw [hsweep]
  exact ⟨rfl, hlength, rfl, rfl, rfl, rfl, rfl, rfl⟩

theorem sweepIdle_sublist (s : PoolSettings) (now budget kept : Nat)
    (idle : List (IdleSession σ)) :
    (sweepIdle s now budget kept idle).2.Sublist idle := by
  induction idle generalizing budget kept with
  | nil => cases budget <;> exact List.Sublist.refl _
  | cons i rest ih =>
      cases budget with
      | zero => exact List.Sublist.refl _
      | succ budget =>
          rw [sweepIdle]
          split
          · exact (ih budget kept).cons i
          · exact (ih budget (kept + 1)).cons_cons i

theorem sweep_sublist (s : PoolSettings) (now : Nat) (p : Pool σ) :
    (p.sweep s now).2.idle.Sublist p.idle := by
  rw [sweep]
  split
  · exact List.Sublist.refl _
  · exact sweepIdle_sublist s now s.evictionsPerRun 0 p.idle

theorem sweep_of_closed {s : PoolSettings} {p : Pool σ} (hc : p.closed = true) (now : Nat) :
    p.sweep s now = ([], p) := by
  rw [sweep, if_pos hc]

end Pool

theorem Task.Move.idle_cases {s : PoolSettings} {now : Nat} {p p' : Pool σ} {t t' : Task σ}
    {signal : Signal σ} (h : Move s now p t signal t' p') :
    p'.idle.Sublist p.idle ∨
      ∃ session, p'.idle = p.idle ++ [⟨session, now⟩] ∧
        ∀ clock, t.CanRead clock now → now = clock := by
  cases h with
  | claimIdle hc hi =>
      rw [hi]
      exact Or.inl (List.sublist_cons_self _ _)
  | park hc => exact Or.inr ⟨_, rfl, fun _ hnow => hnow⟩
  | sweep => exact Or.inl (p.sweep_sublist s now)
  | parkRefill hc => exact Or.inr ⟨_, rfl, fun _ hnow => hnow⟩
  | clear => exact Or.inl (List.nil_sublist _)
  | _ => exact Or.inl (List.Sublist.refl _)

namespace Traffic

variable {s : PoolSettings} {w w' : Traffic σ}

/-- The queue is in the order in which sessions were parked, up to the present. -/
structure Ordered (w : Traffic σ) : Prop where
  sorted : w.pool.idle.Pairwise fun i j => i.since ≤ j.since
  since_le : ∀ i ∈ w.pool.idle, i.since ≤ w.clock

theorem Ordered.step (hw : Ordered w) (h : Step s w w') : Ordered w' := by
  cases h with
  | wait hlater => exact ⟨hw.sorted, fun i hi => (hw.since_le i hi).trans hlater⟩
  | call ht => exact ⟨hw.sorted, hw.since_le⟩
  | giveBack hi => exact ⟨hw.sorted, hw.since_le⟩
  | advance hi hnow ht hnew =>
      rcases (Task.step_eq_some_iff.mp ht).idle_cases with hsub | ⟨session, hidle, hpresent⟩
      · exact ⟨hw.sorted.sublist hsub, fun j hj => hw.since_le j (hsub.subset hj)⟩
      · obtain rfl := hpresent _ hnow
        constructor
        · rw [hidle, List.pairwise_append]
          refine ⟨hw.sorted, List.pairwise_singleton _ _, ?_⟩
          intro j hj last hlast
          obtain rfl := List.mem_singleton.mp hlast
          exact hw.since_le j hj
        · intro j hj
          rw [hidle, List.mem_append, List.mem_singleton] at hj
          rcases hj with hj | rfl
          · exact hw.since_le j hj
          · exact Nat.le_refl _

theorem Reachable.ordered (h : Reachable s w) : Ordered w := by
  induction h with
  | refl => exact ⟨List.Pairwise.nil, by simp [initial, Pool.fresh]⟩
  | tail _ hstep ih => exact ih.step hstep

/-- A step as the operation of one index sees it, which has no session in hand: it is the step of
another operation, or its own. -/
theorem Step.cases_at (h : Step s w w') {i : Nat} {t : Task σ} (hi : w.tasks[i]? = some t)
    (ht : ∀ session, t ≠ .acquire (.holding session)) :
    w.closed ≤ w'.closed ∧ w'.tasks[i]? = some t ∨
      ∃ now signal t', Task.Move s now w.pool t signal t' w'.pool ∧ w'.tasks[i]? = some t' ∧
        w'.closed = w.closed + t.closes signal := by
  have hlt : i < w.tasks.length := (List.getElem?_eq_some_iff.mp hi).1
  cases h with
  | wait hlater => exact Or.inl ⟨le_refl _, hi⟩
  | call hnew => exact Or.inl ⟨le_refl _, (List.getElem?_append_left hlt).trans hi⟩
  | @giveBack j session hj =>
      have hne : j ≠ i := by
        rintro rfl
        exact ht session (Option.some.inj (hi.symm.trans hj))
      exact Or.inl ⟨le_refl _, (List.getElem?_set_ne hne).trans hi⟩
  | @advance j now u u' signal p hj hnow hu hnew =>
      by_cases hij : j = i
      · subst hij
        obtain rfl := Option.some.inj (hi.symm.trans hj)
        exact Or.inr ⟨now, signal, u', Task.step_eq_some_iff.mp hu,
          List.getElem?_set_self hlt, rfl⟩
      · exact Or.inl ⟨Multiset.le_add_right _ _, (List.getElem?_set_ne hij).trans hi⟩

theorem move_sweep_next {now count : Nat} {p p' : Pool σ} {sessions : List σ} {signal : Signal σ}
    {t : Task σ} (h : Task.Move s now p (.sweep (.next count sessions)) signal t p') :
    ∃ session rest, sessions = session :: rest ∧ t = .sweep (.next count rest) ∧
      Task.closes (.sweep (.next count sessions)) signal = {session} := by
  cases sessions with
  | nil => cases h
  | cons session rest =>
      cases h with
      | swept => exact ⟨session, rest, rfl, rfl, rfl⟩

/-- Whoever comes between, a sweep closes the sessions that it took out in order, and ends with
their number. -/
theorem Runs.sweep_at (h : Runs s w w') {i count : Nat} {gone : List σ}
    (hi : w.tasks[i]? = some (.sweep (.next count gone))) :
    ∃ m ≤ gone.length, w'.tasks[i]? = some (.sweep (.next count (gone.drop m))) ∧
      w.closed + ↑(gone.take m) ≤ w'.closed := by
  induction h with
  | refl => exact ⟨0, Nat.zero_le _, hi, by simp⟩
  | tail _ hstep ih =>
      obtain ⟨m, hm, ht, hclosed⟩ := ih
      rcases hstep.cases_at ht (by simp) with
        ⟨hmore, hsame⟩ | ⟨now, signal, t, hmove, hnext, hmore⟩
      · exact ⟨m, hm, hsame, hclosed.trans hmore⟩
      · obtain ⟨session, rest, hrest, rfl, hcloses⟩ := move_sweep_next hmove
        have hlt : m < gone.length := by
          by_contra hge
          simp [List.drop_of_length_le (Nat.le_of_not_lt hge)] at hrest
        rw [List.drop_eq_getElem_cons hlt] at hrest
        obtain ⟨rfl, rfl⟩ := List.cons.inj hrest
        refine ⟨m + 1, hlt, hnext, ?_⟩
        have htake : (↑(gone.take (m + 1)) : Multiset σ) = ↑(gone.take m) + {gone[m]} := by
          rw [← List.take_concat_get' _ _ hlt, ← Multiset.coe_add]
          rfl
        rw [hmore, hcloses, htake, ← add_assoc]
        exact Multiset.add_le_add_right hclosed

end Traffic

namespace Server

variable {v : Server δ σ}

/-- The line that is logged when sessions were swept. -/
def sweepLines (count : Nat) : List LogLine :=
  if count = 0 then []
  else [⟨.info, "Impala pool evicted " ++ natText count ++ " idle connection(s)"⟩]

theorem run_sweep_eq (c : Client δ σ) :
    v.run (.sweep .start) c = (.sweep (.done (c.pool.sweep c.settings c.now).1.length),
      (c.withPool (c.pool.sweep c.settings c.now).2).asked
        (v.closeAll (c.pool.sweep c.settings c.now).1 c.server).2
        (closeLines (v.closeAll (c.pool.sweep c.settings c.now).1 c.server).1)) := by
  obtain ⟨gone, stay, hsweep, hperm, -⟩ := c.pool.sweep_eq c.settings c.now
  have hlength := hperm.length_eq
  simp only [List.length_append, List.length_map] at hlength
  obtain ⟨fuel, hfuel⟩ : ∃ fuel, enoughSteps c = fuel + gone.length + 1 :=
    ⟨enoughSteps c - gone.length - 1, by unfold enoughSteps; omega⟩
  calc v.run (.sweep .start) c
      = v.runWith v.opens (fuel + gone.length + 1) (.sweep .start) (c.withPool c.pool) := by
        rw [run, hfuel]
        rfl
    _ = v.runWith v.opens (fuel + gone.length)
          (.sweep (.next (c.pool.sweep c.settings c.now).1.length
            (c.pool.sweep c.settings c.now).1))
          (c.withPool (c.pool.sweep c.settings c.now).2) := runWith_proceed rfl .sweep _
    _ = _ := by
        rw [hsweep]
        exact ((closesInTurn_sweep gone.length).runWith_eq gone [] _ fuel).trans
          (runWith_of_finished rfl _)

theorem sweep_eq (c : Client δ σ) :
    v.sweep c = ((c.pool.sweep c.settings c.now).1.length,
      (c.withPool (c.pool.sweep c.settings c.now).2).asked
        (v.closeAll (c.pool.sweep c.settings c.now).1 c.server).2
        (closeLines (v.closeAll (c.pool.sweep c.settings c.now).1 c.server).1 ++
          sweepLines (c.pool.sweep c.settings c.now).1.length)) := by
  rw [sweep, run_sweep_eq]
  cases (c.pool.sweep c.settings c.now).1.length with
  | zero => simp [sweepLines]
  | succ n => simp [sweepLines, Client.asked, Client.logLine]

/-- At every moment the queue is in the order in which its sessions were parked, so that requests
are given the session parked longest, and a sweep of an open pool takes out as many of the first
sessions as were parked for longer than the idle timeout, or, up to the minimum, for longer than
the soft one, and leaves the others in order. The size falls by their number, and nothing else of
the pool changes. Whoever comes between, and whether or not they can be closed, the sweep closes
the sessions that it took out, in order, and ends with their number. On a closed pool it does
nothing. -/
theorem sweep_takes_first {s : PoolSettings} {w : Traffic σ} (v : Server δ σ)
    (h : Traffic.Reachable s w) :
    w.pool.idle.Pairwise (fun i j => i.since ≤ j.since) ∧
    (∀ session p, Acquire.claiming.step s w.pool .proceed = some (.holding session, p) →
      ∃ i rest, w.pool.idle = i :: rest ∧ session = i.session ∧ ∀ j ∈ rest, i.since ≤ j.since) ∧
    (w.pool.closed = false → ∀ now, ∃ gone p,
      Pool.TookFirst (evictions s now s.evictionsPerRun w.pool.idle) w.pool gone p ∧
      p.size + gone.length = w.pool.size ∧
      Task.step s now w.pool (.sweep .start) .proceed =
        some (.sweep (.next gone.length gone), p) ∧
      (∀ i, w.tasks[i]? = some (.sweep .start) → ∀ w',
        Traffic.Runs s { w with
          pool := p, tasks := w.tasks.set i (.sweep (.next gone.length gone)) } w' →
        ∃ m ≤ gone.length, w'.tasks[i]? = some (.sweep (.next gone.length (gone.drop m))) ∧
          w.closed + ↑(gone.take m) ≤ w'.closed) ∧
      ∀ c : Client (δ × List (ServerCall σ)) σ, c.settings = s → c.pool = w.pool → c.now = now →
        ∃ c', v.recorded.sweep c = (gone.length, c') ∧ c'.pool = p ∧
          c'.server = ((v.closeAll gone c.server.1).2, c.server.2 ++ gone.map .close)) ∧
    (w.pool.closed = true → ∀ now,
      Task.step s now w.pool (.sweep .start) .proceed = some (.sweep (.done 0), w.pool) ∧
      ∀ c : Client δ σ, c.settings = s → c.pool = w.pool → c.now = now → v.sweep c = (0, c)) := by
  have hsorted := h.ordered.sorted
  refine ⟨hsorted, ?_, ?_, ?_⟩
  · intro session p hstep
    have hmove : Task.Move s w.clock w.pool (.acquire .claiming) .proceed
        (.acquire (.holding session)) p := Task.move_of_acquire_step hstep
    generalize hi : w.pool.idle = idle at hsorted
    cases hmove with
    | claimIdle hc hidle =>
        obtain rfl := hidle.symm.trans hi
        exact ⟨_, _, rfl, rfl, (List.pairwise_cons.mp hsorted).1⟩
  · intro hc now
    have htook := Pool.tookFirst_sweep s hc hsorted now
    refine ⟨(w.pool.sweep s now).1, (w.pool.sweep s now).2, htook, ?_,
      Task.step_eq_some_iff.mpr .sweep, ?_, ?_⟩
    · have hle := evictions_le s now s.evictionsPerRun w.pool.idle
      have hsize := h.accounted.size
      rw [htook.size, htook.count]
      omega
    · intro i hi w' hrun
      have hlt : i < w.tasks.length := (List.getElem?_eq_some_iff.mp hi).1
      exact hrun.sweep_at (List.getElem?_set_self hlt)
    · rintro c rfl hpool rfl
      rw [sweep_eq, hpool, closeAll_recorded]
      exact ⟨_, rfl, rfl, rfl⟩
  · intro hc now
    refine ⟨?_, ?_⟩
    · have hmove : Task.step s now w.pool (.sweep .start) .proceed = _ :=
        Task.step_eq_some_iff.mpr .sweep
      rwa [Pool.sweep_of_closed hc] at hmove
    · rintro c rfl hpool rfl
      rw [sweep_eq, hpool, Pool.sweep_of_closed hc]
      simp [closeAll, closeLines, sweepLines, Client.withPool, Client.asked, ← hpool]

/-- Of three sessions one is in hand, and the other two were parked one after the other. -/
def aged : Traffic Nat where
  pool :=
    { permits := 2, pending := 0, idle := [⟨1, 0⟩, ⟨2, 1000⟩], size := 3, borrowed := 1,
      closed := false }
  clock := 1000
  tasks := [.acquire (.holding 0), .giveBack .done, .giveBack .done]
  opened := {0} + {1} + {2}
  closed := 0

def agedClient : Client (Nat × List (ServerCall Nat)) Nat where
  settings := { max := 3, min := 1, softIdleTimeoutMs := 2, idleTimeoutMs := 5 }
  connection := {}
  pool := aged.pool
  server := (3, [])
  now := 4500
  log := []

theorem reachable_aged : Traffic.Reachable agedClient.settings aged := by
  have hfresh : Traffic.Reachable (σ := Nat) agedClient.settings (.initial _) := .refl
  have hfirst := Traffic.Runs.request hfresh rfl rfl rfl (Multiset.notMem_zero 0)
  have hsecond := hfirst.request rfl rfl rfl (by decide : 1 ∉ (0 + {0} : Multiset Nat))
  have hthird := hsecond.request rfl rfl rfl (by decide : 2 ∉ (0 + {0} + {1} : Multiset Nat))
  have hparked := (hthird.giveBack (i := 1) rfl).proceed (i := 1) rfl (.park rfl)
  have hlater := (hparked.proceed (i := 1) rfl .givenBack).wait (Nat.zero_le 1000)
  have hparked' := (hlater.giveBack (i := 2) rfl).proceed (i := 2) rfl (.park rfl)
  exact hparked'.proceed (i := 2) rfl .givenBack

theorem sweep_takes_first_aged :
    Traffic.Reachable agedClient.settings aged ∧
    ∃ c', failing.recorded.sweep agedClient = (1, c') ∧ c'.pool.idle = [⟨2, 1000⟩] ∧
      c'.server = (3, [.close 1]) := by
  obtain ⟨-, -, hopen, -⟩ := sweep_takes_first failing reachable_aged
  obtain ⟨gone, p, htook, -, -, -, hsweep⟩ := hopen rfl 4500
  obtain ⟨c', hcall, rfl, hserver⟩ := hsweep agedClient rfl rfl rfl
  have hcount : evictions agedClient.settings 4500 agedClient.settings.evictionsPerRun
    aged.pool.idle = 1 := by decide
  have hgone : gone = [1] := by rw [htook.sessions, hcount]; rfl
  refine ⟨reachable_aged, c', ?_, ?_, ?_⟩
  · rw [hcall, hgone]
    rfl
  · rw [htook.idle, hcount]
    rfl
  · rw [hserver, hgone]
    rfl

end Server

end SqlClient
