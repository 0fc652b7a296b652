import SqlClient.Proofs.Pool.Eviction

/-!
The soft timeout. It is the number of parked sessions that a sweep compares with the minimum, and
those in hand do not count. So a session that has exceeded the soft timeout stays only if no more
than the minimum stay parked, however many are in hand besides. Main statement:
`soft_timeout_keeps_minimum_parked`.
-/

namespace SqlClient

variable {δ σ : Type}

section Queue

variable {s : PoolSettings} {now limit budget a : Nat} {idle : List (IdleSession σ)}
  {i : IdleSession σ}

theorem lt_parkedLonger_iff (hsorted : idle.Pairwise fun i j => i.since ≤ j.since)
    (hi : idle[a]? = some i) (ha : a < budget) :
    a < parkedLonger now limit budget idle ↔ limit < now - i.since := by
  induction idle generalizing a budget with
  | nil => simp at hi
  | cons j rest ih =>
      obtain ⟨hrest, hsorted⟩ := List.pairwise_cons.mp hsorted
      obtain ⟨budget, rfl⟩ := Nat.exists_eq_add_one.mpr (Nat.zero_lt_of_lt ha)
      rw [parkedLonger_cons]
      cases a with
      | zero =>
          obtain rfl : j = i := by simpa using hi
          by_cases hj : limit < now - j.since
          · simp [hj]
          · simp [hj, parkedLonger_eq_zero now limit budget hrest hj]
      | succ a =>
          rw [List.getElem?_cons_succ] at hi
          by_cases hj : limit < now - j.since
          · rw [if_pos hj, Nat.add_lt_add_iff_right, ih hsorted hi (Nat.lt_of_succ_lt_succ ha)]
          · have hlater := hrest i (List.mem_of_getElem? hi)
            rw [if_neg hj, parkedLonger_eq_zero now limit budget hrest hj]
            omega

theorem parkedLonger_le_budget (now limit budget : Nat) (idle : List (IdleSession σ)) :
    parkedLonger now limit budget idle ≤ budget :=
  List.countP_le_length.trans (List.length_take_le _ _)

theorem evictions_le_budget (s : PoolSettings) (now budget : Nat) (idle : List (IdleSession σ)) :
    evictions s now budget idle ≤ budget := by
  have hhard := parkedLonger_le_budget now s.idleTimeout budget idle
  have hsoft := parkedLonger_le_budget now s.softIdleTimeout budget idle
  unfold evictions
  split_ifs <;> omega

theorem length_sub_evictions_le (hsoft : s.softIdleTimeout ≠ 0)
    (ha : a < parkedLonger now s.softIdleTimeout budget idle)
    (hstays : evictions s now budget idle ≤ a) :
    idle.length - evictions s now budget idle ≤ s.min := by
  unfold evictions at hstays ⊢
  rw [if_neg hsoft] at hstays ⊢
  omega

theorem le_length_sub_evictions (ha : parkedLonger now s.idleTimeout budget idle ≤ a)
    (hgoes : a < evictions s now budget idle) :
    s.softIdleTimeout ≠ 0 ∧ a < parkedLonger now s.softIdleTimeout budget idle ∧
      s.min ≤ idle.length - evictions s now budget idle := by
  unfold evictions at hgoes ⊢
  split_ifs at hgoes ⊢ with hsoft
  · omega
  · refine ⟨hsoft, ?_, ?_⟩ <;> omega

end Queue

namespace Traffic

variable {s : PoolSettings} {w : Traffic σ} {i : IdleSession σ}

theorem Conserved.mem_drop_iff (hw : Conserved w) {a : Nat}
    (hi : w.pool.idle[a]? = some i) (k : Nat) :
    i ∈ w.pool.idle.drop k ↔ k ≤ a := by
  rw [List.mem_iff_getElem?]
  constructor
  · rintro ⟨b, hb⟩
    rw [List.getElem?_drop] at hb
    have hdropped : w.IsAt i.session (.inQueue (k + b)) := ⟨i, hb, rfl⟩
    have hplace : w.IsAt i.session (.inQueue a) := ⟨i, hi, rfl⟩
    obtain rfl := Place.inQueue.inj (hw.place_eq hdropped hplace)
    exact Nat.le_add_right k b
  · intro hka
    exact ⟨a - k, by rw [List.getElem?_drop, Nat.add_sub_cancel' hka, hi]⟩

end Traffic

namespace Server

/-- However many sessions are in hand, if one of those that a sweep examines has exceeded the soft
timeout and stays, no more than the minimum are parked after it, so that the size exceeds the
minimum at most by the sessions in hand and those about to be opened. A session that goes without
having exceeded the idle timeout has exceeded the soft one, and at least the minimum stay
parked. -/
theorem soft_timeout_keeps_minimum_parked {s : PoolSettings} {w : Traffic σ} (v : Server δ σ)
    (h : Traffic.Reachable s w) (hopen : w.pool.closed = false) (hsoft : 0 < s.softIdleTimeout)
    (now : Nat) :
    ∃ gone p,
      Task.step s now w.pool (.sweep .start) .proceed =
        some (.sweep (.next gone.length gone), p) ∧
      (∀ c : Client δ σ, c.settings = s → c.pool = w.pool → c.now = now →
        (v.sweep c).1 = gone.length ∧ (v.sweep c).2.pool = p) ∧
      (∀ i ∈ w.pool.idle.take s.evictionsPerRun, s.softIdleTimeout < now - i.since → i ∈ p.idle →
        p.idle.length ≤ s.min ∧ p.size ≤ s.min + p.borrowed + w.count Task.reserves) ∧
      ∀ i ∈ w.pool.idle, i ∉ p.idle → now - i.since ≤ s.idleTimeout →
        s.softIdleTimeout < now - i.since ∧ s.min ≤ p.idle.length := by
  -- the queue is sorted, so a sweep takes its first sessions, and the place of a session in it
  -- tells whether it stays
  have hsorted := h.ordered.sorted
  have hsize := h.accounted.size
  have htook := Pool.tookFirst_sweep s hopen hsorted now
  have hcount := evictions_le s now s.evictionsPerRun w.pool.idle
  have hbudget := evictions_le_budget s now s.evictionsPerRun w.pool.idle
  have hlength : (w.pool.sweep s now).2.idle.length =
      w.pool.idle.length - evictions s now s.evictionsPerRun w.pool.idle := by
    rw [htook.idle, List.length_drop]
  refine ⟨_, _, Task.step_eq_some_iff.mpr .sweep, ?_, ?_, ?_⟩
  · rintro c rfl hpool rfl
    rw [sweep_eq, hpool]
    exact ⟨rfl, rfl⟩
  · intro i hi hlonger hstays
    obtain ⟨a, ha⟩ := List.mem_iff_getElem?.mp hi
    rw [List.getElem?_take] at ha
    split at ha
    next hexamined =>
      have hplace := (lt_parkedLonger_iff hsorted ha hexamined).mpr hlonger
      rw [htook.idle, h.conserved.mem_drop_iff ha] at hstays
      have hmin := length_sub_evictions_le hsoft.ne' hplace hstays
      rw [hlength, htook.size, htook.borrowed]
      omega
    next => simp at ha
  · intro i hi hgoes hwithin
    obtain ⟨a, ha⟩ := List.mem_iff_getElem?.mp hi
    rw [htook.idle, h.conserved.mem_drop_iff ha, Nat.not_le] at hgoes
    have hexamined := hgoes.trans_le hbudget
    have hhard := mt (lt_parkedLonger_iff hsorted ha hexamined).mp (Nat.not_lt.mpr hwithin)
    obtain ⟨-, hplace, hmin⟩ := le_length_sub_evictions (Nat.not_lt.mp hhard) hgoes
    exact ⟨(lt_parkedLonger_iff hsorted ha hexamined).mp hplace, hlength ▸ hmin⟩

theorem soft_timeout_keeps_minimum_parked_aged :
    Traffic.Reachable agedClient.settings aged ∧ aged.pool.closed = false ∧
    0 < agedClient.settings.softIdleTimeout ∧
    ∃ p, Task.step agedClient.settings 4500 aged.pool (.sweep .start) .proceed =
        some (.sweep (.next 1 [1]), p) ∧
      p.idle = [⟨2, 1000⟩] ∧ p.idle.length ≤ agedClient.settings.min ∧
      p.size ≤ agedClient.settings.min + p.borrowed + aged.count Task.reserves := by
  obtain ⟨gone, p, hstep, -, hstays, -⟩ :=
    soft_timeout_keeps_minimum_parked failing reachable_aged rfl (by decide) 4500
  have hswept : Task.step agedClient.settings 4500 aged.pool (.sweep .start) .proceed =
      some (.sweep (.next 1 [1]), { aged.pool with idle := [⟨2, 1000⟩], size := 2 }) := rfl
  obtain ⟨-, rfl⟩ := Prod.mk.inj (Option.some.inj (hstep.symm.trans hswept))
  obtain ⟨hidle, hsize⟩ := hstays ⟨2, 1000⟩ (by simp [aged, agedClient]) (by decide) (by simp)
  exact ⟨reachable_aged, rfl, by decide, _, hswept, rfl, hidle, hsize⟩

/-- The other one stays although with the session in hand there are more than the minimum. -/
theorem soft_timeout_exceeds_minimum_aged :
    Traffic.Reachable agedClient.settings aged ∧ aged.pool.closed = false ∧
    0 < agedClient.settings.softIdleTimeout ∧
    ∃ p, Task.step agedClient.settings 4500 aged.pool (.sweep .start) .proceed =
        some (.sweep (.next 1 [1]), p) ∧
      ⟨2, 1000⟩ ∈ aged.pool.idle.take agedClient.settings.evictionsPerRun ∧
      agedClient.settings.softIdleTimeout < 4500 - 1000 ∧ ⟨2, 1000⟩ ∈ p.idle ∧
      p.size = p.idle.length + p.borrowed ∧ agedClient.settings.min < p.size :=
  ⟨reachable_aged, rfl, by decide, { aged.pool with idle := [⟨2, 1000⟩], size := 2 }, rfl,
    by simp [aged, agedClient], by decide, by simp, rfl, by decide⟩

end Server

end SqlClient
