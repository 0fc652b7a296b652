import Mathlib.Data.Fintype.EquivFin
import Mathlib.Data.Finset.Dedup
import SqlClient.Proofs.Pool.Shutdown

/-!
How many sessions are open at once. A sweep takes sessions out of the count before it closes them,
and others may be opened meanwhile. Main statement: the open sessions are those that count, less
the places for which none is open yet, and those that sweeps still have to close; they stay within
the maximum for certain only if nothing is ever swept (`live_le_max_iff`).
-/

namespace SqlClient

variable {σ : Type}

theorem Pool.sweepIdle_zero (s : PoolSettings) (now kept : Nat) (idle : List (IdleSession σ)) :
    sweepIdle s now 0 kept idle = ([], idle) := by
  cases idle <;> rfl

theorem Pool.sweep_of_expired {s : PoolSettings} {p : Pool σ} {session : σ} {since budget : Nat}
    (hc : p.closed = false) (hi : p.idle = [⟨session, since⟩])
    (hb : s.evictionsPerRun = budget + 1) :
    p.sweep s (since + s.idleTimeout + 1) =
      ([session], { p with idle := [], size := p.size - 1 }) := by
  have hexpired : s.isExpired (since + s.idleTimeout + 1 - since) 0 = true := by
    have hlate : s.idleTimeout < since + s.idleTimeout + 1 - since := by omega
    simp [PoolSettings.isExpired, hlate]
  simp [sweep, sweepIdle, hc, hi, hb, hexpired]

namespace Task

/-- The number of sessions that a sweep still has to close. -/
def swept : Task σ → Nat
  | sweep (.closing rest _) => rest.length
  | _ => 0

/-- Whether a task has a place for which no session is open. -/
def isVacant : Task σ → Bool
  | acquire .opening => true
  | acquire (.retracting _) => true
  | refill .opening => true
  | refill .unreserving => true
  | _ => false

variable {s : PoolSettings} {now : Nat} {p p' : Pool σ} {signal : Signal σ} {t t' : Task σ}

theorem swept_next (count : Nat) (rest : List σ) :
    (sweep (.next count rest)).swept = rest.length := by
  cases rest <;> rfl

theorem FitsOpen.card_sessions_add (ht : t.FitsOpen) :
    t.sessions.card + t.isVacant.toNat = t.borrows.toNat + t.reserves.toNat + t.swept := by
  rcases t with a | g | k | r | d
  · cases a <;> simp [sessions, isVacant, borrows, reserves, swept]
  · cases g with
    | closing session => exact ht.elim
    | _ => simp [sessions, isVacant, borrows, reserves, swept]
  · cases k <;> simp [sessions, isVacant, borrows, reserves, swept]
  · cases r with
    | closing session => exact ht.elim
    | _ => simp [sessions, isVacant, borrows, reserves, swept]
  · cases d with
    | closing late rest failures => exact ht.elim
    | _ => simp [sessions, isVacant, borrows, reserves, swept]

theorem IsCall.swept_eq_zero (ht : t.IsCall) : t.swept = 0 := by
  cases ht <;> rfl

theorem Move.swept_eq_zero (h : Move s now p t signal t' p') (hev : s.evictionsPerRun = 0)
    (ht : t.swept = 0) : t'.swept = 0 := by
  cases h with
  | sweep =>
      rw [swept_next, Pool.sweep, hev, Pool.sweepIdle_zero]
      split <;> rfl
  | swept => simp [Task.swept] at ht
  | _ => rfl

end Task

namespace Traffic

variable {s : PoolSettings} {w w' : Traffic σ}

/-- The number of sessions that were opened and of which none was asked to close. -/
def live (w : Traffic σ) : Nat :=
  w.opened.card - w.closed.card

def swept (w : Traffic σ) : Nat :=
  (w.tasks.map Task.swept).sum

theorem card_held_add_vacant (h : ∀ t ∈ w.tasks, t.FitsOpen) :
    w.held.card + w.count Task.isVacant =
      w.count Task.borrows + w.count Task.reserves + w.swept := by
  rw [card_held, count_eq_sum, count_eq_sum, count_eq_sum, swept, ← List.sum_map_add,
    ← List.sum_map_add, ← List.sum_map_add]
  congr 1
  exact List.map_congr_left fun t ht => (h t ht).card_sessions_add

theorem Conserved.live_eq (hw : Conserved w) :
    w.live = w.pool.idle.length + w.held.card := by
  rw [live, hw.opened, Multiset.card_add, Multiset.card_add, Nat.add_sub_cancel, Pool.parked,
    Multiset.coe_card, List.length_map]

/-- While the pool is open, a session is live if it counts or if a sweep still has to close it. -/
theorem Reachable.live_add_vacant (h : Reachable s w) (hc : w.pool.closed = false) :
    w.live + w.count Task.isVacant = w.pool.size + w.swept := by
  have hlive := h.conserved.live_eq
  have hheld := card_held_add_vacant fun t ht => h.fitsOpen hc ht
  have hsize := h.accounted.size
  have hborrowed := h.accounted.borrowed
  omega

theorem Reachable.live_le (hmin : s.min ≤ s.max) (h : Reachable s w)
    (hc : w.pool.closed = false) :
    w.live ≤ s.max + w.swept := by
  have hlive := h.live_add_vacant hc
  have hsize := h.size_le hmin
  omega

theorem Reachable.swept_eq_zero (hev : s.evictionsPerRun = 0) (h : Reachable s w) :
    w.swept = 0 := by
  have hzero : ∀ (i : Nat) (t : Task σ), w.tasks[i]? = some t → t.swept = 0 := by
    intro i
    induction h with
    | refl => simp [initial]
    | tail hrun hstep ih =>
        intro t ht
        exact hstep.keeps (fun _ hcall => hcall.swept_eq_zero) (fun _ => rfl)
          (fun hmove => hmove.swept_eq_zero hev) ih ht
  apply List.sum_eq_zero
  intro n hn
  obtain ⟨t, ht, rfl⟩ := List.mem_map.mp hn
  obtain ⟨i, hi⟩ := List.mem_iff_getElem?.mp ht
  exact hzero i t hi

/-- One session after the other can be opened, parked and swept before the first of them is
closed. -/
theorem exists_live_eq [Infinite σ] (hmax : 1 ≤ s.max) (hev : s.evictionsPerRun ≠ 0) (n : Nat) :
    ∃ w : Traffic σ, Reachable s w ∧ w.pool.closed = false ∧ w.live = n := by
  obtain ⟨m, hm⟩ := Nat.exists_eq_add_of_le' hmax
  obtain ⟨budget, hb⟩ := Nat.exists_eq_succ_of_ne_zero hev
  -- after each round the pool is as new, apart from the sweeps in progress
  have hround : ∃ (clock : Nat) (tasks : List (Task σ)) (opened : Multiset σ),
      Reachable s ⟨Pool.fresh s, clock, tasks, opened, 0⟩ ∧ opened.card = n := by
    induction n with
    | zero => exact ⟨0, [], 0, .refl, rfl⟩
    | succ n ih =>
        classical
        obtain ⟨clock, tasks, opened, hrun, hcard⟩ := ih
        obtain ⟨session, hnew⟩ := Infinite.exists_notMem_finset opened.toFinset
        rw [Multiset.mem_toFinset] at hnew
        have hparked := (Runs.request hrun rfl hm rfl hnew).park rfl
        have hlater : clock ≤ clock + s.idleTimeout + 1 := by omega
        have hswept := (hparked.wait hlater).sweep
        rw [Pool.sweep_of_expired rfl rfl hb] at hswept
        have hfresh : Reachable s ⟨{ Pool.fresh s with permits := m + 1 },
            clock + s.idleTimeout + 1,
            tasks ++ [.giveBack .done] ++ [.sweep (.closing [session] 1)],
            opened + {session}, 0⟩ :=
          hswept
        rw [← hm] at hfresh
        exact ⟨_, _, _, hfresh, by simp [hcard]⟩
  obtain ⟨clock, tasks, opened, hrun, hcard⟩ := hround
  exact ⟨_, hrun, rfl, by simp [live, hcard]⟩

/-- While a pool with usable settings is open, the live sessions are those that count, less the
places for which none is open yet, and those that sweeps still have to close, so that they exceed
the maximum by the latter at most. They stay within the maximum, whatever operations run side by
side, exactly if a sweep may not examine any session; otherwise nothing bounds them. -/
theorem live_le_max_iff [Infinite σ] (hs : s.check = .ok ()) :
    (∀ w : Traffic σ, Reachable s w → w.pool.closed = false →
      w.live + w.count Task.isVacant = w.pool.size + w.swept ∧ w.live ≤ s.max + w.swept) ∧
    ((∀ w : Traffic σ, Reachable s w → w.pool.closed = false → w.live ≤ s.max) ↔
      s.evictionsPerRun = 0) ∧
    (s.evictionsPerRun ≠ 0 → ∀ n, ∃ w : Traffic σ,
      Reachable s w ∧ w.pool.closed = false ∧ w.live = n) := by
  obtain ⟨hmax, hmin⟩ := (PoolSettings.check_eq_ok_iff s).mp hs
  refine ⟨?_, ?_, exists_live_eq hmax⟩
  · intro w h hc
    exact ⟨h.live_add_vacant hc, h.live_le hmin hc⟩
  · constructor
    · intro hbound
      by_contra hev
      obtain ⟨w, h, hc, hlive⟩ := exists_live_eq (σ := σ) hmax hev (s.max + 1)
      have hle := hbound w h hc
      omega
    · intro hev w h hc
      have hle := h.live_le hmin hc
      rwa [h.swept_eq_zero hev, Nat.add_zero] at hle

/-- Four sessions are live in a pool for two. -/
theorem max_lt_live_crowded :
    Reachable { max := 2, min := 2, idleTimeoutMs := 0 } crowded ∧
      crowded.pool.closed = false ∧ 2 < crowded.live :=
  ⟨reachable_crowded, rfl, by decide⟩

theorem live_le_max_iff_crowded :
    PoolSettings.check { max := 2, min := 2, idleTimeoutMs := 0 } = .ok () ∧
    Reachable { max := 2, min := 2, idleTimeoutMs := 0 } crowded ∧
      crowded.pool.closed = false ∧
      crowded.live + crowded.count Task.isVacant = 2 + crowded.swept ∧
      ∃ w : Traffic Nat, Reachable { max := 2, min := 2, idleTimeoutMs := 0 } w ∧
        w.pool.closed = false ∧ w.live = 100 :=
  have h := live_le_max_iff (σ := Nat) (s := { max := 2, min := 2, idleTimeoutMs := 0 }) rfl
  ⟨rfl, reachable_crowded, rfl, (h.1 crowded reachable_crowded rfl).1, h.2.2 (by decide) 100⟩

end Traffic
end SqlClient
