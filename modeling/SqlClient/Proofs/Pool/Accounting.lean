import SqlClient.Proofs.Pool.Traffic

namespace SqlClient
variable {σ : Type}

namespace Acquire

/-- Whether a request has a permit that it has not posted. -/
@[simp] def holdsPermit : Acquire σ → Bool
  | granted => true
  | claiming => true
  | opening => true
  | retracting _ => true
  | posting _ => true
  | holding _ => true
  | _ => false

/-- Whether a request is inside its wait for a permit. -/
@[simp] def isWaiting : Acquire σ → Bool
  | waiting => true
  | granted => true
  | expired => true
  | _ => false

/-- Whether a request is counted as having a session in hand. -/
@[simp] def borrows : Acquire σ → Bool
  | opening => true
  | retracting _ => true
  | holding _ => true
  | _ => false

end Acquire

namespace GiveBack

@[simp] def holdsPermit : GiveBack σ → Bool
  | done => false
  | _ => true

@[simp] def borrows : GiveBack σ → Bool
  | start _ => true
  | _ => false

end GiveBack

namespace Refill

@[simp] def holdsPermit : Refill σ → Bool
  | start => false
  | done => false
  | _ => true

/-- Whether a place is reserved for a session that is neither parked nor given up. -/
@[simp] def reserves : Refill σ → Bool
  | opening => true
  | parking _ => true
  | unreserving => true
  | _ => false

end Refill

namespace Task

def holdsPermit : Task σ → Bool
  | acquire a => a.holdsPermit
  | giveBack g => g.holdsPermit
  | refill r => r.holdsPermit
  | sweep _ => false
  | drain _ => false

def isWaiting : Task σ → Bool
  | acquire a => a.isWaiting
  | _ => false

def borrows : Task σ → Bool
  | acquire a => a.borrows
  | giveBack g => g.borrows
  | _ => false

def reserves : Task σ → Bool
  | refill r => r.reserves
  | _ => false

variable {s : PoolSettings} {now : Nat} {p p' : Pool σ} {signal : Signal σ} {t t' : Task σ}

/-- A task that takes a step takes its share of each count with it, provided that the counts cover
what the task had before. -/
theorem Move.balance (h : Move s now p t signal t' p') (hw : t.isWaiting.toNat ≤ p.pending)
    (hb : t.borrows.toNat ≤ p.borrowed)
    (hs : p.idle.length + t.borrows.toNat + t.reserves.toNat ≤ p.size) :
    p'.permits + t'.holdsPermit.toNat = p.permits + t.holdsPermit.toNat ∧
    p'.pending + t.isWaiting.toNat = p.pending + t'.isWaiting.toNat ∧
    p'.borrowed + t.borrows.toNat = p.borrowed + t'.borrows.toNat ∧
    p'.size + (p.idle.length + t.borrows.toNat + t.reserves.toNat) =
      p.size + (p'.idle.length + t'.borrows.toNat + t'.reserves.toNat) := by
  cases h with
  | sweep =>
      obtain ⟨gone, stay, hp, hperm, -⟩ := p.sweep_eq s now
      have hlen := hperm.length_eq
      simp only [List.length_append, List.length_map] at hlen
      simp only [hp, holdsPermit, isWaiting, borrows, reserves, Bool.toNat_false, Nat.add_zero,
        true_and] at hs ⊢
      omega
  | _ => simp_all [holdsPermit, isWaiting, borrows, reserves] <;> omega

theorem Move.size_le (h : Move s now p t signal t' p') :
    p'.size ≤ p.size ∨ p'.idle = [] ∨ p'.size ≤ s.min := by
  cases h with
  | claimPlace hc hi => exact Or.inr (Or.inl hi)
  | reserve hc hm => exact Or.inr (Or.inr hm)
  | sweep =>
      obtain ⟨gone, stay, hp, -, -⟩ := p.sweep_eq s now
      rw [hp]
      exact Or.inl (Nat.sub_le _ _)
  | _ => simp

theorem borrows_add_reserves_le (t : Task σ) :
    t.borrows.toNat + t.reserves.toNat ≤ t.holdsPermit.toNat := by
  rcases t with a | g | k | r | d
  · cases a <;> simp [borrows, reserves, holdsPermit]
  · cases g <;> simp [borrows, reserves, holdsPermit]
  · exact Nat.le_refl _
  · cases r <;> simp [borrows, reserves, holdsPermit]
  · exact Nat.le_refl _

theorem IsCall.has_no_share (ht : t.IsCall) :
    t.holdsPermit = false ∧ t.isWaiting = false ∧ t.borrows = false ∧ t.reserves = false := by
  cases ht <;> exact ⟨rfl, rfl, rfl, rfl⟩

theorem has_no_share_of_finished (h : t.demand = .finished)
    (ht : ∀ session, t ≠ .acquire (.holding session)) :
    t.holdsPermit = false ∧ t.isWaiting = false ∧ t.borrows = false ∧ t.reserves = false := by
  rcases t with a | g | k | r | d
  · cases a <;> simp_all [demand, holdsPermit, isWaiting, borrows, reserves]
  · cases g <;> simp_all [demand, holdsPermit, isWaiting, borrows, reserves]
  · exact ⟨rfl, rfl, rfl, rfl⟩
  · cases r <;> simp_all [demand, holdsPermit, isWaiting, borrows, reserves]
  · exact ⟨rfl, rfl, rfl, rfl⟩

/-- What the next step of a task takes off the counts of a pool. -/
structure Debit where
  size : Nat := 0
  borrowed : Nat := 0
  pending : Nat := 0

def debit (s : PoolSettings) (now : Nat) (p : Pool σ) : Task σ → Debit
  | acquire .granted => { pending := 1 }
  | acquire .expired => { pending := 1 }
  | acquire (.retracting _) => { size := 1, borrowed := 1 }
  | giveBack (.start _) => { size := p.closed.toNat, borrowed := 1 }
  | sweep .start => { size := (p.sweep s now).1.length }
  | refill (.parking _) => { size := p.closed.toNat }
  | refill .unreserving => { size := 1 }
  | drain (.clearing _) => { size := p.idle.length }
  | _ => {}

theorem Move.sub_debit (h : Move s now p t signal t' p') :
    (p'.size = p.size - (t.debit s now p).size ∨
      (t.debit s now p).size = 0 ∧ p'.size = p.size + 1) ∧
    (p'.borrowed = p.borrowed - (t.debit s now p).borrowed ∨
      (t.debit s now p).borrowed = 0 ∧ p'.borrowed = p.borrowed + 1) ∧
    (p'.pending = p.pending - (t.debit s now p).pending ∨
      (t.debit s now p).pending = 0 ∧ p'.pending = p.pending + 1) := by
  cases h with
  | sweep =>
      obtain ⟨gone, stay, hp, -, -⟩ := p.sweep_eq s now
      simp [debit, hp]
  | _ => simp_all [debit]

theorem debit_le (s : PoolSettings) (now : Nat) (t : Task σ) (hw : t.isWaiting.toNat ≤ p.pending)
    (hb : t.borrows.toNat ≤ p.borrowed)
    (hs : p.idle.length + t.borrows.toNat + t.reserves.toNat ≤ p.size) :
    (t.debit s now p).size ≤ p.size ∧ (t.debit s now p).borrowed ≤ p.borrowed ∧
      (t.debit s now p).pending ≤ p.pending := by
  rcases t with a | g | k | r | d
  · cases a <;> simp_all [debit, isWaiting, borrows, reserves]
    omega
  · cases g with
    | start session =>
        have := p.closed.toNat_le
        simp only [debit, borrows, reserves, GiveBack.borrows, Bool.toNat_true,
          Bool.toNat_false] at hb hs ⊢
        omega
    | _ => simp [debit]
  · cases k with
    | start =>
        obtain ⟨gone, stay, hp, hperm, -⟩ := p.sweep_eq s now
        have hlen := hperm.length_eq
        simp only [List.length_append, List.length_map] at hlen
        simp only [debit, hp]
        omega
    | _ => simp [debit]
  · have := p.closed.toNat_le
    cases r <;> simp_all [debit, isWaiting, borrows, reserves] <;> omega
  · cases d <;> simp_all [debit, isWaiting, borrows, reserves]

end Task

namespace Traffic

variable {s : PoolSettings} {w w' : Traffic σ}

/-- The counts of a pool agree with what the operations on it have. -/
structure Accounted (s : PoolSettings) (w : Traffic σ) : Prop where
  permits : w.pool.permits + w.count Task.holdsPermit = s.max
  pending : w.pool.pending = w.count Task.isWaiting
  borrowed : w.pool.borrowed = w.count Task.borrows
  size : w.pool.size = w.pool.idle.length + w.pool.borrowed + w.count Task.reserves

theorem count_borrows_add_count_reserves_le (w : Traffic σ) :
    w.count Task.borrows + w.count Task.reserves ≤ w.count Task.holdsPermit := by
  rw [count_eq_sum, count_eq_sum, count_eq_sum, ← List.sum_map_add]
  exact List.sum_le_sum fun t _ => t.borrows_add_reserves_le

theorem Accounted.covers (hw : Accounted s w) {i : Nat} {t : Task σ} (hi : w.tasks[i]? = some t) :
    t.isWaiting.toNat ≤ w.pool.pending ∧ t.borrows.toNat ≤ w.pool.borrowed ∧
      w.pool.idle.length + t.borrows.toNat + t.reserves.toNat ≤ w.pool.size := by
  have hpending := toNat_le_count hi Task.isWaiting
  have hborrowed := toNat_le_count hi Task.borrows
  have hreserved := toNat_le_count hi Task.reserves
  refine ⟨hw.pending ▸ hpending, hw.borrowed ▸ hborrowed, ?_⟩
  rw [hw.size, hw.borrowed]
  omega

theorem accounted_initial (s : PoolSettings) : Accounted s (initial (σ := σ) s) where
  permits := rfl
  pending := rfl
  borrowed := rfl
  size := rfl

theorem Accounted.call (hw : Accounted s w) {t : Task σ} (ht : t.IsCall) :
    Accounted s { w with tasks := w.tasks ++ [t] } := by
  obtain ⟨hholds, hwaits, hborrows, hreserves⟩ := ht.has_no_share
  constructor
  · rw [count_append, hholds]
    exact hw.permits
  · rw [count_append, hwaits]
    exact hw.pending
  · rw [count_append, hborrows]
    exact hw.borrowed
  · rw [count_append, hreserves]
    exact hw.size

theorem Accounted.giveBack (hw : Accounted s w) {i : Nat} {session : σ}
    (hi : w.tasks[i]? = some (.acquire (.holding session))) :
    Accounted s { w with tasks := w.tasks.set i (.giveBack (.start session)) } := by
  have hcount :=
    count_set_add hi { w with tasks := w.tasks.set i (.giveBack (.start session)) } rfl
  constructor
  · rw [Nat.add_right_cancel (hcount Task.holdsPermit)]
    exact hw.permits
  · rw [Nat.add_right_cancel (hcount Task.isWaiting)]
    exact hw.pending
  · rw [Nat.add_right_cancel (hcount Task.borrows)]
    exact hw.borrowed
  · rw [Nat.add_right_cancel (hcount Task.reserves)]
    exact hw.size

theorem Accounted.advance (hw : Accounted s w) {i now : Nat} {t t' : Task σ} {signal : Signal σ}
    (hi : w.tasks[i]? = some t) (hmove : Task.Move s now w.pool t signal t' w'.pool)
    (htasks : w'.tasks = w.tasks.set i t') : Accounted s w' := by
  obtain ⟨hwaits, hborrows, hplaces⟩ := hw.covers hi
  obtain ⟨hpermits, hpending, hborrowed, hsize⟩ := hmove.balance hwaits hborrows hplaces
  have hcount := count_set_add hi w' htasks
  constructor
  · have := hcount Task.holdsPermit
    have := hw.permits
    omega
  · have := hcount Task.isWaiting
    have := hw.pending
    omega
  · have := hcount Task.borrows
    have := hw.borrowed
    omega
  · have := hcount Task.borrows
    have := hcount Task.reserves
    have := hw.size
    omega

theorem Accounted.step (hw : Accounted s w) (h : Step s w w') : Accounted s w' := by
  cases h with
  | wait hlater => exact ⟨hw.permits, hw.pending, hw.borrowed, hw.size⟩
  | call ht => exact hw.call ht
  | giveBack hi => exact hw.giveBack hi
  | advance hi hnow ht hnew => exact hw.advance hi (Task.step_eq_some_iff.mp ht) rfl

theorem Reachable.accounted (h : Reachable s w) : Accounted s w := by
  induction h with
  | refl => exact accounted_initial s
  | tail _ hstep ih => exact ih.step hstep

theorem Accounted.size_le_of_empty (hw : Accounted s w) (hempty : w.pool.idle = []) :
    w.pool.size ≤ s.max := by
  have hshares := w.count_borrows_add_count_reserves_le
  have hsize := hw.size
  have hborrowed := hw.borrowed
  have hpermits := hw.permits
  rw [hempty, List.length_nil] at hsize
  omega

theorem Step.size_le (hmin : s.min ≤ s.max) (hw' : Accounted s w') (h : Step s w w')
    (hle : w.pool.size ≤ s.max) : w'.pool.size ≤ s.max := by
  cases h with
  | wait hlater => exact hle
  | call ht => exact hle
  | giveBack hi => exact hle
  | advance hi hnow ht hnew =>
      -- the permits bound the size only where the queue is empty, so the bound is carried along
      rcases (Task.step_eq_some_iff.mp ht).size_le with hsize | hempty | hsize
      · exact hsize.trans hle
      · exact hw'.size_le_of_empty hempty
      · exact hsize.trans hmin

theorem Reachable.size_le (hmin : s.min ≤ s.max) (h : Reachable s w) : w.pool.size ≤ s.max := by
  induction h with
  | refl => exact Nat.zero_le _
  | tail hrun hstep ih => exact hstep.size_le hmin (Reachable.accounted (hrun.tail hstep)) ih

theorem Accounted.add_debit (hw : Accounted s w) {t t' : Task σ} (ht : t ∈ w.tasks) {now : Nat}
    {signal : Signal σ} {p : Pool σ} (hmove : Task.Move s now w.pool t signal t' p) :
    (p.size + (t.debit s now w.pool).size = w.pool.size ∨
      (t.debit s now w.pool).size = 0 ∧ p.size = w.pool.size + 1) ∧
    (p.borrowed + (t.debit s now w.pool).borrowed = w.pool.borrowed ∨
      (t.debit s now w.pool).borrowed = 0 ∧ p.borrowed = w.pool.borrowed + 1) ∧
    (p.pending + (t.debit s now w.pool).pending = w.pool.pending ∨
      (t.debit s now w.pool).pending = 0 ∧ p.pending = w.pool.pending + 1) := by
  obtain ⟨i, hi⟩ := List.mem_iff_getElem?.mp ht
  obtain ⟨hwaits, hborrows, hplaces⟩ := hw.covers hi
  obtain ⟨hsize, hborrowed, hpending⟩ := Task.debit_le s now t hwaits hborrows hplaces
  obtain ⟨hsize', hborrowed', hpending'⟩ := hmove.sub_debit
  refine ⟨?_, ?_, ?_⟩
  · exact hsize'.imp_left fun h => by rw [h, Nat.sub_add_cancel hsize]
  · exact hborrowed'.imp_left fun h => by rw [h, Nat.sub_add_cancel hborrowed]
  · exact hpending'.imp_left fun h => by rw [h, Nat.sub_add_cancel hpending]

/-- Whatever operations run side by side on a pool with usable settings, the size is made up of
the parked sessions, those in hand and the reserved places, and stays within the maximum; each
permit is free or with somebody; all who wait are counted; and a step that takes something off a
count takes exactly that off, so that there is never less. -/
theorem counts_add_up (hs : s.check = .ok ()) (h : Reachable s w) :
    w.pool.size = w.pool.idle.length + w.pool.borrowed + w.count Task.reserves ∧
    w.pool.size ≤ s.max ∧
    w.pool.permits + w.count Task.holdsPermit = s.max ∧
    w.pool.pending = w.count Task.isWaiting ∧
    ∀ t ∈ w.tasks, ∀ now signal t' p, t.step s now w.pool signal = some (t', p) →
      (p.size + (t.debit s now w.pool).size = w.pool.size ∨
        (t.debit s now w.pool).size = 0 ∧ p.size = w.pool.size + 1) ∧
      (p.borrowed + (t.debit s now w.pool).borrowed = w.pool.borrowed ∨
        (t.debit s now w.pool).borrowed = 0 ∧ p.borrowed = w.pool.borrowed + 1) ∧
      (p.pending + (t.debit s now w.pool).pending = w.pool.pending ∨
        (t.debit s now w.pool).pending = 0 ∧ p.pending = w.pool.pending + 1) := by
  have hw := h.accounted
  have hle := h.size_le ((PoolSettings.check_eq_ok_iff s).mp hs).2
  refine ⟨hw.size, hle, hw.permits, hw.pending, ?_⟩
  intro t ht now signal t' p hstep
  exact hw.add_debit ht (Task.step_eq_some_iff.mp hstep)

/-- A pool for two sessions was filled at its start. Now a sweep still has to close these two, one
more is in hand, and a refill has just opened another. -/
def crowded : Traffic Nat where
  pool := { permits := 0, pending := 0, idle := [], size := 2, borrowed := 1, closed := false }
  clock := 1
  tasks :=
    [.refill .done, .sweep (.closing [0, 1] 2), .acquire (.holding 2), .refill (.parking 3)]
  opened := {0} + {1} + {2} + {3}
  closed := 0

theorem reachable_crowded : Reachable { max := 2, min := 2, idleTimeoutMs := 0 } crowded := by
  have hfresh : Reachable (σ := Nat) { max := 2, min := 2, idleTimeoutMs := 0 } (initial _) :=
    .refl
  have hone :=
    ((hfresh.call .refill).openRefill rfl rfl (by decide) (Multiset.notMem_zero 0)).parkRefill rfl
  have htwo :=
    (hone.openRefill rfl rfl (by decide)
      (by decide : 1 ∉ (0 + {0} : Multiset Nat))).parkRefill rfl
  have hfilled := htwo.endRefill rfl (by decide)
  have hswept := (hfilled.wait (Nat.zero_le 1)).sweep
  have hheld := hswept.request rfl rfl rfl (by decide : 2 ∉ (0 + {0} + {1} : Multiset Nat))
  exact (hheld.call .refill).openRefill rfl rfl (by decide)
    (by decide : 3 ∉ (0 + {0} + {1} + {2} : Multiset Nat))

theorem counts_add_up_crowded :
    PoolSettings.check { max := 2, min := 2, idleTimeoutMs := 0 } = .ok () ∧
    Reachable { max := 2, min := 2, idleTimeoutMs := 0 } crowded ∧
    crowded.pool.size = 0 + 1 + crowded.count Task.reserves ∧
    crowded.pool.permits + crowded.count Task.holdsPermit = 2 :=
  have h := counts_add_up rfl reachable_crowded
  ⟨rfl, reachable_crowded, h.1, h.2.2.1⟩

end Traffic
end SqlClient
