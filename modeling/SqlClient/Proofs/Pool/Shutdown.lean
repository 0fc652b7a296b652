import SqlClient.Proofs.Pool.Conservation

namespace SqlClient

variable {σ : Type}

namespace Acquire

/-- Whether a request has yet to come to the block that gives it a session or a place for one. -/
def AwaitsClaim : Acquire σ → Prop
  | start => True
  | announcing => True
  | waiting => True
  | granted => True
  | claiming => True
  | _ => False

/-- Whether a request on a closed pool is bound to fail: it has not yet been given a session or a
place for one, or it has already been told so. -/
def IsBarred (s : PoolSettings) : Acquire σ → Prop
  | opening => False
  | retracting _ => False
  | holding _ => False
  | posting e => e = .poolClosed
  | failed e => e = .poolClosed ∨ e = .acquireTimeout s.acquireTimeout
  | _ => True

/-- The number of steps after which a request that is bound to fail has failed at the latest. -/
def stepsLeft : Acquire σ → Nat
  | start => 6
  | announcing => 5
  | waiting => 4
  | granted => 3
  | claiming => 2
  | expired => 1
  | posting _ => 1
  | _ => 0

end Acquire

namespace Task

def IsBarred (s : PoolSettings) : Task σ → Prop
  | acquire a => a.IsBarred s
  | _ => True

/-- Whether a task can stand where it stands while the pool is open. -/
def FitsOpen : Task σ → Prop
  | giveBack (.closing _) => False
  | refill (.closing _) => False
  | drain .start => True
  | drain _ => False
  | _ => True

/-- Whether a shutdown has taken the parked sessions out. -/
def hasCleared : Task σ → Bool
  | drain (.closing _ _ _) => true
  | drain (.done _) => true
  | _ => false

variable {s : PoolSettings} {now : Nat} {p p' : Pool σ} {signal : Signal σ} {t t' : Task σ}

theorem Move.of_closed (h : Move s now p t signal t' p') (hc : p.closed = true) :
    p'.closed = true ∧ p'.size ≤ p.size ∧ p'.borrowed ≤ p.borrowed ∧ p'.idle.Sublist p.idle := by
  cases h with
  | sweep =>
      obtain ⟨gone, stay, hp, -, hclosed⟩ := p.sweep_eq s now
      obtain ⟨-, rfl⟩ := hclosed hc
      rw [hp]
      exact ⟨hc, Nat.sub_le _ _, Nat.le_refl _, List.Sublist.refl _⟩
  | _ => simp_all

theorem Move.isBarred (h : Move s now p t signal t' p') (hc : p.closed = true)
    (ht : t.IsBarred s) : t'.IsBarred s := by
  cases h <;> simp_all [IsBarred, Acquire.IsBarred]

theorem Move.demand_ne_openSession (h : Move s now p t signal t' p') (hc : p.closed = true)
    (ht : t.demand ≠ .openSession) : t'.demand ≠ .openSession := by
  cases h with
  | sweep => cases (p.sweep s now).1 <;> simp [demand, Sweep.next]
  | @swept _ rest => cases rest <;> simp [demand, Sweep.next]
  | clear => cases p.takeIdle.1 <;> simp [demand, Drain.next]
  | @cleared _ _ rest => cases rest <;> simp [demand, Drain.next]
  | _ => simp_all [demand]

theorem Move.fitsOpen (h : Move s now p t signal t' p') (hc : p'.closed = false)
    (ht : t.FitsOpen) : t'.FitsOpen := by
  cases h <;> simp_all [FitsOpen]

theorem Move.idle_eq_nil (h : Move s now p t signal t' p') (ht : t.hasCleared = false)
    (ht' : t'.hasCleared = true) : p'.idle = [] := by
  cases h with
  | clear => rfl
  | _ => simp_all [hasCleared]

theorem IsCall.isBarred (ht : t.IsCall) : t.IsBarred s := by
  cases ht <;> trivial

theorem IsCall.demand_eq (ht : t.IsCall) : t.demand = .proceed := by
  cases ht <;> rfl

theorem IsCall.fitsOpen (ht : t.IsCall) : t.FitsOpen := by
  cases ht <;> trivial

theorem IsCall.hasCleared_eq_false (ht : t.IsCall) : t.hasCleared = false := by
  cases ht <;> rfl

theorem FitsOpen.hasCleared_eq_false (ht : t.FitsOpen) : t.hasCleared = false := by
  unfold hasCleared
  split
  · exact ht.elim
  · exact ht.elim
  · rfl

end Task

namespace Acquire

variable {s : PoolSettings} {p p' : Pool σ} {signal : Signal σ} {a a' : Acquire σ}

theorem stepsLeft_le (a : Acquire σ) : a.stepsLeft ≤ 6 := by
  cases a <;> simp [stepsLeft]

theorem stepsLeft_lt (h : a.step s p signal = some (a', p')) (hc : p.closed = true)
    (ha : a.IsBarred s) : a'.stepsLeft < a.stepsLeft := by
  have hmove : Task.Move s 0 p (.acquire a) signal (.acquire a') p' :=
    Task.move_of_acquire_step h
  cases hmove <;> simp_all [IsBarred, stepsLeft]

theorem IsBarred.failed_or_step (ha : a.IsBarred s) (p : Pool σ) :
    (a = failed .poolClosed ∨ a = failed (.acquireTimeout s.acquireTimeout)) ∨
      ∃ signal a' p', a.step s p signal = some (a', p') := by
  cases a with
  | failed e => exact Or.inl (ha.imp (congrArg failed) (congrArg failed))
  | opening => exact ha.elim
  | retracting e => exact ha.elim
  | holding session => exact ha.elim
  | waiting => exact Or.inr ⟨.timeout, _, _, rfl⟩
  | claiming =>
      refine Or.inr ⟨.proceed, ?_⟩
      simp only [step]
      split <;> exact ⟨_, _, rfl⟩
  | _ => exact Or.inr ⟨.proceed, _, _, rfl⟩

theorem AwaitsClaim.isBarred (ha : a.AwaitsClaim) : a.IsBarred s := by
  cases a <;> trivial

end Acquire

namespace Traffic

variable {s : PoolSettings} {w w' : Traffic σ}

theorem Step.of_closed (h : Step s w w') (hc : w.pool.closed = true) :
    w'.pool.closed = true ∧ w'.pool.size ≤ w.pool.size ∧ w'.pool.borrowed ≤ w.pool.borrowed ∧
      w'.pool.idle.Sublist w.pool.idle := by
  cases h with
  | wait hlater => exact ⟨hc, Nat.le_refl _, Nat.le_refl _, List.Sublist.refl _⟩
  | call ht => exact ⟨hc, Nat.le_refl _, Nat.le_refl _, List.Sublist.refl _⟩
  | giveBack hi => exact ⟨hc, Nat.le_refl _, Nat.le_refl _, List.Sublist.refl _⟩
  | advance hi hnow ht hnew => exact (Task.step_eq_some_iff.mp ht).of_closed hc

theorem Runs.of_closed (h : Runs s w w') (hc : w.pool.closed = true) :
    w'.pool.closed = true ∧ w'.pool.size ≤ w.pool.size ∧ w'.pool.borrowed ≤ w.pool.borrowed ∧
      w'.pool.idle.Sublist w.pool.idle := by
  induction h with
  | refl => exact ⟨hc, Nat.le_refl _, Nat.le_refl _, List.Sublist.refl _⟩
  | tail _ hstep ih =>
      obtain ⟨hclosed, hsize, hborrowed, hidle⟩ := ih
      obtain ⟨hclosed', hsize', hborrowed', hidle'⟩ := hstep.of_closed hclosed
      exact ⟨hclosed', hsize'.trans hsize, hborrowed'.trans hborrowed, hidle'.trans hidle⟩

/-- What holds of every operation at its start, and is kept on a closed pool when the operation
takes a step, is kept at each index once the pool is closed. -/
theorem Runs.keeps (h : Runs s w w') (hc : w.pool.closed = true) {K : Task σ → Prop}
    (hcall : ∀ t, t.IsCall → K t) (hback : ∀ session, K (.giveBack (.start session)))
    (hmove : ∀ {now p signal t t' p'}, p.closed = true → Task.Move s now p t signal t' p' →
      K t → K t')
    {i : Nat} (hw : ∀ t, w.tasks[i]? = some t → K t) : ∀ t, w'.tasks[i]? = some t → K t := by
  induction h with
  | refl => exact hw
  | tail hrun hstep ih =>
      intro t ht
      exact hstep.keeps hcall hback (hmove (Runs.of_closed hrun hc).1) ih ht

theorem Runs.isBarred (h : Runs s w w') (hc : w.pool.closed = true) {i : Nat}
    (hw : ∀ t, w.tasks[i]? = some t → t.IsBarred s) :
    ∀ t, w'.tasks[i]? = some t → t.IsBarred s :=
  h.keeps hc (fun _ hcall => hcall.isBarred) (fun _ => trivial)
    (fun hclosed hmove => hmove.isBarred hclosed) hw

theorem Runs.demand_ne_openSession (h : Runs s w w') (hc : w.pool.closed = true) {i : Nat}
    (hw : ∀ t, w.tasks[i]? = some t → t.demand ≠ .openSession) :
    ∀ t, w'.tasks[i]? = some t → t.demand ≠ .openSession := by
  refine h.keeps hc ?_ ?_ (fun hclosed hmove => hmove.demand_ne_openSession hclosed) hw
  · intro t hcall
    simp [hcall.demand_eq]
  · simp [Task.demand]

theorem Reachable.fitsOpen (h : Reachable s w) (hc : w.pool.closed = false) {t : Task σ}
    (ht : t ∈ w.tasks) : t.FitsOpen := by
  obtain ⟨i, hi⟩ := List.mem_iff_getElem?.mp ht
  clear ht
  induction h generalizing i t with
  | refl => simp [initial] at hi
  | @tail b c hrun hstep ih =>
      have hopen : b.pool.closed = false := by
        rw [← Bool.not_eq_true]
        intro hclosed
        simp [(hstep.of_closed hclosed).1] at hc
      exact hstep.keeps (fun _ hcall => hcall.fitsOpen) (fun _ => trivial)
        (fun hmove => hmove.fitsOpen hc) (fun u hu => ih hopen i hu) hi

theorem Reachable.idle_eq_nil (h : Reachable s w) {t : Task σ} (ht : t ∈ w.tasks)
    (hcleared : t.hasCleared = true) : w.pool.idle = [] := by
  obtain ⟨i, hi⟩ := List.mem_iff_getElem?.mp ht
  clear ht
  revert hcleared
  -- by induction on the run, for the operation of one index: when it takes them out the queue is
  -- emptied, and the pool is closed by then, so that nothing is parked afterwards
  induction h generalizing i t with
  | refl => simp [initial] at hi
  | @tail b c hrun hstep ih =>
      refine hstep.keeps (K := fun u => u.hasCleared = true → c.pool.idle = []) ?_ ?_ ?_ ?_ hi
      · intro u hcall hu
        simp [hcall.hasCleared_eq_false] at hu
      · intro session hu
        simp [Task.hasCleared] at hu
      · intro now u signal u' hmove hu hu'
        cases hbefore : u.hasCleared with
        | true => exact hu hbefore
        | false => exact hmove.idle_eq_nil hbefore hu'
      · intro u hu hbefore
        have hclosed : b.pool.closed = true := by
          rw [← Bool.not_eq_false]
          intro hopen
          simp [(Reachable.fitsOpen hrun hopen (List.mem_of_getElem? hu)).hasCleared_eq_false]
            at hbefore
        have hidle := (hstep.of_closed hclosed).2.2.2
        rw [ih i hu hbefore] at hidle
        exact List.sublist_nil.mp hidle

theorem Reachable.empty_of_finished (h : Reachable s w) (hidle : w.pool.idle = [])
    (hfinished : ∀ t ∈ w.tasks, t.demand = .finished)
    (hhands : ∀ session, .acquire (.holding session) ∉ w.tasks) :
    w.pool.size = 0 ∧ w.pool.borrowed = 0 ∧ w.pool.pending = 0 ∧ w.pool.permits = s.max ∧
      w.opened = w.closed := by
  have hshares : ∀ t ∈ w.tasks, t.holdsPermit = false ∧ t.isWaiting = false ∧
      t.borrows = false ∧ t.reserves = false := fun t ht =>
    t.has_no_share_of_finished (hfinished t ht) fun session heq => hhands session (heq ▸ ht)
  have hpermits : w.count Task.holdsPermit = 0 :=
    List.countP_eq_zero.mpr fun t ht => Bool.eq_false_iff.mp (hshares t ht).1
  have hwaits : w.count Task.isWaiting = 0 :=
    List.countP_eq_zero.mpr fun t ht => Bool.eq_false_iff.mp (hshares t ht).2.1
  have hborrows : w.count Task.borrows = 0 :=
    List.countP_eq_zero.mpr fun t ht => Bool.eq_false_iff.mp (hshares t ht).2.2.1
  have hreserves : w.count Task.reserves = 0 :=
    List.countP_eq_zero.mpr fun t ht => Bool.eq_false_iff.mp (hshares t ht).2.2.2
  have hheld : w.held = 0 := by
    rw [← Multiset.card_eq_zero, card_held_of_finished hfinished, hborrows]
  have hw := h.accounted
  have hborrowed : w.pool.borrowed = 0 := by rw [hw.borrowed, hborrows]
  refine ⟨?_, hborrowed, ?_, ?_, ?_⟩
  · rw [hw.size, hidle, hborrowed, hreserves]
    rfl
  · rw [hw.pending, hwaits]
  · have hsum := hw.permits
    rwa [hpermits, Nat.add_zero] at hsum
  · rw [h.conserved.opened, hheld, Pool.parked, hidle]
    simp

/-- Once a pool is closed, a request that has yet to be given a session never has one: it fails
within six steps of its own, for the pool is closed or the wait was too long, and nothing keeps it
from taking them. No place is given for a new session, no count grows, nothing is parked, and each
permit is free or with somebody. Once a shutdown has come to its end, all sessions in hand were
given back and no operation is in progress, the pool is empty, all its permits are free, and each
session that was ever opened was closed once, whether or not the shutdown was late and whether or
not a session could be closed. -/
theorem shutdown_leaves_nothing (h : Reachable s w) (hc : w.pool.closed = true)
    (hrun : Runs s w w') :
    (∀ (i : Nat) (a : Acquire σ), (∀ b, w.tasks[i]? = some (.acquire b) → b.AwaitsClaim) →
      w'.tasks[i]? = some (.acquire a) →
      (∀ session, a ≠ .holding session) ∧
      ((a = .failed .poolClosed ∨ a = .failed (.acquireTimeout s.acquireTimeout)) ∨
        ∃ signal a' p', a.step s w'.pool signal = some (a', p')) ∧
      a.stepsLeft ≤ 6 ∧
      ∀ signal a' p', a.step s w'.pool signal = some (a', p') → a'.stepsLeft < a.stepsLeft) ∧
    (∀ (i : Nat) (t' : Task σ), w'.tasks[i]? = some t' → t'.demand = .openSession →
      ∃ t, w.tasks[i]? = some t ∧ t.demand = .openSession) ∧
    (w'.pool.closed = true ∧ w'.pool.size ≤ w.pool.size ∧ w'.pool.borrowed ≤ w.pool.borrowed ∧
      w'.pool.idle.Sublist w.pool.idle) ∧
    w'.pool.permits + w'.count Task.holdsPermit = s.max ∧
    ((∃ report, .drain (.done report) ∈ w'.tasks) →
      (∀ session, .acquire (.holding session) ∉ w'.tasks) →
      (∀ t ∈ w'.tasks, t.demand = .finished) →
      w'.pool.size = 0 ∧ w'.pool.idle = [] ∧ w'.pool.borrowed = 0 ∧ w'.pool.permits = s.max ∧
        w'.opened = w'.closed ∧ w'.closed.Nodup) := by
  have h' : Reachable s w' := h.trans hrun
  have hfalls := hrun.of_closed hc
  refine ⟨?_, ?_, hfalls, h'.accounted.permits, ?_⟩
  · intro i a hb ha
    have hw : ∀ t, w.tasks[i]? = some t → t.IsBarred s := by
      intro t ht
      cases t with
      | acquire b => exact (hb b ht).isBarred
      | _ => trivial
    have hbarred : a.IsBarred s := hrun.isBarred hc hw _ ha
    refine ⟨?_, hbarred.failed_or_step w'.pool, a.stepsLeft_le, ?_⟩
    · rintro session rfl
      exact hbarred
    · intro signal a' p' hstep
      exact Acquire.stepsLeft_lt hstep hfalls.1 hbarred
  · intro i t' ht' hdemand
    by_contra hnone
    refine hrun.demand_ne_openSession hc ?_ t' ht' hdemand
    intro t ht heq
    exact hnone ⟨t, ht, heq⟩
  · rintro ⟨report, hdone⟩ hhands hfinished
    have hidle := h'.idle_eq_nil hdone rfl
    obtain ⟨hsize, hborrowed, -, hpermits, hopened⟩ :=
      h'.empty_of_finished hidle hfinished hhands
    exact ⟨hsize, hidle, hborrowed, hpermits, hopened, hopened ▸ h'.conserved.nodup⟩

/-- A session is in hand and a request waits for its permit when a shutdown begins. -/
def closing : Traffic Nat where
  pool := { permits := 0, pending := 1, idle := [], size := 1, borrowed := 1, closed := true }
  clock := 0
  tasks := [.acquire (.holding 0), .acquire .waiting, .drain (.polling 0)]
  opened := {0}
  closed := 0

/-- The shutdown was late, and the session was given back after it. -/
def emptied : Traffic Nat where
  pool := { permits := 1, pending := 0, idle := [], size := 0, borrowed := 0, closed := true }
  clock := 5000
  tasks := [.giveBack .done, .acquire (.failed .poolClosed),
    .drain (.done ⟨some (Drain.lateError { max := 1, drainTimeoutMs := 5 } 1), none⟩)]
  opened := {0}
  closed := {0}

theorem reachable_closing : Reachable { max := 1, drainTimeoutMs := 5 } closing := by
  have hfresh : Reachable (σ := Nat) { max := 1, drainTimeoutMs := 5 } (initial _) := .refl
  have hheld := Runs.request hfresh rfl rfl rfl (Multiset.notMem_zero 0)
  have hasked := (hheld.call .acquire).call .drain
  have hwaits := (hasked.proceed (i := 1) rfl (.enter rfl)).proceed (i := 1) rfl .announce
  exact hwaits.proceed (i := 2) rfl .shut

theorem runs_closing_emptied : Runs { max := 1, drainTimeoutMs := 5 } closing emptied := by
  have hlater : Runs { max := 1, drainTimeoutMs := 5 } closing { closing with clock := 5000 } :=
    Runs.wait .refl (Nat.zero_le _)
  have hlate := hlater.proceed (i := 2) rfl (.late (by decide) (by decide))
  have hgiven := (hlate.proceed (i := 2) rfl .clear).giveBack (i := 0) rfl
  have hclosing := hgiven.proceed (i := 0) rfl (.discard rfl)
  have hclosed := hclosing.advance (i := 0) rfl (@Task.Move.discarded _ _ _ _ _ (some "reset"))
    (Multiset.zero_disjoint _)
  have hposted := hclosed.proceed (i := 0) rfl .givenBack
  have hclaims := (hposted.proceed (i := 1) rfl (.grant rfl)).proceed (i := 1) rfl .endWait
  exact (hclaims.proceed (i := 1) rfl (.claimClosed rfl)).proceed (i := 1) rfl .fail

theorem shutdown_leaves_nothing_emptied :
    Reachable { max := 1, drainTimeoutMs := 5 } closing ∧ closing.pool.closed = true ∧
    Runs { max := 1, drainTimeoutMs := 5 } closing emptied ∧
    (∀ b, closing.tasks[1]? = some (.acquire b) → b.AwaitsClaim) ∧
    emptied.tasks[1]? = some (.acquire (.failed .poolClosed)) ∧
    (∀ session : Nat, .failed .poolClosed ≠ Acquire.holding session) ∧
    emptied.pool.size = 0 ∧ emptied.pool.permits = 1 ∧ emptied.opened = emptied.closed := by
  obtain ⟨hfails, -, -, -, hempty⟩ :=
    shutdown_leaves_nothing reachable_closing rfl runs_closing_emptied
  have hawaits : ∀ b, closing.tasks[1]? = some (.acquire b) → b.AwaitsClaim := by
    intro b hb
    obtain rfl : .waiting = b := by simpa [closing] using hb
    trivial
  obtain ⟨hsize, -, -, hpermits, hopened, -⟩ := hempty
    ⟨⟨some (Drain.lateError { max := 1, drainTimeoutMs := 5 } 1), none⟩, by simp [emptied]⟩
    (by simp [emptied])
    (by simp [emptied, Task.demand])
  exact ⟨reachable_closing, rfl, runs_closing_emptied, hawaits, rfl, (hfails 1 _ hawaits rfl).1,
    hsize, hpermits, hopened⟩

end Traffic
end SqlClient
