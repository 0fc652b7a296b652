import SqlClient.Pool.Task

namespace SqlClient

variable {σ : Type}

namespace Pool

-- the blocks that only count are opened wherever they stand
attribute [simp] postPermit announce withdraw retract unreserve close takeIdle

theorem takePermit?_eq_some_iff {p p' : Pool σ} :
    p.takePermit? = some p' ↔ ∃ n, p.permits = n + 1 ∧ p' = { p with permits := n } := by
  unfold Pool.takePermit?
  split <;> rename_i hn <;> simp [hn, eq_comm]

theorem claim_of_closed {p : Pool σ} (hc : p.closed = true) : p.claim = (.closed, p) := by
  simp [Pool.claim, hc]

theorem claim_of_idle {p : Pool σ} {i : IdleSession σ} {rest : List (IdleSession σ)}
    (hc : p.closed = false) (hi : p.idle = i :: rest) :
    p.claim = (.reused i.session, { p with idle := rest, borrowed := p.borrowed + 1 }) := by
  simp [Pool.claim, hc, hi]

theorem claim_of_empty {p : Pool σ} (hc : p.closed = false) (hi : p.idle = []) :
    p.claim = (.reserved, { p with size := p.size + 1, borrowed := p.borrowed + 1 }) := by
  simp [Pool.claim, hc, hi]

theorem giveBack_of_closed {p : Pool σ} (hc : p.closed = true) (session : σ) (now : Nat) :
    p.giveBack session now = (some session, p.retract) := by
  simp [Pool.giveBack, Pool.retract, hc]

theorem giveBack_of_open {p : Pool σ} (hc : p.closed = false) (session : σ) (now : Nat) :
    p.giveBack session now =
      (none, { p with borrowed := p.borrowed - 1, idle := p.idle ++ [⟨session, now⟩] }) := by
  simp [Pool.giveBack, hc]

theorem park_of_closed {p : Pool σ} (hc : p.closed = true) (session : σ) (now : Nat) :
    p.park session now = (some session, p.unreserve) := by
  simp [Pool.park, Pool.unreserve, hc]

theorem park_of_open {p : Pool σ} (hc : p.closed = false) (session : σ) (now : Nat) :
    p.park session now = (none, { p with idle := p.idle ++ [⟨session, now⟩] }) := by
  simp [Pool.park, hc]

theorem reserve?_eq_none_iff {s : PoolSettings} {p : Pool σ} :
    p.reserve? s = none ↔ p.closed = true ∨ s.min ≤ p.size := by
  cases hc : p.closed <;> simp [Pool.reserve?, hc]

theorem reserve?_of_lt {s : PoolSettings} {p : Pool σ} (hc : p.closed = false)
    (hm : p.size < s.min) : p.reserve? s = some { p with size := p.size + 1 } := by
  simp [Pool.reserve?, hc, hm]

theorem sweepIdle_perm (s : PoolSettings) (now budget kept : Nat) (idle : List (IdleSession σ)) :
    ((sweepIdle s now budget kept idle).1 ++
      (sweepIdle s now budget kept idle).2.map IdleSession.session).Perm
        (idle.map IdleSession.session) := by
  induction idle generalizing budget kept with
  | nil => cases budget <;> simp [sweepIdle]
  | cons i rest ih =>
      cases budget with
      | zero => simp [sweepIdle]
      | succ budget =>
          rw [sweepIdle]
          split
          · simpa using ih budget kept
          · simpa using List.perm_middle.trans ((ih budget (kept + 1)).cons i.session)

theorem sweep_eq (s : PoolSettings) (now : Nat) (p : Pool σ) :
    ∃ gone stay,
      p.sweep s now = (gone, { p with idle := stay, size := p.size - gone.length }) ∧
      (gone ++ stay.map IdleSession.session).Perm (p.idle.map IdleSession.session) ∧
      (p.closed = true → gone = [] ∧ stay = p.idle) := by
  by_cases hc : p.closed = true
  · refine ⟨[], p.idle, ?_, List.Perm.refl _, fun _ => ⟨rfl, rfl⟩⟩
    rw [sweep, if_pos hc]
    rfl
  · refine ⟨_, _, ?_, sweepIdle_perm s now s.evictionsPerRun 0 p.idle, fun h => absurd h hc⟩
    rw [sweep, if_neg hc]

end Pool

namespace Task

attribute [simp] Acquire.demand GiveBack.demand Sweep.demand Refill.demand Drain.demand

/-- A step of a task at a moment, from a pool to a pool. -/
inductive Move (s : PoolSettings) (now : Nat) (p : Pool σ) :
    Task σ → Signal σ → Task σ → Pool σ → Prop
  -- asking for a session
  | enter (hc : p.closed = false) :
      Move s now p (.acquire .start) .proceed (.acquire .announcing) p
  | turnAway (hc : p.closed = true) :
      Move s now p (.acquire .start) .proceed (.acquire (.failed .poolClosed)) p
  | announce :
      Move s now p (.acquire .announcing) .proceed (.acquire .waiting) p.announce
  | grant {n : Nat} (hn : p.permits = n + 1) :
      Move s now p (.acquire .waiting) .proceed (.acquire .granted) { p with permits := n }
  | expire :
      Move s now p (.acquire .waiting) .timeout (.acquire .expired) p
  | endWait :
      Move s now p (.acquire .granted) .proceed (.acquire .claiming) p.withdraw
  | giveUp :
      Move s now p (.acquire .expired) .proceed
        (.acquire (.failed (.acquireTimeout s.acquireTimeout))) p.withdraw
  | claimClosed (hc : p.closed = true) :
      Move s now p (.acquire .claiming) .proceed (.acquire (.posting .poolClosed)) p
  | claimIdle {i : IdleSession σ} {rest : List (IdleSession σ)} (hc : p.closed = false)
      (hi : p.idle = i :: rest) :
      Move s now p (.acquire .claiming) .proceed (.acquire (.holding i.session))
        { p with idle := rest, borrowed := p.borrowed + 1 }
  | claimPlace (hc : p.closed = false) (hi : p.idle = []) :
      Move s now p (.acquire .claiming) .proceed (.acquire .opening)
        { p with size := p.size + 1, borrowed := p.borrowed + 1 }
  | opened {session : σ} :
      Move s now p (.acquire .opening) (.opened session) (.acquire (.holding session)) p
  | refused {e : ClientError} :
      Move s now p (.acquire .opening) (.refused e) (.acquire (.retracting e)) p
  | retract {e : ClientError} :
      Move s now p (.acquire (.retracting e)) .proceed (.acquire (.posting e)) p.retract
  | fail {e : ClientError} :
      Move s now p (.acquire (.posting e)) .proceed (.acquire (.failed e)) p.postPermit
  -- giving one back
  | park {session : σ} (hc : p.closed = false) :
      Move s now p (.giveBack (.start session)) .proceed (.giveBack .posting)
        { p with borrowed := p.borrowed - 1, idle := p.idle ++ [⟨session, now⟩] }
  | discard {session : σ} (hc : p.closed = true) :
      Move s now p (.giveBack (.start session)) .proceed (.giveBack (.closing session)) p.retract
  | discarded {session : σ} {failure : Option String} :
      Move s now p (.giveBack (.closing session)) (.closed failure) (.giveBack .posting) p
  | givenBack :
      Move s now p (.giveBack .posting) .proceed (.giveBack .done) p.postPermit
  -- closing parked sessions
  | sweep :
      Move s now p (.sweep .start) .proceed
        (.sweep (.next (p.sweep s now).1.length (p.sweep s now).1)) (p.sweep s now).2
  | swept {session : σ} {rest : List σ} {count : Nat} {failure : Option String} :
      Move s now p (.sweep (.closing (session :: rest) count)) (.closed failure)
        (.sweep (.next count rest)) p
  -- opening sessions up to the minimum
  | grantRefill {n : Nat} (hn : p.permits = n + 1) :
      Move s now p (.refill .start) .proceed (.refill .reserving) { p with permits := n }
  | skipRefill (hn : p.permits = 0) :
      Move s now p (.refill .start) .proceed (.refill .done) p
  | reserve (hc : p.closed = false) (hm : p.size < s.min) :
      Move s now p (.refill .reserving) .proceed (.refill .opening) { p with size := p.size + 1 }
  | endRefill (hr : p.closed = true ∨ s.min ≤ p.size) :
      Move s now p (.refill .reserving) .proceed (.refill (.posting false)) p
  | openedRefill {session : σ} :
      Move s now p (.refill .opening) (.opened session) (.refill (.parking session)) p
  | refusedRefill {e : ClientError} :
      Move s now p (.refill .opening) (.refused e) (.refill .unreserving) p
  | parkRefill {session : σ} (hc : p.closed = false) :
      Move s now p (.refill (.parking session)) .proceed (.refill (.posting true))
        { p with idle := p.idle ++ [⟨session, now⟩] }
  | discardRefill {session : σ} (hc : p.closed = true) :
      Move s now p (.refill (.parking session)) .proceed (.refill (.closing session)) p.unreserve
  | unreserve :
      Move s now p (.refill .unreserving) .proceed (.refill (.posting false)) p.unreserve
  | discardedRefill {session : σ} {failure : Option String} :
      Move s now p (.refill (.closing session)) (.closed failure) (.refill (.posting false)) p
  | again :
      Move s now p (.refill (.posting true)) .proceed (.refill .start) p.postPermit
  | refilled :
      Move s now p (.refill (.posting false)) .proceed (.refill .done) p.postPermit
  -- shutting the pool down
  | shut :
      Move s now p (.drain .start) .proceed (.drain (.polling now)) p.close
  | allBack {since : Nat} (hb : p.borrowed = 0) :
      Move s now p (.drain (.polling since)) .proceed (.drain (.clearing none)) p
  | late {since : Nat} (hb : p.borrowed ≠ 0) (ht : s.drainTimeout ≤ now - since) :
      Move s now p (.drain (.polling since)) .proceed
        (.drain (.clearing (some (Drain.lateError s p.borrowed)))) p
  | clear {late : Option ClientError} :
      Move s now p (.drain (.clearing late)) .proceed (.drain (.next late [] p.takeIdle.1))
        p.takeIdle.2
  | cleared {late : Option ClientError} {session : σ} {rest : List σ} {failures : List String}
      {failure : Option String} :
      Move s now p (.drain (.closing late (session :: rest) failures)) (.closed failure)
        (.drain (.next late (failures ++ failure.toList) rest)) p

variable {s : PoolSettings} {now : Nat} {p p' : Pool σ} {signal : Signal σ}

theorem move_of_acquire_step {a a' : Acquire σ} (h : a.step s p signal = some (a', p')) :
    Move s now p (.acquire a) signal (.acquire a') p' := by
  cases a <;> cases signal <;>
    simp only [Acquire.step, Option.some.injEq, reduceCtorEq, Prod.mk.injEq] at h
  case start.proceed =>
    obtain ⟨rfl, rfl⟩ := h
    cases hc : p.closed with
    | true => exact .turnAway hc
    | false => exact .enter hc
  case announcing.proceed => obtain ⟨rfl, rfl⟩ := h; exact .announce
  case waiting.proceed =>
    simp only [Option.map_eq_some_iff, Pool.takePermit?_eq_some_iff, Prod.mk.injEq] at h
    obtain ⟨_, ⟨n, hn, rfl⟩, rfl, rfl⟩ := h
    exact .grant hn
  case waiting.timeout => obtain ⟨rfl, rfl⟩ := h; exact .expire
  case granted.proceed => obtain ⟨rfl, rfl⟩ := h; exact .endWait
  case expired.proceed => obtain ⟨rfl, rfl⟩ := h; exact .giveUp
  case claiming.proceed =>
    cases hc : p.closed with
    | true =>
        simp only [Pool.claim_of_closed hc, Option.some.injEq, Prod.mk.injEq] at h
        obtain ⟨rfl, rfl⟩ := h
        exact .claimClosed hc
    | false =>
        cases hi : p.idle with
        | nil =>
            simp only [Pool.claim_of_empty hc hi, Option.some.injEq, Prod.mk.injEq] at h
            obtain ⟨rfl, rfl⟩ := h
            exact .claimPlace hc hi
        | cons i rest =>
            simp only [Pool.claim_of_idle hc hi, Option.some.injEq, Prod.mk.injEq] at h
            obtain ⟨rfl, rfl⟩ := h
            exact .claimIdle hc hi
  case opening.opened => obtain ⟨rfl, rfl⟩ := h; exact .opened
  case opening.refused => obtain ⟨rfl, rfl⟩ := h; exact .refused
  case retracting.proceed => obtain ⟨rfl, rfl⟩ := h; exact .retract
  case posting.proceed => obtain ⟨rfl, rfl⟩ := h; exact .fail

theorem move_of_giveBack_step {g g' : GiveBack σ} (h : g.step now p signal = some (g', p')) :
    Move s now p (.giveBack g) signal (.giveBack g') p' := by
  cases g <;> cases signal <;>
    simp only [GiveBack.step, Option.some.injEq, reduceCtorEq, Prod.mk.injEq] at h
  case start.proceed session =>
    cases hc : p.closed with
    | true =>
        simp only [Pool.giveBack_of_closed hc, Option.some.injEq, Prod.mk.injEq] at h
        obtain ⟨rfl, rfl⟩ := h
        exact .discard hc
    | false =>
        simp only [Pool.giveBack_of_open hc, Option.some.injEq, Prod.mk.injEq] at h
        obtain ⟨rfl, rfl⟩ := h
        exact .park hc
  case closing.closed => obtain ⟨rfl, rfl⟩ := h; exact .discarded
  case posting.proceed => obtain ⟨rfl, rfl⟩ := h; exact .givenBack

theorem move_of_sweep_step {k k' : Sweep σ} (h : k.step s now p signal = some (k', p')) :
    Move s now p (.sweep k) signal (.sweep k') p' := by
  rcases k with _ | ⟨_ | ⟨session, rest⟩, count⟩ | count <;> cases signal <;>
    simp only [Sweep.step, Option.some.injEq, reduceCtorEq, Prod.mk.injEq] at h
  case start.proceed => obtain ⟨rfl, rfl⟩ := h; exact .sweep
  case closing.cons.closed => obtain ⟨rfl, rfl⟩ := h; exact .swept

theorem move_of_refill_step {r r' : Refill σ} (h : r.step s now p signal = some (r', p')) :
    Move s now p (.refill r) signal (.refill r') p' := by
  cases r <;> cases signal <;>
    simp only [Refill.step, Option.some.injEq, reduceCtorEq, Prod.mk.injEq] at h
  case start.proceed =>
    cases hn : p.permits with
    | zero =>
        simp only [Pool.takePermit?, hn, Option.some.injEq, Prod.mk.injEq] at h
        obtain ⟨rfl, rfl⟩ := h
        exact .skipRefill hn
    | succ n =>
        simp only [Pool.takePermit?, hn, Option.some.injEq, Prod.mk.injEq] at h
        obtain ⟨rfl, rfl⟩ := h
        exact .grantRefill hn
  case reserving.proceed =>
    by_cases hr : p.closed = true ∨ s.min ≤ p.size
    · simp only [Pool.reserve?_eq_none_iff.mpr hr, Option.some.injEq, Prod.mk.injEq] at h
      obtain ⟨rfl, rfl⟩ := h
      exact .endRefill hr
    · simp only [not_or, Bool.not_eq_true, Nat.not_le] at hr
      simp only [Pool.reserve?_of_lt hr.1 hr.2, Option.some.injEq, Prod.mk.injEq] at h
      obtain ⟨rfl, rfl⟩ := h
      exact .reserve hr.1 hr.2
  case opening.opened => obtain ⟨rfl, rfl⟩ := h; exact .openedRefill
  case opening.refused => obtain ⟨rfl, rfl⟩ := h; exact .refusedRefill
  case parking.proceed session =>
    cases hc : p.closed with
    | true =>
        simp only [Pool.park_of_closed hc, Option.some.injEq, Prod.mk.injEq] at h
        obtain ⟨rfl, rfl⟩ := h
        exact .discardRefill hc
    | false =>
        simp only [Pool.park_of_open hc, Option.some.injEq, Prod.mk.injEq] at h
        obtain ⟨rfl, rfl⟩ := h
        exact .parkRefill hc
  case unreserving.proceed => obtain ⟨rfl, rfl⟩ := h; exact .unreserve
  case closing.closed => obtain ⟨rfl, rfl⟩ := h; exact .discardedRefill
  case posting.proceed again =>
    obtain ⟨rfl, rfl⟩ := h
    cases again with
    | true => exact .again
    | false => exact .refilled

theorem move_of_drain_step {d d' : Drain σ} (h : d.step s now p signal = some (d', p')) :
    Move s now p (.drain d) signal (.drain d') p' := by
  rcases d with _ | since | late | ⟨late, _ | ⟨session, rest⟩, failures⟩ | report <;>
    cases signal <;>
    simp only [Drain.step, Option.some.injEq, reduceCtorEq, Prod.mk.injEq] at h
  case start.proceed => obtain ⟨rfl, rfl⟩ := h; exact .shut
  case polling.proceed =>
    by_cases hb : p.borrowed = 0
    · simp only [if_pos hb, Option.some.injEq, Prod.mk.injEq] at h
      obtain ⟨rfl, rfl⟩ := h
      exact .allBack hb
    · simp only [if_neg hb, Option.ite_none_right_eq_some, Option.some.injEq, Prod.mk.injEq] at h
      obtain ⟨ht, rfl, rfl⟩ := h
      exact .late hb ht
  case clearing.proceed => obtain ⟨rfl, rfl⟩ := h; exact .clear
  case closing.cons.closed => obtain ⟨rfl, rfl⟩ := h; exact .cleared

theorem step_eq_some_iff {t t' : Task σ} :
    t.step s now p signal = some (t', p') ↔ Move s now p t signal t' p' := by
  constructor
  · intro h
    cases t <;> simp only [Task.step, Option.map_eq_some_iff, Prod.mk.injEq, Prod.exists] at h <;>
      obtain ⟨_, _, h, rfl, rfl⟩ := h
    case acquire => exact move_of_acquire_step h
    case giveBack => exact move_of_giveBack_step h
    case sweep => exact move_of_sweep_step h
    case refill => exact move_of_refill_step h
    case drain => exact move_of_drain_step h
  · intro h
    cases h with
    | reserve hc hm => simp [Task.step, Refill.step, Pool.reserve?_of_lt hc hm]
    | endRefill hr => simp [Task.step, Refill.step, Pool.reserve?_eq_none_iff.mpr hr]
    | _ =>
        simp [Task.step, Acquire.step, GiveBack.step, Sweep.step, Refill.step, Drain.step,
          Pool.takePermit?, Pool.claim, Pool.giveBack_of_closed, Pool.giveBack_of_open,
          Pool.park_of_closed, Pool.park_of_open, *]

end Task

end SqlClient
