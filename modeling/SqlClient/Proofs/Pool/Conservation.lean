import Mathlib.Algebra.Order.Group.Multiset
import Mathlib.Data.Multiset.UnionInter
import Mathlib.Tactic.Abel
import SqlClient.Proofs.Pool.Accounting

namespace SqlClient

variable {σ : Type}

theorem mem_sum_map_iff {α β : Type} (f : α → Multiset β) {l : List α} {x : β} :
    x ∈ (l.map f).sum ↔ ∃ (i : Nat) (a : α), l[i]? = some a ∧ x ∈ f a := by
  induction l with
  | nil => simp
  | cons c l ih =>
      rw [List.map_cons, List.sum_cons, Multiset.mem_add, ih]
      constructor
      · rintro (hx | ⟨i, a, hi, hx⟩)
        · exact ⟨0, c, rfl, hx⟩
        · exact ⟨i + 1, a, hi, hx⟩
      · rintro ⟨_ | i, a, hi, hx⟩
        · obtain rfl : c = a := by simpa using hi
          exact Or.inl hx
        · exact Or.inr ⟨i, a, hi, hx⟩

theorem eq_of_mem_of_nodup_sum {α β : Type} {f : α → Multiset β} {l : List α}
    (hnodup : (l.map f).sum.Nodup) {i j : Nat} {a b : α} {x : β} (hi : l[i]? = some a)
    (hj : l[j]? = some b) (ha : x ∈ f a) (hb : x ∈ f b) : i = j := by
  induction l generalizing i j with
  | nil => simp at hi
  | cons c l ih =>
      rw [List.map_cons, List.sum_cons, Multiset.nodup_add] at hnodup
      obtain ⟨-, hrest, hdisjoint⟩ := hnodup
      rw [Multiset.disjoint_left] at hdisjoint
      cases i with
      | zero =>
          obtain rfl : c = a := by simpa using hi
          cases j with
          | zero => rfl
          | succ j => exact absurd ((mem_sum_map_iff f).mpr ⟨j, b, hj, hb⟩) (hdisjoint ha)
      | succ i =>
          cases j with
          | zero =>
              obtain rfl : c = b := by simpa using hj
              exact absurd ((mem_sum_map_iff f).mpr ⟨i, a, hi, ha⟩) (hdisjoint hb)
          | succ j => rw [ih hrest hi hj]

namespace Acquire

/-- The session in hand, if a request has come to have one. -/
@[simp] def sessions : Acquire σ → Multiset σ
  | holding session => {session}
  | _ => 0

end Acquire

namespace GiveBack

@[simp] def sessions : GiveBack σ → Multiset σ
  | start session => {session}
  | closing session => {session}
  | _ => 0

end GiveBack

namespace Sweep

@[simp] def sessions : Sweep σ → Multiset σ
  | closing rest _ => rest
  | _ => 0

theorem sessions_start : (start (σ := σ)).sessions = 0 := rfl

theorem sessions_closing (rest : List σ) (count : Nat) :
    (closing rest count).sessions = rest := rfl

theorem sessions_next (count : Nat) (rest : List σ) : (next count rest).sessions = rest := by
  cases rest <;> rfl

end Sweep

namespace Refill

@[simp] def sessions : Refill σ → Multiset σ
  | parking session => {session}
  | closing session => {session}
  | _ => 0

end Refill

namespace Drain

@[simp] def sessions : Drain σ → Multiset σ
  | closing _ rest _ => rest
  | _ => 0

theorem sessions_clearing (late : Option ClientError) :
    (clearing (σ := σ) late).sessions = 0 := rfl

theorem sessions_closing (late : Option ClientError) (rest : List σ) (failures : List String) :
    (closing late rest failures).sessions = rest := rfl

theorem sessions_next (late : Option ClientError) (failures : List String) (rest : List σ) :
    (next late failures rest).sessions = rest := by
  cases rest <;> rfl

end Drain

namespace Pool

def parked (p : Pool σ) : Multiset σ :=
  p.idle.map IdleSession.session

theorem parked_of_cons {p : Pool σ} {i : IdleSession σ} {rest : List (IdleSession σ)}
    (hi : p.idle = i :: rest) :
    p.parked = ↑(rest.map IdleSession.session) + {i.session} := by
  rw [parked, hi, List.map_cons, ← Multiset.cons_coe, ← Multiset.singleton_add, add_comm]

theorem parked_concat (idle : List (IdleSession σ)) (i : IdleSession σ) :
    (↑((idle ++ [i]).map IdleSession.session) : Multiset σ) =
      ↑(idle.map IdleSession.session) + {i.session} := by
  rw [List.map_append, ← Multiset.coe_add]
  rfl

end Pool

namespace Task

/-- The sessions that a task has. -/
def sessions : Task σ → Multiset σ
  | acquire a => a.sessions
  | giveBack g => g.sessions
  | sweep k => k.sessions
  | refill r => r.sessions
  | drain d => d.sessions

variable {s : PoolSettings} {now : Nat} {p p' : Pool σ} {signal : Signal σ} {t t' : Task σ}

/-- In a step sessions change hands; only the server adds some and takes some away. -/
theorem Move.sessions_add (h : Move s now p t signal t' p') :
    p.parked + t.sessions + signal.opens = p'.parked + t'.sessions + t.closes signal := by
  cases h with
  | claimIdle hc hi =>
      simp only [Pool.parked_of_cons hi, sessions, Acquire.sessions, closes,
        Signal.opens, add_zero]
      rfl
  | park hc =>
      simp only [Pool.parked, Pool.parked_concat, sessions, GiveBack.sessions, closes,
        Signal.opens, add_zero]
  | parkRefill hc =>
      simp only [Pool.parked, Pool.parked_concat, sessions, Refill.sessions, closes,
        Signal.opens, add_zero]
  | sweep =>
      obtain ⟨gone, stay, hp, hperm, -⟩ := p.sweep_eq s now
      have hparked : p.parked = ↑(stay.map IdleSession.session) + (↑gone : Multiset σ) := by
        rw [add_comm, Multiset.coe_add]
        exact (Multiset.coe_eq_coe.mpr hperm).symm
      simp only [hp, hparked, sessions, Sweep.sessions_start, Sweep.sessions_next, closes,
        Signal.opens, add_zero]
      rfl
  | swept =>
      simp only [sessions, Sweep.sessions_closing, Sweep.sessions_next, closes, Signal.opens,
        demand, Sweep.demand, add_zero, add_assoc, ← Multiset.cons_coe,
        ← Multiset.singleton_add]
      rw [add_comm {_}]
  | clear =>
      simp only [Pool.takeIdle, Pool.parked, sessions, Drain.sessions_clearing,
        Drain.sessions_next, closes, Signal.opens, List.map_nil, Multiset.coe_nil, add_zero,
        zero_add]
  | cleared =>
      simp only [sessions, Drain.sessions_closing, Drain.sessions_next, closes, Signal.opens,
        demand, Drain.demand, add_zero, add_assoc, ← Multiset.cons_coe,
        ← Multiset.singleton_add]
      rw [add_comm {_}]
  | _ => simp [Pool.parked, sessions, demand]

theorem mem_sessions_of_demand {session : σ} (h : t.demand = .closeSession session) :
    session ∈ t.sessions := by
  rcases t with a | g | k | r | d
  · cases a <;> simp [demand] at h
  · cases g <;> simp_all [demand, sessions]
  · rcases k with _ | ⟨_ | ⟨x, rest⟩, count⟩ | count <;> simp_all [demand, sessions]
  · cases r <;> simp_all [demand, sessions]
  · rcases d with _ | _ | _ | ⟨late, _ | ⟨x, rest⟩, failures⟩ | report <;>
      simp_all [demand, sessions]

theorem IsCall.sessions_eq_zero (ht : t.IsCall) : t.sessions = 0 := by
  cases ht <;> rfl

theorem eq_holding_of_finished {session : σ} (h : t.demand = .finished)
    (hsession : session ∈ t.sessions) : t = .acquire (.holding session) := by
  rcases t with a | g | k | r | d
  · cases a <;> simp_all [demand, sessions]
  · cases g <;> simp_all [demand, sessions]
  · rcases k with _ | ⟨_ | ⟨x, rest⟩, count⟩ | count <;> simp_all [demand, sessions]
  · cases r <;> simp_all [demand, sessions]
  · rcases d with _ | _ | _ | ⟨late, _ | ⟨x, rest⟩, failures⟩ | report <;>
      simp_all [demand, sessions]

theorem card_sessions_of_finished (h : t.demand = .finished) :
    t.sessions.card = t.borrows.toNat := by
  by_cases hhands : ∃ session, t = .acquire (.holding session)
  · obtain ⟨session, rfl⟩ := hhands
    rfl
  · rw [not_exists] at hhands
    rw [(has_no_share_of_finished h hhands).2.2.1, Bool.toNat_false, Multiset.card_eq_zero,
      Multiset.eq_zero_iff_forall_notMem]
    intro session hsession
    exact hhands session (eq_holding_of_finished h hsession)

end Task

namespace Traffic

variable {s : PoolSettings} {w w' : Traffic σ}

def held (w : Traffic σ) : Multiset σ :=
  (w.tasks.map Task.sessions).sum

theorem card_held (w : Traffic σ) :
    w.held.card = (w.tasks.map fun t => t.sessions.card).sum := by
  have hsum := map_list_sum Multiset.cardHom (w.tasks.map Task.sessions)
  rwa [List.map_map] at hsum

/-- Each session that was opened is parked, held or closed, and no session was opened twice. -/
structure Conserved (w : Traffic σ) : Prop where
  opened : w.opened = w.pool.parked + w.held + w.closed
  nodup : w.opened.Nodup

theorem conserved_initial (s : PoolSettings) : Conserved (initial (σ := σ) s) where
  opened := rfl
  nodup := Multiset.nodup_zero

theorem Conserved.call (hw : Conserved w) {t : Task σ} (ht : t.IsCall) :
    Conserved { w with tasks := w.tasks ++ [t] } := by
  refine ⟨?_, hw.nodup⟩
  have hheld : held { w with tasks := w.tasks ++ [t] } = w.held := by
    simp [held, ht.sessions_eq_zero]
  rw [hheld]
  exact hw.opened

theorem Conserved.giveBack (hw : Conserved w) {i : Nat} {session : σ}
    (hi : w.tasks[i]? = some (.acquire (.holding session))) :
    Conserved { w with tasks := w.tasks.set i (.giveBack (.start session)) } := by
  refine ⟨?_, hw.nodup⟩
  have hheld : held { w with tasks := w.tasks.set i (.giveBack (.start session)) } = w.held :=
    add_right_cancel (sum_map_set_add Task.sessions hi (.giveBack (.start session)))
  rw [hheld]
  exact hw.opened

theorem Conserved.advance (hw : Conserved w) {i now : Nat} {t t' : Task σ} {signal : Signal σ}
    {p : Pool σ} (hi : w.tasks[i]? = some t) (hmove : Task.Move s now w.pool t signal t' p)
    (hnew : Disjoint signal.opens w.opened) :
    Conserved ⟨p, w.clock, w.tasks.set i t', w.opened + signal.opens,
      w.closed + t.closes signal⟩ := by
  let w' : Traffic σ :=
    ⟨p, w.clock, w.tasks.set i t', w.opened + signal.opens, w.closed + t.closes signal⟩
  have hheld : w'.held + t.sessions = w.held + t'.sessions := sum_map_set_add Task.sessions hi t'
  constructor
  -- what the task had is added on both sides, since the other shares do not tell the old sum
  -- from the new
  · apply add_right_cancel (b := t.sessions)
    calc w.opened + signal.opens + t.sessions
        = w.pool.parked + t.sessions + signal.opens + (w.held + w.closed) := by
          rw [hw.opened]
          abel
      _ = p.parked + t'.sessions + t.closes signal + (w.held + w.closed) := by
          rw [hmove.sessions_add]
      _ = p.parked + (w.held + t'.sessions) + (w.closed + t.closes signal) := by
          abel
      _ = p.parked + (w'.held + t.sessions) + (w.closed + t.closes signal) := by
          rw [hheld]
      _ = p.parked + w'.held + (w.closed + t.closes signal) + t.sessions := by
          abel
  · refine Multiset.nodup_add.mpr ⟨hw.nodup, ?_, hnew.symm⟩
    cases signal <;> simp [Signal.opens]

theorem Conserved.step (hw : Conserved w) (h : Step s w w') : Conserved w' := by
  cases h with
  | wait hlater => exact ⟨hw.opened, hw.nodup⟩
  | call ht => exact hw.call ht
  | giveBack hi => exact hw.giveBack hi
  | advance hi hnow ht hnew => exact hw.advance hi (Task.step_eq_some_iff.mp ht) hnew

theorem Reachable.conserved (h : Reachable s w) : Conserved w := by
  induction h with
  | refl => exact conserved_initial s
  | tail _ hstep ih => exact ih.step hstep

/-- Where a session can be: with the operation of an index, in a place of the queue, or closed. -/
inductive Place
  | withTask (i : Nat)
  | inQueue (k : Nat)
  | closed

def IsAt (w : Traffic σ) (session : σ) : Place → Prop
  | .withTask i => ∃ t, w.tasks[i]? = some t ∧ session ∈ t.sessions
  | .inQueue k => ∃ e, w.pool.idle[k]? = some e ∧ e.session = session
  | .closed => session ∈ w.closed

theorem mem_parked_iff {session : σ} :
    session ∈ w.pool.parked ↔ ∃ k, w.IsAt session (.inQueue k) := by
  rw [Pool.parked, Multiset.mem_coe, List.mem_map]
  constructor
  · rintro ⟨e, he, hsession⟩
    obtain ⟨k, hk⟩ := List.mem_iff_getElem?.mp he
    exact ⟨k, e, hk, hsession⟩
  · rintro ⟨k, e, hk, hsession⟩
    exact ⟨e, List.mem_of_getElem? hk, hsession⟩

theorem mem_held_iff {session : σ} :
    session ∈ w.held ↔ ∃ i, w.IsAt session (.withTask i) :=
  mem_sum_map_iff Task.sessions

theorem Conserved.mem_opened_iff (hw : Conserved w) {session : σ} :
    session ∈ w.opened ↔ ∃ place, w.IsAt session place := by
  rw [hw.opened, Multiset.mem_add, Multiset.mem_add, mem_parked_iff, mem_held_iff]
  constructor
  · rintro ((⟨k, hk⟩ | ⟨i, hi⟩) | hclosed)
    · exact ⟨.inQueue k, hk⟩
    · exact ⟨.withTask i, hi⟩
    · exact ⟨.closed, hclosed⟩
  · rintro ⟨i | k | _, hplace⟩
    · exact Or.inl (Or.inr ⟨i, hplace⟩)
    · exact Or.inl (Or.inl ⟨k, hplace⟩)
    · exact Or.inr hplace

theorem Conserved.place_eq (hw : Conserved w) {session : σ} {a b : Place}
    (ha : w.IsAt session a) (hb : w.IsAt session b) : a = b := by
  have hnodup := hw.nodup
  rw [hw.opened, Multiset.nodup_add, Multiset.nodup_add, Multiset.disjoint_add_left] at hnodup
  obtain ⟨⟨hparked, hheld, hparkedHeld⟩, -, hparkedClosed, hheldClosed⟩ := hnodup
  have hparkedHeld : session ∈ w.pool.parked → session ∉ w.held :=
    fun h => Multiset.disjoint_left.mp hparkedHeld h
  have hparkedClosed : session ∈ w.pool.parked → session ∉ w.closed :=
    fun h => Multiset.disjoint_left.mp hparkedClosed h
  have hheldClosed : session ∈ w.held → session ∉ w.closed :=
    fun h => Multiset.disjoint_left.mp hheldClosed h
  rw [mem_parked_iff, mem_held_iff] at hparkedHeld
  rw [mem_parked_iff] at hparkedClosed
  rw [mem_held_iff] at hheldClosed
  rcases a with i | k | _ <;> rcases b with j | l | _
  case withTask.withTask =>
    obtain ⟨t, hi, ht⟩ := ha
    obtain ⟨u, hj, hu⟩ := hb
    rw [eq_of_mem_of_nodup_sum hheld hi hj ht hu]
  case withTask.inQueue => exact absurd ⟨i, ha⟩ (hparkedHeld ⟨l, hb⟩)
  case withTask.closed => exact absurd hb (hheldClosed ⟨i, ha⟩)
  case inQueue.withTask => exact absurd ⟨j, hb⟩ (hparkedHeld ⟨k, ha⟩)
  case inQueue.inQueue =>
    obtain ⟨e, hk, he⟩ := ha
    obtain ⟨f, hl, hf⟩ := hb
    have hk' : (w.pool.idle.map IdleSession.session)[k]? = some session := by simp [hk, he]
    have hl' : (w.pool.idle.map IdleSession.session)[l]? = some session := by simp [hl, hf]
    obtain ⟨hlt, -⟩ := List.getElem?_eq_some_iff.mp hk'
    rw [(List.getElem?_inj hlt (Multiset.coe_nodup.mp hparked)).mp (hk'.trans hl'.symm)]
  case inQueue.closed => exact absurd hb (hparkedClosed ⟨k, ha⟩)
  case closed.withTask => exact absurd ha (hheldClosed ⟨j, hb⟩)
  case closed.inQueue => exact absurd ha (hparkedClosed ⟨l, hb⟩)
  case closed.closed => rfl

theorem card_held_of_finished (h : ∀ t ∈ w.tasks, t.demand = .finished) :
    w.held.card = w.count Task.borrows := by
  rw [card_held, count_eq_sum]
  congr 1
  exact List.map_congr_left fun t ht => t.card_sessions_of_finished (h t ht)

/-- Whatever operations run side by side on a pool, each session that was opened is in one place,
and in no other: with one operation, in the queue, or closed; and an operation that has one is in
progress or has handed it out. Each session is closed at most once, and then by an operation that
has it, so that it is neither parked nor in hand. Where no operation is in progress, the counts of
the pool tell how many were opened. -/
theorem sessions_have_one_place (h : Reachable s w) :
    (∀ session, session ∈ w.opened ↔ ∃ place, w.IsAt session place) ∧
    (∀ session a b, w.IsAt session a → w.IsAt session b → a = b) ∧
    (∀ t ∈ w.tasks, ∀ session ∈ t.sessions,
      t.demand ≠ .finished ∨ t = .acquire (.holding session)) ∧
    w.closed.Nodup ∧
    (∀ i t session, w.tasks[i]? = some t → t.demand = .closeSession session →
      w.IsAt session (.withTask i) ∧ session ∉ w.pool.parked ∧ session ∉ w.closed ∧
        .acquire (.holding session) ∉ w.tasks) ∧
    ((∀ t ∈ w.tasks, t.demand = .finished) →
      w.opened.card = w.pool.idle.length + w.pool.borrowed + w.closed.card) := by
  have hw := h.conserved
  refine ⟨fun session => hw.mem_opened_iff, fun session a b => hw.place_eq, ?_, ?_, ?_, ?_⟩
  · intro t ht session hsession
    by_cases hdemand : t.demand = .finished
    · exact Or.inr (t.eq_holding_of_finished hdemand hsession)
    · exact Or.inl hdemand
  · have hnodup := hw.nodup
    rw [hw.opened, Multiset.nodup_add] at hnodup
    exact hnodup.2.1
  · intro i t session hi hdemand
    have hplace : w.IsAt session (.withTask i) := ⟨t, hi, t.mem_sessions_of_demand hdemand⟩
    refine ⟨hplace, ?_, ?_, ?_⟩
    · intro hparked
      obtain ⟨k, hk⟩ := mem_parked_iff.mp hparked
      exact absurd (hw.place_eq hplace hk) (by simp)
    · intro hclosed
      exact absurd (hw.place_eq hplace (b := .closed) hclosed) (by simp)
    · intro hholding
      obtain ⟨j, hj⟩ := List.mem_iff_getElem?.mp hholding
      have hother : w.IsAt session (.withTask j) := ⟨_, hj, Multiset.mem_singleton_self session⟩
      obtain rfl := Place.withTask.inj (hw.place_eq hplace hother)
      obtain rfl := Option.some.inj (hi.symm.trans hj)
      simp [Task.demand, Acquire.demand] at hdemand
  · intro hfinished
    rw [hw.opened, Multiset.card_add, Multiset.card_add, card_held_of_finished hfinished,
      h.accounted.borrowed, Pool.parked, Multiset.coe_card, List.length_map]

theorem sessions_have_one_place_crowded :
    Reachable { max := 2, min := 2, idleTimeoutMs := 0 } crowded ∧
    crowded.IsAt 0 (.withTask 1) ∧ 0 ∉ crowded.pool.parked ∧ 0 ∉ crowded.closed ∧
      .acquire (.holding 0) ∉ crowded.tasks :=
  ⟨reachable_crowded,
    (sessions_have_one_place reachable_crowded).2.2.2.2.1 1
      (.sweep (.closing [0, 1] 2)) 0 rfl rfl⟩

end Traffic

end SqlClient
