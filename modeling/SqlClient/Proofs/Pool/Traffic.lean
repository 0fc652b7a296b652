import Mathlib.Algebra.BigOperators.Group.Multiset.Basic
import Mathlib.Algebra.Order.BigOperators.Group.List
import Mathlib.Algebra.Order.Ring.Nat
import Mathlib.Data.Multiset.UnionInter
import Mathlib.Logic.Relation
import SqlClient.Proofs.Pool.Move

/-!
Operations on one pool, side by side. Any number of them may be in progress; which of them takes
the next step, and what the server answers it, is open. Main statements: a sum over the operations
changes in a step by the operation that took it.
-/

namespace SqlClient

variable {σ : Type}

/-- The sessions that the server opens with a signal. -/
@[simp] def Signal.opens : Signal σ → Multiset σ
  | .opened session => {session}
  | _ => 0

theorem sum_map_set_add {α M : Type} [AddCommMonoid M] (f : α → M) {l : List α} {i : Nat} {a : α}
    (hi : l[i]? = some a) (b : α) :
    ((l.set i b).map f).sum + f a = (l.map f).sum + f b := by
  induction l generalizing i with
  | nil => simp at hi
  | cons c l ih =>
      cases i with
      | zero =>
          obtain rfl : c = a := by simpa using hi
          simp only [List.set_cons_zero, List.map_cons, List.sum_cons]
          rw [add_right_comm, add_right_comm (f c), add_comm (f b)]
      | succ i =>
          have hl := ih (by simpa using hi)
          simp only [List.set_cons_succ, List.map_cons, List.sum_cons, add_assoc, hl]

namespace Task

/-- Operations that somebody can ask the pool for. Giving a session back is left to those who have
one. -/
inductive IsCall : Task σ → Prop
  | acquire : IsCall (.acquire .start)
  | sweep : IsCall (.sweep .start)
  | refill : IsCall (.refill .start)
  | drain : IsCall (.drain .start)

/-- The sessions that a task has the server close with a signal. -/
@[simp] def closes (t : Task σ) : Signal σ → Multiset σ
  | .closed _ =>
    match t.demand with
    | .closeSession session => {session}
    | _ => 0
  | _ => 0

/-- Whether a task can take a moment for the present one. Who parks a session looks at the clock
in the same block, but a sweep may have looked before its own, and a shutdown looks after it. -/
def CanRead (clock moment : Nat) : Task σ → Prop
  | sweep _ => moment ≤ clock
  | drain _ => clock ≤ moment
  | _ => moment = clock

theorem canRead_self (clock : Nat) (t : Task σ) : t.CanRead clock clock := by
  cases t <;> simp [CanRead]

end Task

/-- A pool with a clock and the operations on it, and the sessions that were opened and closed so
far. An operation keeps its place after its end, and a session in hand is with the request that it
was handed to. -/
structure Traffic (σ : Type) where
  pool : Pool σ
  clock : Nat
  tasks : List (Task σ)
  opened : Multiset σ
  closed : Multiset σ

namespace Traffic

/-- A new pool, of which nothing has been asked. -/
def initial (s : PoolSettings) : Traffic σ where
  pool := Pool.fresh s
  clock := 0
  tasks := []
  opened := 0
  closed := 0

/-- What may happen next. A session that is opened is none that was opened before. -/
inductive Step (s : PoolSettings) : Traffic σ → Traffic σ → Prop
  | wait {w : Traffic σ} {later : Nat} (hlater : w.clock ≤ later) :
      Step s w { w with clock := later }
  | call {w : Traffic σ} {t : Task σ} (ht : t.IsCall) :
      Step s w { w with tasks := w.tasks ++ [t] }
  | giveBack {w : Traffic σ} {i : Nat} {session : σ}
      (hi : w.tasks[i]? = some (.acquire (.holding session))) :
      Step s w { w with tasks := w.tasks.set i (.giveBack (.start session)) }
  | advance {w : Traffic σ} {i now : Nat} {t t' : Task σ} {signal : Signal σ} {p : Pool σ}
      (hi : w.tasks[i]? = some t) (hnow : t.CanRead w.clock now)
      (ht : t.step s now w.pool signal = some (t', p)) (hnew : Disjoint signal.opens w.opened) :
      Step s w ⟨p, w.clock, w.tasks.set i t', w.opened + signal.opens, w.closed + t.closes signal⟩

def Runs (s : PoolSettings) : Traffic σ → Traffic σ → Prop :=
  Relation.ReflTransGen (Step s)

/-- What can come of a new pool. -/
def Reachable (s : PoolSettings) (w : Traffic σ) : Prop :=
  Runs s (initial s) w

def count (w : Traffic σ) (kind : Task σ → Bool) : Nat :=
  w.tasks.countP kind

theorem count_append (w : Traffic σ) (kind : Task σ → Bool) (t : Task σ) :
    count { w with tasks := w.tasks ++ [t] } kind = w.count kind + (kind t).toNat := by
  cases hk : kind t <;> simp [count, List.countP_append, hk]

theorem count_eq_sum (w : Traffic σ) (kind : Task σ → Bool) :
    w.count kind = (w.tasks.map fun t => (kind t).toNat).sum := by
  unfold count
  induction w.tasks with
  | nil => rfl
  | cons t ts ih =>
      rw [List.countP_cons, List.map_cons, List.sum_cons, ih]
      cases kind t <;> simp [Nat.add_comm]

theorem count_set_add {w : Traffic σ} {i : Nat} {t t' : Task σ} (hi : w.tasks[i]? = some t)
    (w' : Traffic σ) (hw' : w'.tasks = w.tasks.set i t') (kind : Task σ → Bool) :
    w'.count kind + (kind t).toNat = w.count kind + (kind t').toNat := by
  rw [count_eq_sum, count_eq_sum, hw']
  exact sum_map_set_add (fun t => (kind t).toNat) hi t'

theorem toNat_le_count {w : Traffic σ} {i : Nat} {t : Task σ} (hi : w.tasks[i]? = some t)
    (kind : Task σ → Bool) : (kind t).toNat ≤ w.count kind := by
  cases hk : kind t with
  | false => exact Nat.zero_le _
  | true => exact List.countP_pos_iff.mpr ⟨t, List.mem_of_getElem? hi, hk⟩

variable {s : PoolSettings}

/-- What holds of every operation at its start, and is kept when the operation takes a step, is
kept at each index, whichever operation takes the step. -/
theorem Step.keeps {w w' : Traffic σ} (h : Step s w w') {K : Task σ → Prop}
    (hcall : ∀ t, t.IsCall → K t) (hback : ∀ session, K (.giveBack (.start session)))
    (hmove : ∀ {now t signal t'}, Task.Move s now w.pool t signal t' w'.pool → K t → K t')
    {i : Nat} (hw : ∀ t, w.tasks[i]? = some t → K t) {t : Task σ} (ht : w'.tasks[i]? = some t) :
    K t := by
  cases h with
  | wait hlater => exact hw t ht
  | call hnew =>
      rw [List.getElem?_append] at ht
      split at ht
      · exact hw t ht
      · obtain rfl := List.mem_singleton.mp (List.mem_of_getElem? ht)
        exact hcall _ hnew
  | giveBack hj =>
      rw [List.getElem?_set] at ht
      split at ht
      · split at ht
        · obtain rfl := Option.some.inj ht
          exact hback _
        · simp at ht
      · exact hw t ht
  | advance hj hnow hu hnew =>
      rw [List.getElem?_set] at ht
      split at ht
      · rename_i hij
        split at ht
        · obtain rfl := Option.some.inj ht
          exact hmove (Task.step_eq_some_iff.mp hu) (hw _ (hij ▸ hj))
        · simp at ht
      · exact hw t ht

variable {clock : Nat} {w : Traffic σ} {p p' : Pool σ} {tasks : List (Task σ)}
  {t t' : Task σ} {opened closed : Multiset σ} {signal : Signal σ}

theorem Runs.wait (h : Runs s w ⟨p, clock, tasks, opened, closed⟩) {later : Nat}
    (hlater : clock ≤ later) : Runs s w ⟨p, later, tasks, opened, closed⟩ :=
  h.tail (Step.wait hlater)

theorem Runs.call (h : Runs s w ⟨p, clock, tasks, opened, closed⟩) (ht : t.IsCall) :
    Runs s w ⟨p, clock, tasks ++ [t], opened, closed⟩ :=
  h.tail (Step.call ht)

theorem Runs.advance (h : Runs s w ⟨p, clock, tasks, opened, closed⟩) {i : Nat}
    (hi : tasks[i]? = some t) (hmove : Task.Move s clock p t signal t' p')
    (hnew : Disjoint signal.opens opened) :
    Runs s w ⟨p', clock, tasks.set i t', opened + signal.opens, closed + t.closes signal⟩ :=
  h.tail (Step.advance hi (t.canRead_self clock) (Task.step_eq_some_iff.mpr hmove) hnew)

theorem Runs.proceed (h : Runs s w ⟨p, clock, tasks, opened, closed⟩) {i : Nat}
    (hi : tasks[i]? = some t) (hmove : Task.Move s clock p t .proceed t' p') :
    Runs s w ⟨p', clock, tasks.set i t', opened, closed⟩ := by
  have hrun := h.advance hi hmove (Multiset.zero_disjoint _)
  have hopens : (Signal.proceed (σ := σ)).opens = 0 := rfl
  have hcloses : t.closes .proceed = 0 := rfl
  rwa [hopens, hcloses, add_zero, add_zero] at hrun

theorem Runs.advanceLast (h : Runs s w ⟨p, clock, tasks ++ [t], opened, closed⟩)
    (hmove : Task.Move s clock p t signal t' p') (hnew : Disjoint signal.opens opened) :
    Runs s w ⟨p', clock, tasks ++ [t'], opened + signal.opens, closed + t.closes signal⟩ := by
  have hrun := h.advance (i := tasks.length) (by simp) hmove hnew
  rwa [List.set_append_right _ _ (Nat.le_refl _), Nat.sub_self] at hrun

theorem Runs.proceedLast (h : Runs s w ⟨p, clock, tasks ++ [t], opened, closed⟩)
    (hmove : Task.Move s clock p t .proceed t' p') :
    Runs s w ⟨p', clock, tasks ++ [t'], opened, closed⟩ := by
  have hrun := h.proceed (i := tasks.length) (by simp) hmove
  rwa [List.set_append_right _ _ (Nat.le_refl _), Nat.sub_self] at hrun

theorem Runs.request {n : Nat} {session : σ} (h : Runs s w ⟨p, clock, tasks, opened, closed⟩)
    (hc : p.closed = false) (hn : p.permits = n + 1) (hi : p.idle = [])
    (hnew : session ∉ opened) :
    Runs s w ⟨{ p with permits := n, size := p.size + 1, borrowed := p.borrowed + 1 }, clock,
      tasks ++ [.acquire (.holding session)], opened + {session}, closed⟩ := by
  have hcalled := h.call .acquire
  have hannounced := (hcalled.proceedLast (.enter hc)).proceedLast .announce
  have hclaiming := (hannounced.proceedLast (.grant hn)).proceedLast .endWait
  have hopening := hclaiming.proceedLast (.claimPlace hc hi)
  have hopened := hopening.advanceLast (@Task.Move.opened σ s clock _ session)
    (Multiset.singleton_disjoint.mpr hnew)
  have hcloses : (Task.acquire .opening).closes (.opened session) = 0 := rfl
  rw [hcloses, add_zero] at hopened
  exact hopened

theorem Runs.giveBack (h : Runs s w ⟨p, clock, tasks, opened, closed⟩) {i : Nat} {session : σ}
    (hi : tasks[i]? = some (.acquire (.holding session))) :
    Runs s w ⟨p, clock, tasks.set i (.giveBack (.start session)), opened, closed⟩ :=
  h.tail (Step.giveBack hi)

theorem Runs.park {session : σ}
    (h : Runs s w ⟨p, clock, tasks ++ [.acquire (.holding session)], opened, closed⟩)
    (hc : p.closed = false) :
    Runs s w ⟨{ p with
        permits := p.permits + 1
        borrowed := p.borrowed - 1
        idle := p.idle ++ [⟨session, clock⟩] }, clock,
      tasks ++ [.giveBack .done], opened, closed⟩ := by
  have hi : (tasks ++ [.acquire (.holding session)])[tasks.length]? =
      some (.acquire (.holding session)) := by simp
  have hgiven := h.giveBack hi
  rw [List.set_append_right _ _ (Nat.le_refl _), Nat.sub_self] at hgiven
  exact (hgiven.proceedLast (.park hc)).proceedLast .givenBack

theorem Runs.openRefill {n : Nat} {session : σ}
    (h : Runs s w ⟨p, clock, tasks ++ [.refill .start], opened, closed⟩)
    (hc : p.closed = false) (hn : p.permits = n + 1) (hm : p.size < s.min)
    (hnew : session ∉ opened) :
    Runs s w ⟨{ p with permits := n, size := p.size + 1 }, clock,
      tasks ++ [.refill (.parking session)], opened + {session}, closed⟩ := by
  have hreserving := h.proceedLast (.grantRefill hn)
  have hopening := hreserving.proceedLast (.reserve hc hm)
  have hopened := hopening.advanceLast (@Task.Move.openedRefill σ s clock _ session)
    (Multiset.singleton_disjoint.mpr hnew)
  have hcloses : (Task.refill .opening).closes (.opened session) = 0 := rfl
  rw [hcloses, add_zero] at hopened
  exact hopened

theorem Runs.parkRefill {session : σ}
    (h : Runs s w ⟨p, clock, tasks ++ [.refill (.parking session)], opened, closed⟩)
    (hc : p.closed = false) :
    Runs s w ⟨{ p with permits := p.permits + 1, idle := p.idle ++ [⟨session, clock⟩] }, clock,
      tasks ++ [.refill .start], opened, closed⟩ :=
  (h.proceedLast (.parkRefill hc)).proceedLast .again

theorem Runs.endRefill {n : Nat}
    (h : Runs s w ⟨p, clock, tasks ++ [.refill .start], opened, closed⟩)
    (hn : p.permits = n + 1) (hm : s.min ≤ p.size) :
    Runs s w ⟨p, clock, tasks ++ [.refill .done], opened, closed⟩ := by
  have hreserving := h.proceedLast (.grantRefill hn)
  have hposting := hreserving.proceedLast (.endRefill (.inr hm))
  have hdone := hposting.proceedLast .refilled
  rwa [Pool.postPermit, ← hn] at hdone

theorem Runs.sweep (h : Runs s w ⟨p, clock, tasks, opened, closed⟩) :
    Runs s w ⟨(p.sweep s clock).2, clock,
      tasks ++ [.sweep (.next (p.sweep s clock).1.length (p.sweep s clock).1)], opened, closed⟩ :=
  (h.call .sweep).proceedLast .sweep

end Traffic

end SqlClient
