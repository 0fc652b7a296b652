import Mathlib.Data.List.ReduceOption
import SqlClient.Proofs.Pool.Execution

namespace SqlClient

variable {δ σ : Type}

theorem Client.asked_asked (c : Client δ σ) (state state' : δ) (lines lines' : List LogLine) :
    (c.asked state lines).asked state' lines' = c.asked state' (lines ++ lines') := by
  simp [Client.asked]

theorem Client.asked_server (c : Client δ σ) : c.asked c.server [] = c := by
  simp [Client.asked]

namespace Server

/-- Closes sessions one after the other; told is, for each of them, why it could not be closed. -/
def closeAll (v : Server δ σ) : List σ → δ → List (Option String) × δ
  | [], state => ([], state)
  | session :: rest, state =>
    ((v.close session state).1 :: (v.closeAll rest (v.close session state).2).1,
      (v.closeAll rest (v.close session state).2).2)

/-- The lines that are logged for sessions that could not be closed. -/
def closeLines (failures : List (Option String)) : List LogLine :=
  failures.reduceOption.map fun reason => ⟨.warn, "Impala connection close error: " ++ reason⟩

theorem closeLines_cons (failure : Option String) (failures : List (Option String)) :
    closeLines (failure :: failures) = closeLines [failure] ++ closeLines failures := by
  rw [closeLines, ← List.singleton_append, List.reduceOption_append, List.map_append]
  rfl

variable {v : Server δ σ} {opens : Client δ σ → Signal σ × Client δ σ}

theorem closeAll_recorded (sessions : List σ) (s : δ × List (ServerCall σ)) :
    v.recorded.closeAll sessions s = ((v.closeAll sessions s.1).1,
      ((v.closeAll sessions s.1).2, s.2 ++ sessions.map .close)) := by
  induction sessions generalizing s with
  | nil => simp [closeAll]
  | cons session rest ih =>
      rw [closeAll, closeAll, ih]
      simp [recorded]

theorem closeSession_eq (t : Task σ) (session : σ) (c : Client δ σ) :
    v.closeSession t session c = (.closed (v.close session c.server).1,
      c.asked (v.close session c.server).2
        (if t.logsClosing then closeLines [(v.close session c.server).1] else [])) := by
  rcases hclose : v.close session c.server with ⟨_ | reason, state⟩
  · cases t.logsClosing <;>
      simp [closeSession, hclose, Client.asked, closeLines, List.reduceOption]
  · cases hlogs : t.logsClosing <;>
      simp [closeSession, hclose, hlogs, Client.asked, Client.logLine, closeLines,
        List.reduceOption]

theorem runWith_closeSession {t t' : Task σ} {session : σ} {c : Client δ σ}
    (ht : t.demand = .closeSession session)
    (hmove : Task.Move c.settings c.now c.pool t (.closed (v.close session c.server).1) t' c.pool)
    (fuel : Nat) :
    v.runWith opens (fuel + 1) t c = v.runWith opens fuel t' (c.asked (v.close session c.server).2
      (if t.logsClosing then closeLines [(v.close session c.server).1] else [])) := by
  simp [runWith, stepWith, ht, closeSession_eq, Client.asked, Task.step_eq_some_iff.mpr hmove]

/-- The phases of a task that closes sessions in turn. Whatever is told of one session, which is
kept, the next one is asked for. -/
structure ClosesInTurn (phase : List (Option String) → List σ → Task σ) (logs : Bool) : Prop where
  demand : ∀ failures session rest,
    (phase failures (session :: rest)).demand = .closeSession session
  logs : ∀ failures session rest, (phase failures (session :: rest)).logsClosing = logs
  move : ∀ s now p failures session rest failure, Task.Move s now p
    (phase failures (session :: rest)) (.closed failure) (phase (failures ++ [failure]) rest) p

theorem ClosesInTurn.runWith_eq {phase : List (Option String) → List σ → Task σ} {logs : Bool}
    (h : ClosesInTurn phase logs) (sessions : List σ) (failures : List (Option String))
    (c : Client δ σ) (fuel : Nat) :
    v.runWith opens (fuel + sessions.length) (phase failures sessions) c =
      v.runWith opens fuel (phase (failures ++ (v.closeAll sessions c.server).1) [])
        (c.asked (v.closeAll sessions c.server).2
          (if logs then closeLines (v.closeAll sessions c.server).1 else [])) := by
  induction sessions generalizing failures c with
  | nil =>
      have hlines : (if logs then closeLines [] else []) = [] := by cases logs <;> rfl
      simp [closeAll, hlines, Client.asked_server]
  | cons session rest ih =>
      rw [List.length_cons, ← Nat.add_assoc,
        runWith_closeSession (h.demand failures session rest) (h.move _ _ _ _ _ _ _), ih,
        h.logs, List.append_assoc, Client.asked_asked]
      cases logs with
      | true => simp [closeAll, Client.asked, ← closeLines_cons]
      | false => simp [closeAll, Client.asked]

theorem closesInTurn_sweep (count : Nat) :
    ClosesInTurn (σ := σ) (fun _ rest => .sweep (.next count rest)) true where
  demand _ _ _ := rfl
  logs _ _ _ := rfl
  move _ _ _ _ _ _ _ := .swept

theorem closesInTurn_drain (late : Option ClientError) :
    ClosesInTurn (σ := σ) (fun failures rest => .drain (.next late failures.reduceOption rest))
      false where
  demand _ _ _ := rfl
  logs _ _ _ := rfl
  move s now p failures session rest failure := by
    have hkept : (failures ++ [failure]).reduceOption =
        failures.reduceOption ++ failure.toList := by
      rw [← List.concat_eq_append, List.reduceOption_concat]
    rw [hkept]
    exact .cleared

end Server

end SqlClient
