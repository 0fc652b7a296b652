import SqlClient.Proofs.Pool.Call

namespace SqlClient

variable {δ σ : Type}

/-- What a server is asked for. -/
inductive ServerCall (σ : Type)
  | connect
  | metadata (session : σ) (sql : String)
  | query (session : σ) (sql : String) (options : Option QueryOptions)
  | close (session : σ)

namespace Server

/-- The same server, with a record of what it was asked for. -/
def recorded (v : Server δ σ) : Server (δ × List (ServerCall σ)) σ where
  interrupts s := v.interrupts s.1
  connect settings drained s :=
    ((v.connect settings drained s.1).1, (v.connect settings drained s.1).2, s.2 ++ [.connect])
  metadata session sql s :=
    ((v.metadata session sql s.1).1, (v.metadata session sql s.1).2,
      s.2 ++ [.metadata session sql])
  query session sql options s :=
    ((v.query session sql options s.1).1, (v.query session sql options s.1).2,
      s.2 ++ [.query session sql options])
  close session s := ((v.close session s.1).1, (v.close session s.1).2, s.2 ++ [.close session])

/-- Runs statements one after the other. -/
def executeAll (v : Server δ σ) :
    List (String × Option QueryOptions) → Client δ σ →
      List (Except ClientError (List Row)) × Client δ σ
  | [], c => ([], c)
  | (sql, options) :: rest, c =>
    let (result, c) := v.execute sql options c
    let (results, c) := v.executeAll rest c
    (result :: results, c)

variable {v : Server δ σ} {c c₁ : Client δ σ} {e : ClientError} {session : σ} {sql : String}
  {options : Option QueryOptions}

theorem openSession_eq_ok {settings : ConnectionSettings} {drained : Option Bool} {s state : δ}
    {lines : List LogLine}
    (h : v.openSession settings drained s = (.ok session, state, lines)) :
    v.connect settings drained s = (.ok session, state) := by
  unfold openSession at h
  split at h
  · simp at h
  · split at h
    · rename_i hconnect
      simp only [Prod.mk.injEq, Except.ok.injEq] at h
      obtain ⟨rfl, rfl, -⟩ := h
      exact hconnect
    · simp at h

theorem openSession_eq_error {settings : ConnectionSettings} {drained : Option Bool} {s state : δ}
    {lines : List LogLine} (h : v.openSession settings drained s = (.error e, state, lines)) :
    (∃ reason, e = .connectFailed reason) ∧
      (state = s ∨ state = (v.connect settings drained s).2) := by
  unfold openSession at h
  split at h
  · rename_i hcheck
    simp only [Prod.mk.injEq, Except.error.injEq] at h
    obtain ⟨rfl, rfl, -⟩ := h
    refine ⟨?_, Or.inl rfl⟩
    unfold ConnectionSettings.check at hcheck
    split at hcheck
    · exact ⟨_, (Except.error.inj hcheck).symm⟩
    · split at hcheck
      · exact ⟨_, (Except.error.inj hcheck).symm⟩
      · simp at hcheck
  · split at h
    · simp at h
    · rename_i hconnect
      simp only [Prod.mk.injEq, Except.error.injEq] at h
      obtain ⟨rfl, rfl, -⟩ := h
      exact ⟨⟨_, rfl⟩, Or.inr (by rw [hconnect])⟩

/-- How a request for a session ends that nobody comes between. -/
inductive Acquired (v : Server δ σ) (c : Client δ σ) :
    Except ClientError σ → Client δ σ → Prop
  | closed {c₁ : Client δ σ} (hc : c.pool.closed = true) (hpool : c₁.pool = c.pool)
      (hserver : c₁.server = c.server) : Acquired v c (.error .poolClosed) c₁
  | exhausted {c₁ : Client δ σ} (hp : c.pool.permits = 0) (hpool : c₁.pool = c.pool)
      (hserver : c₁.server = c.server) :
      Acquired v c (.error (.acquireTimeout c.settings.acquireTimeout)) c₁
  | refused {c₁ : Client δ σ} {reason : String} (hpool : c₁.pool = c.pool)
      (hserver : c₁.server = c.server ∨
        c₁.server = (v.connect c.connection none c.server).2) :
      Acquired v c (.error (.connectFailed reason)) c₁
  | reused {c₁ : Client δ σ} {i : IdleSession σ} {rest : List (IdleSession σ)} {n : Nat}
      (hc : c.pool.closed = false) (hp : c.pool.permits = n + 1) (hi : c.pool.idle = i :: rest)
      (hpool : c₁.pool = { c.pool with
        permits := n, idle := rest, borrowed := c.pool.borrowed + 1 })
      (hserver : c₁.server = c.server) : Acquired v c (.ok i.session) c₁
  | opened {c₁ : Client δ σ} {session : σ} {n : Nat}
      (hc : c.pool.closed = false) (hp : c.pool.permits = n + 1) (hi : c.pool.idle = [])
      (hpool : c₁.pool = { c.pool with
        permits := n, size := c.pool.size + 1, borrowed := c.pool.borrowed + 1 })
      (hserver : v.connect c.connection none c.server = (.ok session, c₁.server)) :
      Acquired v c (.ok session) c₁

theorem acquired_of_acquire {result : Except ClientError σ}
    (hquiet : v.interrupts c.server = false) (h : v.acquire c = (result, c₁)) :
    Acquired v c result c₁ := by
  cases hc : c.pool.closed with
  | true =>
      rw [acquire_of_closed hc] at h
      obtain ⟨rfl, rfl⟩ := Prod.mk.inj h
      exact .closed hc rfl rfl
  | false =>
      cases hp : c.pool.permits with
      | zero =>
          rw [acquire_of_exhausted hc hp] at h
          obtain ⟨rfl, rfl⟩ := Prod.mk.inj h
          exact .exhausted hp rfl rfl
      | succ n =>
          cases hi : c.pool.idle with
          | cons i rest =>
              rw [acquire_of_idle hc hp hi] at h
              obtain ⟨rfl, rfl⟩ := Prod.mk.inj h
              exact .reused hc hp hi rfl rfl
          | nil =>
              rcases hopen : v.openSession c.connection none c.server with
                ⟨_ | session, state, lines⟩
              · rw [acquire_of_refused hc hp hi hquiet hopen] at h
                obtain ⟨rfl, rfl⟩ := Prod.mk.inj h
                obtain ⟨⟨reason, rfl⟩, hstate⟩ := openSession_eq_error hopen
                exact .refused rfl hstate
              · rw [acquire_of_opened hc hp hi hquiet hopen] at h
                obtain ⟨rfl, rfl⟩ := Prod.mk.inj h
                exact .opened hc hp hi rfl (openSession_eq_ok hopen)

theorem execute_of_error (h : v.acquire c = (.error e, c₁)) :
    v.execute sql options c = (.error e, c₁) := by
  rw [execute, h]

theorem execute_of_ok (h : v.acquire c = (.ok session, c₁)) (hc : c₁.pool.closed = false) :
    ∃ c', v.execute sql options c = ((v.runOn session sql options c₁.server).1, c') ∧
      c'.server = (v.runOn session sql options c₁.server).2 ∧
      c'.pool = { c₁.pool with
        permits := c₁.pool.permits + 1
        borrowed := c₁.pool.borrowed - 1
        idle := c₁.pool.idle ++ [⟨session, c'.now⟩] } := by
  rw [execute, h]
  rcases hrun : v.runOn session sql options c₁.server with ⟨_ | rows, state⟩
  · simp only [Client.logLine, hrun]
    refine ⟨_, rfl, ?_⟩
    rw [giveBack_of_open (by exact hc)]
    exact ⟨rfl, rfl⟩
  · simp only [Client.logLine, hrun]
    refine ⟨_, rfl, ?_⟩
    rw [giveBack_of_open (by exact hc)]
    exact ⟨rfl, rfl⟩

theorem runOn_recorded (session : σ) (sql : String) (options : Option QueryOptions)
    (s : δ × List (ServerCall σ)) :
    match v.metadata session sql s.1 with
    | (.error reason, state) => v.recorded.runOn session sql options s =
        (.error (.metadataFailed reason), state, s.2 ++ [.metadata session sql])
    | (.ok metadata, state) =>
      match v.query session sql options state with
      | (.error reason, state) => v.recorded.runOn session sql options s =
          (.error (.queryFailed reason), state,
            s.2 ++ [.metadata session sql, .query session sql options])
      | (.ok rows, state) => v.recorded.runOn session sql options s =
          (.ok (Coercion.rows metadata.columnTypes rows), state,
            s.2 ++ [.metadata session sql, .query session sql options]) := by
  rcases hmetadata : v.metadata session sql s.1 with ⟨_ | metadata, state⟩
  · simp [runOn, recorded, hmetadata]
  · rcases hquery : v.query session sql options state with ⟨_ | rows, state⟩ <;>
      simp [runOn, recorded, hmetadata, hquery]

/-- What a statement leaves of a pool, on which the session that ran it is now the last one
parked. -/
structure GaveBack (session : σ) (now : Nat) (p p' : Pool σ) : Prop where
  permits : p'.permits = p.permits
  borrowed : p'.borrowed = p.borrowed
  pending : p'.pending = p.pending
  closed : p'.closed = p.closed
  idle : p'.idle = p.idle.tail ++ [⟨session, now⟩]
  size : p'.size = p.size + if p.idle = [] then 1 else 0

theorem execute_of_acquired (sql : String) (options : Option QueryOptions)
    (hquiet : v.interrupts c.server = false) (h : v.acquire c = (.ok session, c₁)) :
    ∃ c', v.execute sql options c = ((v.runOn session sql options c₁.server).1, c') ∧
      c'.server = (v.runOn session sql options c₁.server).2 ∧
      GaveBack session c'.now c.pool c'.pool := by
  cases acquired_of_acquire hquiet h with
  | reused hc hp hi hpool hserver =>
      obtain ⟨c', hexecute, hserver', hpool'⟩ := execute_of_ok h (by rw [hpool, hc])
      refine ⟨c', hexecute, hserver', ?_⟩
      rw [hpool', hpool]
      constructor <;> simp [hp, hi]
  | opened hc hp hi hpool hserver =>
      obtain ⟨c', hexecute, hserver', hpool'⟩ := execute_of_ok h (by rw [hpool, hc])
      refine ⟨c', hexecute, hserver', ?_⟩
      rw [hpool', hpool]
      constructor <;> simp [hp, hi]

/-- A statement on an open pool with a free permit never fails for want of a session that is
free. -/
theorem execute_ne_unavailable (hquiet : v.interrupts c.server = false)
    (hc : c.pool.closed = false) (hp : c.pool.permits ≠ 0)
    {result : Except ClientError (List Row)}
    {c' : Client δ σ} (h : v.execute sql options c = (result, c')) :
    result ≠ .error .poolClosed ∧ ∀ waited, result ≠ .error (.acquireTimeout waited) := by
  rcases hrun : v.acquire c with ⟨e | session, c₁⟩
  · rw [execute_of_error hrun] at h
    obtain ⟨rfl, rfl⟩ := Prod.mk.inj h
    cases acquired_of_acquire hquiet hrun with
    | closed hclosed => simp [hc] at hclosed
    | exhausted hnone => exact absurd hnone hp
    | refused => simp
  · obtain ⟨c₂, hexecute, -, -⟩ := execute_of_acquired sql options hquiet hrun
    rw [hexecute] at h
    obtain ⟨rfl, rfl⟩ := Prod.mk.inj h
    unfold runOn
    split
    · simp
    · split <;> simp

/-- What statements leave of a pool, whether or not they fail. The size grows at most by the one
session that is opened if none is parked. -/
structure Kept (p p' : Pool σ) : Prop where
  permits : p'.permits = p.permits
  borrowed : p'.borrowed = p.borrowed
  pending : p'.pending = p.pending
  closed : p'.closed = p.closed
  idle : p.idle ≠ [] → p'.idle ≠ []
  size : p'.size ≤ p.size + if p.idle = [] then 1 else 0
  opened : p'.size ≠ p.size → p'.idle ≠ []

theorem Kept.refl (p : Pool σ) : Kept p p where
  permits := rfl
  borrowed := rfl
  pending := rfl
  closed := rfl
  idle := id
  size := Nat.le_add_right _ _
  opened h := absurd rfl h

theorem GaveBack.kept {p p' : Pool σ} {now : Nat} (h : GaveBack session now p p') :
    Kept p p' where
  permits := h.permits
  borrowed := h.borrowed
  pending := h.pending
  closed := h.closed
  idle _ := by simp [h.idle]
  size := Nat.le_of_eq h.size
  opened _ := by simp [h.idle]

theorem Kept.trans {p p' p'' : Pool σ} (h : Kept p p') (h' : Kept p' p'') : Kept p p'' where
  permits := h'.permits.trans h.permits
  borrowed := h'.borrowed.trans h.borrowed
  pending := h'.pending.trans h.pending
  closed := h'.closed.trans h.closed
  idle hidle := h'.idle (h.idle hidle)
  size := by
    have hsize := h.size
    have hsize' := h'.size
    -- if the first statement has opened a session, the second finds it parked
    by_cases hp' : p'.idle = []
    · have hp : p.idle = [] := Classical.byContradiction fun hp => h.idle hp hp'
      have hsame : p'.size = p.size := Classical.byContradiction fun hne => h.opened hne hp'
      rw [if_pos hp', hsame] at hsize'
      rwa [if_pos hp]
    · rw [if_neg hp'] at hsize'
      exact Nat.le_trans hsize' hsize
  opened hne := by
    by_cases hsame : p'.size = p.size
    · exact h'.opened (hsame ▸ hne)
    · exact h'.idle (h.opened hsame)

theorem execute_kept (hquiet : v.interrupts c.server = false) {c' : Client δ σ}
    {result : Except ClientError (List Row)} (h : v.execute sql options c = (result, c')) :
    Kept c.pool c'.pool := by
  rcases hrun : v.acquire c with ⟨e | session, c₁⟩
  · rw [execute_of_error hrun] at h
    obtain ⟨rfl, rfl⟩ := Prod.mk.inj h
    have hpool : c₁.pool = c.pool := by cases acquired_of_acquire hquiet hrun <;> assumption
    exact hpool ▸ Kept.refl c.pool
  · obtain ⟨c₂, hexecute, -, hback⟩ := execute_of_acquired sql options hquiet hrun
    rw [hexecute] at h
    obtain ⟨rfl, rfl⟩ := Prod.mk.inj h
    exact hback.kept

theorem executeAll_kept (hquiet : ∀ state, v.interrupts state = false)
    (queries : List (String × Option QueryOptions)) (c : Client δ σ) :
    Kept c.pool (v.executeAll queries c).2.pool ∧
      (c.pool.closed = false → c.pool.permits ≠ 0 → ∀ result ∈ (v.executeAll queries c).1,
        result ≠ .error .poolClosed ∧ ∀ waited, result ≠ .error (.acquireTimeout waited)) := by
  induction queries generalizing c with
  | nil => exact ⟨Kept.refl c.pool, fun _ _ result h => absurd h List.not_mem_nil⟩
  | cons query rest ih =>
      rcases hrun : v.execute query.1 query.2 c with ⟨result, c'⟩
      have hkept := execute_kept (hquiet c.server) hrun
      obtain ⟨hrest, havailable⟩ := ih c'
      simp only [executeAll, hrun]
      refine ⟨hkept.trans hrest, ?_⟩
      intro hc hp other hother
      rcases List.mem_cons.mp hother with rfl | hother
      · exact execute_ne_unavailable (hquiet c.server) hc hp hrun
      · exact havailable (hkept.closed.trans hc) (hkept.permits ▸ hp) other hother

theorem acquire_recorded (hquiet : ∀ state, v.interrupts state = false)
    {c c₁ : Client (δ × List (ServerCall σ)) σ} (h : v.recorded.acquire c = (.ok session, c₁)) :
    (∃ since rest, c.pool.idle = ⟨session, since⟩ :: rest ∧ c₁.server = c.server) ∨
      (c.pool.idle = [] ∧ (v.connect c.connection none c.server.1).1 = .ok session ∧
        c₁.server.2 = c.server.2 ++ [.connect]) := by
  cases acquired_of_acquire (v := v.recorded) (hquiet c.server.1) h with
  | reused hc hp hi hpool hserver => exact Or.inl ⟨_, _, hi, hserver⟩
  | opened hc hp hi hpool hserver =>
      obtain ⟨hsession, hstate⟩ := Prod.mk.inj hserver
      exact Or.inr ⟨hi, hsession, hstate ▸ rfl⟩

/-- A statement that gets no session fails as the request for one did; no session is asked for
anything, and the pool is as it was. Else one session is asked for the columns and, if it told
them, once for the rows; it is the one parked longest, or a new one if none was parked, and it is
parked last afterwards. So whatever the server answers, no sequence of statements uses the permits
up. -/
theorem execute_gives_back (hquiet : ∀ state, v.interrupts state = false)
    (c : Client (δ × List (ServerCall σ)) σ) (sql : String) (options : Option QueryOptions) :
    (∀ e c₁, v.recorded.acquire c = (.error e, c₁) →
      v.recorded.execute sql options c = (.error e, c₁) ∧ c₁.pool = c.pool ∧
        (c₁.server.2 = c.server.2 ∨ c₁.server.2 = c.server.2 ++ [.connect])) ∧
    (∀ session c₁, v.recorded.acquire c = (.ok session, c₁) →
      ((∃ since rest, c.pool.idle = ⟨session, since⟩ :: rest ∧ c₁.server = c.server) ∨
        (c.pool.idle = [] ∧ (v.connect c.connection none c.server.1).1 = .ok session ∧
          c₁.server.2 = c.server.2 ++ [.connect])) ∧
      ∃ result c', v.recorded.execute sql options c = (result, c') ∧
        GaveBack session c'.now c.pool c'.pool ∧
        match v.metadata session sql c₁.server.1 with
        | (.error reason, state) => result = .error (.metadataFailed reason) ∧
            c'.server = (state, c₁.server.2 ++ [.metadata session sql])
        | (.ok metadata, state) =>
          match v.query session sql options state with
          | (.error reason, state) => result = .error (.queryFailed reason) ∧
              c'.server = (state,
                c₁.server.2 ++ [.metadata session sql, .query session sql options])
          | (.ok rows, state) => result = .ok (Coercion.rows metadata.columnTypes rows) ∧
              c'.server = (state,
                c₁.server.2 ++ [.metadata session sql, .query session sql options])) ∧
    (∀ queries results c', v.recorded.executeAll queries c = (results, c') →
      Kept c.pool c'.pool ∧
        (c.pool.closed = false → c.pool.permits ≠ 0 → ∀ result ∈ results,
          result ≠ .error .poolClosed ∧ ∀ waited, result ≠ .error (.acquireTimeout waited))) := by
  have hquiet' : ∀ state, v.recorded.interrupts state = false := fun state => hquiet state.1
  refine ⟨?_, ?_, ?_⟩
  · intro e c₁ h
    refine ⟨execute_of_error h, ?_⟩
    cases acquired_of_acquire (hquiet' c.server) h with
    | closed hc hpool hserver => exact ⟨hpool, Or.inl (by rw [hserver])⟩
    | exhausted hp hpool hserver => exact ⟨hpool, Or.inl (by rw [hserver])⟩
    | refused hpool hserver =>
        refine ⟨hpool, hserver.imp ?_ ?_⟩
        · intro hsame
          rw [hsame]
        · intro hasked
          rw [hasked]
          rfl
  · intro session c₁ h
    refine ⟨acquire_recorded hquiet h, ?_⟩
    obtain ⟨c', hexecute, hserver, hback⟩ := execute_of_acquired sql options (hquiet' c.server) h
    refine ⟨_, c', hexecute, hback, ?_⟩
    have hrun := runOn_recorded (v := v) session sql options c₁.server
    rw [hserver]
    split at hrun
    · simp [hrun]
    · split at hrun <;> simp [hrun]
  · intro queries results c' h
    obtain ⟨rfl, rfl⟩ := Prod.mk.inj h
    exact executeAll_kept hquiet' queries c

/-- A server on which every query fails; its sessions are numbered. -/
def failing : Server Nat Nat where
  interrupts _ := false
  connect _ _ n := (.ok n, n + 1)
  metadata _ _ n := (.ok ⟨[]⟩, n)
  query _ _ _ n := (.error "reset", n)
  close _ n := (none, n)

/-- A client of the failing server with a single permit. -/
def failingClient : Client (Nat × List (ServerCall Nat)) Nat where
  settings := { max := 1 }
  connection := {}
  pool := Pool.fresh { max := 1 }
  server := (0, [])
  now := 7
  log := []

theorem execute_gives_back_failing :
    (∀ state, failing.interrupts state = false) ∧
      (failing.recorded.acquire failingClient).1 = .ok 0 ∧
      ∃ c', failing.recorded.execute "select 1" none failingClient =
          (.error (.queryFailed "reset"), c') ∧
        GaveBack 0 c'.now failingClient.pool c'.pool ∧
        c'.server.2 = [.connect, .metadata 0 "select 1", .query 0 "select 1" none] ∧
        Kept failingClient.pool (failing.recorded.executeAll
          [("select 1", none), ("select 2", none), ("select 3", none)] failingClient).2.pool := by
  have hquiet : ∀ state, failing.interrupts state = false := fun _ => rfl
  have hacquire : failing.recorded.acquire failingClient = (.ok 0,
      { failingClient with
        pool := { failingClient.pool with permits := 0, size := 1, borrowed := 1 }
        server := (1, [.connect]) }) := rfl
  obtain ⟨-, hsession, hall⟩ := execute_gives_back hquiet failingClient "select 1" none
  obtain ⟨-, _, c', hexecute, hback, rfl, hserver⟩ := hsession 0 _ hacquire
  exact ⟨hquiet, rfl, c', hexecute, hback, by rw [hserver]; rfl, (hall _ _ _ rfl).1⟩

end Server

end SqlClient
