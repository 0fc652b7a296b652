import SqlClient.Proofs.Outcome
import SqlClient.Proofs.Settings.Selection
import Mathlib

namespace SqlClient

/-- The kinds of values that settings have. -/
inductive SettingKind
  | text
  | port
  | counter

namespace SettingKind

@[reducible]
def Value : SettingKind → Type
  | text => String
  | port => Nat
  | counter => Nat

def read (kind : SettingKind) (key : String) (v : ConfigValue) : Except ConfigError kind.Value :=
  match kind with
  | text => v.readText key
  | port => v.readPort key
  | counter => v.readCounter key

theorem key_of_read {kind : SettingKind} {key : String} {v : ConfigValue} {e : ConfigError}
    (h : kind.read key v = .error e) : e.key = some key := by
  cases kind with
  | text => exact (ConfigValue.key_of_readText h).1
  | port => exact ConfigValue.key_of_readPort h
  | counter => exact ConfigValue.key_of_readCounter h

theorem read_ne_ok {v : ConfigValue} (h : v.IsTable) (kind : SettingKind) (key : String)
    (x : kind.Value) : kind.read key v ≠ .ok x := by
  cases v with
  | table origin entries => cases kind <;> exact nofun
  | _ => exact absurd h id

end SettingKind

namespace Setting

@[reducible]
def kind : Setting → SettingKind
  | host => .text
  | port => .port
  | resultType => .text
  | _ => .counter

@[reducible]
def Value (s : Setting) : Type :=
  s.kind.Value

def read (s : Setting) (v : ConfigValue) : Except ConfigError s.Value :=
  s.kind.read s.path v

def get (settings : Settings) : (s : Setting) → s.Value
  | host => settings.connection.host
  | port => settings.connection.port
  | resultType => settings.connection.resultType
  | timeoutMs => settings.connection.timeoutMs
  | max => settings.pool.max
  | min => settings.pool.min
  | evictionRunIntervalMs => settings.pool.evictionRunIntervalMs
  | softIdleTimeoutMs => settings.pool.softIdleTimeoutMs
  | idleTimeoutMs => settings.pool.idleTimeoutMs
  | acquireTimeoutMs => settings.pool.acquireTimeoutMs
  | evictionsPerRun => settings.pool.evictionsPerRun
  | drainTimeoutMs => settings.pool.drainTimeoutMs

def default (s : Setting) : s.Value :=
  s.get {}

/-- A setting has what is read from the value that is selected for it, or else its default. -/
def Takes (s : Setting) (x : s.Value) : Option ConfigValue → Prop
  | some v => s.read v = .ok x
  | none => x = s.default

theorem Takes.unique {s : Setting} {x y : s.Value} {v : Option ConfigValue} (hx : s.Takes x v)
    (hy : s.Takes y v) : x = y := by
  cases v with
  | none => exact hx.trans hy.symm
  | some v => exact Except.ok.inj (hx.symm.trans hy)

theorem read_above_eq_ok_iff {s : Setting} {x : s.Value} (v : ConfigValue) :
    s.read (v.above none) = .ok x ↔ s.read v = .ok x := by
  cases v with
  | table origin entries =>
      have htable : (ConfigValue.table origin entries).IsTable := trivial
      have hempty : ConfigValue.emptyTable.IsTable := trivial
      have habove : (ConfigValue.above (.table origin entries) none).IsTable :=
        ConfigValue.isTable_setAll hempty entries
      exact iff_of_false (SettingKind.read_ne_ok habove _ _ x)
        (SettingKind.read_ne_ok htable _ _ x)
  | _ => rfl

/-- The settings with given values. -/
def collect (values : (s : Setting) → s.Value) : Settings where
  connection := ⟨values host, values port, values resultType, values timeoutMs⟩
  pool := ⟨values max, values min, values evictionRunIntervalMs, values softIdleTimeoutMs,
    values idleTimeoutMs, values acquireTimeoutMs, values evictionsPerRun, values drainTimeoutMs⟩

theorem eq_of_get {settings settings' : Settings}
    (h : ∀ s : Setting, s.get settings = s.get settings') :
    settings = settings' :=
  show collect (fun s => s.get settings) = collect fun s => s.get settings' from
    congrArg collect (funext h)

theorem get_collect (values : (s : Setting) → s.Value) (s : Setting) :
    s.get (collect values) = values s := by
  cases s <;> rfl

theorem forall_connection_iff {P : Setting → Prop} :
    (∀ s : Setting, s.sectionName = "connection" → P s) ↔
      P host ∧ P port ∧ P resultType ∧ P timeoutMs := by
  constructor
  · exact fun h => ⟨h host rfl, h port rfl, h resultType rfl, h timeoutMs rfl⟩
  · rintro ⟨hhost, hport, hresultType, htimeoutMs⟩ s hs
    cases s <;> first | assumption | exact absurd hs (by decide)

theorem forall_pool_iff {P : Setting → Prop} :
    (∀ s : Setting, s.sectionName = "pool" → P s) ↔
      P max ∧ P min ∧ P evictionRunIntervalMs ∧ P softIdleTimeoutMs ∧ P idleTimeoutMs ∧
        P acquireTimeoutMs ∧ P evictionsPerRun ∧ P drainTimeoutMs := by
  constructor
  · exact fun h => ⟨h max rfl, h min rfl, h evictionRunIntervalMs rfl, h softIdleTimeoutMs rfl,
      h idleTimeoutMs rfl, h acquireTimeoutMs rfl, h evictionsPerRun rfl, h drainTimeoutMs rfl⟩
  · rintro ⟨hmax, hmin, hinterval, hsoftIdle, hidle, hacquire, hevictions, hdrain⟩ s hs
    cases s <;> first | assumption | exact absurd hs (by decide)

theorem readSetting_eq_ok_iff (s : Setting) (entries : List (String × ConfigValue))
    (position : Nat) {x : s.Value} :
    readSetting s.sectionName
      (fun name _ => (lookup? name entries).map fun v => ("." ++ name, v)) s.name
      position s.kind.read s.default = .ok x ↔ s.Takes x (lookup? s.name entries) := by
  unfold readSetting
  dsimp only
  cases lookup? s.name entries with
  | none => simp [Takes, eq_comm]
  | some v => simp [Takes, read, path, String.append_assoc]

end Setting

theorem ConnectionSettings.ofConfig_eq_ok_iff {origin : Option Origin}
    {entries : List (String × ConfigValue)} {settings : Settings} :
    ConnectionSettings.ofConfig (.table origin entries) = .ok settings.connection ↔
      ∀ s : Setting, s.sectionName = "connection" →
        s.Takes (s.get settings) (lookup? s.name entries) := by
  unfold ConnectionSettings.ofConfig
  simp only [ConfigValue.section?, bind_eq_ok_iff, pure, Except.pure, Except.ok.injEq,
    exists_eq_left']
  rw [Setting.forall_connection_iff]
  constructor
  · rintro ⟨host, hhost, port, hport, resultType, hresultType, timeoutMs, htimeoutMs, hsettings⟩
    simp only [Setting.get, ← hsettings]
    exact ⟨(Setting.readSetting_eq_ok_iff .host entries 0).mp hhost,
      (Setting.readSetting_eq_ok_iff .port entries 1).mp hport,
      (Setting.readSetting_eq_ok_iff .resultType entries 2).mp hresultType,
      (Setting.readSetting_eq_ok_iff .timeoutMs entries 3).mp htimeoutMs⟩
  · rintro ⟨hhost, hport, hresultType, htimeoutMs⟩
    exact ⟨_, (Setting.readSetting_eq_ok_iff .host entries 0).mpr hhost,
      _, (Setting.readSetting_eq_ok_iff .port entries 1).mpr hport,
      _, (Setting.readSetting_eq_ok_iff .resultType entries 2).mpr hresultType,
      _, (Setting.readSetting_eq_ok_iff .timeoutMs entries 3).mpr htimeoutMs, rfl⟩

theorem PoolSettings.ofConfig_eq_ok_iff {origin : Option Origin}
    {entries : List (String × ConfigValue)} {settings : Settings} :
    PoolSettings.ofConfig (.table origin entries) = .ok settings.pool ↔
      ∀ s : Setting, s.sectionName = "pool" →
        s.Takes (s.get settings) (lookup? s.name entries) := by
  unfold PoolSettings.ofConfig
  simp only [ConfigValue.section?, bind_eq_ok_iff, pure, Except.pure, Except.ok.injEq,
    exists_eq_left']
  rw [Setting.forall_pool_iff]
  constructor
  · rintro ⟨max, hmax, min, hmin, interval, hinterval, softIdle, hsoftIdle, idle, hidle,
      acquire, hacquire, evictions, hevictions, drain, hdrain, hsettings⟩
    simp only [Setting.get, ← hsettings]
    exact ⟨(Setting.readSetting_eq_ok_iff .max entries 0).mp hmax,
      (Setting.readSetting_eq_ok_iff .min entries 1).mp hmin,
      (Setting.readSetting_eq_ok_iff .evictionRunIntervalMs entries 2).mp hinterval,
      (Setting.readSetting_eq_ok_iff .softIdleTimeoutMs entries 3).mp hsoftIdle,
      (Setting.readSetting_eq_ok_iff .idleTimeoutMs entries 4).mp hidle,
      (Setting.readSetting_eq_ok_iff .acquireTimeoutMs entries 5).mp hacquire,
      (Setting.readSetting_eq_ok_iff .evictionsPerRun entries 6).mp hevictions,
      (Setting.readSetting_eq_ok_iff .drainTimeoutMs entries 7).mp hdrain⟩
  · rintro ⟨hmax, hmin, hinterval, hsoftIdle, hidle, hacquire, hevictions, hdrain⟩
    exact ⟨_, (Setting.readSetting_eq_ok_iff .max entries 0).mpr hmax,
      _, (Setting.readSetting_eq_ok_iff .min entries 1).mpr hmin,
      _, (Setting.readSetting_eq_ok_iff .evictionRunIntervalMs entries 2).mpr hinterval,
      _, (Setting.readSetting_eq_ok_iff .softIdleTimeoutMs entries 3).mpr hsoftIdle,
      _, (Setting.readSetting_eq_ok_iff .idleTimeoutMs entries 4).mpr hidle,
      _, (Setting.readSetting_eq_ok_iff .acquireTimeoutMs entries 5).mpr hacquire,
      _, (Setting.readSetting_eq_ok_iff .evictionsPerRun entries 6).mpr hevictions,
      _, (Setting.readSetting_eq_ok_iff .drainTimeoutMs entries 7).mpr hdrain, rfl⟩

namespace Settings

theorem readSection_eq_ok_iff {α : Type} (ofConfig : ConfigValue → Except ConfigError α)
    {default x : α}
    (hempty : ofConfig (.table none []) = .ok default) (settings : Settings) (t : Setting)
    (htable : ∀ origin entries, ofConfig (.table origin entries) = .ok x ↔
      ∀ s : Setting, s.sectionName = t.sectionName →
        s.Takes (s.get settings) (lookup? s.name entries))
    {root : ConfigValue} (hroot : root.IsSectioned) :
    (match root.entry? t.sectionName with
      | some v => ofConfig v
      | none => .ok default) = .ok x ↔
      ∀ s : Setting, s.sectionName = t.sectionName →
        s.Takes (s.get settings) (root.setting? s) := by
  cases h : root.entry? t.sectionName with
  | none =>
      have hnone : ∀ s : Setting, s.sectionName = t.sectionName →
          root.setting? s = lookup? s.name [] := by
        intro s hs
        rw [ConfigValue.setting?, hs, h]
        rfl
      dsimp only
      rw [← hempty, htable]
      exact forall₂_congr fun s hs => by rw [hnone s hs]
  | some v =>
      cases v with
      | table origin entries =>
          have hsome : ∀ s : Setting, s.sectionName = t.sectionName →
              root.setting? s = lookup? s.name entries := by
            intro s hs
            rw [ConfigValue.setting?, hs, h, Option.bind_some, ConfigValue.entry?,
              s.lowerName_name]
          dsimp only
          rw [htable]
          exact forall₂_congr fun s hs => by rw [hsome s hs]
      | _ => exact absurd (hroot t _ h) id

theorem read_eq_ok_iff_sections {root : ConfigValue} {settings : Settings} :
    read root = .ok settings ↔
      (match root.entry? "connection" with
        | some v => ConnectionSettings.ofConfig v
        | none => .ok {}) = .ok settings.connection ∧
      (match root.entry? "pool" with
        | some v => PoolSettings.ofConfig v
        | none => .ok {}) = .ok settings.pool := by
  obtain ⟨connection, pool⟩ := settings
  unfold read
  cases root.entry? "connection" with
  | none => cases root.entry? "pool" <;> simp [bind_eq_ok_iff, pure, Except.pure, and_comm]
  | some v => cases root.entry? "pool" <;> simp [bind_eq_ok_iff, pure, Except.pure]

theorem read_eq_ok_iff {root : ConfigValue} (hroot : root.IsSectioned) {settings : Settings} :
    read root = .ok settings ↔ ∀ s : Setting, s.Takes (s.get settings) (root.setting? s) := by
  have hconnection := readSection_eq_ok_iff ConnectionSettings.ofConfig rfl settings .host
    (fun _ _ => ConnectionSettings.ofConfig_eq_ok_iff) hroot
  have hpool := readSection_eq_ok_iff PoolSettings.ofConfig rfl settings .max
    (fun _ _ => PoolSettings.ofConfig_eq_ok_iff) hroot
  rw [read_eq_ok_iff_sections]
  refine (and_congr hconnection hpool).trans ⟨?_, fun h => ⟨fun s _ => h s, fun s _ => h s⟩⟩
  rintro ⟨hconnection, hpool⟩ s
  rcases s.sectionName_eq with hs | hs
  · exact hconnection s hs
  · exact hpool s hs

theorem ofConfig_eq_ok_iff {root : ConfigValue} {settings : Settings} :
    ofConfig root = .ok settings ↔ read root = .ok settings ∧ settings.pool.Usable := by
  unfold ofConfig
  cases read root with
  | error e => simp
  | ok read =>
      cases hcheck : read.pool.check with
      | error e =>
          have hunusable : ¬read.pool.Usable := by
            rw [← PoolSettings.check_eq_ok_iff, hcheck]
            exact nofun
          simp only [hcheck, reduceCtorEq, false_iff, Except.ok.injEq]
          rintro ⟨rfl, husable⟩
          exact hunusable husable
      | ok _ =>
          have husable : read.pool.Usable := (PoolSettings.check_eq_ok_iff _).mp hcheck
          simp only [hcheck, Except.ok.injEq]
          constructor
          · rintro rfl
            exact ⟨rfl, husable⟩
          · exact And.left

/-- A file that can be read gives a source. No file at all counts as an empty one. -/
def Provides (file : Option String) (source : List (String × ConfigValue)) : Prop :=
  match file with
  | some text => tomlSource? (some .file) (fileText text) = some source
  | none => source = []

variable {file : Option String} {source : List (String × ConfigValue)}
  {env : List (String × String)}

theorem load_of_provides (h : Provides file source) (env : List (String × String)) :
    load file env = (ofConfig (layers [source, Environment.source env]), false) := by
  cases file with
  | none =>
      obtain rfl : source = [] := h
      rfl
  | some text =>
      have hsource : tomlSource? (some .file) (fileText text) = some source := h
      unfold load
      simp only [hsource]

theorem load_eq_ok_iff (hfile : Provides file source) (hplain : IsPlainFile source)
    (henv : Environment.IsPlain env) {settings : Settings} :
    (load file env).1 = .ok settings ↔
      (∀ s : Setting, s.Takes (s.get settings) (selected? source env s)) ∧
        settings.pool.Usable := by
  obtain ⟨hsectioned, hvalues⟩ := setting?_layers hplain henv
  have htakes : ∀ (s : Setting) (x : s.Value), s.Takes x
      ((Environment.value? env s).or ((fileValue? source s).map fun v => v.above none)) ↔
        s.Takes x (selected? source env s) := by
    intro s x
    rw [selected?]
    cases Environment.value? env s with
    | some v => rfl
    | none =>
        cases fileValue? source s with
        | none => rfl
        | some v => exact Setting.read_above_eq_ok_iff v
  rw [load_of_provides hfile, ofConfig_eq_ok_iff, read_eq_ok_iff hsectioned]
  simp only [hvalues, htakes]

theorem exists_load_error_iff (hfile : Provides file source) (hplain : IsPlainFile source)
    (henv : Environment.IsPlain env) :
    (∃ e, (load file env).1 = .error e) ↔
      (∃ s v, selected? source env s = some v ∧ ∀ x, s.read v ≠ .ok x) ∨
        ∃ settings, (∀ s : Setting, s.Takes (s.get settings) (selected? source env s)) ∧
          (settings.pool.max = 0 ∨ settings.pool.max < settings.pool.min) := by
  have hload : (∃ e, (load file env).1 = .error e) ↔
      ∀ settings, (load file env).1 ≠ .ok settings := by
    cases (load file env).1 <;> simp
  have hunusable : ∀ p : PoolSettings, (p.max = 0 ∨ p.max < p.min) ↔ ¬p.Usable := by
    intro p
    rw [PoolSettings.Usable]
    omega
  simp only [hload, Ne, load_eq_ok_iff hfile hplain henv, hunusable]
  constructor
  · intro hfails
    by_contra hneither
    obtain ⟨hreadable, husable⟩ := not_or.mp hneither
    have hvalues : ∀ s : Setting, ∃ x, s.Takes x (selected? source env s) := by
      intro s
      cases hselected : selected? source env s with
      | none => exact ⟨_, rfl⟩
      | some v =>
          by_contra hread
          exact hreadable ⟨s, v, hselected, fun x hx => hread ⟨x, hx⟩⟩
    choose values hvalues using hvalues
    have htakes : ∀ s : Setting,
        s.Takes (s.get (Setting.collect values)) (selected? source env s) := by
      intro s
      rw [Setting.get_collect]
      exact hvalues s
    exact husable ⟨_, htakes, fun h => hfails _ ⟨htakes, h⟩⟩
  · rintro (⟨s, v, hselected, hread⟩ | ⟨settings, htakes, hunusable⟩) settings' ⟨htakes', husable⟩
    · have hs := htakes' s
      rw [hselected] at hs
      exact hread _ hs
    · obtain rfl : settings = settings' :=
        Setting.eq_of_get fun s => (htakes s).unique (htakes' s)
      exact hunusable husable

/-- Each setting that is loaded is read from the value that the environment gives it, or else the
file, and has its default if neither gives one; the pool can be built. Loading fails only if a
selected value cannot be read or the pool could not be built. Neither the order of the variables
nor that of the keys matters. A file that cannot be read counts as none. -/
theorem loads_selected_values (hfile : Provides file source) (hplain : IsPlainFile source)
    (henv : Environment.IsPlain env) :
    (∀ settings, (load file env).1 = .ok settings ↔
      (∀ s : Setting, s.Takes (s.get settings) (selected? source env s)) ∧ settings.pool.Usable) ∧
    ((∃ e, (load file env).1 = .error e) ↔
      (∃ s v, selected? source env s = some v ∧ ∀ x, s.read v ≠ .ok x) ∨
        ∃ settings, (∀ s : Setting, s.Takes (s.get settings) (selected? source env s)) ∧
          (settings.pool.max = 0 ∨ settings.pool.max < settings.pool.min)) ∧
    (∀ file' source' env', Provides file' source' → IsPlainFile source' →
      Reordered source source' → env.Perm env' →
      ∀ settings, (load file' env').1 = .ok settings ↔ (load file env).1 = .ok settings) ∧
    ∀ text, tomlSource? (some .file) (fileText text) = none →
      (load (some text) env).1 = (load none env).1 := by
  refine ⟨fun settings => load_eq_ok_iff hfile hplain henv,
    exists_load_error_iff hfile hplain henv, ?_, ?_⟩
  · intro file' source' env' hfile' hplain' horder hperm settings
    have hselected : ∀ s, selected? source' env' s = selected? source env s := by
      intro s
      rw [selected?, selected?, Environment.value?_of_perm henv hperm,
        fileValue?_of_reordered hplain horder]
    rw [load_eq_ok_iff hfile hplain henv, load_eq_ok_iff hfile' hplain' (henv.of_perm hperm)]
    simp only [hselected]
  · intro text htext
    unfold load
    simp only [htext]

/-- A file that gives the host and the minimum. -/
def smallFile : String := "[Pool]\nmin=2\n[connection]\nhost=\"old\""

def smallSource : List (String × ConfigValue) :=
  [("Pool", .table (some .file) [("min", .scalar (some .file) (.int 2))]),
    ("connection", .table (some .file) [("host", .scalar (some .file) (.text "old"))])]

/-- An environment that gives another host and the maximum. -/
def smallEnvironment : List (String × String) :=
  [("HOME", "/root"), ("IMPALA_LITE__CONNECTION__HOST", "db"), ("IMPALA_LITE__Pool__MAX", "30")]

theorem provides_smallFile : Provides (some smallFile) smallSource := by
  have hparse : Toml.parse? "[Pool]\nmin=2\n[connection]\nhost=\"old\"" =
      some [("Pool", .table [("min", .int 2)]),
        ("connection", .table [("host", .text "old")])] := by
    cbv
  have htext : fileText smallFile = smallFile := by decide
  rw [Provides, htext, smallFile, tomlSource?, hparse]
  rfl

theorem loads_selected_values_small :
    Provides (some smallFile) smallSource ∧ IsPlainFile smallSource ∧
      Environment.IsPlain smallEnvironment ∧
      (load (some smallFile) smallEnvironment).1 =
        .ok { connection := { host := "db" }, pool := { max := 30, min := 2 } } := by
  have hplain : IsPlainFile smallSource := {
    undotted := by decide
    distinct := by decide
    distinctWithin := by
      intro name origin entries h
      simp only [smallSource, List.mem_cons, List.not_mem_nil, or_false, Prod.mk.injEq,
        ConfigValue.table.injEq] at h
      obtain ⟨-, -, rfl⟩ | ⟨-, -, rfl⟩ := h
      · decide
      · decide
    sections := by
      apply isSectioned_layers
      · decide
      · intro e he s _
        simp only [smallSource, List.mem_cons, List.not_mem_nil, or_false] at he
        obtain rfl | rfl := he
        · trivial
        · trivial }
  have henv : Environment.IsPlain smallEnvironment := ⟨by decide, by decide⟩
  have hselected : ∀ s, selected? smallSource smallEnvironment s =
      if s = .host then some (.scalar (some .environment) (.text "db"))
      else if s = .min then some (.scalar (some .file) (.int 2))
      else if s = .max then some (.scalar (some .environment) (.int 30)) else none := by
    intro s
    cases s <;> rfl
  refine ⟨provides_smallFile, hplain, henv, ?_⟩
  apply ((loads_selected_values provides_smallFile hplain henv).1 _).mpr
  refine ⟨fun s => ?_, by decide, by decide⟩
  rw [hselected]
  cases s with
  | host => exact ConfigValue.readText_text Setting.host.path "db" (some .environment)
  | _ => rfl

end Settings

end SqlClient
