import SqlClient.Proofs.Settings.Layers
import SqlClient.Settings.Load
import Mathlib.Data.Fintype.Basic

/-!
The value that a file and an environment select for each setting: that of the environment, or else
that of the file. Main statement: `setting?_layers`.
-/

namespace SqlClient

/-- The settings of the client. -/
inductive Setting
  | host
  | port
  | resultType
  | timeoutMs
  | max
  | min
  | evictionRunIntervalMs
  | softIdleTimeoutMs
  | idleTimeoutMs
  | acquireTimeoutMs
  | evictionsPerRun
  | drainTimeoutMs
deriving DecidableEq

namespace Setting

instance : Fintype Setting where
  elems := {host, port, resultType, timeoutMs, max, min, evictionRunIntervalMs, softIdleTimeoutMs,
    idleTimeoutMs, acquireTimeoutMs, evictionsPerRun, drainTimeoutMs}
  complete := by rintro (_ | _) <;> decide

def sectionName : Setting → String
  | host => "connection"
  | port => "connection"
  | resultType => "connection"
  | timeoutMs => "connection"
  | _ => "pool"

def name : Setting → String
  | host => "host"
  | port => "port"
  | resultType => "result_type"
  | timeoutMs => "timeout_ms"
  | max => "max"
  | min => "min"
  | evictionRunIntervalMs => "eviction_run_interval_ms"
  | softIdleTimeoutMs => "soft_idle_timeout_ms"
  | idleTimeoutMs => "idle_timeout_ms"
  | acquireTimeoutMs => "acquire_timeout_ms"
  | evictionsPerRun => "evictions_per_run"
  | drainTimeoutMs => "drain_timeout_ms"

/-- The path of a setting from the root of a configuration. -/
def path (s : Setting) : String :=
  s.sectionName ++ "." ++ s.name

/-- The environment variable of a setting, in lower case. -/
def variableName (s : Setting) : String :=
  "impala_lite__" ++ s.sectionName ++ "__" ++ s.name

theorem lowerName_name (s : Setting) : lowerName s.name = s.name := by
  revert s
  decide +kernel

theorem lowerName_sectionName (s : Setting) : lowerName s.sectionName = s.sectionName := by
  revert s
  decide

theorem ofName_path (s : Setting) :
    PathStep.ofName s.path = [.child s.sectionName, .child s.name] := by
  revert s
  decide +kernel

theorem sectionName_eq (s : Setting) : s.sectionName = "connection" ∨ s.sectionName = "pool" := by
  revert s
  decide

theorem eq_of_names :
    ∀ {s t : Setting}, s.sectionName = t.sectionName → s.name = t.name → s = t := by
  decide

theorem eq_of_variableName : ∀ {s t : Setting}, s.variableName = t.variableName → s = t := by
  decide +kernel

theorem ofName_of_lowerName {s : Setting} {name : String} (h : lowerName name = s.sectionName) :
    PathStep.ofName name = [.child name] := by
  have hletters : ∀ s : Setting,
      (s.sectionName.toList.all fun c => 97 ≤ c.toNat ∧ c.toNat ≤ 122 ∧ c ≠ 'k') = true := by
    decide
  apply PathStep.ofName_of_lowerName
  rw [h]
  intro c hc
  exact of_decide_eq_true (List.all_eq_true.mp (hletters s) c hc)

end Setting

namespace ConfigValue

/-- The value of a setting in a configuration. -/
def setting? (root : ConfigValue) (s : Setting) : Option ConfigValue :=
  (root.entry? s.sectionName).bind fun v => v.entry? s.name

/-- Sections are tables, if they are there. -/
def IsSectioned (root : ConfigValue) : Prop :=
  ∀ s : Setting, ∀ v, root.entry? s.sectionName = some v → v.IsTable

theorem setPath_setting (root : ConfigValue) (s : Setting) (origin : Option Origin)
    (value : ConfigScalar) :
    setPath (.scalar origin value) [.child s.sectionName, .child s.name] root =
      root.withEntry s.sectionName
        (((root.entry? s.sectionName).getD nil).withEntry s.name (.scalar origin value)) := by
  rw [setPath, setPath_child, above]
  all_goals simp

theorem isSectioned_setPath {root : ConfigValue} (h : root.IsSectioned) (s : Setting)
    (origin : Option Origin) (value : ConfigScalar) :
    (setPath (.scalar origin value) [.child s.sectionName, .child s.name] root).IsSectioned := by
  intro t v hv
  rw [setPath_setting, entry?_withEntry] at hv
  split at hv
  · rw [← Option.some.inj hv]
    exact isTable_withEntry _ _ _
  · exact h t v hv

theorem setting?_setPath (root : ConfigValue) (s t : Setting) (origin : Option Origin)
    (value : ConfigScalar) :
    (setPath (.scalar origin value) [.child s.sectionName, .child s.name] root).setting? t =
      if s = t then some (.scalar origin value) else root.setting? t := by
  rw [setPath_setting, setting?, entry?_withEntry, s.lowerName_sectionName,
    t.lowerName_sectionName]
  by_cases hsection : s.sectionName = t.sectionName
  · rw [if_pos hsection, Option.bind_some, entry?_withEntry, s.lowerName_name, t.lowerName_name]
    by_cases hname : s.name = t.name
    · rw [if_pos hname, if_pos (Setting.eq_of_names hsection hname)]
    · rw [if_neg hname, if_neg (mt (congrArg Setting.name) hname), setting?, hsection]
      cases root.entry? t.sectionName <;> rfl
  · rw [if_neg hsection, if_neg (mt (congrArg Setting.sectionName) hsection)]
    rfl

end ConfigValue

namespace Settings

/-- The value that a file gives a setting. -/
def fileValue? (source : List (String × ConfigValue)) (s : Setting) : Option ConfigValue :=
  match lookup? s.sectionName (lowered source) with
  | some (.table _ entries) => lookup? s.name (lowered entries)
  | _ => none

/-- A file without dotted names and without names that differ by case only, whose sections are
tables. A position after a name, as in `pool[0]`, makes an array of what stands under the name. -/
structure IsPlainFile (source : List (String × ConfigValue)) : Prop where
  undotted : ∀ e ∈ source, '.' ∉ e.1.toList
  distinct : ((lowered source).map Prod.fst).Nodup
  distinctWithin : ∀ name origin entries, (name, .table origin entries) ∈ source →
    ((lowered entries).map Prod.fst).Nodup
  sections : (layers [source]).IsSectioned

theorem isSectioned_layers {source : List (String × ConfigValue)}
    (hnames : ∀ e ∈ source, PathStep.ofName e.1 = [.child e.1])
    (htables : ∀ e ∈ source, ∀ s : Setting, lowerName e.1 = s.sectionName → e.2.IsTable) :
    (layers [source]).IsSectioned := by
  have hroot : layers [source] = ConfigValue.emptyTable.addLayer source := rfl
  rw [hroot]
  induction source using List.reverseRecOn with
  | nil => exact fun s v hv => absurd hv nofun
  | append_singleton source e ih =>
      obtain ⟨name, value⟩ := e
      have ih := ih (fun e he => hnames e (List.mem_append_left _ he))
        (fun e he => htables e (List.mem_append_left _ he)) rfl
      have hmem : (name, value) ∈ source ++ [(name, value)] := by simp
      intro s v hv
      rw [ConfigValue.addLayer_concat, hnames _ hmem, ConfigValue.setPath_child,
        ConfigValue.entry?_withEntry] at hv
      split at hv
      · rename_i hname
        have htable := htables _ hmem s (hname.trans s.lowerName_sectionName)
        rw [ConfigValue.entry?_congr hname] at hv
        obtain rfl := Option.some.inj hv
        cases value with
        | table origin entries =>
            apply ConfigValue.isTable_setAll
            cases hbelow : ConfigValue.entry?
              (ConfigValue.emptyTable.addLayer source) s.sectionName with
            | none => trivial
            | some below => exact ih s below hbelow
        | _ => exact absurd htable id
      · exact ih s v hv

theorem setting?_file {source : List (String × ConfigValue)} (h : IsPlainFile source)
    (s : Setting) :
    (layers [source]).setting? s = (fileValue? source s).map fun v => v.above none := by
  have hentry : ConfigValue.ComesFrom source s.sectionName <|
      ConfigValue.entry? (layers [source]) s.sectionName :=
    ConfigValue.comesFrom_addLayer s.lowerName_sectionName
      (fun name => Setting.ofName_of_lowerName) h.undotted h.distinct
  have hsection := h.sections s
  rw [ConfigValue.setting?, fileValue?]
  cases hroot : ConfigValue.entry? (layers [source]) s.sectionName with
  | none =>
      rw [hroot] at hentry
      have hnone : lookup? s.sectionName (lowered source) = none := hentry
      rw [hnone]
      rfl
  | some v =>
      rw [hroot] at hentry
      obtain ⟨origin, entries, hgiven, rfl⟩ := hentry (hsection v hroot)
      obtain ⟨name, hmem, -⟩ := mem_lowered_iff.mp (mem_of_lookup?_eq_some hgiven)
      rw [hgiven, Option.bind_some,
        ConfigValue.entry?_setAll (h.distinctWithin name origin entries hmem) (fun _ _ => rfl),
        s.lowerName_name]
      exact Option.or_none

end Settings

namespace Environment

variable {env : List (String × String)}

/-- The client's variables with their names in lower case. -/
def clientVariables (env : List (String × String)) : List (String × String) :=
  (lowered env).filter fun e => namePrefix.isPrefixOf e.1.toList

/-- Each of the client's variables names a setting, and no two differ by case only. -/
structure IsPlain (env : List (String × String)) : Prop where
  known : ∀ e ∈ clientVariables env, ∃ s : Setting, e.1 = s.variableName
  distinct : ((clientVariables env).map Prod.fst).Nodup

/-- The value that an environment gives a setting. -/
def value? (env : List (String × String)) (s : Setting) : Option ConfigValue :=
  (lookup? s.variableName (clientVariables env)).map fun text =>
    .scalar (some .environment) (scalar text)

theorem settingName?_of_lowerName {s : Setting} {name : String}
    (h : lowerName name = s.variableName) :
    settingName? name = some s.path := by
  have hchars : name.toList.map lowerNameChar = s.variableName.toList := by
    rw [← h, lowerName, String.toList_ofList]
  rw [settingName?, hchars]
  clear h hchars
  revert s
  decide +kernel

theorem settingName?_eq_none {name : String}
    (h : namePrefix.isPrefixOf (lowerName name).toList = false) :
    settingName? name = none := by
  rw [lowerName, String.toList_ofList] at h
  rw [settingName?, h]
  rfl

/-- An environment is laid over what lies below it setting by setting. -/
theorem setting?_addLayer (h : IsPlain env) {root : ConfigValue} (hroot : root.IsSectioned) :
    (root.addLayer (source env)).IsSectioned ∧
      ∀ s, (root.addLayer (source env)).setting? s = (value? env s).or (root.setting? s) := by
  induction env generalizing root with
  | nil => exact ⟨hroot, fun s => rfl⟩
  | cons e env ih =>
      obtain ⟨name, text⟩ := e
      have hclient : clientVariables ((name, text) :: env) =
          if namePrefix.isPrefixOf (lowerName name).toList then
            (lowerName name, text) :: clientVariables env
          else clientVariables env := by
        rw [clientVariables, lowered_cons, List.filter_cons]
        rfl
      obtain ⟨hknown, hdistinct⟩ := h
      rw [hclient] at hknown hdistinct
      cases hours : namePrefix.isPrefixOf (lowerName name).toList with
      | false =>
          rw [hours, if_neg Bool.false_ne_true] at hknown hdistinct hclient
          have hsource : source ((name, text) :: env) = source env := by
            apply List.filterMap_cons_none
            simp only [settingName?_eq_none hours, Option.map_none]
          rw [hsource]
          simp only [value?, hclient]
          exact ih ⟨hknown, hdistinct⟩ hroot
      | true =>
          rw [hours, if_pos rfl] at hknown hdistinct hclient
          rw [List.map_cons, List.nodup_cons] at hdistinct
          obtain ⟨t, ht⟩ := hknown _ List.mem_cons_self
          have hsource : source ((name, text) :: env) =
              (t.path, .scalar (some .environment) (scalar text)) :: source env := by
            apply List.filterMap_cons_some
            simp only [settingName?_of_lowerName ht, Option.map_some]
          have hnext := ih ⟨fun e he => hknown e (List.mem_cons_of_mem _ he), hdistinct.2⟩
            (ConfigValue.isSectioned_setPath hroot t (some .environment) (scalar text))
          rw [hsource, ConfigValue.addLayer, List.foldl_cons, t.ofName_path,
            ← ConfigValue.addLayer]
          refine ⟨hnext.1, fun s => ?_⟩
          rw [hnext.2, ConfigValue.setting?_setPath, value?, value?, hclient, lookup?_cons]
          by_cases hsame : t = s
          · have hrest : lookup? s.variableName (clientVariables env) = none := by
              rw [lookup?_eq_none_iff, ← hsame, ← ht]
              exact hdistinct.1
            rw [if_pos hsame, if_pos (ht.trans (congrArg Setting.variableName hsame)), hrest]
            rfl
          · have hother : ¬lowerName name = s.variableName := by
              intro heq
              exact hsame (Setting.eq_of_variableName (ht.symm.trans heq))
            rw [if_neg hsame, if_neg hother]

theorem value?_of_perm (h : IsPlain env) {env' : List (String × String)} (hperm : env.Perm env')
    (s : Setting) : value? env' s = value? env s := by
  have hclient : (clientVariables env).Perm (clientVariables env') := (hperm.map _).filter _
  rw [value?, value?, lookup?_eq_of_perm h.distinct hclient]

theorem IsPlain.of_perm (h : IsPlain env) {env' : List (String × String)}
    (hperm : env.Perm env') :
    IsPlain env' := by
  have hclient : (clientVariables env).Perm (clientVariables env') := (hperm.map _).filter _
  exact ⟨fun e he => h.known e (hclient.mem_iff.mpr he),
    (hclient.map Prod.fst).nodup_iff.mp h.distinct⟩

end Environment

namespace Settings

variable {source source' : List (String × ConfigValue)} {env : List (String × String)}

/-- The value that is selected for a setting: that of the environment, or else that of the
file. -/
def selected? (source : List (String × ConfigValue)) (env : List (String × String))
    (s : Setting) :
    Option ConfigValue :=
  (Environment.value? env s).or (fileValue? source s)

theorem setting?_layers (hfile : IsPlainFile source) (henv : Environment.IsPlain env) :
    (layers [source, Environment.source env]).IsSectioned ∧
      ∀ s, (layers [source, Environment.source env]).setting? s =
        (Environment.value? env s).or ((fileValue? source s).map fun v => v.above none) := by
  obtain ⟨hsectioned, hvalues⟩ := Environment.setting?_addLayer henv hfile.sections
  refine ⟨hsectioned, fun s => ?_⟩
  rw [← setting?_file hfile s]
  exact hvalues s

/-- Equal values, or tables with the same entries in another order. -/
def SameEntries (v v' : ConfigValue) : Prop :=
  v = v' ∨ ∃ origin entries entries', v = .table origin entries ∧ v' = .table origin entries' ∧
    entries.Perm entries'

/-- The same names and sections with their entries in another order. -/
def Reordered (source source' : List (String × ConfigValue)) : Prop :=
  ∃ between, source.Perm between ∧
    List.Forall₂ (fun e e' => e.1 = e'.1 ∧ SameEntries e.2 e'.2) between source'

theorem rel_lookup?_lowered {R : ConfigValue → ConfigValue → Prop}
    (h : List.Forall₂ (fun e e' => e.1 = e'.1 ∧ R e.2 e'.2) source source') (key : String) :
    Option.Rel R (lookup? key (lowered source)) (lookup? key (lowered source')) := by
  induction h with
  | nil => exact .none
  | @cons e e' rest rest' he _ ih =>
      obtain ⟨name, v⟩ := e
      obtain ⟨name', v'⟩ := e'
      obtain ⟨rfl, hv⟩ := he
      rw [lowered_cons, lowered_cons, lookup?_cons, lookup?_cons]
      by_cases hname : lowerName name = key
      · rw [if_pos hname, if_pos hname]
        exact .some hv
      · rw [if_neg hname, if_neg hname]
        exact ih

theorem fileValue?_of_reordered (h : IsPlainFile source) (horder : Reordered source source')
    (s : Setting) : fileValue? source' s = fileValue? source s := by
  obtain ⟨between, hperm, hsame⟩ := horder
  have hlookup : lookup? s.sectionName (lowered source) =
      lookup? s.sectionName (lowered between) :=
    lookup?_eq_of_perm h.distinct (hperm.map _) _
  have hrel := rel_lookup?_lowered hsame s.sectionName
  rw [← hlookup] at hrel
  rw [fileValue?, fileValue?]
  generalize lookup? s.sectionName (lowered source') = given' at hrel ⊢
  cases hgiven : lookup? s.sectionName (lowered source) with
  | none =>
      rw [hgiven] at hrel
      cases hrel
      rfl
  | some v =>
      rw [hgiven] at hrel
      obtain ⟨name, hmem, -⟩ := mem_lowered_iff.mp (mem_of_lookup?_eq_some hgiven)
      cases hrel with
      | some hv =>
          rcases hv with rfl | ⟨origin, entries, entries', rfl, rfl, hentries⟩
          · rfl
          · exact (lookup?_eq_of_perm (h.distinctWithin name origin entries hmem) (hentries.map _)
              s.name).symm

end Settings

end SqlClient
