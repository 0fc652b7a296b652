import SqlClient.Proofs.Entries
import SqlClient.Settings.Layer
import Mathlib.Data.List.TakeWhile

namespace SqlClient

/-- Entries under their names in lower case. -/
def lowered {α : Type} (entries : List (String × α)) : List (String × α) :=
  entries.map fun e => (lowerName e.1, e.2)

theorem lowered_cons {α : Type} (name : String) (v : α) (rest : List (String × α)) :
    lowered ((name, v) :: rest) = (lowerName name, v) :: lowered rest :=
  rfl

theorem mem_lowered_iff {α : Type} {entries : List (String × α)} {key : String} {v : α} :
    (key, v) ∈ lowered entries ↔ ∃ name, (name, v) ∈ entries ∧ lowerName name = key := by
  simp [lowered]

theorem mem_keys_lowered_iff {α : Type} {entries : List (String × α)} {key : String} :
    key ∈ (lowered entries).map Prod.fst ↔ ∃ e ∈ entries, lowerName e.1 = key := by
  simp [lowered]

namespace PathStep

theorem ofName_of_forall {name : String} (h : ∀ c ∈ name.toList, isNameChar c = true) :
    ofName name = [.child name] := by
  have hrest : name.toList.dropWhile isNameChar = [] := List.dropWhile_eq_nil_iff.mpr h
  have hfirst : name.toList.takeWhile isNameChar = name.toList := List.takeWhile_eq_self_iff.mpr h
  rw [ofName, hrest, hfirst]
  cases name.toList.length <;> simp [readSteps]

/-- A name that is a word in lower case is one step. The Kelvin sign is the one character besides
letters that a letter is the lower case of. -/
theorem ofName_of_lowerName {name : String}
    (h : ∀ c ∈ (lowerName name).toList, 97 ≤ c.toNat ∧ c.toNat ≤ 122 ∧ c ≠ 'k') :
    ofName name = [.child name] := by
  apply ofName_of_forall
  intro c hc
  have hlower := h (lowerNameChar c) (by
    rw [lowerName, String.toList_ofList]
    exact List.mem_map_of_mem hc)
  unfold lowerNameChar at hlower
  split at hlower
  · exact absurd rfl hlower.2.2
  · unfold lowerAscii at hlower
    simp only [isNameChar, Bool.or_eq_true, decide_eq_true_eq]
    split at hlower
    · rename_i hcapital
      exact .inl (.inl (.inl (.inr hcapital)))
    · exact .inl (.inl (.inl (.inl (.inr ⟨hlower.1, hlower.2.1⟩))))

theorem ofName_undotted {name : String} (h : '.' ∉ name.toList) :
    ofName name = [.child name] ∨
      ∃ first i rest, ofName name = .child first :: .index i :: rest := by
  by_cases hall : ∀ c ∈ name.toList, isNameChar c = true
  · exact .inl (ofName_of_forall hall)
  · have hrest : name.toList.dropWhile isNameChar ≠ [] := by
      rwa [Ne, List.dropWhile_eq_nil_iff]
    obtain ⟨c, cs, hcs⟩ := List.exists_cons_of_ne_nil hrest
    have hc : c ∈ name.toList := by
      apply (List.dropWhile_sublist isNameChar).subset
      rw [hcs]
      exact List.mem_cons_self
    obtain ⟨fuel, hfuel⟩ : ∃ fuel, name.toList.length = fuel + 1 :=
      Nat.exists_eq_add_one.mpr (List.length_pos_of_mem hc)
    have hsteps : ∀ steps, readSteps (fuel + 1) (c :: cs) = some steps →
        ∃ i rest, steps = .index i :: rest := by
      intro steps hsteps
      unfold readSteps at hsteps
      split at hsteps
      · contradiction
      · contradiction
      · rename_i heq
        obtain rfl := (List.cons.inj heq).1
        exact absurd hc h
      · split at hsteps
        · obtain ⟨rest, -, rfl⟩ := Option.map_eq_some_iff.mp hsteps
          exact ⟨_, rest, rfl⟩
        · simp at hsteps
      · simp at hsteps
    rw [ofName, hcs, hfuel]
    split
    · exact .inl rfl
    · split
      · rename_i steps hread
        obtain ⟨i, rest, rfl⟩ := hsteps _ hread
        exact .inr ⟨_, i, rest, rfl⟩
      · exact .inl rfl

end PathStep

namespace ConfigValue

variable {root v : ConfigValue} {entries : List (String × ConfigValue)}

def IsTable : ConfigValue → Prop
  | table _ _ => True
  | _ => False

theorem entry?_emptyTable (name : String) : emptyTable.entry? name = none :=
  rfl

theorem entry?_congr {name key : String} (h : lowerName name = lowerName key) :
    root.entry? name = root.entry? key := by
  unfold entry?
  rw [h]

theorem entry?_of_not_isTable (h : ¬root.IsTable) (name : String) : root.entry? name = none := by
  cases root with
  | table origin entries => exact absurd trivial h
  | _ => rfl

theorem isTable_withEntry (root : ConfigValue) (name : String) (v : ConfigValue) :
    (root.withEntry name v).IsTable := by
  cases root <;> trivial

theorem entry?_withEntry (root : ConfigValue) (name key : String) (v : ConfigValue) :
    entry? (root.withEntry name v) key =
      if lowerName name = lowerName key then some v else root.entry? key := by
  cases root with
  | table origin entries => exact lookup?_insertEntry _
  | _ => rfl

theorem withEntry_of_not_isTable (h : ¬root.IsTable) (name : String) (v : ConfigValue) :
    root.withEntry name v = emptyTable.withEntry name v := by
  cases root with
  | table origin entries => exact absurd trivial h
  | _ => rfl

/-- What a value becomes above another one. -/
def above (v : ConfigValue) (below : Option ConfigValue) : ConfigValue :=
  match v with
  | table _ entries => setAll (below.getD emptyTable) entries
  | v => v

theorem set_eq (root : ConfigValue) (name : String) (v : ConfigValue) :
    root.set name v = root.withEntry name (v.above (root.entry? name)) := by
  cases v with
  | table origin entries => rw [set, above]
  | _ => rfl

theorem setAll_nil (root : ConfigValue) : setAll root [] = root := by
  rw [setAll]

theorem setAll_cons (root : ConfigValue) (name : String) (v : ConfigValue)
    (rest : List (String × ConfigValue)) :
    setAll root ((name, v) :: rest) = setAll (root.set name v) rest := by
  rw [setAll]

theorem isTable_setAll (h : root.IsTable) (entries : List (String × ConfigValue)) :
    (setAll root entries).IsTable := by
  induction entries generalizing root with
  | nil => rwa [setAll_nil]
  | cons e rest ih =>
      rw [setAll_cons, set_eq]
      exact ih (isTable_withEntry _ _ _)

theorem setAll_of_not_isTable (h : ¬root.IsTable) (hne : entries ≠ []) :
    setAll root entries = setAll emptyTable entries := by
  obtain ⟨⟨name, v⟩, rest, rfl⟩ := List.exists_cons_of_ne_nil hne
  rw [setAll_cons, setAll_cons, set_eq, set_eq, entry?_of_not_isTable h,
    withEntry_of_not_isTable h, entry?_emptyTable]

theorem exists_table_of_above {below : Option ConfigValue}
    (hbelow : ∀ w, below = some w → ¬w.IsTable) (h : (v.above below).IsTable) :
    ∃ origin entries, v = table origin entries ∧ v.above below = setAll emptyTable entries := by
  cases v with
  | table origin entries =>
      refine ⟨origin, entries, rfl, ?_⟩
      cases below with
      | none => rfl
      | some w =>
          have hw := hbelow w rfl
          apply setAll_of_not_isTable hw
          rintro rfl
          rw [above, Option.getD_some, setAll_nil] at h
          exact hw h
  | _ => exact absurd h id

theorem entry?_setAll (hnodup : ((lowered entries).map Prod.fst).Nodup)
    (hfresh : ∀ e ∈ entries, root.entry? e.1 = none) (key : String) :
    entry? (setAll root entries) key =
      ((lookup? (lowerName key) (lowered entries)).map fun v => v.above none).or
        (root.entry? key) := by
  induction entries generalizing root with
  | nil => rw [setAll_nil]; rfl
  | cons e rest ih =>
      obtain ⟨name, v⟩ := e
      rw [lowered_cons, List.map_cons, List.nodup_cons] at hnodup
      have hname : root.entry? name = none := hfresh (name, v) List.mem_cons_self
      have hother : ∀ e ∈ rest, lowerName name ≠ lowerName e.1 := by
        intro e he heq
        exact hnodup.1 (mem_keys_lowered_iff.mpr ⟨e, he, heq.symm⟩)
      rw [setAll_cons, set_eq, hname, ih hnodup.2, entry?_withEntry, lowered_cons, lookup?_cons]
      · by_cases hkey : lowerName name = lowerName key
        · have hrest : lookup? (lowerName key) (lowered rest) = none :=
            lookup?_eq_none_iff.mpr (hkey ▸ hnodup.1)
          rw [if_pos hkey, if_pos hkey, hrest]
          rfl
        · rw [if_neg hkey, if_neg hkey]
      · intro e he
        have hkeep := entry?_withEntry root name e.1 (v.above none)
        rw [if_neg (hother e he)] at hkeep
        rw [hkeep]
        exact hfresh e (List.mem_cons_of_mem _ he)

theorem setPath_child (v : ConfigValue) (name : String) (root : ConfigValue) :
    setPath v [.child name] root = root.withEntry name (v.above (root.entry? name)) := by
  rw [setPath, set_eq]

theorem exists_setPath_index (v : ConfigValue) (name : String) (i : Int) (rest : List PathStep)
    (root : ConfigValue) : ∃ a, ¬a.IsTable ∧
      setPath v (.child name :: .index i :: rest) root = root.withEntry name a := by
  cases rest with
  | nil =>
      rw [setPath, setPath]
      · exact ⟨_, id, rfl⟩
      · simp
  | cons next rest =>
      rw [setPath, setPath]
      · exact ⟨_, id, rfl⟩
      · simp
      · simp

theorem addLayer_concat (root : ConfigValue) (source : List (String × ConfigValue))
    (e : String × ConfigValue) :
    root.addLayer (source ++ [e]) = setPath e.2 (PathStep.ofName e.1) (root.addLayer source) := by
  simp [addLayer]

/-- What stands under a name comes from a source: a table only if the source lists it there, and
nothing only if the source lists nothing. -/
def ComesFrom (source : List (String × ConfigValue)) (key : String) : Option ConfigValue → Prop
  | none => lookup? key (lowered source) = none
  | some v => v.IsTable → ∃ origin entries,
      lookup? key (lowered source) = some (.table origin entries) ∧ v = setAll emptyTable entries

theorem ComesFrom.of_lookup?_eq {source source' : List (String × ConfigValue)} {key : String}
    {v : Option ConfigValue} (h : ComesFrom source key v)
    (hsame : lookup? key (lowered source') = lookup? key (lowered source)) :
    ComesFrom source' key v := by
  cases v with
  | none => exact hsame.trans h
  | some v =>
      intro htable
      obtain ⟨origin, entries, hgiven, hv⟩ := h htable
      exact ⟨origin, entries, hsame.trans hgiven, hv⟩

/-- What a source without dotted names and without names that differ by case only gives under a
name. -/
theorem comesFrom_addLayer {source : List (String × ConfigValue)} {key : String}
    (hkey : lowerName key = key)
    (hplain : ∀ name, lowerName name = key → PathStep.ofName name = [.child name])
    (hundotted : ∀ e ∈ source, '.' ∉ e.1.toList)
    (hnodup : ((lowered source).map Prod.fst).Nodup) :
    ComesFrom source key <| entry? (emptyTable.addLayer source) key := by
  induction source using List.reverseRecOn with
  | nil => rfl
  | append_singleton source e ih =>
      obtain ⟨name, value⟩ := e
      have hlowered : lowered (source ++ [(name, value)]) =
          lowered source ++ [(lowerName name, value)] := by
        simp [lowered]
      rw [hlowered, List.map_append, List.nodup_append] at hnodup
      have ih := ih (fun e he => hundotted e (List.mem_append_left _ he)) hnodup.1
      rw [addLayer_concat]
      by_cases hname : lowerName name = key
      · have hfresh : lookup? key (lowered source) = none :=
          lookup?_eq_none_iff.mpr fun hmem => hnodup.2.2 _ hmem _ List.mem_cons_self hname.symm
        have hbelow : ∀ w, entry? (emptyTable.addLayer source) name = some w → ¬w.IsTable := by
          intro w hw hwtable
          rw [← entry?_congr (hname.trans hkey.symm), hw] at ih
          obtain ⟨origin, entries, hgiven, -⟩ := ih hwtable
          rw [hfresh] at hgiven
          contradiction
        rw [hplain name hname, setPath_child, entry?_withEntry, hkey, if_pos hname]
        intro htable
        obtain ⟨origin, entries, rfl, habove⟩ := exists_table_of_above hbelow htable
        refine ⟨origin, entries, ?_, habove⟩
        rw [hlowered, lookup?_append, hfresh, lookup?_cons, if_pos hname]
        rfl
      · have hsame : lookup? key (lowered (source ++ [(name, value)])) =
            lookup? key (lowered source) := by
          rw [hlowered, lookup?_append, lookup?_cons, if_neg hname]
          exact Option.or_none
        rcases PathStep.ofName_undotted (hundotted (name, value) (by simp)) with
          hpath | ⟨first, i, rest, hpath⟩
        · rw [hpath, setPath_child, entry?_withEntry, hkey, if_neg hname]
          exact ih.of_lookup?_eq hsame
        · obtain ⟨a, ha, hset⟩ :=
            exists_setPath_index value first i rest (emptyTable.addLayer source)
          rw [hpath, hset, entry?_withEntry, hkey]
          split
          · exact fun htable => absurd htable ha
          · exact ih.of_lookup?_eq hsame

end ConfigValue

end SqlClient
