import SqlClient.OrderedMap
import Mathlib.Data.List.Induction
import Mathlib.Data.List.Nodup

namespace SqlClient

variable {α : Type} {key : String} {v : α} {entries : List (String × α)}

theorem lookup?_cons (key name : String) (v : α) (rest : List (String × α)) :
    lookup? key ((name, v) :: rest) = if name = key then some v else lookup? key rest :=
  rfl

theorem lookup?_append (key : String) (entries rest : List (String × α)) :
    lookup? key (entries ++ rest) = (lookup? key entries).or (lookup? key rest) := by
  induction entries with
  | nil => rfl
  | cons e entries ih =>
      obtain ⟨name, v⟩ := e
      rw [List.cons_append, lookup?_cons, lookup?_cons, ih]
      split <;> rfl

theorem lookup?_map {β : Type} (key : String) (name : β → String) (value : β → α)
    (items : List β) :
    lookup? key (items.map fun x => (name x, value x)) =
      (items.find? fun x => name x == key).map value := by
  induction items with
  | nil => rfl
  | cons x rest ih =>
      rw [List.map_cons, lookup?_cons]
      by_cases hname : name x = key
      · rw [if_pos hname, List.find?_cons_of_pos (by simpa using hname), Option.map_some]
      · rw [if_neg hname, List.find?_cons_of_neg (by simpa using hname), ih]

theorem lookup?_eq_none_iff : lookup? key entries = none ↔ key ∉ entries.map Prod.fst := by
  induction entries with
  | nil => simp [lookup?]
  | cons e rest ih =>
      obtain ⟨name, v⟩ := e
      rw [lookup?_cons]
      by_cases h : name = key
      · simp [h]
      · simp [h, ih, Ne.symm h]

theorem mem_of_lookup?_eq_some (h : lookup? key entries = some v) : (key, v) ∈ entries := by
  induction entries with
  | nil => simp [lookup?] at h
  | cons e rest ih =>
      obtain ⟨name, v'⟩ := e
      rw [lookup?_cons] at h
      split at h
      · rename_i hname
        obtain rfl := Option.some.inj h
        rw [hname]
        exact List.mem_cons_self
      · exact List.mem_cons_of_mem _ (ih h)

theorem lookup?_eq_some_iff (hnodup : (entries.map Prod.fst).Nodup) :
    lookup? key entries = some v ↔ (key, v) ∈ entries := by
  refine ⟨mem_of_lookup?_eq_some, ?_⟩
  intro h
  cases hlookup : lookup? key entries with
  | none => exact absurd (List.mem_map_of_mem h) (lookup?_eq_none_iff.mp hlookup)
  | some v' =>
      have hsame := List.inj_on_of_nodup_map hnodup h (mem_of_lookup?_eq_some hlookup) rfl
      rw [(Prod.mk.inj hsame).2]

theorem lookup?_eq_of_perm {entries' : List (String × α)} (hnodup : (entries.map Prod.fst).Nodup)
    (hperm : entries.Perm entries') (key : String) :
    lookup? key entries = lookup? key entries' := by
  have hnodup' : (entries'.map Prod.fst).Nodup := (hperm.map Prod.fst).nodup_iff.mp hnodup
  apply Option.ext
  intro v
  rw [lookup?_eq_some_iff hnodup, lookup?_eq_some_iff hnodup', hperm.mem_iff]

theorem lookup?_insertEntry (name : String) :
    lookup? key (insertEntry name v entries) =
      if name = key then some v else lookup? key entries := by
  induction entries with
  | nil => rfl
  | cons e rest ih =>
      obtain ⟨name', v'⟩ := e
      by_cases h : name' = name
      · subst h
        simp only [insertEntry, if_true, lookup?_cons]
        split <;> rfl
      · rw [insertEntry, if_neg h, lookup?_cons, lookup?_cons, ih]
        by_cases hkey : name' = key
        · subst hkey
          rw [if_pos rfl, if_neg (Ne.symm h), if_pos rfl]
        · rw [if_neg hkey, if_neg hkey]

theorem insertEntry_of_not_mem (h : key ∉ entries.map Prod.fst) :
    insertEntry key v entries = entries ++ [(key, v)] := by
  induction entries with
  | nil => rfl
  | cons e rest ih =>
      obtain ⟨name, v'⟩ := e
      rw [List.map_cons, List.mem_cons, not_or] at h
      rw [insertEntry, if_neg (Ne.symm h.1), ih h.2]
      rfl

theorem keys_insertEntry_of_mem (h : key ∈ entries.map Prod.fst) :
    (insertEntry key v entries).map Prod.fst = entries.map Prod.fst := by
  induction entries with
  | nil => simp at h
  | cons e rest ih =>
      obtain ⟨name, v'⟩ := e
      by_cases hname : name = key
      · rw [insertEntry, if_pos hname, List.map_cons, List.map_cons, hname]
      · rw [List.map_cons, List.mem_cons, or_iff_right (Ne.symm hname)] at h
        rw [insertEntry, if_neg hname, List.map_cons, ih h]
        rfl

theorem filterMap_lookup?_keys (hnodup : (entries.map Prod.fst).Nodup) :
    (entries.map Prod.fst).filterMap (fun key => (lookup? key entries).map fun v => (key, v)) =
      entries := by
  rw [List.filterMap_map]
  calc
    _ = entries.filterMap some := by
      apply List.filterMap_congr
      intro e he
      simp [(lookup?_eq_some_iff hnodup).mpr he]
    _ = entries := List.filterMap_some

namespace OrderedMap

theorem exchange_eq (m : OrderedMap α) (key : String) (v : α) :
    m.exchange key v = (m.insert key v, m.get? key) := by
  simp only [exchange, exchangeEntry_eq]
  rfl

theorem ofList_concat (entries : List (String × α)) (key : String) (v : α) :
    ofList (entries ++ [(key, v)]) = (ofList entries).insert key v := by
  simp [ofList, insertAll]

theorem entries_ofList_concat (entries : List (String × α)) (key : String) (v : α) :
    (ofList (entries ++ [(key, v)])).entries = insertEntry key v (ofList entries).entries := by
  rw [ofList_concat, insert]

theorem keys_ofList (entries : List (String × α)) :
    (ofList entries).keys = (entries.map Prod.fst).eraseDups := by
  induction entries using List.reverseRecOn with
  | nil => rfl
  | append_singleton entries e ih =>
      obtain ⟨name, v⟩ := e
      have hkeys : (ofList entries).entries.map Prod.fst = (entries.map Prod.fst).eraseDups := ih
      rw [keys, entries_ofList_concat, List.map_append, List.eraseDups_append, ← hkeys]
      by_cases hname : name ∈ entries.map Prod.fst
      · rw [keys_insertEntry_of_mem (by rwa [hkeys, List.mem_eraseDups])]
        simp [List.removeAll, hname]
      · rw [insertEntry_of_not_mem (by rwa [hkeys, List.mem_eraseDups])]
        simp [List.removeAll, hname, List.eraseDups_cons]

theorem get?_ofList (entries : List (String × α)) (key : String) :
    (ofList entries).get? key = lookup? key entries.reverse := by
  induction entries using List.reverseRecOn with
  | nil => rfl
  | append_singleton entries e ih =>
      obtain ⟨name, v⟩ := e
      rw [get?, entries_ofList_concat, lookup?_insertEntry, List.reverse_concat,
        lookup?_cons, ← ih]
      rfl

/-- Each name stands at its first place with its last value. -/
theorem entries_ofList (entries : List (String × α)) :
    (ofList entries).entries = (entries.map Prod.fst).eraseDups.filterMap fun key =>
      (lookup? key entries.reverse).map fun v => (key, v) := by
  rw [← keys_ofList, ← filterMap_lookup?_keys (ofList entries).nodup]
  simp only [← get?_ofList]
  rw [filterMap_lookup?_keys (ofList entries).nodup]
  exact (filterMap_lookup?_keys (ofList entries).nodup).symm

theorem entries_ofList_of_nodup (hnodup : (entries.map Prod.fst).Nodup) :
    (ofList entries).entries = entries := by
  induction entries using List.reverseRecOn with
  | nil => rfl
  | append_singleton entries e ih =>
      obtain ⟨name, v⟩ := e
      rw [List.map_append, List.nodup_append] at hnodup
      have hfresh : name ∉ entries.map Prod.fst := by
        intro hmem
        exact hnodup.2.2 name hmem name (by simp) rfl
      rw [entries_ofList_concat, ih hnodup.1, insertEntry_of_not_mem hfresh]

theorem ofList_entries (m : OrderedMap α) : ofList m.entries = m := by
  have hentries := entries_ofList_of_nodup m.nodup
  cases m
  cases h : ofList _
  simp_all

theorem mem_of_mem_ofList {e : String × α} (h : e ∈ (ofList entries).entries) : e ∈ entries := by
  rw [entries_ofList, List.mem_filterMap] at h
  obtain ⟨key, -, he⟩ := h
  obtain ⟨v, hv, rfl⟩ := Option.map_eq_some_iff.mp he
  exact List.mem_reverse.mp (mem_of_lookup?_eq_some hv)

end OrderedMap

end SqlClient
