import SqlClient.Descriptor.Reading
import SqlClient.Proofs.Json.Records
import Mathlib.Algebra.Group.Nat.Defs
import Mathlib.Algebra.Ring.Int.Defs

namespace SqlClient

/-- An attribute as it may be written, with its meaning. -/
inductive AttributeForm : Json → Attribute → Prop
  | bare (column : String) : AttributeForm (.string column) ⟨column, none⟩
  | alone (column : String) : AttributeForm (.array [.string column]) ⟨column, none⟩
  | unnamed (column : String) : AttributeForm (.array [.string column, .null]) ⟨column, none⟩
  | blank (column : String) : AttributeForm (.array [.string column, .string ""]) ⟨column, none⟩
  | named (column name : String) (hname : name ≠ "") :
      AttributeForm (.array [.string column, .string name]) ⟨column, some name⟩

inductive ConditionsForm : Json → Conditions → Prop
  | null : ConditionsForm .null OrderedMap.empty
  | object (members : List (String × Json)) :
      ConditionsForm (.object members) (Conditions.ofMembers members)

inductive TextsForm : Json → List String → Prop
  | null : TextsForm .null []
  | one (text : String) : TextsForm (.string text) [text]
  | many (texts : List String) : TextsForm (.array (texts.map .string)) texts

inductive CountForm : Json → Option Nat → Prop
  | null : CountForm .null none
  | count (n : Nat) (hn : n < 2 ^ 64) : CountForm (Json.integer n) (some n)

namespace WrittenAttribute

theorem eq_map_of_textsOrNulls? {items : List Json} {texts : List (Option String)}
    (h : textsOrNulls? items = some texts) :
    items = texts.map fun text => text.elim .null .string := by
  induction items using textsOrNulls?.induct generalizing texts with
  | case1 =>
      obtain rfl := Option.some.inj h
      rfl
  | case2 rest ih =>
      obtain ⟨texts, hrest, rfl⟩ := Option.map_eq_some_iff.mp h
      rw [ih hrest]
      rfl
  | case3 s rest ih =>
      obtain ⟨texts, hrest, rfl⟩ := Option.map_eq_some_iff.mp h
      rw [ih hrest]
      rfl
  | case4 v rest hnull hstring => simp [textsOrNulls?] at h

theorem form_of_resolve {texts : List (Option String)} {a : Attribute}
    (h : (parts texts).resolve = .ok a) :
    AttributeForm (.array (texts.map fun text => text.elim .null .string)) a := by
  unfold resolve at h
  split at h
  · contradiction
  · rename_i column heq
    obtain rfl := WrittenAttribute.parts.inj heq
    obtain rfl := Except.ok.inj h
    exact .alone column
  · rename_i column name heq
    obtain rfl := WrittenAttribute.parts.inj heq
    obtain rfl := Except.ok.inj h
    rcases name with _ | name
    · exact .unnamed column
    · by_cases hname : name = ""
      · subst hname
        exact .blank column
      · rw [Option.filter_some, if_pos (by simpa using hname)]
        exact .named column name hname
  all_goals simp at h

theorem exists_resolve_iff {v : Json} {a : Attribute} :
    (∃ w, ofJson v = .ok w ∧ w.resolve = .ok a) ↔ AttributeForm v a := by
  constructor
  · rintro ⟨w, hw, ha⟩
    unfold ofJson at hw
    split at hw
    · obtain rfl := Except.ok.inj hw
      obtain rfl := Except.ok.inj ha
      exact .bare _
    · split at hw
      · rename_i items texts htexts
        obtain rfl := Except.ok.inj hw
        rw [eq_map_of_textsOrNulls? htexts]
        exact form_of_resolve ha
      · simp at hw
    · simp at hw
  · rintro (_ | _ | _ | _ | ⟨column, name, hname⟩)
    · exact ⟨_, rfl, rfl⟩
    · exact ⟨_, rfl, rfl⟩
    · exact ⟨_, rfl, rfl⟩
    · exact ⟨_, rfl, rfl⟩
    · refine ⟨_, rfl, ?_⟩
      simp [resolve, Option.filter, hname]

theorem exists_readList_iff {v : Json} {attributes : List Attribute} :
    (∃ ws, Json.readList ofJson v = .ok ws ∧ ws.mapM resolve = .ok attributes) ↔
      ∃ items, v = .array items ∧ List.Forall₂ AttributeForm items attributes := by
  have hitems : ∀ items : List Json,
      (∃ ws, items.mapM ofJson = .ok ws ∧ ws.mapM resolve = .ok attributes) ↔
        List.Forall₂ AttributeForm items attributes := by
    intro items
    simp only [exists_mapM_mapM_eq_ok_iff, exists_resolve_iff]
  cases v with
  | array items => simpa [Json.readList] using hitems items
  | _ => simp [Json.readList]

end WrittenAttribute

namespace Conditions

theorem ofJson_eq_ok_iff {v : Json} {c : Conditions} : ofJson v = .ok c ↔ ConditionsForm v c := by
  constructor
  · intro h
    unfold ofJson at h
    split at h
    · exact Except.ok.inj h ▸ .null
    · exact Except.ok.inj h ▸ .object _
    · simp at h
  · rintro (_ | members)
    · rfl
    · rfl

end Conditions

namespace WrittenDescriptor

theorem texts?_eq_some_iff {items : List Json} {texts : List String} :
    texts? items = some texts ↔ items = texts.map .string := by
  induction items using texts?.induct generalizing texts with
  | case1 => simp [texts?, eq_comm]
  | case2 s rest ih =>
      rw [texts?, Option.map_eq_some_iff]
      constructor
      · rintro ⟨texts, hrest, rfl⟩
        rw [ih.mp hrest, List.map_cons]
      · intro h
        obtain ⟨text, texts, rfl, htext, hrest⟩ := List.map_eq_cons_iff.mp h.symm
        obtain rfl := Json.string.inj htext
        exact ⟨texts, ih.mpr hrest.symm, rfl⟩
  | case3 v rest hstring =>
      rw [texts?.eq_3 v rest hstring]
      constructor
      · simp
      · intro h
        obtain ⟨text, -, -, htext, -⟩ := List.map_eq_cons_iff.mp h.symm
        exact absurd htext.symm (hstring text)

theorem exists_readTexts_iff {v : Json} {texts : List String} :
    (∃ read, Json.readOptional readTexts v = .ok read ∧ read.getD [] = texts) ↔
      TextsForm v texts := by
  constructor
  · rintro ⟨read, hread, rfl⟩
    rcases Json.readOptional_eq_ok_iff.mp hread with ⟨rfl, rfl⟩ | ⟨-, texts, htexts, rfl⟩
    · exact .null
    · unfold readTexts at htexts
      split at htexts
      · exact Except.ok.inj htexts ▸ .one _
      · split at htexts
        · rename_i items texts' hitems
          rw [texts?_eq_some_iff.mp hitems, ← Except.ok.inj htexts]
          exact .many texts'
        · simp at htexts
      · simp at htexts
  · rintro (_ | text | texts)
    · exact ⟨none, rfl, rfl⟩
    · exact ⟨some [text], rfl, rfl⟩
    · refine ⟨some texts, ?_, rfl⟩
      have htexts : readTexts (.array (texts.map .string)) = .ok texts := by
        rw [readTexts, texts?_eq_some_iff.mpr rfl]
      exact Json.readOptional_eq_ok_iff.mpr (.inr ⟨nofun, _, htexts, rfl⟩)

theorem readCount_eq_ok_iff {v : Json} {n : Option Nat} :
    readCount v = .ok n ↔ CountForm v n := by
  constructor
  · intro h
    rcases Json.readOptional_eq_ok_iff.mp h with ⟨rfl, rfl⟩ | ⟨-, n, hn, rfl⟩
    · exact .null
    · unfold Json.readBounded at hn
      split at hn
      · rename_i i
        split at hn
        · rename_i hbounds
          obtain rfl := Except.ok.inj hn
          obtain ⟨n, rfl⟩ := Int.eq_ofNat_of_zero_le hbounds.1
          exact .count n (by exact_mod_cast hbounds.2)
        · simp at hn
      · simp at hn
  · rintro (_ | ⟨n, hn⟩)
    · rfl
    · have hbounds : (0 : Int) ≤ n ∧ (n : Int) < (Nat.pow 2 64 : Nat) :=
        ⟨Int.natCast_nonneg n, by exact_mod_cast hn⟩
      have hread : Json.readBounded (Nat.pow 2 64) "u64" (Json.integer n) = .ok n := by
        rw [Json.integer, Json.readBounded, if_pos hbounds, Int.toNat_natCast]
      exact Json.readOptional_eq_ok_iff.mpr (.inr ⟨nofun, _, hread, rfl⟩)

end WrittenDescriptor

end SqlClient
