import SqlClient.Proofs.Statement.NormalForm
import SqlClient.Proofs.Statement.Reading

namespace SqlClient

namespace Item

/-- The item that is written as a text without quotes and parentheses. -/
def ofBare (t : String) : Item :=
  if t = "NULL" then null
  else if t = "true" then bool true
  else if t = "false" then bool false
  else number t

theorem ofBare_of_isNumeralChar {t : String} (h : ∀ c ∈ t.toList, isNumeralChar c = true) :
    ofBare t = number t := by
  have hne : ∀ word : String, (∃ c ∈ word.toList, isNumeralChar c = false) → t ≠ word := by
    rintro word ⟨c, hc, hfalse⟩ rfl
    simp [h c hc] at hfalse
  unfold ofBare
  rw [if_neg (hne _ ⟨'U', by decide, by decide⟩), if_neg (hne _ ⟨'r', by decide, by decide⟩),
    if_neg (hne _ ⟨'l', by decide, by decide⟩)]

end Item

/-- The character as a sign of what it opens: a text or a list. -/
def leadOf (c : Char) : Option Char :=
  if c = '\'' ∨ c = '(' then some c else none

namespace SqlValue

/-- The character that opens the literal of an item, if it is a text or a list. -/
def lead : SqlValue → Option Char
  | text _ => some '\''
  | list _ => some '('
  | _ => none

theorem bare_itemLiteral {v : SqlValue} (h : v.lead = none) :
    v.itemLiteral.toList ≠ [] ∧ Avoids " ,)\n('" v.itemLiteral ∧
      v.item = Item.ofBare v.itemLiteral := by
  have hnumber : ∀ t : String, t.toList ≠ [] → (∀ c ∈ t.toList, isNumeralChar c = true) →
      t.toList ≠ [] ∧ Avoids " ,)\n('" t ∧ Item.number t = Item.ofBare t := by
    intro t hne hchars
    refine ⟨hne, ?_, (Item.ofBare_of_isNumeralChar hchars).symm⟩
    intro c hc hmark
    have hnot : " ,)\n('".toList.all (fun c => !isNumeralChar c) = true := by decide
    exact absurd (hchars c hc) (by simpa using List.all_eq_true.mp hnot c hmark)
  cases v with
  | null => exact ⟨by decide, by decide, rfl⟩
  | bool b => cases b <;> exact ⟨by decide, by decide, rfl⟩
  | int n =>
      exact hnumber (intText n) (intText_toList_ne_nil n) fun _ => isNumeralChar_of_mem_intText
  | float x =>
      exact hnumber (floatText x) (floatText_toList_ne_nil x) fun _ =>
        isNumeralChar_of_mem_floatText
  | text s => simp [lead] at h
  | list items => simp [lead] at h

theorem itemLiteral_eq_cons (v : SqlValue) : ∃ c cs, v.itemLiteral.toList = c :: cs ∧
    c ∉ " ,)\n".toList ∧ leadOf c = v.lead := by
  cases hlead : v.lead with
  | none =>
      obtain ⟨hne, havoids, -⟩ := bare_itemLiteral hlead
      obtain ⟨c, cs, hcs⟩ := List.exists_cons_of_ne_nil hne
      have hc : c ∉ " ,)\n('".toList := havoids c (by simp [hcs])
      have hmarks : " ,)\n".toList ⊆ " ,)\n('".toList := by decide
      refine ⟨c, cs, hcs, fun hmark => hc (hmarks hmark), if_neg ?_⟩
      rintro (rfl | rfl)
      · exact hc (by decide)
      · exact hc (by decide)
  | some mark =>
      cases v with
      | text s =>
          obtain rfl : '\'' = mark := by simpa [lead] using hlead
          exact ⟨'\'', s.toList ++ ['\''], by simp [itemLiteral, literal], by decide, by decide⟩
      | list items =>
          obtain rfl : '(' = mark := by simpa [lead] using hlead
          exact ⟨'(', (list items).literal.toList ++ [')'],
            by simp [itemLiteral], by decide, by decide⟩
      | _ => simp [lead] at hlead

theorem lead_eq_of_append_eq {v w : SqlValue} {r r' : List Char}
    (h : v.itemLiteral.toList ++ r = w.itemLiteral.toList ++ r') : v.lead = w.lead := by
  obtain ⟨c, cs, hv, -, hc⟩ := itemLiteral_eq_cons v
  obtain ⟨c', cs', hw, -, hc'⟩ := itemLiteral_eq_cons w
  rw [hv, hw, List.cons_append, List.cons_append, List.cons.injEq] at h
  rw [← hc, ← hc', h.1]

theorem not_startsIn_itemLiteral (v : SqlValue) (s : List Char) :
    ¬ StartsIn " )\n" (v.itemLiteral.toList ++ s) := by
  obtain ⟨c, cs, hv, hc, -⟩ := itemLiteral_eq_cons v
  have hmarks : " )\n".toList ⊆ " ,)\n".toList := by decide
  rw [hv, List.cons_append, startsIn_cons]
  exact fun hmark => hc (hmarks hmark)

theorem legible_members {valid : SqlValue → Prop}
    (h : Legible itemLiteral item valid (StartsIn " ,)\n")) :
    Legible (fun values => ", ".intercalate (values.map itemLiteral)) (List.map item)
      (fun values => ∀ v ∈ values, valid v) (StartsIn " )\n") := by
  apply Legible.orEmpty
  · exact h.joined_marks (by decide) (by decide) (by decide)
  · rfl
  · intro values hne _ s
    obtain ⟨v, values, rfl⟩ := List.exists_cons_of_ne_nil hne
    rw [toList_joined_cons, List.append_assoc]
    exact not_startsIn_itemLiteral v _

theorem legible_bare :
    Legible itemLiteral item (fun v => v.lead = none) (StartsIn " ,)\n") := by
  intro v w hv hw r r' hr hr' htext
  obtain ⟨-, havoids, hitem⟩ := bare_itemLiteral hv
  obtain ⟨-, havoids', hitem'⟩ := bare_itemLiteral hw
  have hsub : " ,)\n".toList ⊆ " ,)\n('".toList := by decide
  obtain ⟨hsame, rfl⟩ := (havoids.mono hsub).cancel (havoids'.mono hsub) hr hr' htext
  exact ⟨by rw [hitem, hitem', hsame], rfl⟩

theorem quotation_cancel {s t : String} (hs : QuoteFree s) (ht : QuoteFree t) {r r' : List Char}
    (htext : (text s).itemLiteral.toList ++ r = (text t).itemLiteral.toList ++ r') :
    s = t ∧ r = r' := by
  have hquote : ∀ s, QuoteFree s → Avoids "'" s := by
    rintro s hs c hc hmark
    obtain rfl : c = '\'' := by simpa using hmark
    exact hs hc
  have hends : ∀ r, StartsIn "'" ("'".toList ++ r) := fun r =>
    StartsIn.append (by decide) (by decide) _
  simp only [itemLiteral, literal, String.toList_append, List.append_assoc] at htext
  obtain ⟨hsame, htail⟩ := (hquote s hs).cancel (hquote t ht) (hends r) (hends r')
    (List.append_cancel_left htext)
  exact ⟨hsame, List.append_cancel_left htail⟩

theorem list_cancel {valid : SqlValue → Prop}
    (h : Legible itemLiteral item valid (StartsIn " ,)\n")) {values values' : List SqlValue}
    (hvalues : ∀ v ∈ values, valid v) (hvalues' : ∀ v ∈ values', valid v) {r r' : List Char}
    (htext : (list values).itemLiteral.toList ++ r = (list values').itemLiteral.toList ++ r') :
    (list values).item = (list values').item ∧ r = r' := by
  have hends : ∀ r, StartsIn " )\n" (")".toList ++ r) := fun r =>
    StartsIn.append (by decide) (by decide) _
  simp only [itemLiteral, literal_list, String.toList_append, List.append_assoc] at htext
  obtain ⟨hsame, htail⟩ := legible_members h values values' hvalues hvalues' _ _
    (hends r) (hends r')
    (List.append_cancel_left htext)
  refine ⟨?_, List.append_cancel_left htail⟩
  rw [item, item, itemsOf_eq_map, itemsOf_eq_map, hsame]

/-- The size bounds the nesting of lists, on which the induction goes. -/
theorem legible_itemLiteral_of_lt (n : Nat) :
    Legible itemLiteral item (fun v => (∀ s ∈ v.texts, QuoteFree s) ∧ sizeOf v < n)
      (StartsIn " ,)\n") := by
  induction n with
  | zero =>
      rintro v w ⟨-, hv⟩
      exact absurd hv (Nat.not_lt_zero _)
  | succ n ih =>
      have hmembers : ∀ values : List SqlValue, (∀ s ∈ (list values).texts, QuoteFree s) →
          sizeOf (list values) < n + 1 →
          ∀ v ∈ values, (∀ s ∈ v.texts, QuoteFree s) ∧ sizeOf v < n := by
        intro values htexts hsize v hmem
        refine ⟨fun s hs => htexts s (texts_subset_of_mem hmem hs), ?_⟩
        have hlt := List.sizeOf_lt_of_mem hmem
        simp only [list.sizeOf_spec] at hsize
        omega
      rintro v w ⟨hv, hvn⟩ ⟨hw, hwn⟩ r r' hr hr' htext
      have hlead := lead_eq_of_append_eq htext
      cases hvlead : v.lead with
      | none => exact legible_bare v w hvlead (hlead.symm.trans hvlead) r r' hr hr' htext
      | some mark =>
          cases v with
          | text s =>
              cases w with
              | text t =>
                  obtain ⟨rfl, rfl⟩ := quotation_cancel (hv s (by simp [texts]))
                    (hw t (by simp [texts])) htext
                  exact ⟨rfl, rfl⟩
              | _ => simp [lead] at hlead
          | list values =>
              cases w with
              | list values' =>
                  exact list_cancel ih (hmembers values hv hvn) (hmembers values' hw hwn) htext
              | _ => simp [lead] at hlead
          | _ => simp [lead] at hvlead

theorem legible_itemLiteral :
    Legible itemLiteral item (fun v => ∀ s ∈ v.texts, QuoteFree s) (StartsIn " ,)\n") := by
  intro v w hv hw
  exact legible_itemLiteral_of_lt (sizeOf v + sizeOf w + 1) v w ⟨hv, by omega⟩ ⟨hw, by omega⟩

theorem legible_literal :
    Legible literal operand (fun v => ∀ s ∈ v.texts, QuoteFree s) (StartsIn " )\n") := by
  have hmembers : ∀ v : SqlValue, (∀ s ∈ v.texts, QuoteFree s) →
      ∀ w ∈ v.members, ∀ s ∈ w.texts, QuoteFree s := by
    intro v hv w hw s hs
    cases v with
    | list values => exact hv s (texts_subset_of_mem hw hs)
    | _ =>
        obtain rfl := List.mem_singleton.mp hw
        exact hv s hs
  intro v w hv hw r r' hr hr' htext
  rw [literal_eq_members, literal_eq_members] at htext
  exact legible_members legible_itemLiteral v.members w.members (hmembers v hv)
    (hmembers w hw) r r'
    hr hr' htext

end SqlValue

end SqlClient
