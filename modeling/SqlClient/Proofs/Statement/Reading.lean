import SqlClient.Statement

/-!
Reading values back off the front of a text. A way of writing is legible if the text of a value,
with anything behind it that may follow, tells what the value means and where its text ends.
-/

namespace SqlClient

variable {α β : Type}

/-- Texts by `write` tell the meaning of valid values and where they end, whatever with `follow`
comes behind. -/
def Legible (write : α → String) (meaning : α → β) (valid : α → Prop)
    (follow : List Char → Prop) :
    Prop :=
  ∀ a b, valid a → valid b → ∀ r r', follow r → follow r' →
    (write a).toList ++ r = (write b).toList ++ r' → meaning a = meaning b ∧ r = r'

/-- The text is empty or begins with one of the marks. -/
def StartsIn (marks : String) : List Char → Prop
  | [] => True
  | c :: _ => c ∈ marks.toList

instance (marks : String) (r : List Char) : Decidable (StartsIn marks r) :=
  match r with
  | [] => inferInstanceAs (Decidable True)
  | c :: _ => inferInstanceAs (Decidable (c ∈ marks.toList))

/-- None of the marks stands in the text. -/
def Avoids (marks w : String) : Prop :=
  ∀ c ∈ w.toList, c ∉ marks.toList

-- the instance is given by name, as there may be one that goes through all characters instead
instance (marks w : String) : Decidable (Avoids marks w) :=
  List.decidableBAll (· ∉ marks.toList) w.toList

theorem startsIn_nil (marks : String) : StartsIn marks [] :=
  trivial

theorem startsIn_cons {marks : String} {c : Char} {r : List Char} :
    StartsIn marks (c :: r) ↔ c ∈ marks.toList :=
  Iff.rfl

theorem startsIn_append {marks word : String} (hword : word.toList ≠ []) {r : List Char} :
    StartsIn marks (word.toList ++ r) ↔ StartsIn marks word.toList := by
  obtain ⟨c, cs, hcs⟩ := List.exists_cons_of_ne_nil hword
  rw [hcs, List.cons_append, startsIn_cons, startsIn_cons]

theorem StartsIn.append {marks word : String} (hword : word.toList ≠ [])
    (h : StartsIn marks word.toList) (r : List Char) : StartsIn marks (word.toList ++ r) :=
  (startsIn_append hword).mpr h

theorem StartsIn.mono {marks marks' : String} {r : List Char} (h : StartsIn marks r)
    (hmarks : marks.toList ⊆ marks'.toList) : StartsIn marks' r := by
  cases r with
  | nil => trivial
  | cons c r => exact hmarks h

theorem Avoids.mono {marks marks' w : String} (h : Avoids marks w)
    (hmarks : marks'.toList ⊆ marks.toList) : Avoids marks' w :=
  fun c hc hmark => h c hc (hmarks hmark)

theorem Avoids.append {marks a b : String} (ha : Avoids marks a) (hb : Avoids marks b) :
    Avoids marks (a ++ b) := by
  intro c hc
  rw [String.toList_append, List.mem_append] at hc
  rcases hc with hc | hc
  · exact ha c hc
  · exact hb c hc

theorem Avoids.not_startsIn {marks a : String} (h : Avoids marks a) (ha : a.toList ≠ [])
    (r : List Char) : ¬ StartsIn marks (a.toList ++ r) := by
  rw [startsIn_append ha]
  obtain ⟨c, cs, hcs⟩ := List.exists_cons_of_ne_nil ha
  rw [hcs, startsIn_cons]
  exact h c (by simp [hcs])

theorem Avoids.cancel {marks a b : String} (ha : Avoids marks a) (hb : Avoids marks b)
    {r r' : List Char} (hr : StartsIn marks r) (hr' : StartsIn marks r')
    (h : a.toList ++ r = b.toList ++ r') : a = b ∧ r = r' := by
  suffices hlists : a.toList = b.toList ∧ r = r' from ⟨String.toList_inj.mp hlists.1, hlists.2⟩
  unfold Avoids at ha hb
  generalize a.toList = cs at ha h
  generalize b.toList = cs' at hb h
  induction cs generalizing cs' with
  | nil =>
      cases cs' with
      | nil => exact ⟨rfl, h⟩
      | cons c cs' =>
          rw [List.nil_append, List.cons_append] at h
          exact absurd (startsIn_cons.mp (h ▸ hr)) (hb c List.mem_cons_self)
  | cons c cs ih =>
      cases cs' with
      | nil =>
          rw [List.nil_append, List.cons_append] at h
          exact absurd (startsIn_cons.mp (h ▸ hr')) (ha c List.mem_cons_self)
      | cons c' cs' =>
          rw [List.cons_append, List.cons_append, List.cons.injEq] at h
          obtain ⟨rfl, rfl⟩ := ih (fun c hc => ha c (List.mem_cons_of_mem _ hc)) cs'
            (fun c hc => hb c (List.mem_cons_of_mem _ hc)) h.2
          exact ⟨by rw [h.1], rfl⟩

theorem legible_word (marks : String) : Legible id id (Avoids marks) (StartsIn marks) :=
  fun _ _ ha hb _ _ hr hr' h => ha.cancel hb hr hr' h

section Lists

variable {write : α → String} {meaning : α → β} {valid : α → Prop}
  {follow follow' : List Char → Prop} {separator : String}

/-- What comes behind the first item of a list. -/
def restOf (separator : String) (write : α → String) (xs : List α) : List Char :=
  xs.flatMap fun x => separator.toList ++ (write x).toList

theorem toList_joined_cons (separator : String) (write : α → String) (x : α) (xs : List α) :
    (separator.intercalate ((x :: xs).map write)).toList =
      (write x).toList ++ restOf separator write xs := by
  induction xs generalizing x with
  | nil => simp [restOf]
  | cons x' xs ih =>
      rw [List.map_cons, List.map_cons, String.intercalate_cons_cons, ← List.map_cons,
        String.toList_append, String.toList_append, ih]
      simp [restOf]

theorem follow_restOf (hseparator : ∀ s, follow' (separator.toList ++ s))
    (hfollow : ∀ r, follow r → follow' r) (xs : List α) {r : List Char} (hr : follow r) :
    follow' (restOf separator write xs ++ r) := by
  cases xs with
  | nil => exact hfollow r hr
  | cons x xs =>
      simp only [restOf, List.flatMap_cons, List.append_assoc]
      exact hseparator _

/-- Lists of unequal length are told by what follows them, which never begins like another
item. -/
theorem Legible.restOf (h : Legible write meaning valid follow')
    (hseparator : ∀ s, follow' (separator.toList ++ s)) (hfollow : ∀ r, follow r → follow' r)
    {xs ys : List α} (hxs : ∀ x ∈ xs, valid x) (hys : ∀ y ∈ ys, valid y)
    (hlength : xs.length ≠ ys.length → ∀ s, ¬ follow (separator.toList ++ s))
    {r r' : List Char} (hr : follow r) (hr' : follow r')
    (htext : restOf separator write xs ++ r = restOf separator write ys ++ r') :
    xs.map meaning = ys.map meaning ∧ r = r' := by
  induction xs generalizing ys with
  | nil =>
      cases ys with
      | nil => exact ⟨rfl, htext⟩
      | cons y ys =>
          simp only [SqlClient.restOf, List.flatMap_nil, List.nil_append, List.flatMap_cons,
            List.append_assoc] at htext
          exact absurd (htext ▸ hr) (hlength (by simp) _)
  | cons x xs ih =>
      cases ys with
      | nil =>
          simp only [SqlClient.restOf, List.flatMap_nil, List.nil_append, List.flatMap_cons,
            List.append_assoc] at htext
          exact absurd (htext ▸ hr') (hlength (by simp) _)
      | cons y ys =>
          simp only [SqlClient.restOf, List.flatMap_cons, List.append_assoc] at htext
          obtain ⟨hxy, htext⟩ := h x y (hxs x List.mem_cons_self) (hys y List.mem_cons_self) _ _
            (follow_restOf hseparator hfollow xs hr) (follow_restOf hseparator hfollow ys hr')
            (List.append_cancel_left htext)
          obtain ⟨hrest, rfl⟩ := ih (fun z hz => hxs z (List.mem_cons_of_mem _ hz))
            (fun z hz => hys z (List.mem_cons_of_mem _ hz)) (by simpa using hlength) htext
          exact ⟨by rw [List.map_cons, hxy, hrest, List.map_cons], rfl⟩

theorem Legible.joined_cons (h : Legible write meaning valid follow')
    (hseparator : ∀ s, follow' (separator.toList ++ s)) (hfollow : ∀ r, follow r → follow' r)
    {xs ys : List α} (hxs : ∀ x ∈ xs, valid x) (hys : ∀ y ∈ ys, valid y) (hxne : xs ≠ [])
    (hyne : ys ≠ []) (hlength : xs.length ≠ ys.length → ∀ s, ¬ follow (separator.toList ++ s))
    {r r' : List Char} (hr : follow r) (hr' : follow r')
    (htext : (separator.intercalate (xs.map write)).toList ++ r =
      (separator.intercalate (ys.map write)).toList ++ r') :
    xs.map meaning = ys.map meaning ∧ r = r' := by
  obtain ⟨x, xs, rfl⟩ := List.exists_cons_of_ne_nil hxne
  obtain ⟨y, ys, rfl⟩ := List.exists_cons_of_ne_nil hyne
  rw [toList_joined_cons, toList_joined_cons, List.append_assoc, List.append_assoc] at htext
  obtain ⟨hxy, htext⟩ := h x y (hxs x List.mem_cons_self) (hys y List.mem_cons_self) _ _
    (follow_restOf hseparator hfollow xs hr) (follow_restOf hseparator hfollow ys hr') htext
  obtain ⟨hrest, rfl⟩ := h.restOf hseparator hfollow
    (fun z hz => hxs z (List.mem_cons_of_mem _ hz))
    (fun z hz => hys z (List.mem_cons_of_mem _ hz)) (by simpa using hlength) hr hr' htext
  exact ⟨by rw [List.map_cons, hxy, hrest, List.map_cons], rfl⟩

theorem Legible.joined_of_length (h : Legible write meaning valid follow)
    (hseparator : ∀ s, follow (separator.toList ++ s)) {n : Nat} (hn : n ≠ 0) :
    Legible (fun xs => separator.intercalate (xs.map write)) (List.map meaning)
      (fun xs => xs.length = n ∧ ∀ x ∈ xs, valid x) follow := by
  intro xs ys ⟨hxs, hvx⟩ ⟨hys, hvy⟩ r r' hr hr' htext
  have hne : ∀ zs : List α, zs.length = n → zs ≠ [] := by
    rintro zs hzs rfl
    exact hn hzs.symm
  exact h.joined_cons hseparator (fun _ => id) hvx hvy (hne xs hxs) (hne ys hys)
    (fun hlength => absurd (hxs.trans hys.symm) hlength) hr hr' htext

theorem Legible.joined (h : Legible write meaning valid follow')
    (hseparator : ∀ s, follow' (separator.toList ++ s)) (hfollow : ∀ r, follow r → follow' r)
    (hdistinct : ∀ s, ¬ follow (separator.toList ++ s)) :
    Legible (fun xs => separator.intercalate (xs.map write)) (List.map meaning)
      (fun xs => xs ≠ [] ∧ ∀ x ∈ xs, valid x) follow := by
  intro xs ys ⟨hxs, hvx⟩ ⟨hys, hvy⟩ r r' hr hr' htext
  exact h.joined_cons hseparator hfollow hvx hvy hxs hys (fun _ => hdistinct) hr hr' htext

theorem Legible.joined_marks {marks marks' : String}
    (h : Legible write meaning valid (StartsIn marks'))
    (hseparator : StartsIn marks' separator.toList)
    (hmarks : marks.toList ⊆ marks'.toList) (hdistinct : ¬ StartsIn marks separator.toList) :
    Legible (fun xs => separator.intercalate (xs.map write)) (List.map meaning)
      (fun xs => xs ≠ [] ∧ ∀ x ∈ xs, valid x) (StartsIn marks) := by
  have hne : separator.toList ≠ [] := by
    intro hnil
    exact hdistinct (hnil ▸ startsIn_nil marks)
  apply h.joined
  · exact hseparator.append hne
  · intro r hr
    exact hr.mono hmarks
  · intro s hs
    exact hdistinct ((startsIn_append hne).mp hs)

theorem Legible.orEmpty {write : List α → String}
    (h : Legible write (List.map meaning) (fun xs => xs ≠ [] ∧ ∀ x ∈ xs, valid x) follow)
    (hempty : write [] = "")
    (hfront : ∀ xs, xs ≠ [] → (∀ x ∈ xs, valid x) → ∀ s, ¬ follow ((write xs).toList ++ s)) :
    Legible write (List.map meaning) (fun xs => ∀ x ∈ xs, valid x) follow := by
  intro xs ys hvx hvy r r' hr hr' htext
  by_cases hxs : xs = []
  · by_cases hys : ys = []
    · subst hxs hys
      exact ⟨rfl, List.append_cancel_left htext⟩
    · rw [hxs, hempty, String.toList_empty, List.nil_append] at htext
      exact absurd (htext ▸ hr) (hfront ys hys hvy r')
  · by_cases hys : ys = []
    · rw [hys, hempty, String.toList_empty, List.nil_append] at htext
      exact absurd (htext ▸ hr') (hfront xs hxs hvx r)
    · exact h xs ys ⟨hxs, hvx⟩ ⟨hys, hvy⟩ r r' hr hr' htext

/-- The text is empty, or a line that begins with one of the keywords. -/
def Follows (keywords : List String) (r : List Char) : Prop :=
  r = [] ∨ ∃ keyword ∈ keywords, ∃ s, r = '\n' :: (keyword.toList ++ s)

theorem Follows.startsIn {keywords : List String} {r : List Char} (h : Follows keywords r) :
    StartsIn "\n" r := by
  rcases h with rfl | ⟨keyword, -, s, rfl⟩
  · exact startsIn_nil _
  · exact startsIn_cons.mpr (by decide)

/-- A list on a line of its own behind a keyword, or nothing for the empty list. -/
def lineOf (keyword : String) (write : List α → String) (xs : List α) : String :=
  if xs = [] then "" else "\n" ++ (keyword ++ write xs)

theorem Follows.lineOf {keyword : String} {keywords : List String} {r : List Char}
    (h : Follows keywords r) (write : List α → String) (xs : List α) :
    Follows (keyword :: keywords) ((lineOf keyword write xs).toList ++ r) := by
  unfold SqlClient.lineOf
  split
  · exact h.imp id fun ⟨k, hk, s, hs⟩ => ⟨k, List.mem_cons_of_mem _ hk, s, hs⟩
  · exact Or.inr ⟨keyword, List.mem_cons_self, (write xs).toList ++ r, by simp⟩

theorem Legible.lineOf {write : List α → String}
    (h : Legible write (List.map meaning) (fun xs => xs ≠ [] ∧ ∀ x ∈ xs, valid x) (StartsIn "\n"))
    {keyword : String} {keywords : List String}
    (hkeyword : ∀ k ∈ keywords, ¬ keyword.toList <+: k.toList ∧ ¬ k.toList <+: keyword.toList) :
    Legible (lineOf keyword write) (List.map meaning) (fun xs => ∀ x ∈ xs, valid x)
      (Follows keywords) := by
  have hnot : ∀ s, ¬ Follows keywords ("\n".toList ++ (keyword.toList ++ s)) := by
    rintro s (hnil | ⟨k, hk, s', hs'⟩)
    · simp at hnil
    · obtain ⟨hleft, hright⟩ := hkeyword k hk
      have htext : keyword.toList ++ s = k.toList ++ s' := by simpa using hs'
      rcases List.prefix_or_prefix_of_prefix (List.prefix_append _ s)
        (htext ▸ List.prefix_append _ s')
        with hprefix | hprefix
      · exact hleft hprefix
      · exact hright hprefix
  apply Legible.orEmpty
  · intro xs ys ⟨hxs, hvx⟩ ⟨hys, hvy⟩ r r' hr hr' htext
    simp only [SqlClient.lineOf, if_neg hxs, if_neg hys, String.toList_append, List.append_assoc]
      at htext
    exact h xs ys ⟨hxs, hvx⟩ ⟨hys, hvy⟩ r r' hr.startsIn hr'.startsIn
      (List.append_cancel_left (List.append_cancel_left htext))
  · exact if_pos rfl
  · intro xs hxs _ s
    simp only [SqlClient.lineOf, if_neg hxs, String.toList_append, List.append_assoc]
    exact hnot _

end Lists

end SqlClient
