import SqlClient.Proofs.Entries
import SqlClient.Proofs.Template.Replacement

/-!
Filling a template in one pass. The values are put in one name after the other, but if they
neither hold dollar signs nor begin with a word character, no value makes, ends or prolongs a
placeholder. Strict mode then fills all placeholders at once, each by its whole name. Main
statement: `fills_at_once`.
-/

namespace SqlClient

namespace Template

/-- Word characters only, as in the name of a placeholder. -/
def IsRun (cs : List Char) : Prop :=
  ∀ c ∈ cs, isWord c = true

/-- A text that does not go on with a name before it. -/
def EndsRun (cs : List Char) : Prop :=
  ∀ c ∈ cs.head?, isWord c = false

instance (cs : List Char) : Decidable (IsRun cs) :=
  decidable_of_iff (cs.all isWord = true) List.all_eq_true

theorem endsRun_iff {cs : List Char} : EndsRun cs ↔ cs.head?.any isWord = false := by
  cases cs <;> simp [EndsRun]

instance (cs : List Char) : Decidable (EndsRun cs) :=
  decidable_of_iff _ endsRun_iff.symm

/-- One pass from left to right: a dollar sign and all word characters behind it are replaced if
there is a value for these characters, and everything else is copied. -/
def fillOnce (value? : List Char → Option (List Char)) : List Char → List Char
  | [] => []
  | c :: cs =>
    if c = '$' then
      (value? (cs.takeWhile isWord)).getD ('$' :: cs.takeWhile isWord) ++
        fillOnce value? (cs.dropWhile isWord)
    else c :: fillOnce value? cs
termination_by cs => cs.length
decreasing_by
  · exact Nat.lt_succ_of_le (List.dropWhile_suffix isWord).length_le
  · exact Nat.lt_succ_self _

/-- The names of the placeholders: all word characters behind each dollar sign. -/
def placeholders : List Char → List (List Char)
  | [] => []
  | c :: cs => if c = '$' then cs.takeWhile isWord :: placeholders cs else placeholders cs

theorem takeWhile_run {run rest : List Char} (hrun : IsRun run) (hrest : EndsRun rest) :
    (run ++ rest).takeWhile isWord = run := by
  rw [List.takeWhile_append_of_pos hrun]
  cases rest with
  | nil => rw [List.takeWhile_nil, List.append_nil]
  | cons c rest => rw [List.takeWhile_cons_of_neg (by simp [hrest c rfl]), List.append_nil]

theorem dropWhile_run {run rest : List Char} (hrun : IsRun run) (hrest : EndsRun rest) :
    (run ++ rest).dropWhile isWord = rest := by
  rw [List.dropWhile_append_of_pos hrun]
  cases rest with
  | nil => rfl
  | cons c rest => rw [List.dropWhile_cons_of_neg (by simp [hrest c rfl])]

theorem isRun_takeWhile (cs : List Char) : IsRun (cs.takeWhile isWord) :=
  List.all_eq_true.mp List.all_takeWhile

theorem endsRun_dropWhile (cs : List Char) : EndsRun (cs.dropWhile isWord) := by
  intro c hc
  have hhead := List.head?_dropWhile_not isWord cs
  rw [hc] at hhead
  simpa using hhead

theorem IsRun.not_mem_dollar {run : List Char} (h : IsRun run) : '$' ∉ run := by
  intro hmem
  exact absurd (h _ hmem) (by rw [isWord_dollar]; exact Bool.false_ne_true)

theorem endsRun_append_dollar {cs : List Char} (h : EndsRun cs) (rest : List Char) :
    EndsRun (cs ++ '$' :: rest) := by
  cases cs with
  | nil =>
      rintro c ⟨⟩
      exact isWord_dollar
  | cons c cs => exact h

/-- A template is empty, begins with a character other than a dollar sign, or begins with a dollar
sign and a name up to its end. -/
@[elab_as_elim]
theorem placeholder_induction {P : List Char → Prop} (nil : P [])
    (plain : ∀ c cs, c ≠ '$' → P cs → P (c :: cs))
    (placeholder : ∀ run rest, IsRun run → EndsRun rest → P rest → P ('$' :: (run ++ rest)))
    (template : List Char) : P template := by
  induction template using fillOnce.induct with
  | case1 => exact nil
  | case2 cs ih =>
      have hall := placeholder _ _ (isRun_takeWhile cs) (endsRun_dropWhile cs) ih
      rwa [List.takeWhile_append_dropWhile] at hall
  | case3 c cs hc ih => exact plain c cs hc ih

section

variable {f g : List Char → Option (List Char)}

theorem fillOnce_nil : fillOnce f [] = [] := by
  rw [fillOnce]

theorem fillOnce_cons {c : Char} (hc : c ≠ '$') (cs : List Char) :
    fillOnce f (c :: cs) = c :: fillOnce f cs := by
  rw [fillOnce, if_neg hc]

theorem fillOnce_placeholder {run rest : List Char} (hrun : IsRun run) (hrest : EndsRun rest) :
    fillOnce f ('$' :: (run ++ rest)) = (f run).getD ('$' :: run) ++ fillOnce f rest := by
  rw [fillOnce, if_pos rfl, takeWhile_run hrun hrest, dropWhile_run hrun hrest]

theorem fillOnce_append_of_not_mem {text : List Char} (h : '$' ∉ text) (rest : List Char) :
    fillOnce f (text ++ rest) = text ++ fillOnce f rest := by
  induction text with
  | nil => rfl
  | cons c text ih =>
      rw [List.mem_cons, not_or] at h
      rw [List.cons_append, fillOnce_cons (Ne.symm h.1), ih h.2, List.cons_append]

theorem fillOnce_eq_self {template : List Char} (h : '$' ∉ template) :
    fillOnce f template = template := by
  have hall := fillOnce_append_of_not_mem (f := f) h []
  rwa [fillOnce_nil, List.append_nil] at hall

theorem fillOnce_append_dollar (before after : List Char) :
    fillOnce f (before ++ '$' :: after) = fillOnce f before ++ fillOnce f ('$' :: after) := by
  induction before using placeholder_induction with
  | nil => rw [fillOnce_nil, List.nil_append, List.nil_append]
  | plain c cs hc ih =>
      rw [List.cons_append, fillOnce_cons hc, fillOnce_cons hc, ih, List.cons_append]
  | placeholder run rest hrun hrest ih =>
      rw [List.cons_append, List.append_assoc, fillOnce_placeholder hrun hrest,
        fillOnce_placeholder hrun (endsRun_append_dollar hrest after), ih, List.append_assoc]

theorem fillOnce_none (template : List Char) : fillOnce (fun _ => none) template = template := by
  induction template using placeholder_induction with
  | nil => exact fillOnce_nil
  | plain c cs hc ih => rw [fillOnce_cons hc, ih]
  | placeholder run rest hrun hrest ih =>
      rw [fillOnce_placeholder hrun hrest, ih]
      rfl

/-- A value that makes no placeholder, alone or with what stands around it. -/
structure IsInert (value : List Char) : Prop where
  not_mem_dollar : '$' ∉ value
  endsRun : EndsRun value

theorem endsRun_fillOnce (hf : ∀ run value, f run = some value → IsInert value)
    {template : List Char}
    (h : EndsRun template) : EndsRun (fillOnce f template) := by
  induction template using placeholder_induction with
  | nil => rwa [fillOnce_nil]
  | plain c cs hc _ =>
      rw [fillOnce_cons hc]
      exact h
  | placeholder run rest hrun hrest ih =>
      rw [fillOnce_placeholder hrun hrest]
      cases hvalue : f run with
      | none => exact h
      | some value =>
          cases value with
          | nil => exact ih hrest
          | cons c value => exact (hf run _ hvalue).endsRun

/-- Two passes are one if the values of the first make no placeholder. -/
theorem fillOnce_fillOnce (hf : ∀ run value, f run = some value → IsInert value)
    (template : List Char) :
    fillOnce g (fillOnce f template) = fillOnce (fun run => (f run).or (g run)) template := by
  induction template using placeholder_induction with
  | nil => simp only [fillOnce_nil]
  | plain c cs hc ih => rw [fillOnce_cons hc, fillOnce_cons hc, fillOnce_cons hc, ih]
  | placeholder run rest hrun hrest ih =>
      rw [fillOnce_placeholder hrun hrest, fillOnce_placeholder hrun hrest]
      cases hvalue : f run with
      | none =>
          rw [Option.getD_none, List.cons_append,
            fillOnce_placeholder hrun (endsRun_fillOnce hf hrest), ih, Option.none_or]
      | some value =>
          rw [Option.getD_some, fillOnce_append_of_not_mem (hf run _ hvalue).not_mem_dollar, ih,
            Option.some_or, Option.getD_some]

end

theorem placeholders_cons {c : Char} (hc : c ≠ '$') (cs : List Char) :
    placeholders (c :: cs) = placeholders cs := by
  rw [placeholders, if_neg hc]

theorem placeholders_append_of_not_mem {text : List Char} (h : '$' ∉ text) (rest : List Char) :
    placeholders (text ++ rest) = placeholders rest := by
  induction text with
  | nil => rfl
  | cons c text ih =>
      rw [List.mem_cons, not_or] at h
      rw [List.cons_append, placeholders_cons (Ne.symm h.1), ih h.2]

theorem placeholders_placeholder {run rest : List Char} (hrun : IsRun run)
    (hrest : EndsRun rest) :
    placeholders ('$' :: (run ++ rest)) = run :: placeholders rest := by
  rw [placeholders, if_pos rfl, takeWhile_run hrun hrest,
    placeholders_append_of_not_mem hrun.not_mem_dollar]

/-- The value for one name and no other. -/
def onlyFor (name value run : List Char) : Option (List Char) :=
  if run = name then some value else none

theorem isInert_of_onlyFor {name value : List Char} (hvalue : IsInert value) :
    ∀ run found, onlyFor name value run = some found → IsInert found := by
  intro run found hfound
  rw [onlyFor, Option.ite_none_right_eq_some, Option.some.injEq] at hfound
  exact hfound.2 ▸ hvalue

theorem replace_eq_fillOnce {name value : List Char} {accepts : List Char → Bool}
    {template : List Char}
    (h : ∀ run ∈ placeholders template, ∀ rest, IsRun run → EndsRun rest →
      (Begins name accepts (run ++ rest) ↔ run = name)) :
    replace ('$' :: name) value accepts 0 template = fillOnce (onlyFor name value) template := by
  induction template using placeholder_induction with
  | nil => rw [fillOnce_nil, replace]
  | plain c cs hc ih =>
      rw [placeholders_cons hc] at h
      rw [replace_cons_of_ne hc, fillOnce_cons hc, ih h]
  | placeholder run rest hrun hrest ih =>
      rw [placeholders_placeholder hrun hrest, List.forall_mem_cons] at h
      have hbegins := h.1 rest hrun hrest
      rw [fillOnce_placeholder hrun hrest, onlyFor]
      split
      · rename_i hname
        rw [replace_of_begins (hbegins.mpr hname), replace_eq_drop _ _ _ name.length, ← hname,
          List.drop_left, hname, ih h.2, Option.getD_some]
      · rename_i hname
        rw [replace_of_not_begins (hname ∘ hbegins.mp),
          replace_append_of_not_mem hrun.not_mem_dollar, ih h.2, Option.getD_none,
          List.cons_append]

/-- The text for a name among bindings. -/
def textFor? (entries : List (String × Binding)) (run : List Char) : Option (List Char) :=
  (lookup? (String.ofList run) entries).map fun b => b.render.toList

theorem textFor?_cons (name : String) (b : Binding) (entries : List (String × Binding)) :
    textFor? ((name, b) :: entries) = fun run =>
      (onlyFor name.toList b.render.toList run).or (textFor? entries run) := by
  funext run
  have hname : name = String.ofList run ↔ run = name.toList := by
    rw [← String.toList_inj, String.toList_ofList, eq_comm]
  rw [textFor?, lookup?_cons, onlyFor]
  simp only [hname]
  split <;> rfl

theorem fillOnce_textFor?_cons {name : String} {b : Binding} (hb : IsInert b.render.toList)
    (entries : List (String × Binding)) (template : List Char) :
    fillOnce (textFor? entries) (fillOnce (onlyFor name.toList b.render.toList) template) =
      fillOnce (textFor? ((name, b) :: entries)) template := by
  rw [textFor?_cons, fillOnce_fillOnce (isInert_of_onlyFor hb)]

/-- A name of plain letters, digits and underscores. -/
structure IsIdentifier (name : String) : Prop where
  ne_empty : name ≠ ""
  isAlphanum : ∀ c ∈ name.toList, c.isAlphanum = true ∨ c = '_'

instance (name : String) : Decidable (IsIdentifier name) :=
  decidable_of_iff (name ≠ "" ∧ name.toList.all (fun c => c.isAlphanum || c == '_') = true)
    ⟨fun h => ⟨h.1, by simpa using h.2⟩, fun h => ⟨h.1, by simpa using h.2⟩⟩

theorem toNat_lt_of_isAlphanum {c : Char} (h : c.isAlphanum = true) : c.toNat < 128 := by
  change (decide (65 ≤ c.val ∧ c.val ≤ 90) || (decide (97 ≤ c.val) && decide (c.val ≤ 122)) ||
    (decide (48 ≤ c.val) && decide (c.val ≤ 57))) = true at h
  simp only [Bool.or_eq_true, Bool.and_eq_true, decide_eq_true_eq, UInt32.le_iff_toNat_le] at h
  change (65 ≤ c.toNat ∧ c.toNat ≤ 90 ∨ 97 ≤ c.toNat ∧ c.toNat ≤ 122) ∨
    48 ≤ c.toNat ∧ c.toNat ≤ 57 at h
  omega

theorem isWord_of_isAlphanum {c : Char} (h : c.isAlphanum = true ∨ c = '_') :
    isWord c = true ∧ (isAlphanumeric c = true ∨ c = '_') := by
  have hsmall : ∀ n < 128, ((Char.ofNat n).isAlphanum = true ∨ Char.ofNat n = '_') →
      isWord (Char.ofNat n) = true ∧
        (isAlphanumeric (Char.ofNat n) = true ∨ Char.ofNat n = '_') := by
    decide +kernel
  have hlt : c.toNat < 128 := by
    rcases h with h | rfl
    · exact toNat_lt_of_isAlphanum h
    · decide
  have hc := hsmall c.toNat hlt
  rw [Char.ofNat_toNat] at hc
  exact hc h

theorem IsIdentifier.isRun {name : String} (h : IsIdentifier name) : IsRun name.toList :=
  fun c hc => (isWord_of_isAlphanum (h.isAlphanum c hc)).1

theorem IsIdentifier.strictEnd_iff {name : String} (h : IsIdentifier name) (after : List Char) :
    strictEnd name.toList after = true ↔ EndsRun after := by
  have hne : name.toList ≠ [] := by
    rw [Ne, String.toList_eq_nil_iff]
    exact h.ne_empty
  have hlast := List.getLast?_eq_some_getLast hne
  obtain ⟨hword, hend⟩ := isWord_of_isAlphanum (h.isAlphanum _ (List.getLast_mem hne))
  rw [strictEnd_of_getLast? hlast hend, hword, endsRun_iff]
  simp

theorem IsIdentifier.begins_iff {name : String} (h : IsIdentifier name) {run rest : List Char}
    (hrun : IsRun run) (hrest : EndsRun rest) :
    Begins name.toList (strictEnd name.toList) (run ++ rest) ↔ run = name.toList := by
  constructor
  · rintro ⟨⟨after, hafter⟩, hend⟩
    rw [← hafter, List.drop_left, h.strictEnd_iff] at hend
    rw [← takeWhile_run hrun hrest, ← hafter, takeWhile_run h.isRun hend]
  · rintro rfl
    refine ⟨List.prefix_append _ _, ?_⟩
    rw [List.drop_left, h.strictEnd_iff]
    exact hrest

/-- A binding whose text has no dollar sign and, if it is not in quotes, does not begin with a
word character. -/
structure IsInertBinding (b : Binding) : Prop where
  not_mem_dollar : '$' ∉ b.render.toList
  endsRun : b.kind = .number → EndsRun b.render.toList

instance (b : Binding) : Decidable (IsInertBinding b) :=
  decidable_of_iff ('$' ∉ b.render.toList ∧ (b.kind = .number → EndsRun b.render.toList))
    ⟨fun h => ⟨h.1, h.2⟩, fun h => ⟨h.1, h.2⟩⟩

theorem IsInertBinding.isInert {b : Binding} (h : IsInertBinding b) :
    IsInert b.render.toList := by
  refine ⟨h.not_mem_dollar, ?_⟩
  cases hkind : b.kind with
  | number => exact h.endsRun hkind
  | text =>
      have hquote : b.render.toList.head? = some '\'' := by
        rw [Binding.render, hkind]
        simp
      rw [EndsRun, hquote]
      rintro c ⟨⟩
      decide +kernel

theorem foldl_substitute_strictEnd {entries : List (String × Binding)}
    (hnames : ∀ e ∈ entries, IsIdentifier e.1) (hvalues : ∀ e ∈ entries, IsInertBinding e.2)
    (template : List Char) :
    entries.foldl (fun t e => substitute strictEnd t e.1 e.2) template =
      fillOnce (textFor? entries) template := by
  induction entries generalizing template with
  | nil => exact (fillOnce_none template).symm
  | cons e entries ih =>
      obtain ⟨name, b⟩ := e
      rw [List.forall_mem_cons] at hnames hvalues
      have hfirst : substitute strictEnd template name b =
          fillOnce (onlyFor name.toList b.render.toList) template :=
        replace_eq_fillOnce fun run _ rest hrun hrest => hnames.1.begins_iff hrun hrest
      rw [List.foldl_cons, hfirst, ih hnames.2 hvalues.2,
        fillOnce_textFor?_cons hvalues.1.isInert]

/-- Strict mode fills all placeholders in one pass, each by its whole name, whatever the order of
the names. Each placeholder becomes its value or stays, and what stands around it is filled for
itself. -/
theorem fills_at_once {bindings : Bindings} (hnames : ∀ name ∈ bindings.keys, IsIdentifier name)
    (hvalues : ∀ e ∈ bindings.entries, IsInertBinding e.2) :
    (∀ template, fillStrict template bindings = String.ofList
      (fillOnce (fun run => (bindings.get? (String.ofList run)).map fun b => b.render.toList)
        template.toList)) ∧
    (∀ bindings' : Bindings, bindings'.entries.Perm bindings.entries →
      ∀ template, fillStrict template bindings' = fillStrict template bindings) ∧
    (∀ before run after : String, IsRun run.toList → EndsRun after.toList →
      fillStrict (before ++ "$" ++ run ++ after) bindings = fillStrict before bindings ++
        ((bindings.get? run).map Binding.render).getD ("$" ++ run) ++ fillStrict after bindings) ∧
    ∀ text : String, '$' ∉ text.toList → fillStrict text bindings = text := by
  have hfill : ∀ bindings' : Bindings, bindings'.entries.Perm bindings.entries → ∀ template,
      fillStrict template bindings' =
        String.ofList (fillOnce (textFor? bindings.entries) template.toList) := by
    intro bindings' hperm template
    have hnames' : ∀ e ∈ bindings'.entries, IsIdentifier e.1 := fun e he =>
      hnames e.1 (List.mem_map_of_mem (hperm.mem_iff.mp he))
    have htext : textFor? bindings'.entries = textFor? bindings.entries := by
      funext run
      rw [textFor?, lookup?_eq_of_perm bindings'.nodup hperm, textFor?]
    rw [fillStrict, fillWith,
      foldl_substitute_strictEnd hnames' fun e he => hvalues e (hperm.mem_iff.mp he), htext]
  have hself := hfill bindings (List.Perm.refl _)
  refine ⟨hself, fun bindings' hperm template => (hfill bindings' hperm template).trans
    (hself template).symm, ?_, ?_⟩
  · intro before run after hrun hafter
    have hall : (before ++ "$" ++ run ++ after).toList =
        before.toList ++ '$' :: (run.toList ++ after.toList) := by simp
    have hvalue : (textFor? bindings.entries run.toList).getD ('$' :: run.toList) =
        (((bindings.get? run).map Binding.render).getD ("$" ++ run)).toList := by
      rw [textFor?, String.ofList_toList, OrderedMap.get?]
      cases lookup? run bindings.entries <;> simp
    rw [hself, hself, hself, hall, fillOnce_append_dollar,
      fillOnce_placeholder hrun hafter, hvalue]
    simp [String.append_assoc]
  · intro text htext
    rw [hself, fillOnce_eq_self htext, String.ofList_toList]

/-- A number and a text under names of which one begins with the other. -/
def identityBindings : Bindings :=
  OrderedMap.ofList [("id", ⟨.number, .int (-1)⟩), ("identity", ⟨.text, .text "x"⟩)]

theorem fills_at_once_identity :
    (∀ name ∈ identityBindings.keys, IsIdentifier name) ∧
      (∀ e ∈ identityBindings.entries, IsInertBinding e.2) ∧
      fillStrict "a = $id and b = $identity"
        (OrderedMap.ofList identityBindings.entries.reverse) =
        "a = -1 and b = 'x'" ∧
      fillStrict ("a = " ++ "$" ++ "identities" ++ " + $id") identityBindings =
        "a = " ++ "$identities" ++ " + -1" := by
  have hnames : ∀ name ∈ identityBindings.keys, IsIdentifier name := by decide +kernel
  have hvalues : ∀ e ∈ identityBindings.entries, IsInertBinding e.2 := by decide +kernel
  obtain ⟨-, horder, hone, htext⟩ := fills_at_once hnames hvalues
  refine ⟨hnames, hvalues, ?_, ?_⟩
  · rw [horder _ (show _ from List.reverse_perm identityBindings.entries)]
    decide +kernel
  · rw [hone _ _ _ (by decide +kernel) (by decide +kernel), htext _ (by decide)]
    decide +kernel

end Template

end SqlClient
