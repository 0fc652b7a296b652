import SqlClient.Proofs.Template.OnePass

/-!
When literal mode and strict mode agree. Literal mode looks at the front of a name only, so it
agrees with the pass by whole names as long as no placeholder that is left begins with a name
other than its own. Every pass takes its own placeholders away and adds none. Main statement:
`fill_eq_fillStrict`.
-/

namespace SqlClient

namespace Template

theorem placeholders_fillOnce {f : List Char → Option (List Char)}
    (hf : ∀ run value, f run = some value → IsInert value) (template : List Char) :
    placeholders (fillOnce f template) =
      (placeholders template).filter fun run => (f run).isNone := by
  induction template using placeholder_induction with
  | nil =>
      rw [fillOnce_nil]
      rfl
  | plain c cs hc ih => rw [fillOnce_cons hc, placeholders_cons hc, placeholders_cons hc, ih]
  | placeholder run rest hrun hrest ih =>
      rw [fillOnce_placeholder hrun hrest, placeholders_placeholder hrun hrest]
      cases hvalue : f run with
      | none =>
          rw [List.filter_cons_of_pos (by rw [hvalue]; rfl), Option.getD_none, List.cons_append,
            placeholders_placeholder hrun (endsRun_fillOnce hf hrest), ih]
      | some value =>
          rw [List.filter_cons_of_neg (by rw [hvalue]; exact Bool.false_ne_true),
            Option.getD_some, placeholders_append_of_not_mem (hf run _ hvalue).not_mem_dollar, ih]

theorem prefix_run_iff {name run rest : List Char} (hname : IsRun name) (hrun : IsRun run)
    (hrest : EndsRun rest) : name <+: run ++ rest ↔ name <+: run := by
  refine ⟨?_, fun h => h.trans (List.prefix_append _ _)⟩
  rintro ⟨after, hafter⟩
  rw [← takeWhile_run hrun hrest, ← hafter, List.takeWhile_append_of_pos hname]
  exact List.prefix_append _ _

/-- No name is the front of a later one. -/
def LongestFirst (names : List String) : Prop :=
  names.Pairwise fun first later => ¬first.toList <+: later.toList

/-- Every placeholder has its own value or begins with no name at all. -/
def Unambiguous (names : List String) (template : List Char) : Prop :=
  ∀ run ∈ placeholders template,
    String.ofList run ∈ names ∨ ∀ name ∈ names, ¬name.toList <+: run

instance (names : List String) : Decidable (LongestFirst names) :=
  inferInstanceAs (Decidable (names.Pairwise fun first later => ¬first.toList <+: later.toList))

instance (names : List String) (template : List Char) : Decidable (Unambiguous names template) :=
  inferInstanceAs (Decidable (∀ run ∈ placeholders template,
    String.ofList run ∈ names ∨ ∀ name ∈ names, ¬name.toList <+: run))

section

variable {name : String} {names : List String} {template : List Char}

theorem Unambiguous.eq_of_front (h : Unambiguous (name :: names) template)
    (horder : LongestFirst (name :: names)) {run : List Char} (hrun : run ∈ placeholders template)
    (hfront : name.toList <+: run) : run = name.toList := by
  rcases h run hrun with hmem | hnone
  · rcases List.mem_cons.mp hmem with hname | hlater
    · rw [← hname, String.toList_ofList]
    · refine absurd ?_ ((List.pairwise_cons.mp horder).1 _ hlater)
      rwa [String.toList_ofList]
  · exact absurd hfront (hnone name List.mem_cons_self)

theorem Unambiguous.tail (h : Unambiguous (name :: names) template) {value : List Char}
    (hvalue : IsInert value) :
    Unambiguous names (fillOnce (onlyFor name.toList value) template) := by
  intro run hrun
  rw [placeholders_fillOnce (isInert_of_onlyFor hvalue), List.mem_filter, onlyFor] at hrun
  have hne : String.ofList run ≠ name := by
    rintro rfl
    simp at hrun
  rcases h run hrun.1 with hmem | hnone
  · exact .inl ((List.mem_cons.mp hmem).resolve_left hne)
  · exact .inr fun other hother => hnone other (List.mem_cons_of_mem _ hother)

end

theorem foldl_substitute_literal {entries : List (String × Binding)} {template : List Char}
    (hnames : ∀ e ∈ entries, IsIdentifier e.1) (hvalues : ∀ e ∈ entries, IsInertBinding e.2)
    (horder : LongestFirst (entries.map Prod.fst))
    (htemplate : Unambiguous (entries.map Prod.fst) template) :
    entries.foldl (fun t e => substitute (fun _ _ => true) t e.1 e.2) template =
      fillOnce (textFor? entries) template := by
  induction entries generalizing template with
  | nil => exact (fillOnce_none template).symm
  | cons e entries ih =>
      obtain ⟨name, b⟩ := e
      rw [List.forall_mem_cons] at hnames hvalues
      rw [List.map_cons] at horder htemplate
      have hfirst : substitute (fun _ _ => true) template name b =
          fillOnce (onlyFor name.toList b.render.toList) template := by
        refine replace_eq_fillOnce fun run hmem rest hrun hrest => ?_
        rw [Begins, prefix_run_iff hnames.1.isRun hrun hrest, and_iff_left rfl]
        exact ⟨htemplate.eq_of_front horder hmem, fun h => h ▸ List.prefix_rfl⟩
      rw [List.foldl_cons, hfirst,
        ih hnames.2 hvalues.2 (List.pairwise_cons.mp horder).2 (htemplate.tail hvalues.1.isInert),
        fillOnce_textFor?_cons hvalues.1.isInert]

/-- Both modes give the same text if longer names come before their fronts and every placeholder
either has a value of its own or begins with no name. -/
theorem fill_eq_fillStrict {template : String} {bindings : Bindings}
    (hnames : ∀ name ∈ bindings.keys, IsIdentifier name)
    (hvalues : ∀ e ∈ bindings.entries, IsInertBinding e.2)
    (htemplate : Unambiguous bindings.keys template.toList)
    (horder : LongestFirst bindings.keys) :
    fill template bindings = fillStrict template bindings := by
  have hnames' : ∀ e ∈ bindings.entries, IsIdentifier e.1 := fun e he =>
    hnames e.1 (List.mem_map_of_mem he)
  rw [fill, fillWith, foldl_substitute_literal hnames' hvalues horder htemplate,
    fillStrict, fillWith, foldl_substitute_strictEnd hnames' hvalues]

theorem fill_eq_fillStrict_identity :
    (∀ name ∈ (OrderedMap.ofList identityBindings.entries.reverse).keys, IsIdentifier name) ∧
      (∀ e ∈ (OrderedMap.ofList identityBindings.entries.reverse).entries, IsInertBinding e.2) ∧
      Unambiguous ["identity", "id"] "a = $id and b = $identity or $ip".toList ∧
      LongestFirst ["identity", "id"] ∧
      fill "a = $id and b = $identity or $ip"
        (OrderedMap.ofList identityBindings.entries.reverse) =
        fillStrict "a = $id and b = $identity or $ip"
          (OrderedMap.ofList identityBindings.entries.reverse) := by
  have hnames : ∀ name ∈ (OrderedMap.ofList identityBindings.entries.reverse).keys,
      IsIdentifier name := by decide +kernel
  have hvalues : ∀ e ∈ (OrderedMap.ofList identityBindings.entries.reverse).entries,
      IsInertBinding e.2 := by decide +kernel
  have htemplate : Unambiguous ["identity", "id"] "a = $id and b = $identity or $ip".toList := by
    decide +kernel
  have horder : LongestFirst ["identity", "id"] := by decide +kernel
  exact ⟨hnames, hvalues, htemplate, horder, fill_eq_fillStrict hnames hvalues htemplate horder⟩

end Template

end SqlClient
