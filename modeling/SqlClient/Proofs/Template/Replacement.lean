import SqlClient.Template
import Mathlib.Data.List.Infix
import Mathlib.Tactic

namespace SqlClient

namespace Template

variable {name value : List Char} {accepts : List Char → Bool}

theorem replace_eq_drop (pattern value : List Char) (accepts : List Char → Bool) (skip : Nat)
    (cs : List Char) :
    replace pattern value accepts skip cs = replace pattern value accepts 0 (cs.drop skip) := by
  induction cs generalizing skip with
  | nil => simp [replace]
  | cons c cs ih =>
      cases skip with
      | zero => rfl
      | succ skip => rw [replace, ih, List.drop_succ_cons]

theorem replace_cons_of_ne {c : Char} (hc : c ≠ '$') (cs : List Char) :
    replace ('$' :: name) value accepts 0 (c :: cs) =
      c :: replace ('$' :: name) value accepts 0 cs := by
  have hne : ('$' :: name).isPrefixOf (c :: cs) = false := by
    rw [List.isPrefixOf, beq_false_of_ne (Ne.symm hc), Bool.false_and]
  rw [replace, hne, Bool.false_and, if_neg Bool.false_ne_true]

theorem replace_append_of_not_mem {text : List Char} (h : '$' ∉ text) (rest : List Char) :
    replace ('$' :: name) value accepts 0 (text ++ rest) =
      text ++ replace ('$' :: name) value accepts 0 rest := by
  induction text with
  | nil => rfl
  | cons c text ih =>
      rw [List.mem_cons, not_or] at h
      rw [List.cons_append, replace_cons_of_ne (Ne.symm h.1), ih h.2, List.cons_append]

/-- Whether a placeholder of the name begins with a dollar sign that `cs` follows. -/
def Begins (name : List Char) (accepts : List Char → Bool) (cs : List Char) : Prop :=
  name <+: cs ∧ accepts (cs.drop name.length) = true

theorem begins_iff {cs : List Char} :
    Begins name accepts cs ↔ (('$' :: name).isPrefixOf ('$' :: cs) &&
      accepts (('$' :: cs).drop ('$' :: name).length)) = true := by
  rw [Bool.and_eq_true, List.isPrefixOf_iff_prefix, List.prefix_cons_inj]
  rfl

theorem replace_of_begins {cs : List Char} (h : Begins name accepts cs) :
    replace ('$' :: name) value accepts 0 ('$' :: cs) =
      value ++ replace ('$' :: name) value accepts name.length cs := by
  rw [replace, if_pos (begins_iff.mp h)]
  rfl

theorem replace_of_not_begins {cs : List Char} (h : ¬Begins name accepts cs) :
    replace ('$' :: name) value accepts 0 ('$' :: cs) =
      '$' :: replace ('$' :: name) value accepts 0 cs := by
  rw [replace, if_neg fun hfound => h (begins_iff.mpr hfound)]

theorem replace_eq_self {cs : List Char} (h : ¬('$' :: name) <:+: cs) :
    replace ('$' :: name) value accepts 0 cs = cs := by
  induction cs with
  | nil => rfl
  | cons c cs ih =>
      rw [List.infix_cons_iff, not_or] at h
      by_cases hc : c = '$'
      · subst hc
        rw [replace_of_not_begins fun hbegins =>
          h.1 ((List.prefix_cons_inj _).mpr hbegins.1), ih h.2]
      · rw [replace_cons_of_ne hc, ih h.2]

theorem prefix_append_dollar_iff (hname : '$' ∉ name) (cs rest : List Char) :
    name <+: cs ++ '$' :: rest ↔ name <+: cs := by
  refine ⟨fun h => ?_, fun h => h.trans (List.prefix_append _ _)⟩
  rcases List.prefix_or_prefix_of_prefix h (List.prefix_append cs _) with hcs | ⟨tail, rfl⟩
  · exact hcs
  · rw [List.prefix_append_right_inj] at h
    cases tail with
    | nil => simp
    | cons c tail =>
        obtain rfl := (List.cons_prefix_cons.mp h).1
        exact absurd (List.mem_append_right _ List.mem_cons_self) hname

section

variable (hname : '$' ∉ name) (haccepts : ∀ cs rest, accepts (cs ++ '$' :: rest) = accepts cs)

include hname haccepts

theorem begins_append_dollar_iff (cs rest : List Char) :
    Begins name accepts (cs ++ '$' :: rest) ↔ Begins name accepts cs := by
  rw [Begins, prefix_append_dollar_iff hname]
  refine and_congr_right fun hfront => ?_
  rw [List.drop_append_of_le_length hfront.length_le, haccepts]

theorem replace_append_dollar {skip : Nat} {before : List Char} (hskip : skip ≤ before.length)
    (after : List Char) :
    replace ('$' :: name) value accepts skip (before ++ '$' :: after) =
      replace ('$' :: name) value accepts skip before ++
        replace ('$' :: name) value accepts 0 ('$' :: after) := by
  induction before generalizing skip with
  | nil =>
      obtain rfl : skip = 0 := Nat.le_zero.mp hskip
      rfl
  | cons c cs ih =>
      cases skip with
      | succ skip =>
          rw [List.cons_append, replace, ih (Nat.le_of_succ_le_succ hskip), replace]
      | zero =>
          rw [List.cons_append]
          by_cases hc : c = '$'
          · subst hc
            have hsame := begins_append_dollar_iff hname haccepts cs after
            by_cases hbegins : Begins name accepts cs
            · rw [replace_of_begins hbegins, replace_of_begins (hsame.mpr hbegins),
                ih hbegins.1.length_le, List.append_assoc]
            · rw [replace_of_not_begins hbegins, replace_of_not_begins (hbegins ∘ hsame.mp),
                ih (Nat.zero_le _), List.cons_append]
          · rw [replace_cons_of_ne hc, replace_cons_of_ne hc, ih (Nat.zero_le _),
              List.cons_append]

theorem replace_occurrence (before after : List Char) :
    replace ('$' :: name) value accepts 0 (before ++ '$' :: (name ++ after)) =
      replace ('$' :: name) value accepts 0 before ++
        ((if accepts after then value else '$' :: name) ++
          replace ('$' :: name) value accepts 0 after) := by
  have hbegins : Begins name accepts (name ++ after) ↔ accepts after = true := by
    rw [Begins, List.drop_left, and_iff_right (List.prefix_append _ _)]
  rw [replace_append_dollar hname haccepts (Nat.zero_le _)]
  split
  · rename_i hafter
    rw [replace_of_begins (hbegins.mpr hafter), replace_eq_drop _ _ _ name.length, List.drop_left]
  · rename_i hafter
    rw [replace_of_not_begins (hafter ∘ hbegins.mp), replace_append_of_not_mem hname,
      List.cons_append]

end

theorem isWord_dollar : isWord '$' = false := by decide +kernel

theorem strictEnd_append_dollar (name cs rest : List Char) :
    strictEnd name (cs ++ '$' :: rest) = strictEnd name cs := by
  have hhead : (cs ++ '$' :: rest).head?.any isWord = cs.head?.any isWord := by
    cases cs with
    | nil => exact isWord_dollar
    | cons c cs => rfl
  rw [strictEnd, strictEnd, isBoundary, isBoundary, hhead]

theorem strictEnd_of_getLast? {c : Char} (hlast : name.getLast? = some c)
    (hend : isAlphanumeric c = true ∨ c = '_') (after : List Char) :
    strictEnd name after = (after.head?.any isWord != isWord c) := by
  have hword : endsInWord name = true := by
    rw [endsInWord, hlast]
    simpa using hend
  rw [strictEnd, if_pos hword, isBoundary, hlast, Option.any_some, bne_comm]

/-- The map of one name. -/
def single (name : String) (b : Binding) : Bindings :=
  OrderedMap.ofList [(name, b)]

theorem fillStrict_single (template name : String) (b : Binding) :
    fillStrict template (single name b) =
      String.ofList (replace ('$' :: name.toList) b.render.toList (strictEnd name.toList) 0
        template.toList) :=
  rfl

/-- Whether strict mode puts the value of a name in exactly where the character that follows, if
there is one, is accepted. Every occurrence counts, whatever stands around it, and nothing else
changes. -/
def ReplacesBefore (name : String) (b : Binding) (accepts : Option Char → Bool) : Prop :=
  (∀ before after : String,
    fillStrict (before ++ ("$" ++ name) ++ after) (single name b) =
      fillStrict before (single name b) ++
        (if accepts after.toList.head? then b.render else "$" ++ name) ++
          fillStrict after (single name b)) ∧
    ∀ template : String, ¬('$' :: name.toList) <:+: template.toList →
      fillStrict template (single name b) = template

theorem replacesBefore_of_getLast? {name : String} {c : Char} (b : Binding)
    (hname : '$' ∉ name.toList)
    (hlast : name.toList.getLast? = some c) (hend : isAlphanumeric c = true ∨ c = '_') :
    ReplacesBefore name b fun next => next.any isWord != isWord c := by
  constructor
  · intro before after
    have hall : (before ++ ("$" ++ name) ++ after).toList =
        before.toList ++ '$' :: (name.toList ++ after.toList) := by simp
    rw [fillStrict_single, hall, replace_occurrence hname (strictEnd_append_dollar name.toList),
      strictEnd_of_getLast? hlast hend, ← String.toList_inj]
    simp only [fillStrict_single, String.toList_append, String.toList_ofList, List.append_assoc]
    split <;> simp
  · intro template hnone
    rw [fillStrict_single, replace_eq_self hnone, String.ofList_toList]

/-- A name that ends in a letter, a number or an underscore is replaced where a word ends with it
or, if its last character may not stand in an identifier, where a word begins behind it. Only
names of the first kind are replaced exactly where no identifier goes on. -/
theorem replaces_at_boundaries {name : String} {c : Char} (hname : '$' ∉ name.toList)
    (hlast : name.toList.getLast? = some c) (hend : isAlphanumeric c = true ∨ c = '_') :
    (∀ b, ReplacesBefore name b fun next => next.any isWord != isWord c) ∧
      ((∀ b, ReplacesBefore name b fun next => !next.any isWord) ↔ isWord c = true) := by
  have hexact := fun b => replacesBefore_of_getLast? b hname hlast hend
  refine ⟨hexact, ?_⟩
  constructor
  · intro hrule
    by_contra hword
    rw [Bool.not_eq_true] at hword
    -- At the end of a template such a name stays; an empty value shows that it is still there.
    have hstays := (hexact ⟨.number, .null⟩).1 "" ""
    have hgone := (hrule ⟨.number, .null⟩).1 "" ""
    have hempty : fillStrict "" (single name ⟨.number, .null⟩) = "" := rfl
    rw [hstays, hword, hempty] at hgone
    simp [Binding.render, Binding.items, SqlValue.plainText, String.ext_iff] at hgone
  · intro hword b
    simpa [hword] using hexact b

/-- A superscript two is a number and stands in no identifier. A name that ends in it stays at the
end of a template and is replaced where an identifier goes on. -/
theorem strict_squared_stays :
    '$' ∉ "x²".toList ∧ "x²".toList.getLast? = some '²' ∧ isAlphanumeric '²' = true ∧
      fillStrict "$x²" (single "x²" ⟨.number, .int 1⟩) = "$x²" ∧
      fillStrict "$x²a" (single "x²" ⟨.number, .int 1⟩) = "1a" ∧
      ¬∀ b, ReplacesBefore "x²" b fun next => !next.any isWord := by
  have hstays : fillStrict "$x²" (single "x²" ⟨.number, .int 1⟩) = "$x²" := by decide +kernel
  refine ⟨by decide, by decide, by decide +kernel, hstays, by decide +kernel, ?_⟩
  intro hrule
  have hgone := (hrule ⟨.number, .int 1⟩).1 "" ""
  rw [show "" ++ ("$" ++ "x²") ++ "" = "$x²" by decide, hstays] at hgone
  exact absurd hgone (by decide +kernel)

theorem replaces_at_boundaries_id :
    '$' ∉ "id".toList ∧ "id".toList.getLast? = some 'd' ∧ isAlphanumeric 'd' = true ∧
      isWord 'd' = true ∧ ReplacesBefore "id" ⟨.number, .int 1⟩ fun next => !next.any isWord := by
  have hname : '$' ∉ "id".toList := by decide
  have hlast : "id".toList.getLast? = some 'd' := by decide
  have hend : isAlphanumeric 'd' = true := by decide +kernel
  have hword : isWord 'd' = true := by decide +kernel
  exact ⟨hname, hlast, hend, hword,
    (replaces_at_boundaries hname hlast (.inl hend)).2.mpr hword _⟩

end Template

end SqlClient
