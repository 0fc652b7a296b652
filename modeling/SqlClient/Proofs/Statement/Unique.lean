import SqlClient.Proofs.Statement.Lines
import SqlClient.Proofs.Statement.Operands

namespace SqlClient

theorem natText_injective {m n : Nat} (h : natText m = natText n) : m = n := by
  have hdigits : digitsOf m = digitsOf n := by
    simpa [natText, String.toList_ofList] using congrArg String.toList h
  rw [← ofDigits_digitsOf m, hdigits, ofDigits_digitsOf]

namespace PredicateKind

/-- The first character of the opening that is no blank. -/
def initial : PredicateKind → Char
  | equals => '='
  | between => 'b'
  | like => 'l'
  | notEqual => '!'
  | oneOf => 'i'
  | noneOf => 'n'
  | greater => '>'
  | less => '<'

theorem initial_injective {k k' : PredicateKind} (h : k.initial = k'.initial) : k = k' := by
  cases k <;> cases k' <;> first
    | rfl
    | exact absurd h (by decide)

theorem opening_eq_cons (k : PredicateKind) :
    ∃ cs, k.opening.toList = ' ' :: k.initial :: cs := by
  cases k <;> exact ⟨_, rfl⟩

theorem opening_cancel {k k' : PredicateKind} {r r' : List Char}
    (h : k.opening.toList ++ r = k'.opening.toList ++ r') : k = k' ∧ r = r' := by
  obtain ⟨cs, hk⟩ := k.opening_eq_cons
  obtain ⟨cs', hk'⟩ := k'.opening_eq_cons
  have hinitial : k.initial = k'.initial := by
    rw [hk, hk'] at h
    exact (List.cons_eq_cons.mp (List.cons_eq_cons.mp h).2).1
  obtain rfl := initial_injective hinitial
  exact ⟨rfl, List.append_cancel_left h⟩

end PredicateKind

namespace Conditions

/-- The operands of a comparison are counted by its kind, so that the `and` of a range is told
from the one behind it. -/
theorem legible_comparison :
    Legible (fun e : String × Predicate => e.2.render e.1) (fun e => comparison e.1 e.2)
      (fun e => Avoids " " e.1 ∧ ∀ s ∈ e.2.texts, QuoteFree s) (StartsIn " \n") := by
  rintro ⟨column, p⟩ ⟨column', p'⟩ ⟨hcolumn, hp⟩ ⟨hcolumn', hp'⟩ r r' hr hr' htext
  have hopening : ∀ (k : PredicateKind) r, StartsIn " " (k.opening.toList ++ r) := by
    intro k r
    cases k <;> exact StartsIn.append (by decide) (by decide) _
  have hclosing : ∀ (k : PredicateKind) {r}, StartsIn " \n" r →
      StartsIn " )\n" (k.closing.toList ++ r) := by
    intro k r hr
    cases k <;> first
      | exact hr.mono (by decide)
      | exact StartsIn.append (by decide) (by decide) _
  have harity : p.kind.arity ≠ 0 := by cases p.kind <;> decide
  have htexts : ∀ p : Predicate, (∀ s ∈ p.texts, QuoteFree s) →
      ∀ v ∈ p.operands, ∀ s ∈ v.texts, QuoteFree s :=
    fun p hp v hv s hs => hp s (List.mem_flatMap_of_mem hv hs)
  simp only [Predicate.render_eq, String.toList_append, List.append_assoc] at htext
  obtain ⟨hsame, hopened⟩ : column = column' ∧ _ = _ :=
    hcolumn.cancel hcolumn' (hopening _ _) (hopening _ _) htext
  obtain ⟨hkind, hinner⟩ := PredicateKind.opening_cancel hopened
  obtain ⟨hoperands, hclosed⟩ := SqlValue.legible_literal.joined_of_length
    (fun s => StartsIn.append (by decide) (by decide) _) harity p.operands p'.operands
    ⟨p.length_operands, htexts p hp⟩ ⟨hkind ▸ p'.length_operands, htexts p' hp'⟩ _ _
    (hclosing p.kind hr) (hclosing p'.kind hr') hinner
  rw [hkind] at hclosed
  refine ⟨?_, List.append_cancel_left hclosed⟩
  simp only [comparison, hsame, hkind, hoperands]

/-- The comparison that mirrors another one. -/
def mirror? (n : NormalComparison) : Option NormalComparison :=
  if n.1 = partitionColumn ∧ n.2.1.isMirrored then some (flagColumn, n.2) else none

theorem map_comparison_comparisons (c : Conditions) :
    c.comparisons.map (fun e => comparison e.1 e.2) =
      c.normalForm.flatMap fun n => n :: (mirror? n).toList := by
  simp only [comparisons, normalForm, List.map_flatMap, List.flatMap_map]
  congr 1
  funext e
  obtain ⟨column, p⟩ := e
  simp only [mirrored, mirror?, comparison, Predicate.isMirrored_eq]
  split <;> simp [*]

theorem flatMap_cons_injective {α : Type} {f : α → List α} {xs ys : List α}
    (h : xs.flatMap (fun x => x :: f x) = ys.flatMap fun y => y :: f y) : xs = ys := by
  induction xs generalizing ys with
  | nil => cases ys <;> simp at h ⊢
  | cons x xs ih =>
      cases ys with
      | nil => simp at h
      | cons y ys =>
          simp only [List.flatMap_cons, List.cons_append, List.cons.injEq] at h
          obtain ⟨rfl, h⟩ := h
          rw [ih (List.append_cancel_left h)]

/-- Each condition stands in front of the one that mirrors it, so the conditions are told by the
comparisons. -/
theorem normalForm_eq_of_comparisons {c c' : Conditions}
    (h : c.comparisons.map (fun e => comparison e.1 e.2) =
      c'.comparisons.map fun e => comparison e.1 e.2) : c.normalForm = c'.normalForm := by
  rw [map_comparison_comparisons, map_comparison_comparisons] at h
  exact flatMap_cons_injective h

/-- The where clause on its line. -/
def whereLine : List (String × Predicate) → String :=
  lineOf "where " fun es => " and ".intercalate (es.map fun e => e.2.render e.1)

theorem lineText_clause (c : Conditions) : lineText c.clause = whereLine c.comparisons := by
  rw [clause_eq]
  unfold whereLine lineOf
  by_cases hnone : c.comparisons = []
  · simp [hnone]
  · rw [if_neg hnone, if_neg hnone, lineText_of_ne (by simp)]

theorem legible_whereLine : Legible whereLine (List.map fun e => comparison e.1 e.2)
    (fun es => ∀ e ∈ es, Avoids " " e.1 ∧ ∀ s ∈ e.2.texts, QuoteFree s)
    (Follows ["group by ", "order by ", "limit ", "offset "]) := by
  apply Legible.lineOf
  · exact legible_comparison.joined_marks (by decide) (by decide) (by decide)
  · decide

end Conditions

section Lists

/-- A list clause on its line. -/
def listLine (keyword : String) : List String → String :=
  lineOf keyword fun items => ", ".intercalate (items.map id)

theorem lineText_listClause (keyword : String) (items : List String) :
    lineText (listClause keyword items) = listLine (keyword ++ " ") (items.filter (· ≠ "")) := by
  unfold listClause listLine lineOf
  cases items.filter (· ≠ "") with
  | nil => simp
  | cons item rest =>
      rw [if_neg (List.cons_ne_nil item rest), lineText_of_ne (by simp)]
      simp

theorem legible_listLine {keyword : String} {keywords : List String}
    (hkeyword : ∀ k ∈ keywords, ¬ keyword.toList <+: k.toList ∧ ¬ k.toList <+: keyword.toList) :
    Legible (listLine keyword) (List.map id) (fun items => ∀ item ∈ items, Avoids ",\n" item)
      (Follows keywords) := by
  refine Legible.lineOf ?_ hkeyword
  exact (legible_word ",\n").joined_marks (by decide) (by decide) (by decide)

end Lists

section Attributes

def attributeText (a : Attribute) : String :=
  a.column ++ " as " ++ a.name

theorem legible_attributes :
    Legible (fun attributes => ", ".intercalate (attributes.map attributeText))
      (List.map fun a => (a.column, a.name))
      (fun attributes => ∀ a ∈ attributes, Avoids " \n" a.column ∧ Avoids ",\n" a.name)
      (StartsIn "\n") := by
  have hattribute : Legible attributeText (fun a => (a.column, a.name))
      (fun a => Avoids " \n" a.column ∧ Avoids ",\n" a.name) (StartsIn ",\n") := by
    rintro a b ⟨hcolumn, hname⟩ ⟨hcolumn', hname'⟩ r r' hr hr' htext
    have has : ∀ s, StartsIn " \n" (" as ".toList ++ s) := fun s =>
      StartsIn.append (by decide) (by decide) _
    simp only [attributeText, String.toList_append, List.append_assoc] at htext
    obtain ⟨hsame, htext⟩ := hcolumn.cancel hcolumn' (has _) (has _) htext
    obtain ⟨hsame', rfl⟩ := hname.cancel hname' hr hr' (List.append_cancel_left htext)
    exact ⟨Prod.ext hsame hsame', rfl⟩
  apply Legible.orEmpty
  · exact hattribute.joined_marks (by decide) (by decide) (by decide)
  · rfl
  · intro attributes hne hvalid s
    obtain ⟨a, attributes, rfl⟩ := List.exists_cons_of_ne_nil hne
    obtain ⟨hcolumn, -⟩ := hvalid a List.mem_cons_self
    have hfront : Avoids "\n" (a.column ++ " as ") :=
      (hcolumn.mono (by decide)).append (by decide)
    rw [toList_joined_cons, attributeText, String.toList_append, List.append_assoc,
      List.append_assoc]
    exact hfront.not_startsIn (by simp) _

end Attributes

section Bounds

/-- The limit and the offset that are positive, each with its keyword. -/
def bounds (limit offset : Option Nat) : List (String × Nat) :=
  (limit.filter (0 < ·)).toList.map (("limit", ·)) ++
    (offset.filter (0 < ·)).toList.map (("offset", ·))

def boundText (b : String × Nat) : String :=
  b.1 ++ " " ++ natText b.2

theorem countPart_eq (keyword : String) (n : Option Nat) :
    countPart keyword n = (n.filter (0 < ·)).toList.map fun n => keyword ++ " " ++ natText n := by
  rcases n with _ | _ | n <;> simp [countPart, Option.filter]

theorem limitClause_eq (limit offset : Option Nat) :
    limitClause limit offset = " ".intercalate ((bounds limit offset).map boundText) := by
  simp [limitClause, bounds, boundText, countPart_eq, List.map_map, Function.comp_def]

theorem lookup?_bounds (limit offset : Option Nat) :
    lookup? "limit" (bounds limit offset) = limit.filter (0 < ·) ∧
      lookup? "offset" (bounds limit offset) = offset.filter (0 < ·) := by
  unfold bounds
  cases limit.filter (0 < ·) <;> cases offset.filter (0 < ·) <;> simp [lookup?]

theorem legible_bounds :
    Legible (fun bounds => " ".intercalate (bounds.map boundText)) (List.map id)
      (fun bounds => ∀ b ∈ bounds, Avoids " " b.1) (· = []) := by
  have hbound : Legible boundText id (fun b => Avoids " " b.1) (StartsIn " ") := by
    rintro ⟨keyword, n⟩ ⟨keyword', n'⟩ hkeyword hkeyword' r r' hr hr' htext
    have hnumber : ∀ n, Avoids " " (natText n) := by
      intro n c hc hmark
      rw [natText, String.toList_ofList] at hc
      obtain rfl : c = ' ' := by simpa using hmark
      exact absurd (isDigit_of_mem_digitsOf hc) (by decide)
    have hblank : ∀ s, StartsIn " " (" ".toList ++ s) := fun s =>
      StartsIn.append (by decide) (by decide) _
    simp only [boundText, String.toList_append, List.append_assoc] at htext
    obtain ⟨hsame, htail⟩ := hkeyword.cancel hkeyword' (hblank _) (hblank _) htext
    obtain ⟨hnumbers, rfl⟩ :=
      (hnumber n).cancel (hnumber n') hr hr' (List.append_cancel_left htail)
    exact ⟨Prod.ext hsame (natText_injective hnumbers), rfl⟩
  apply Legible.orEmpty
  · apply hbound.joined
    · intro s
      exact StartsIn.append (by decide) (by decide) _
    · rintro r rfl
      exact startsIn_nil _
    · simp
  · rfl
  · intro bounds hne _ s
    obtain ⟨b, bounds, rfl⟩ := List.exists_cons_of_ne_nil hne
    rw [toList_joined_cons]
    simp [boundText]

theorem mem_bounds {limit offset : Option Nat} {b : String × Nat} (h : b ∈ bounds limit offset) :
    b.1 = "limit" ∨ b.1 = "offset" := by
  simp only [bounds, List.mem_append, List.mem_map] at h
  rcases h with ⟨n, -, rfl⟩ | ⟨n, -, rfl⟩
  · exact Or.inl rfl
  · exact Or.inr rfl

theorem limitClause_cancel {limit limit' offset offset' : Option Nat}
    (h : limitClause limit offset = limitClause limit' offset') :
    limit.filter (0 < ·) = limit'.filter (0 < ·) ∧
      offset.filter (0 < ·) = offset'.filter (0 < ·) := by
  have hkeywords : ∀ limit offset, ∀ b ∈ bounds limit offset, Avoids " " b.1 := by
    intro limit offset b hb
    rcases mem_bounds hb with hb | hb <;> rw [hb] <;> decide
  have hbounds : bounds limit offset = bounds limit' offset' := by
    have htext : (limitClause limit offset).toList ++ [] =
        (limitClause limit' offset').toList ++ [] := by
      rw [h]
    rw [limitClause_eq, limitClause_eq] at htext
    have hsame := legible_bounds _ _ (hkeywords _ _) (hkeywords _ _) [] [] rfl rfl htext
    simpa using hsame.1
  obtain ⟨hlimit, hoffset⟩ := lookup?_bounds limit offset
  obtain ⟨hlimit', hoffset'⟩ := lookup?_bounds limit' offset'
  rw [← hlimit, ← hoffset, hbounds]
  exact ⟨hlimit', hoffset'⟩

theorem follows_limitClause (limit offset : Option Nat) :
    Follows ["limit ", "offset "] (lineText (limitClause limit offset)).toList := by
  by_cases hempty : limitClause limit offset = ""
  · rw [hempty]
    exact Or.inl rfl
  · rw [lineText_of_ne hempty]
    rw [limitClause_eq] at hempty ⊢
    cases hb : bounds limit offset with
    | nil => simp [hb] at hempty
    | cons b rest =>
        rw [String.toList_append, toList_joined_cons]
        have hmem : b ∈ bounds limit offset := by simp [hb]
        rcases mem_bounds hmem with hkeyword | hkeyword
        · exact Or.inr ⟨"limit ", by simp, (natText b.2).toList ++ restOf " " boundText rest,
            by simp [boundText, hkeyword]⟩
        · exact Or.inr ⟨"offset ", by simp, (natText b.2).toList ++ restOf " " boundText rest,
            by simp [boundText, hkeyword]⟩

end Bounds

/-- A name without whitespace, commas and quotes. Blanks beyond ASCII may stand in it. -/
def IsName (w : String) : Prop :=
  ∀ c ∈ w.toList, c.isWhitespace = false ∧ c ∉ ",'".toList

instance (w : String) : Decidable (IsName w) :=
  List.decidableBAll (fun c : Char => c.isWhitespace = false ∧ c ∉ ",'".toList) w.toList

theorem IsName.avoids {w : String} (h : IsName w) : Avoids " \n,'" w := by
  intro c hc hmark
  obtain ⟨hspace, hrest⟩ := h c hc
  have hmarks : c = ' ' ∨ c = '\n' ∨ c ∈ ",'".toList := by simpa using hmark
  rcases hmarks with rfl | rfl | hin
  · exact absurd hspace (by decide)
  · exact absurd hspace (by decide)
  · exact hrest hin

namespace Descriptor

/-- Names are plain, expressions to order by stand on one line without commas and quotes, and
texts have no quotes. -/
structure IsPlain (table : String) (d : Descriptor) : Prop where
  table : IsName table
  attributes : ∀ a ∈ d.attributes, IsName a.column ∧ ∀ name, a.alias? = some name → IsName name
  conditions : ∀ e ∈ d.conditions.entries, IsName e.1 ∧ ∀ s ∈ e.2.texts, QuoteFree s
  group : ∀ column ∈ d.group, IsName column
  order : ∀ expression ∈ d.order, Avoids "\n,'" expression

/-- The lines behind the table. -/
def tailLines (d : Descriptor) : List Char :=
  (Conditions.whereLine d.conditions.comparisons).toList ++
    ((listLine "group by " (d.group.filter (· ≠ ""))).toList ++
      ((listLine "order by " (d.order.filter (· ≠ ""))).toList ++
        (lineText (limitClause d.limit d.offset)).toList))

theorem toList_selectStatement (table : String) (d : Descriptor) :
    (d.selectStatement table).toList =
      "select ".toList ++ ((", ".intercalate (d.attributes.map attributeText)).toList ++
        ("\nfrom ".toList ++ (table.toList ++ d.tailLines))) := by
  have hfrom : lineText ("from " ++ table) = "\nfrom " ++ table := by
    rw [lineText_of_ne (by simp), ← String.append_assoc]
    rfl
  rw [selectStatement_eq, selectClause]
  simp only [sharedClauses, linesText_cons, linesText_nil, hfrom, Conditions.lineText_clause,
    groupClause, orderClause, lineText_listClause, String.toList_append, String.toList_empty,
    List.append_assoc, List.append_nil, tailLines]
  rfl

theorem follows_orderLine (d : Descriptor) : Follows ["order by ", "limit ", "offset "]
    ((listLine "order by " (d.order.filter (· ≠ ""))).toList ++
      (lineText (limitClause d.limit d.offset)).toList) :=
  (follows_limitClause d.limit d.offset).lineOf _ _

theorem follows_groupLine (d : Descriptor) :
    Follows ["group by ", "order by ", "limit ", "offset "]
      ((listLine "group by " (d.group.filter (· ≠ ""))).toList ++
        ((listLine "order by " (d.order.filter (· ≠ ""))).toList ++
          (lineText (limitClause d.limit d.offset)).toList)) :=
  d.follows_orderLine.lineOf _ _

theorem startsIn_tailLines (d : Descriptor) : StartsIn "\n" d.tailLines :=
  (d.follows_groupLine.lineOf _ _ : Follows ["where ", _, _, _, _] _).startsIn

variable {table table' : String} {d d' : Descriptor}

theorem IsPlain.attributes_avoid (h : d.IsPlain table) :
    ∀ a ∈ d.attributes, Avoids " \n" a.column ∧ Avoids ",\n" a.name := by
  intro a ha
  obtain ⟨hcolumn, halias⟩ := h.attributes a ha
  have hname : IsName a.name := by
    obtain hname | hname := a.name_eq_column_or
    · exact hname ▸ hcolumn
    · exact halias _ hname
  exact ⟨hcolumn.avoids.mono (by decide), hname.avoids.mono (by decide)⟩

theorem IsPlain.comparisons_avoid (h : d.IsPlain table) :
    ∀ e ∈ d.conditions.comparisons, Avoids " " e.1 ∧ ∀ s ∈ e.2.texts, QuoteFree s := by
  have hflag : Avoids " " Conditions.flagColumn := by decide
  apply Conditions.forall_mem_comparisons (P := fun column p => Avoids " " column ∧
    ∀ s ∈ p.texts, QuoteFree s)
  · intro e he
    obtain ⟨hcolumn, htexts⟩ := h.conditions e he
    exact ⟨hcolumn.avoids.mono (by decide), htexts⟩
  · intro column p hp
    exact ⟨hflag, hp.2⟩

theorem IsPlain.group_avoid (h : d.IsPlain table) :
    ∀ column ∈ d.group.filter (· ≠ ""), Avoids ",\n" column := by
  intro column hcolumn
  exact (h.group column (List.mem_filter.mp hcolumn).1).avoids.mono (by decide)

theorem IsPlain.order_avoid (h : d.IsPlain table) :
    ∀ expression ∈ d.order.filter (· ≠ ""), Avoids ",\n" expression := by
  intro expression hexpression
  exact (h.order expression (List.mem_filter.mp hexpression).1).mono (by decide)

/-- The text of a statement determines the table, and of the descriptor all that counts: columns
with the names under which they are returned, conditions in order, groups, order, limit and
offset. -/
theorem selectStatement_determines (h : d.IsPlain table) (h' : d'.IsPlain table')
    (hsame : d.selectStatement table = d'.selectStatement table') :
    table = table' ∧ d.normalForm = d'.normalForm := by
  have hfrom : ∀ s, StartsIn "\n" ("\nfrom ".toList ++ s) := fun s =>
    StartsIn.append (by decide) (by decide) _
  have htext := congrArg String.toList hsame
  rw [toList_selectStatement, toList_selectStatement] at htext
  obtain ⟨hattributes, hrest⟩ := legible_attributes d.attributes d'.attributes h.attributes_avoid
    h'.attributes_avoid _ _ (hfrom _) (hfrom _) (List.append_cancel_left htext)
  obtain ⟨htable, hlines⟩ :=
    (h.table.avoids.mono (by decide)).cancel (h'.table.avoids.mono (by decide))
    d.startsIn_tailLines d'.startsIn_tailLines (List.append_cancel_left hrest)
  obtain ⟨hcomparisons, hgroups⟩ := Conditions.legible_whereLine d.conditions.comparisons
    d'.conditions.comparisons h.comparisons_avoid h'.comparisons_avoid _ _ d.follows_groupLine
    d'.follows_groupLine hlines
  obtain ⟨hgroup, horders⟩ := legible_listLine (by decide) _ _ h.group_avoid h'.group_avoid _ _
    d.follows_orderLine d'.follows_orderLine hgroups
  obtain ⟨horder, hlimits⟩ := legible_listLine (by decide) _ _ h.order_avoid h'.order_avoid _ _
    (follows_limitClause _ _) (follows_limitClause _ _) horders
  obtain ⟨hlimit, hoffset⟩ :=
    limitClause_cancel (lineText_injective (String.toList_inj.mp hlimits))
  refine ⟨htable, ?_⟩
  rw [List.map_id, List.map_id] at hgroup horder
  simp only [normalForm, hattributes,
    Conditions.normalForm_eq_of_comparisons hcomparisons, hgroup, horder, hlimit, hoffset]

/-- Shops on a day, with a range that has no lower end. -/
def shops : Descriptor where
  attributes := [⟨"shop_id", none⟩]
  conditions := OrderedMap.ofList
    [("report_date", .equals (.text "1 and 2")),
      ("amount", .compares (.between (.list []) (.int 5)))]
  group := []
  order := ["shop_id desc"]
  limit := none
  offset := some 3

/-- The same in other words. -/
def shopsAgain : Descriptor where
  attributes := [⟨"shop_id", some ""⟩]
  conditions := OrderedMap.ofList
    [("report_date", .equals (.list [.text "1 and 2"])),
      ("amount", .compares (.between (.list []) (.list [.int 5])))]
  group := [""]
  order := ["", "shop_id desc"]
  limit := some 0
  offset := some 3

theorem isPlain_shops : shops.IsPlain "dw.sales" where
  table := by decide
  attributes := by simp [shops]; decide
  conditions := by decide
  group := by decide
  order := by decide

theorem isPlain_shopsAgain : shopsAgain.IsPlain "dw.sales" where
  table := by decide
  attributes := by simp [shopsAgain]; decide
  conditions := by decide
  group := by decide
  order := by decide

theorem selectStatement_determines_shops :
    shops.IsPlain "dw.sales" ∧ shopsAgain.IsPlain "dw.sales" ∧
      shops.selectStatement "dw.sales" = shopsAgain.selectStatement "dw.sales" ∧
      shops.normalForm = shopsAgain.normalForm := by
  have hsame : shops.selectStatement "dw.sales" = shopsAgain.selectStatement "dw.sales" := rfl
  exact ⟨isPlain_shops, isPlain_shopsAgain, hsame,
    (selectStatement_determines isPlain_shops isPlain_shopsAgain hsame).2⟩

end Descriptor

end SqlClient
