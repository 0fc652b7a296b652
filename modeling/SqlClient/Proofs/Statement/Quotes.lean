import SqlClient.Proofs.Statement.Comparison
import SqlClient.Proofs.Statement.Lines
import SqlClient.Proofs.Statement.Literal

namespace SqlClient

/-- What such a reader has seen. The quotes themselves stand outside. -/
structure QuoteScan where
  outside : List Char
  quoted : List String
  /-- The quotation that has not ended yet. -/
  opened : Option (List Char)

namespace QuoteScan

def step (s : QuoteScan) (c : Char) : QuoteScan :=
  match s.opened with
  | none =>
    if c = '\'' then { s with outside := s.outside ++ [c], opened := some [] }
    else { s with outside := s.outside ++ [c] }
  | some cs =>
    if c = '\'' then ⟨s.outside ++ [c], s.quoted ++ [String.ofList cs], none⟩
    else { s with opened := some (cs ++ [c]) }

def run (s : QuoteScan) (text : String) : QuoteScan :=
  text.toList.foldl step s

theorem run_append (s : QuoteScan) (a b : String) : s.run (a ++ b) = (s.run a).run b := by
  simp [run]

end QuoteScan

/-- The scan of a whole text. -/
def scanQuotes (text : String) : QuoteScan :=
  QuoteScan.run ⟨[], [], none⟩ text

/-- Read from outside of quotes, a text shows `outside` and quotes `quoted`, and all its
quotations end. -/
def Shows (text outside : String) (quoted : List String) : Prop :=
  ∀ before texts, QuoteScan.run ⟨before, texts, none⟩ text =
    ⟨before ++ outside.toList, texts ++ quoted, none⟩

section Shows

variable {a b a' b' : String} {q r : List String}

theorem Shows.append (ha : Shows a a' q) (hb : Shows b b' r) :
    Shows (a ++ b) (a' ++ b') (q ++ r) := by
  intro before texts
  rw [QuoteScan.run_append, ha, hb]
  simp

theorem Shows.of_quoteFree (h : QuoteFree a) : Shows a a [] := by
  intro before texts
  simp only [QuoteScan.run, List.append_nil]
  unfold QuoteFree at h
  generalize a.toList = cs at h
  induction cs generalizing before with
  | nil => simp
  | cons c cs ih =>
      obtain ⟨hc, hcs⟩ := not_or.mp (mt List.mem_cons.mpr h)
      rw [List.foldl_cons, QuoteScan.step, if_neg (Ne.symm hc), ih _ hcs]
      simp

theorem foldl_step_opened {cs : List Char} (h : '\'' ∉ cs) (before : List Char)
    (texts : List String)
    (front : List Char) :
    cs.foldl QuoteScan.step ⟨before, texts, some front⟩ =
      ⟨before, texts, some (front ++ cs)⟩ := by
  induction cs generalizing front with
  | nil => simp
  | cons c cs ih =>
      obtain ⟨hc, hcs⟩ := not_or.mp (mt List.mem_cons.mpr h)
      rw [List.foldl_cons, QuoteScan.step]
      simp only [if_neg (Ne.symm hc)]
      rw [ih hcs]
      simp

theorem Shows.quotation (h : QuoteFree a) : Shows ("'" ++ a ++ "'") "''" [a] := by
  intro before texts
  have hopening : QuoteScan.run ⟨before, texts, none⟩ "'" = ⟨before ++ ['\''], texts, some []⟩ :=
    rfl
  have hquotation : QuoteScan.run ⟨before ++ ['\''], texts, some []⟩ a =
      ⟨before ++ ['\''], texts, some a.toList⟩ := foldl_step_opened h _ _ _
  rw [QuoteScan.run_append, QuoteScan.run_append, hopening, hquotation]
  simp [QuoteScan.run, QuoteScan.step]

theorem Shows.intercalate {α : Type} {separator : String} (hseparator : QuoteFree separator)
    {f g : α → String} {quoted : α → List String} {xs : List α}
    (h : ∀ x ∈ xs, Shows (f x) (g x) (quoted x)) :
    Shows (separator.intercalate (xs.map f)) (separator.intercalate (xs.map g))
      (xs.flatMap quoted) := by
  induction xs with
  | nil => exact .of_quoteFree (a := "") (by decide)
  | cons x rest ih =>
      have hx := h x List.mem_cons_self
      cases rest with
      | nil => simpa using hx
      | cons y rest =>
          simp only [List.map_cons, String.intercalate_cons_cons, List.flatMap_cons]
          have hrest := ih fun z hz => h z (List.mem_cons_of_mem _ hz)
          simpa using (hx.append (.of_quoteFree hseparator)).append hrest

theorem Shows.joined {separator : String} (hseparator : QuoteFree separator) {items : List String}
    (h : ∀ item ∈ items, Shows item item []) :
    Shows (separator.intercalate items) (separator.intercalate items) [] := by
  have hitems : Shows (separator.intercalate (items.map id))
      (separator.intercalate (items.map id)) (items.flatMap fun _ => []) :=
    Shows.intercalate hseparator h
  have hnone : items.flatMap (fun _ => []) = ([] : List String) := by simp
  rwa [List.map_id, hnone] at hitems

end Shows

namespace SqlValue

mutual

/-- The value with nothing in its texts. -/
def eraseTexts : SqlValue → SqlValue
  | text _ => text ""
  | list items => list (eraseItemTexts items)
  | v => v

def eraseItemTexts : List SqlValue → List SqlValue
  | [] => []
  | v :: rest => v.eraseTexts :: eraseItemTexts rest

end

theorem eraseItemTexts_eq_map (items : List SqlValue) :
    eraseItemTexts items = items.map eraseTexts := by
  induction items with
  | nil => rfl
  | cons v rest ih => rw [eraseItemTexts, ih, List.map_cons]

theorem quoteFree_of_isNumeralChar {s : String} (h : ∀ c ∈ s.toList, isNumeralChar c = true) :
    QuoteFree s := by
  intro hquote
  exact absurd (h _ hquote) (by decide)

theorem shows_itemLiteral {v : SqlValue} (h : Shows v.literal v.eraseTexts.literal v.texts) :
    Shows v.itemLiteral v.eraseTexts.itemLiteral v.texts := by
  cases v with
  | list items =>
      have hparens := (Shows.of_quoteFree (a := "(") (by decide)).append
        (h.append (.of_quoteFree (a := ")") (by decide)))
      simpa [itemLiteral, eraseTexts, String.append_assoc] using hparens
  | _ => exact h

/-- A literal quotes the texts of its value, and shows what it would show without them. -/
theorem shows_literal (v : SqlValue) (h : ∀ s ∈ v.texts, QuoteFree s) :
    Shows v.literal v.eraseTexts.literal v.texts := by
  match v with
  | null => exact .of_quoteFree (by decide)
  | bool true => exact .of_quoteFree (by decide)
  | bool false => exact .of_quoteFree (by decide)
  | int n =>
      exact .of_quoteFree (quoteFree_of_isNumeralChar fun _ => isNumeralChar_of_mem_intText)
  | float x =>
      exact .of_quoteFree (quoteFree_of_isNumeralChar fun _ => isNumeralChar_of_mem_floatText)
  | text s => exact .quotation (h s (by simp [texts]))
  | list items =>
      rw [texts, itemTexts_eq_flatMap, eraseTexts, eraseItemTexts_eq_map, literal_list,
        literal_list, List.map_map]
      refine Shows.intercalate (by decide) fun v hv => shows_itemLiteral ?_
      exact shows_literal v fun s hs => h s (texts_subset_of_mem hv hs)

end SqlValue

namespace Predicate

def eraseTexts : Predicate → Predicate :=
  mapOperands SqlValue.eraseTexts

theorem shows_render {column : String} (hcolumn : QuoteFree column) (p : Predicate)
    (h : ∀ s ∈ p.texts, QuoteFree s) :
    Shows (p.render column) (p.eraseTexts.render column) p.texts := by
  have hopening : QuoteFree p.kind.opening := by cases p.kind <;> decide
  have hclosing : QuoteFree p.kind.closing := by cases p.kind <;> decide
  have hoperands : Shows (" and ".intercalate (p.operands.map SqlValue.literal))
      (" and ".intercalate (p.operands.map (SqlValue.literal ∘ SqlValue.eraseTexts)))
        p.texts := by
    refine Shows.intercalate (by decide) fun v hv => ?_
    exact v.shows_literal fun s hs => h s (List.mem_flatMap_of_mem hv hs)
  have hrest := (Shows.of_quoteFree hopening).append (hoperands.append (.of_quoteFree hclosing))
  have hall := (Shows.of_quoteFree hcolumn).append hrest
  rw [render_eq, render_eq, eraseTexts, kind_mapOperands, operands_mapOperands, List.map_map]
  simpa using hall

end Predicate

/-- The map with other values under the same names. -/
def OrderedMap.mapValues {α β : Type} (f : α → β) (m : OrderedMap α) : OrderedMap β where
  entries := m.entries.map fun (k, v) => (k, f v)
  nodup := by simpa [Function.comp_def] using m.nodup

namespace Conditions

/-- The texts of the conditions in order; those of a mirrored condition come twice. -/
def shownTexts (c : Conditions) : List String :=
  c.entries.flatMap fun (column, p) =>
    if column = partitionColumn ∧ p.isMirrored then p.texts ++ p.texts else p.texts

def eraseTexts (c : Conditions) : Conditions :=
  c.mapValues Predicate.eraseTexts

theorem shownTexts_eq (c : Conditions) :
    c.shownTexts = c.comparisons.flatMap fun (_, p) => p.texts := by
  simp only [shownTexts, comparisons, List.flatMap_assoc]
  congr 1
  funext e
  obtain ⟨column, p⟩ := e
  unfold mirrored
  split <;> simp [*]

theorem mirrored_eraseTexts (column : String) (p : Predicate) :
    mirrored column p.eraseTexts =
      (mirrored column p).map fun (column, p) => (column, p.eraseTexts) := by
  have hmirrored : p.eraseTexts.isMirrored = p.isMirrored := by
    rw [Predicate.isMirrored_eq, Predicate.eraseTexts, Predicate.kind_mapOperands,
      ← Predicate.isMirrored_eq]
  unfold mirrored
  rw [hmirrored]
  split <;> rfl

theorem comparisons_eraseTexts (c : Conditions) :
    c.eraseTexts.comparisons = c.comparisons.map fun (column, p) => (column, p.eraseTexts) := by
  simp only [comparisons, eraseTexts, OrderedMap.mapValues, List.flatMap_map, List.map_flatMap,
    mirrored_eraseTexts]

theorem shows_clause {c : Conditions}
    (h : ∀ e ∈ c.entries, QuoteFree e.1 ∧ ∀ s ∈ e.2.texts, QuoteFree s) :
    Shows c.clause c.eraseTexts.clause c.shownTexts := by
  have hlist : Shows
      (" and ".intercalate (c.comparisons.map fun (column, p) => p.render column))
      (" and ".intercalate (c.comparisons.map fun (column, p) => p.eraseTexts.render column))
      (c.comparisons.flatMap fun (_, p) => p.texts) := by
    have hflag : QuoteFree flagColumn := by decide
    have hcomparisons := forall_mem_comparisons
      (P := fun column p => QuoteFree column ∧ ∀ s ∈ p.texts, QuoteFree s) h
      fun _ _ hp => ⟨hflag, hp.2⟩
    refine Shows.intercalate (by decide) fun e he => ?_
    obtain ⟨hcolumn, htexts⟩ := hcomparisons e he
    exact e.2.shows_render hcolumn htexts
  rw [clause_eq, clause_eq, shownTexts_eq, comparisons_eraseTexts, List.map_map]
  by_cases hnone : c.comparisons = []
  · simp only [hnone, List.map_nil, if_true]
    exact .of_quoteFree (by decide)
  · rw [if_neg hnone, if_neg (by simpa using hnone)]
    exact (Shows.of_quoteFree (a := "where ") (by decide)).append hlist

theorem clause_eraseTexts_eq_empty_iff (c : Conditions) :
    c.eraseTexts.clause = "" ↔ c.clause = "" := by
  rw [clause_eq, clause_eq, comparisons_eraseTexts]
  by_cases hnone : c.comparisons = [] <;> simp [hnone]

end Conditions

section Clauses

variable {a a' : String} {q : List String}

theorem Shows.lineText (h : Shows a a' q) (hempty : a' = "" ↔ a = "") :
    Shows (lineText a) (lineText a') q := by
  by_cases ha : a = ""
  · rw [ha, lineText_empty, hempty.mpr ha, lineText_empty]
    rwa [ha, hempty.mpr ha] at h
  · rw [lineText_of_ne ha, lineText_of_ne (mt hempty.mp ha)]
    exact (Shows.of_quoteFree (a := "\n") (by decide)).append h

theorem shows_listClause (keyword : String) (hkeyword : QuoteFree keyword) {items : List String}
    (h : ∀ item ∈ items, QuoteFree item) :
    Shows (listClause keyword items) (listClause keyword items) [] := by
  have hitems : Shows (", ".intercalate (items.filter (· ≠ "")))
      (", ".intercalate (items.filter (· ≠ ""))) [] := by
    refine Shows.joined (by decide) fun item hitem => .of_quoteFree ?_
    exact h item (List.mem_filter.mp hitem).1
  unfold listClause
  split
  · exact .of_quoteFree (a := "") (by decide)
  · have hfront := (Shows.of_quoteFree hkeyword).append (.of_quoteFree (a := " ") (by decide))
    simpa using hfront.append hitems

theorem shows_limitClause (limit offset : Option Nat) :
    Shows (limitClause limit offset) (limitClause limit offset) [] := by
  have hnumber : ∀ n, QuoteFree (natText n) := by
    intro n
    apply SqlValue.quoteFree_of_isNumeralChar
    intro c hc
    rw [natText, String.toList_ofList] at hc
    exact isNumeralChar_of_mem_digitsOf hc
  have hpart : ∀ keyword, QuoteFree keyword → ∀ n, ∀ part ∈ countPart keyword n,
      Shows part part [] := by
    intro keyword hkeyword n part hpart
    unfold countPart at hpart
    split at hpart
    · obtain rfl := List.mem_singleton.mp hpart
      have hfront := (Shows.of_quoteFree hkeyword).append (.of_quoteFree (a := " ") (by decide))
      exact hfront.append (.of_quoteFree (hnumber _))
    · exact absurd hpart List.not_mem_nil
  refine Shows.joined (by decide) fun part h => ?_
  rcases List.mem_append.mp h with h | h
  · exact hpart "limit" (by decide) limit part h
  · exact hpart "offset" (by decide) offset part h

theorem shows_selectClause {attributes : List Attribute}
    (h : ∀ a ∈ attributes, QuoteFree a.column ∧ ∀ name, a.alias? = some name → QuoteFree name) :
    Shows (selectClause attributes) (selectClause attributes) [] := by
  refine (Shows.of_quoteFree (a := "select ") (by decide)).append (Shows.joined (by decide) ?_)
  intro item hitem
  obtain ⟨a, ha, rfl⟩ := List.mem_map.mp hitem
  obtain ⟨hcolumn, halias⟩ := h a ha
  have hname : QuoteFree a.name := by
    obtain hname | hname := a.name_eq_column_or
    · exact hname ▸ hcolumn
    · exact halias _ hname
  have hfront := (Shows.of_quoteFree hcolumn).append (.of_quoteFree (a := " as ") (by decide))
  exact hfront.append (.of_quoteFree hname)

end Clauses

namespace Descriptor

/-- No name, expression or text that goes into a statement has a quote. -/
structure HasNoQuotes (table : String) (d : Descriptor) : Prop where
  table : QuoteFree table
  attributes : ∀ a ∈ d.attributes,
    QuoteFree a.column ∧ ∀ name, a.alias? = some name → QuoteFree name
  conditions : ∀ e ∈ d.conditions.entries, QuoteFree e.1 ∧ ∀ s ∈ e.2.texts, QuoteFree s
  group : ∀ column ∈ d.group, QuoteFree column
  order : ∀ expression ∈ d.order, QuoteFree expression

/-- The descriptor with nothing in the texts of its conditions. -/
def eraseTexts (d : Descriptor) : Descriptor :=
  { d with conditions := d.conditions.eraseTexts }

variable {table : String} {d : Descriptor}

theorem shows_shared (h : d.HasNoQuotes table) :
    Shows (linesText (d.sharedClauses table)) (linesText (d.eraseTexts.sharedClauses table))
      d.conditions.shownTexts := by
  have hfrom : Shows (lineText ("from " ++ table)) (lineText ("from " ++ table)) [] := by
    refine Shows.lineText ?_ Iff.rfl
    exact (Shows.of_quoteFree (a := "from ") (by decide)).append (.of_quoteFree h.table)
  have hwhere := (Conditions.shows_clause h.conditions).lineText
    d.conditions.clause_eraseTexts_eq_empty_iff
  have hgroup := (shows_listClause "group by" (by decide) h.group).lineText Iff.rfl
  simpa [sharedClauses, eraseTexts, groupClause] using hfrom.append (hwhere.append hgroup)

theorem shows_countStatement (h : d.HasNoQuotes table) :
    Shows (d.countStatement table) (d.eraseTexts.countStatement table)
      d.conditions.shownTexts := by
  rw [countStatement_eq, countStatement_eq]
  exact (Shows.of_quoteFree (a := countClause) (by decide)).append (shows_shared h)

theorem shows_selectStatement (h : d.HasNoQuotes table) :
    Shows (d.selectStatement table) (d.eraseTexts.selectStatement table)
      d.conditions.shownTexts := by
  have horder := (shows_listClause "order by" (by decide) h.order).lineText Iff.rfl
  have hlimit := (shows_limitClause d.limit d.offset).lineText Iff.rfl
  have hall := ((shows_selectClause h.attributes).append (shows_shared h)).append
      (horder.append hlimit)
  rw [selectStatement_eq, selectStatement_eq]
  simpa [orderClause, eraseTexts] using hall

theorem scanQuotes_of_shows {text outside : String} {quoted : List String}
    (h : Shows text outside quoted) : scanQuotes text = ⟨outside.toList, quoted, none⟩ := by
  simpa [scanQuotes] using h [] []

/-- In a statement without other quotes every quotation ends, what is quoted are the texts of the
conditions in order, and what stands outside does not depend on what these texts say. -/
theorem quotes_texts (h : d.HasNoQuotes table) :
    ∀ build ∈ [selectStatement, countStatement],
      (scanQuotes (build table d)).opened = none ∧
      (scanQuotes (build table d)).quoted = d.conditions.shownTexts ∧
      ∀ d', HasNoQuotes table d' → d'.eraseTexts = d.eraseTexts →
        (scanQuotes (build table d')).outside = (scanQuotes (build table d)).outside := by
  have hshows : ∀ build ∈ [selectStatement, countStatement], ∀ d : Descriptor,
      d.HasNoQuotes table →
        Shows (build table d) (build table d.eraseTexts) d.conditions.shownTexts := by
    intro build hbuild d h
    simp only [List.mem_cons, List.not_mem_nil, or_false] at hbuild
    rcases hbuild with rfl | rfl
    · exact shows_selectStatement h
    · exact shows_countStatement h
  intro build hbuild
  rw [scanQuotes_of_shows (hshows build hbuild d h)]
  refine ⟨rfl, rfl, fun d' h' herased => ?_⟩
  rw [scanQuotes_of_shows (hshows build hbuild d' h'), herased]

/-- Days between two texts, and shops in a list of lists. -/
def shopDays (first last shop : String) : Descriptor :=
  ((Descriptor.empty.select ⟨"shop_id", none⟩).filter "report_date"
    (.compares (.between (.text first) (.text last)))).filter "shop_id"
      (.compares (.oneOf (.list [.list [.int 1, .text shop], .list [], .null])))

theorem hasNoQuotes_shopDays (first last shop : String) (hfirst : QuoteFree first)
    (hlast : QuoteFree last) (hshop : QuoteFree shop) :
    (shopDays first last shop).HasNoQuotes "dw.sales" where
  table := by decide
  attributes := by
    intro a ha
    obtain rfl := List.mem_singleton.mp ha
    exact ⟨by decide, by simp⟩
  conditions := by
    intro e he
    have hdate : QuoteFree "report_date" := by decide
    have hid : QuoteFree "shop_id" := by decide
    rcases List.mem_cons.mp he with rfl | he
    · exact ⟨hdate, by simp [Predicate.texts, Predicate.operands, SqlValue.texts, hfirst, hlast]⟩
    · obtain rfl := List.mem_singleton.mp he
      refine ⟨hid, ?_⟩
      simp [Predicate.texts, Predicate.operands, SqlValue.texts, SqlValue.itemTexts, hshop]
  group := by simp [shopDays, Descriptor.filter, Descriptor.select, Descriptor.empty]
  order := by simp [shopDays, Descriptor.filter, Descriptor.select, Descriptor.empty]

theorem quotes_texts_shopDays :
    (shopDays "2024-01-01" "2024-01-31" "a, b) or (1 = 1").HasNoQuotes "dw.sales" ∧
      (scanQuotes ((shopDays "2024-01-01" "2024-01-31" "a, b) or (1 = 1").selectStatement
        "dw.sales")).quoted =
          ["2024-01-01", "2024-01-31", "2024-01-01", "2024-01-31", "a, b) or (1 = 1"] ∧
      (scanQuotes ((shopDays "" "2025" "\n").selectStatement "dw.sales")).outside =
        (scanQuotes ((shopDays "2024-01-01" "2024-01-31" "a, b) or (1 = 1").selectStatement
          "dw.sales")).outside := by
  have h := hasNoQuotes_shopDays "2024-01-01" "2024-01-31" "a, b) or (1 = 1"
      (by decide) (by decide)
    (by decide)
  have h' := hasNoQuotes_shopDays "" "2025" "\n" (by decide) (by decide) (by decide)
  obtain ⟨-, hquoted, houtside⟩ := quotes_texts h selectStatement (by simp)
  exact ⟨h, hquoted, houtside _ h' rfl⟩

end Descriptor

end SqlClient
