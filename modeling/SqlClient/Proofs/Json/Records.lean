import SqlClient.Json.Reader
import SqlClient.Proofs.Entries
import SqlClient.Proofs.Outcome

namespace SqlClient

theorem Json.readOptional_eq_ok_iff {α : Type} {read : Json → Except ReadError α} {v : Json}
    {x : Option α} :
    Json.readOptional read v = .ok x ↔
      v = .null ∧ x = none ∨ v ≠ .null ∧ ∃ a, read v = .ok a ∧ some a = x := by
  unfold Json.readOptional
  split
  · simp [eq_comm]
  · rename_i hnull
    have hne : v ≠ .null := hnull
    simp [map_eq_ok_iff, hne]

namespace RecordShape

variable {ρ π : Type} {s : RecordShape} {step : Step ρ} {r r' : ρ}

def fieldNames (s : RecordShape) : List String :=
  s.fields.map (·.name)

/-- Takes the values of fields into a record one after the other. -/
def readEntries (step : Step ρ) (r : ρ) (entries : List (String × Json)) : Except ReadError ρ :=
  entries.foldlM (fun r e => step r e.1 e.2) r

theorem readEntries_nil_eq_ok_iff : readEntries step r [] = .ok r' ↔ r = r' := by
  simp [readEntries, pure, Except.pure]

theorem readEntries_cons_eq_ok_iff {name : String} {v : Json} {rest : List (String × Json)} :
    readEntries step r ((name, v) :: rest) = .ok r' ↔
      ∃ r₁, step r name v = .ok r₁ ∧ readEntries step r₁ rest = .ok r' := by
  rw [readEntries, List.foldlM_cons, bind_eq_ok_iff]
  rfl

theorem readMembers_eq_ok_iff (hclosed : s.closed = true) {members : List (String × Json)} :
    s.readMembers step r members = .ok r' ↔
      (∀ e ∈ members, e.1 ∈ s.fieldNames) ∧ readEntries step r members = .ok r' := by
  induction members generalizing r with
  | nil => simp [readMembers, readEntries_nil_eq_ok_iff]
  | cons e rest ih =>
      obtain ⟨name, v⟩ := e
      have hknown : s.fields.any (·.name = name) = true ↔ name ∈ s.fieldNames := by
        simp [fieldNames]
      rw [readMembers, readEntries_cons_eq_ok_iff, List.forall_mem_cons]
      by_cases hname : name ∈ s.fieldNames
      · rw [if_pos (hknown.mpr hname)]
        cases step r name v with
        | error e => simp
        | ok r₁ => simp [ih, hname]
      · rw [if_neg (mt hknown.mp hname), if_pos hclosed]
        simp [hname]

theorem readItems_eq_ok_iff {seen : Nat} {fields : List FieldShape} {items : List Json} :
    s.readItems step r seen fields items = .ok r' ↔
      (∀ field ∈ fields.drop items.length, field.inArray = true) ∧
        readEntries step r ((fields.map (·.name)).zip items) = .ok r' := by
  induction fields generalizing r seen items with
  | nil => simp [readItems, readEntries_nil_eq_ok_iff]
  | cons field fields ih =>
      cases items with
      | nil =>
          rw [readItems]
          by_cases hfield : field.inArray = true
          · simp [hfield, ih]
          · simp [hfield]
      | cons v rest =>
          rw [readItems, List.map_cons, List.zip_cons_cons, readEntries_cons_eq_ok_iff]
          cases step r field.name v with
          | error e => simp
          | ok r₁ => simp [ih]

theorem read_object_eq_ok_iff (hclosed : s.closed = true)
    (hoptional : ∀ field ∈ s.fields, field.inObject = true) {members : List (String × Json)} :
    s.read step r (.object members) = .ok r' ↔
      (∀ e ∈ members, e.1 ∈ s.fieldNames) ∧ readEntries step r members = .ok r' := by
  have hmissing : s.missing? members = none := by
    apply List.find?_eq_none.mpr
    intro field hfield
    simp [hoptional field hfield]
  rw [← readMembers_eq_ok_iff hclosed, read, hmissing]
  cases s.readMembers step r members <;> rfl

theorem read_array_eq_ok_iff {items : List Json} :
    s.read step r (.array items) = .ok r' ↔
      items.length ≤ s.fields.length ∧
        (∀ field ∈ s.fields.drop items.length, field.inArray = true) ∧
        readEntries step r (s.fieldNames.zip items) = .ok r' := by
  rw [fieldNames, ← @readItems_eq_ok_iff ρ s step r r' 0, read]
  cases s.readItems step r 0 s.fields items with
  | error e => simp
  | ok r₁ =>
      by_cases hlength : s.fields.length < items.length
      · simp [hlength, Nat.not_le.mpr hlength]
      · simp [hlength, Nat.not_lt.mp hlength]

/-- The fields of a record are its parts, and a step reads one of them and keeps the others. -/
structure IsFieldwise (s : RecordShape) (step : Step ρ) (part : ρ → String → π)
    (readPart : String → Json → Except ReadError π) : Prop where
  ext : ∀ r r', (∀ name ∈ s.fieldNames, part r' name = part r name) → r = r'
  step_eq_ok_iff : ∀ r name v r', name ∈ s.fieldNames → (step r name v = .ok r' ↔
    readPart name v = .ok (part r' name) ∧
      ∀ other ∈ s.fieldNames, other ≠ name → part r' other = part r other)
  exists_step : ∀ r name v x, name ∈ s.fieldNames → readPart name v = .ok x →
    ∃ r', step r name v = .ok r'

/-- A field of `r'` is read from its value; without one it is as in `r`. -/
def Takes (part : ρ → String → π) (readPart : String → Json → Except ReadError π) (r r' : ρ)
    (name : String) : Option Json → Prop
  | some v => readPart name v = .ok (part r' name)
  | none => part r' name = part r name

theorem takes_congr {part : ρ → String → π}
    {readPart : String → Json → Except ReadError π} {r₁ : ρ}
    {name : String} (hsame : part r₁ name = part r name) (v : Option Json) :
    Takes part readPart r₁ r' name v ↔ Takes part readPart r r' name v := by
  cases v with
  | none => rw [Takes, Takes, hsame]
  | some v => rfl

theorem IsFieldwise.readEntries_eq_ok_iff {part : ρ → String → π}
    {readPart : String → Json → Except ReadError π} (h : s.IsFieldwise step part readPart)
    {entries : List (String × Json)} (hnames : ∀ e ∈ entries, e.1 ∈ s.fieldNames)
    (hnodup : (entries.map Prod.fst).Nodup) :
    readEntries step r entries = .ok r' ↔
      ∀ name ∈ s.fieldNames, Takes part readPart r r' name (lookup? name entries) := by
  induction entries generalizing r with
  | nil =>
      rw [readEntries_nil_eq_ok_iff]
      constructor
      · rintro rfl name _
        rfl
      · exact h.ext r r'
  | cons e rest ih =>
      obtain ⟨name, v⟩ := e
      rw [List.forall_mem_cons] at hnames
      rw [List.map_cons, List.nodup_cons] at hnodup
      have hfresh : lookup? name rest = none := lookup?_eq_none_iff.mpr hnodup.1
      -- the fields after the first step, when `r₁` has been read so far
      have hrest : ∀ r₁, step r name v = .ok r₁ → (readEntries step r₁ rest = .ok r' ↔
          part r' name = part r₁ name ∧ ∀ other ∈ s.fieldNames, other ≠ name →
            Takes part readPart r r' other (lookup? other rest)) := by
        intro r₁ hr₁
        obtain ⟨-, hsame⟩ := (h.step_eq_ok_iff r name v r₁ hnames.1).mp hr₁
        rw [ih hnames.2 hnodup.2]
        constructor
        · intro htakes
          refine ⟨by simpa [hfresh, Takes] using htakes name hnames.1, ?_⟩
          intro other hother hne
          exact (takes_congr (hsame other hother hne) _).mp (htakes other hother)
        · rintro ⟨hname, htakes⟩ other hother
          by_cases hne : other = name
          · rw [hne, hfresh]
            exact hname
          · exact (takes_congr (hsame other hother hne) _).mpr (htakes other hother hne)
      rw [readEntries_cons_eq_ok_iff]
      constructor
      · rintro ⟨r₁, hr₁, hread⟩ other hother
        obtain ⟨hname, htakes⟩ := (hrest r₁ hr₁).mp hread
        rw [lookup?_cons]
        split
        · rename_i heq
          rw [← heq, Takes, hname]
          exact ((h.step_eq_ok_iff r name v r₁ hnames.1).mp hr₁).1
        · rename_i hne
          exact htakes other hother (Ne.symm hne)
      · intro htakes
        have hread := htakes name hnames.1
        rw [lookup?_cons, if_pos rfl, Takes] at hread
        obtain ⟨r₁, hr₁⟩ := h.exists_step r name v _ hnames.1 hread
        refine ⟨r₁, hr₁, (hrest r₁ hr₁).mpr ⟨?_, ?_⟩⟩
        · rw [((h.step_eq_ok_iff r name v r₁ hnames.1).mp hr₁).1] at hread
          exact (Except.ok.inj hread).symm
        · intro other hother hne
          have hother' := htakes other hother
          rwa [lookup?_cons, if_neg (Ne.symm hne)] at hother'

end RecordShape

end SqlClient
