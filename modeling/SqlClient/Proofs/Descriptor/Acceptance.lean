import SqlClient.Proofs.Descriptor.Forms

namespace SqlClient

namespace WrittenDescriptor

/-- What one field of a written descriptor holds. -/
inductive Part
  | attributes (items : List WrittenAttribute)
  | conditions (v : Json)
  | texts (items : Option (List String))
  | count (n : Option Nat)

def part (r : WrittenDescriptor) (name : String) : Part :=
  match name with
  | "attributes" => .attributes r.attributes
  | "where" => .conditions r.conditions
  | "group" => .texts r.group
  | "order" => .texts r.order
  | "limit" => .count r.limit
  | "offset" => .count r.offset
  | _ => .count none

def readPart (name : String) (v : Json) : Except ReadError Part :=
  match name with
  | "attributes" => (Json.readList WrittenAttribute.ofJson v).map .attributes
  | "where" => .ok (.conditions v)
  | "group" => (Json.readOptional readTexts v).map .texts
  | "order" => (Json.readOptional readTexts v).map .texts
  | "limit" => (readCount v).map .count
  | "offset" => (readCount v).map .count
  | _ => .ok (.count none)

theorem mem_fieldNames_iff {name : String} : name ∈ shape.fieldNames ↔
    name = "attributes" ∨ name = "where" ∨ name = "group" ∨ name = "order" ∨ name = "limit" ∨
      name = "offset" := by
  simp [shape, RecordShape.fieldNames]

theorem forall_mem_fieldNames {P : String → Prop} : (∀ name ∈ shape.fieldNames, P name) ↔
    P "attributes" ∧ P "where" ∧ P "group" ∧ P "order" ∧ P "limit" ∧ P "offset" := by
  simp [shape, RecordShape.fieldNames]

theorem isFieldwise : shape.IsFieldwise step part readPart where
  ext := by
    rintro ⟨attributes, conditions, group, order, limit, offset⟩ ⟨_, _, _, _, _, _⟩ h
    simpa [forall_mem_fieldNames, part, eq_comm] using h
  step_eq_ok_iff := by
    intro r name v r' hname
    obtain ⟨attributes, conditions, group, order, limit, offset⟩ := r
    obtain ⟨attributes', conditions', group', order', limit', offset'⟩ := r'
    rw [forall_mem_fieldNames]
    rcases mem_fieldNames_iff.mp hname with rfl | rfl | rfl | rfl | rfl | rfl
    all_goals
      simp only [step, part, readPart, map_eq_ok_iff]
      grind
  exists_step := by
    intro r name v x hname hread
    have hmap : ∀ {α : Type} {read : Except ReadError α} {f : α → Part}
        (g : α → WrittenDescriptor),
        read.map f = .ok x → ∃ r', read.map g = .ok r' := by
      intro α read f g h
      obtain ⟨a, ha, -⟩ := map_eq_ok_iff.mp h
      exact ⟨g a, map_eq_ok_iff.mpr ⟨a, ha, rfl⟩⟩
    rcases mem_fieldNames_iff.mp hname with rfl | rfl | rfl | rfl | rfl | rfl
    · exact hmap _ hread
    · exact ⟨_, rfl⟩
    · exact hmap _ hread
    · exact hmap _ hread
    · exact hmap _ hread
    · exact hmap _ hread

/-- What is read for a field that is left out. -/
def absent (name : String) : Json :=
  if name = "attributes" then .array [] else .null

theorem takes_initial_iff {r : WrittenDescriptor} {name : String}
    (hname : name ∈ shape.fieldNames)
    (v : Option Json) : RecordShape.Takes part readPart initial r name v ↔
      readPart name (v.getD (absent name)) = .ok (part r name) := by
  cases v with
  | some v => rfl
  | none =>
      have habsent : readPart name (absent name) = .ok (part initial name) := by
        rcases mem_fieldNames_iff.mp hname with rfl | rfl | rfl | rfl | rfl | rfl
        all_goals rfl
      rw [RecordShape.Takes, Option.getD_none, habsent, Except.ok.injEq, eq_comm]

/-- What a value gives under a name: an object by its members, an array by place. -/
def given? (v : Json) (name : String) : Option Json :=
  match v with
  | .object members => lookup? name members
  | .array items => lookup? name (shape.fieldNames.zip items)
  | _ => none

def given (v : Json) (name : String) : Json :=
  (given? v name).getD (absent name)

/-- An object with known names or an array of all fields. -/
def IsShaped : Json → Prop
  | .object members => ∀ e ∈ members, e.1 ∈ shape.fieldNames
  | .array items => items.length = shape.fields.length
  | _ => False

end WrittenDescriptor

/-- No name stands twice in an object. -/
def Json.HasDistinctNames : Json → Prop
  | .object members => (members.map Prod.fst).Nodup
  | _ => True

namespace WrittenDescriptor

theorem nodup_fieldNames : shape.fieldNames.Nodup := by
  decide

theorem keys_zip {items : List Json} (h : items.length = shape.fields.length) :
    (shape.fieldNames.zip items).map Prod.fst = shape.fieldNames :=
  List.map_fst_zip (Nat.le_of_eq h.symm)

theorem mem_fieldNames_of_mem_zip {items : List Json} (h : items.length = shape.fields.length) :
    ∀ e ∈ shape.fieldNames.zip items, e.1 ∈ shape.fieldNames := by
  intro e he
  have hkey : e.1 ∈ (shape.fieldNames.zip items).map Prod.fst := List.mem_map_of_mem he
  rwa [keys_zip h] at hkey

theorem inArray_iff {n : Nat} :
    (n ≤ shape.fields.length ∧ ∀ field ∈ shape.fields.drop n, field.inArray = true) ↔
      n = shape.fields.length := by
  constructor
  · rintro ⟨hle, hoptional⟩
    by_contra hne
    have hlt : n < shape.fields.length := Nat.lt_of_le_of_ne hle hne
    have hlast : shape.fields.getLast (by decide) ∈ shape.fields.drop n := by
      rw [← List.getLast_drop (mt List.drop_eq_nil_iff.mp (Nat.not_le_of_lt hlt))]
      exact List.getLast_mem _
    exact absurd (hoptional _ hlast) (by decide)
  · rintro rfl
    exact ⟨Nat.le_refl _, by decide⟩

theorem ofJson_eq_ok_iff {v : Json} (hnames : v.HasDistinctNames) {r : WrittenDescriptor} :
    ofJson v = .ok r ↔
      IsShaped v ∧ ∀ name ∈ shape.fieldNames,
        readPart name (given v name) = .ok (part r name) := by
  have htakes : ∀ {entries : List (String × Json)}, (∀ e ∈ entries, e.1 ∈ shape.fieldNames) →
      (entries.map Prod.fst).Nodup → (RecordShape.readEntries step initial entries = .ok r ↔
        ∀ name ∈ shape.fieldNames,
          readPart name ((lookup? name entries).getD (absent name)) = .ok (part r name)) := by
    intro entries hknown hnodup
    rw [isFieldwise.readEntries_eq_ok_iff hknown hnodup]
    exact forall₂_congr fun name hname => takes_initial_iff hname _
  unfold ofJson
  cases v with
  | object members =>
      rw [RecordShape.read_object_eq_ok_iff rfl (by decide)]
      exact and_congr_right fun hknown => htakes hknown hnames
  | array items =>
      rw [RecordShape.read_array_eq_ok_iff, ← and_assoc, inArray_iff]
      refine and_congr_right fun hlength => htakes (mem_fieldNames_of_mem_zip hlength) ?_
      rw [keys_zip hlength]
      exact nodup_fieldNames
  | _ => simp [RecordShape.read, IsShaped]

theorem descriptor_eq_ok_iff {r : WrittenDescriptor} {d : Descriptor} :
    r.descriptor = .ok d ↔
      r.attributes.mapM WrittenAttribute.resolve = .ok d.attributes ∧
        Conditions.ofJson r.conditions = .ok d.conditions ∧
        d.group = (r.group.getD []).filter (· ≠ "") ∧
        d.order = (r.order.getD []).filter (· ≠ "") ∧
        d.limit = r.limit ∧ d.offset = r.offset := by
  obtain ⟨attributes, conditions, group, order, limit, offset⟩ := d
  unfold descriptor
  cases r.attributes.mapM WrittenAttribute.resolve with
  | error e => simp
  | ok attributes' =>
      cases Conditions.ofJson r.conditions with
      | error e => simp
      | ok conditions' => simp [eq_comm]

end WrittenDescriptor

namespace Descriptor

open WrittenDescriptor

/-- What may stand under a name. -/
def Fits (name : String) (v : Json) : Prop :=
  match name with
  | "attributes" => ∃ items, v = .array items ∧ ∀ item ∈ items, ∃ a, AttributeForm item a
  | "where" => ∃ conditions, ConditionsForm v conditions
  | "group" => ∃ texts, TextsForm v texts
  | "order" => ∃ texts, TextsForm v texts
  | "limit" => ∃ n, CountForm v n
  | "offset" => ∃ n, CountForm v n
  | _ => False

/-- An object whose members fit their names, or an array of all six fields in this order. -/
def IsDescription : Json → Prop
  | .object members => ∀ e ∈ members, Fits e.1 e.2
  | .array items =>
    List.Forall₂ Fits ["attributes", "where", "group", "order", "limit", "offset"] items
  | _ => False

/-- What a description means. Empty texts are left out of the group and the order. -/
structure Describes (v : Json) (d : Descriptor) : Prop where
  attributes : ∃ items, given v "attributes" = .array items ∧
    List.Forall₂ AttributeForm items d.attributes
  conditions : ConditionsForm (given v "where") d.conditions
  group : ∃ texts, TextsForm (given v "group") texts ∧ d.group = texts.filter (· ≠ "")
  order : ∃ texts, TextsForm (given v "order") texts ∧ d.order = texts.filter (· ≠ "")
  limit : CountForm (given v "limit") d.limit
  offset : CountForm (given v "offset") d.offset

theorem mem_fieldNames_of_fits {name : String} {v : Json} (h : Fits name v) :
    name ∈ shape.fieldNames := by
  rw [mem_fieldNames_iff]
  unfold Fits at h
  split at h
  all_goals simp_all

theorem fits_absent {name : String} (h : name ∈ shape.fieldNames) : Fits name (absent name) := by
  rcases mem_fieldNames_iff.mp h with rfl | rfl | rfl | rfl | rfl | rfl
  · exact ⟨[], rfl, by simp⟩
  · exact ⟨_, .null⟩
  · exact ⟨_, .null⟩
  · exact ⟨_, .null⟩
  · exact ⟨_, .null⟩
  · exact ⟨_, .null⟩

theorem forall_fits_iff {entries : List (String × Json)} (hnodup : (entries.map Prod.fst).Nodup) :
    (∀ e ∈ entries, Fits e.1 e.2) ↔
      (∀ e ∈ entries, e.1 ∈ shape.fieldNames) ∧
        ∀ name ∈ shape.fieldNames, Fits name ((lookup? name entries).getD (absent name)) := by
  constructor
  · intro h
    refine ⟨fun e he => mem_fieldNames_of_fits (h e he), fun name hname => ?_⟩
    cases hlookup : lookup? name entries with
    | none => exact fits_absent hname
    | some v => exact h (name, v) (mem_of_lookup?_eq_some hlookup)
  · rintro ⟨hknown, hfits⟩ ⟨name, v⟩ he
    have hname := hfits name (hknown _ he)
    rwa [(lookup?_eq_some_iff hnodup).mpr he] at hname

theorem isDescription_iff {v : Json} (hnames : v.HasDistinctNames) :
    IsDescription v ↔ IsShaped v ∧ ∀ name ∈ shape.fieldNames, Fits name (given v name) := by
  cases v with
  | object members => exact forall_fits_iff hnames
  | array items =>
      rw [IsDescription, List.forall₂_iff_zip, IsShaped, eq_comm]
      refine and_congr_right fun hlength => ?_
      have hnodup : ((shape.fieldNames.zip items).map Prod.fst).Nodup := by
        rw [keys_zip hlength]
        exact nodup_fieldNames
      have hfits := forall_fits_iff hnodup
      rw [and_iff_right (mem_fieldNames_of_mem_zip hlength), Prod.forall] at hfits
      exact hfits
  | _ => simp [IsDescription, IsShaped]

theorem exists_describes_iff {v : Json} :
    (∃ d, Describes v d) ↔ ∀ name ∈ shape.fieldNames, Fits name (given v name) := by
  rw [forall_mem_fieldNames]
  constructor
  · rintro ⟨d, ⟨items, hitems, hattributes⟩, hwhere, ⟨group, hgroup, -⟩,
      ⟨order, horder, -⟩, hlimit, hoffset⟩
    refine ⟨⟨items, hitems, ?_⟩, ⟨_, hwhere⟩, ⟨_, hgroup⟩, ⟨_, horder⟩, ⟨_, hlimit⟩, ⟨_, hoffset⟩⟩
    exact exists_forall₂_iff.mp ⟨_, hattributes⟩
  · rintro ⟨⟨items, hitems, hattributes⟩, ⟨conditions, hwhere⟩, ⟨group, hgroup⟩, ⟨order, horder⟩,
      ⟨limit, hlimit⟩, ⟨offset, hoffset⟩⟩
    obtain ⟨attributes, hattributes⟩ := exists_forall₂_iff.mpr hattributes
    exact ⟨⟨attributes, conditions, _, _, limit, offset⟩, ⟨items, hitems, hattributes⟩, hwhere,
      ⟨group, hgroup, rfl⟩, ⟨order, horder, rfl⟩, hlimit, hoffset⟩

theorem exists_parts_iff {v : Json} {d : Descriptor} :
    (∃ r : WrittenDescriptor, (∀ name ∈ shape.fieldNames,
      readPart name (given v name) = .ok (part r name)) ∧ r.descriptor = .ok d) ↔
        Describes v d := by
  have hparts : ∀ r : WrittenDescriptor,
      (∀ name ∈ shape.fieldNames, readPart name (given v name) = .ok (part r name)) ↔
        Json.readList WrittenAttribute.ofJson (given v "attributes") = .ok r.attributes ∧
          given v "where" = r.conditions ∧
          Json.readOptional readTexts (given v "group") = .ok r.group ∧
          Json.readOptional readTexts (given v "order") = .ok r.order ∧
          readCount (given v "limit") = .ok r.limit ∧
            readCount (given v "offset") = .ok r.offset := by
    intro r
    rw [forall_mem_fieldNames]
    simp [readPart, part, map_eq_ok_iff]
  simp only [hparts, descriptor_eq_ok_iff]
  constructor
  · rintro ⟨r, ⟨hattributes, hwhere, hgroup, horder, hlimit, hoffset⟩, hresolved, hconditions,
      hgroup', horder', hlimit', hoffset'⟩
    exact {
      attributes := WrittenAttribute.exists_readList_iff.mp ⟨_, hattributes, hresolved⟩
      conditions := Conditions.ofJson_eq_ok_iff.mp (hwhere ▸ hconditions)
      group := ⟨_, exists_readTexts_iff.mp ⟨_, hgroup, rfl⟩, hgroup'⟩
      order := ⟨_, exists_readTexts_iff.mp ⟨_, horder, rfl⟩, horder'⟩
      limit := readCount_eq_ok_iff.mp (hlimit' ▸ hlimit)
      offset := readCount_eq_ok_iff.mp (hoffset' ▸ hoffset) }
  · rintro ⟨hattributes, hconditions, ⟨group, hgroup, hgroup'⟩, ⟨order, horder, horder'⟩, hlimit,
      hoffset⟩
    obtain ⟨written, hwritten, hresolved⟩ := WrittenAttribute.exists_readList_iff.mpr hattributes
    obtain ⟨group, hreadGroup, rfl⟩ := exists_readTexts_iff.mpr hgroup
    obtain ⟨order, hreadOrder, rfl⟩ := exists_readTexts_iff.mpr horder
    refine ⟨⟨written, given v "where", group, order, d.limit, d.offset⟩,
      ⟨hwritten, rfl, hreadGroup, hreadOrder, readCount_eq_ok_iff.mpr hlimit,
        readCount_eq_ok_iff.mpr hoffset⟩,
      hresolved, Conditions.ofJson_eq_ok_iff.mpr hconditions, hgroup', horder', rfl, rfl⟩

theorem ofJson_eq_ok_iff {v : Json} (hnames : v.HasDistinctNames) {d : Descriptor} :
    Descriptor.ofJson v = .ok d ↔ IsShaped v ∧ Describes v d := by
  have hread : Descriptor.ofJson v = .ok d ↔
      ∃ r, WrittenDescriptor.ofJson v = .ok r ∧ r.descriptor = .ok d := by
    unfold Descriptor.ofJson
    cases WrittenDescriptor.ofJson v with
    | error e => simp
    | ok r => cases hd : r.descriptor <;> simp [hd]
  simp only [hread, WrittenDescriptor.ofJson_eq_ok_iff hnames, and_assoc, exists_and_left]
  exact and_congr_right fun _ => exists_parts_iff

/-- A value is read as a descriptor exactly if it describes one, and what is read is what it
means. All other values are refused as invalid descriptors. -/
theorem accepts_descriptions {v : Json} (hnames : v.HasDistinctNames) :
    ((∃ d, Descriptor.ofJson v = .ok d) ↔ IsDescription v) ∧
      (∀ e, Descriptor.ofJson v = .error e → ∃ reason, e = .invalidDescriptor reason) ∧
      ∀ d, Descriptor.ofJson v = .ok d → Describes v d := by
  refine ⟨?_, ?_, ?_⟩
  · rw [isDescription_iff hnames, ← exists_describes_iff]
    simp only [ofJson_eq_ok_iff hnames, exists_and_left]
  · intro e he
    unfold Descriptor.ofJson at he
    split at he
    · exact ⟨_, (Except.error.inj he).symm⟩
    · split at he
      · exact ⟨_, (Except.error.inj he).symm⟩
      · simp at he
  · intro d hd
    exact ((ofJson_eq_ok_iff hnames).mp hd).2

/-- A description with members in another order than fields, with empty names and with the
greatest offset. -/
def loosely : Json :=
  .object [("offset", Json.integer (2 ^ 64 - 1)),
    ("order", .array [.string "", .string "total desc"]),
    ("where", .object [("report_date", .string "2024-01-01"), ("city", .object [])]),
    ("attributes", .array [.string "shop_id", .array [.string "sum(amount)", .string "total"],
      .array [.string "city", .null], .array [.string "day", .string ""]]),
    ("group", .string ""), ("limit", .null)]

theorem accepts_descriptions_loosely :
    loosely.HasDistinctNames ∧ IsDescription loosely ∧
      ∃ d, Descriptor.ofJson loosely = .ok d ∧ Describes loosely d ∧ d.group = [] ∧
        d.order = ["total desc"] ∧ d.limit = none ∧ d.offset = some (2 ^ 64 - 1) := by
  have hnames : loosely.HasDistinctNames := by
    simp [loosely, Json.HasDistinctNames]
  have hread : ∃ d, Descriptor.ofJson loosely = .ok d ∧ d.group = [] ∧ d.order = ["total desc"] ∧
      d.limit = none ∧ d.offset = some (2 ^ 64 - 1) := ⟨_, rfl, rfl, rfl, rfl, rfl⟩
  obtain ⟨d, hd, hparts⟩ := hread
  obtain ⟨haccepts, -, hdescribes⟩ := accepts_descriptions hnames
  exact ⟨hnames, haccepts.mp ⟨d, hd⟩, d, hd, hdescribes d hd, hparts⟩

end Descriptor

end SqlClient
