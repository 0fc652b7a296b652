import Mathlib.Algebra.Order.Ring.Nat
import Mathlib.Data.List.ReduceOption
import SqlClient.Proofs.Statement.Literal
import SqlClient.Template

namespace SqlClient

theorem length_intercalate (sep : String) (ts : List String) :
    (sep.intercalate ts).length = (ts.map String.length).sum + sep.length * (ts.length - 1) := by
  induction ts with
  | nil => simp
  | cons t rest ih =>
      rcases eq_or_ne rest [] with rfl | hrest
      · simp
      · obtain ⟨n, hn⟩ := Nat.exists_eq_succ_of_ne_zero (mt List.length_eq_zero_iff.mp hrest)
        rw [String.intercalate_cons_of_ne_nil hrest, String.length_append,
          String.length_append, ih, List.map_cons, List.sum_cons, List.length_cons, hn]
        simp only [Nat.succ_eq_add_one, Nat.add_sub_cancel, Nat.mul_add, Nat.mul_one]
        omega

theorem intercalate_flatMap {α β : Type} (sep : String) (f : β → String) (g : α → List β)
    {xs : List α}
    (hg : ∀ x ∈ xs, g x ≠ []) :
    sep.intercalate ((xs.flatMap g).map f) =
      sep.intercalate (xs.map fun x => sep.intercalate ((g x).map f)) := by
  induction xs with
  | nil => rfl
  | cons x rest ih =>
      have hx : (g x).map f ≠ [] := by simpa using hg x List.mem_cons_self
      rcases eq_or_ne rest [] with rfl | hrest
      · simp
      · have hrest' : (rest.flatMap g).map f ≠ [] := by
          obtain ⟨y, hy⟩ := List.exists_mem_of_ne_nil rest hrest
          have hy' := hg y (List.mem_cons_of_mem _ hy)
          simp only [ne_eq, List.map_eq_nil_iff, List.flatMap_eq_nil_iff]
          exact fun h => hy' (h y hy)
        rw [List.flatMap_cons, List.map_append, String.intercalate_append_of_ne_nil hx hrest',
          ih fun y hy => hg y (List.mem_cons_of_mem _ hy), List.map_cons,
          String.intercalate_cons_of_ne_nil (by simpa using hrest)]

namespace SqlValue

mutual

/-- The values in a value that are no lists, from left to right. -/
def leaves : SqlValue → List SqlValue
  | list items => itemLeaves items
  | v => [v]

def itemLeaves : List SqlValue → List SqlValue
  | [] => []
  | v :: rest => v.leaves ++ itemLeaves rest

end

mutual

/-- What a value is written from: its leaves, and nothing in the place of an empty list. -/
def slots : SqlValue → List (Option SqlValue)
  | list [] => [none]
  | list items => itemSlots items
  | v => [some v]

def itemSlots : List SqlValue → List (Option SqlValue)
  | [] => []
  | v :: rest => v.slots ++ itemSlots rest

end

def slotText : Option SqlValue → String
  | none => ""
  | some v => v.plainText

theorem itemLeaves_eq_flatMap (items : List SqlValue) :
    itemLeaves items = items.flatMap leaves := by
  induction items with
  | nil => rfl
  | cons v rest ih => rw [itemLeaves, ih, List.flatMap_cons]

theorem itemSlots_eq_flatMap (items : List SqlValue) : itemSlots items = items.flatMap slots := by
  induction items with
  | nil => rfl
  | cons v rest ih => rw [itemSlots, ih, List.flatMap_cons]

theorem slots_cons (v : SqlValue) (rest : List SqlValue) :
    (list (v :: rest)).slots = (v :: rest).flatMap slots := by
  rw [slots, itemSlots_eq_flatMap]
  simp

theorem slots_ne_nil (v : SqlValue) : v.slots ≠ [] := by
  match v with
  | list [] => simp [slots]
  | list (v :: rest) =>
      rw [slots_cons, List.flatMap_cons]
      exact List.append_ne_nil_of_left_ne_nil v.slots_ne_nil _
  | null | bool _ | int _ | float _ | text _ => simp [slots]

theorem plainText_list (items : List SqlValue) :
    (list items).plainText = ",".intercalate (items.map plainText) := by
  rw [plainText, plainTexts_eq_map]

theorem plainText_eq_slots (v : SqlValue) :
    v.plainText = ",".intercalate (v.slots.map slotText) := by
  match v with
  | list [] => simp [slots, slotText, plainText_list]
  | list (v :: rest) =>
      rw [slots_cons, intercalate_flatMap "," slotText slots fun w _ => w.slots_ne_nil,
        plainText_list]
      refine congrArg _ (List.map_congr_left fun w _ => ?_)
      exact w.plainText_eq_slots
  | null | bool _ | int _ | float _ | text _ => simp [slots, slotText]

theorem reduceOption_slots (v : SqlValue) : v.slots.reduceOption = v.leaves := by
  match v with
  | list [] => rfl
  | list (v :: rest) =>
      rw [slots_cons, leaves, itemLeaves_eq_flatMap, List.reduceOption, List.filterMap_flatMap]
      refine List.flatMap_congr fun w _ => ?_
      exact w.reduceOption_slots
  | null | bool _ | int _ | float _ | text _ => rfl

variable {v : SqlValue}

theorem sum_length_slots (slots : List (Option SqlValue)) :
    ((slots.map slotText).map String.length).sum =
      ((slots.reduceOption.map plainText).map String.length).sum := by
  induction slots with
  | nil => rfl
  | cons slot rest ih =>
      cases slot with
      | none => simpa [slotText] using ih
      | some v => simpa [slotText] using ih

theorem map_slotText_of_none_not_mem {slots : List (Option SqlValue)} (h : none ∉ slots) :
    slots.map slotText = slots.reduceOption.map plainText := by
  induction slots with
  | nil => rfl
  | cons slot rest ih =>
      obtain ⟨hslot, hrest⟩ := not_or.mp (mt List.mem_cons.mpr h)
      cases slot with
      | none => exact absurd rfl hslot
      | some v =>
        rw [List.map_cons, ih hrest, List.reduceOption_cons_of_some, List.map_cons, slotText]

theorem plainText_eq_leaves_iff :
    v.plainText = ",".intercalate (v.leaves.map plainText) ↔
      none ∉ v.slots ∨ v.slots = [none] := by
  rw [plainText_eq_slots, ← reduceOption_slots]
  constructor
  -- the texts have the same characters but for the commas, and the number of commas tells how
  -- many slots there are
  · intro htext
    by_contra hslots
    obtain ⟨hnone, hsingle⟩ := not_or.mp hslots
    have hlength := congrArg String.length htext
    rw [length_intercalate, length_intercalate, sum_length_slots] at hlength
    have hcomma : ",".length = 1 := rfl
    simp only [List.length_map, hcomma, Nat.one_mul] at hlength
    have hless := List.reduceOption_length_lt_iff.mpr (not_not.mp hnone)
    have hone : v.slots.length = 1 := by omega
    obtain ⟨slot, hslot⟩ := List.length_eq_one_iff.mp hone
    obtain rfl : none = slot := by simpa [hslot] using hnone
    exact hsingle hslot
  · rintro (hnone | hsingle)
    · rw [map_slotText_of_none_not_mem hnone]
    · rw [hsingle]
      simp [slotText]

end SqlValue

namespace Binding

open SqlValue

theorem render_number (v : SqlValue) : (Binding.mk .number v).render = v.plainText := by
  cases v with
  | list items => rfl
  | _ => exact String.intercalate_singleton (s := ",")

end Binding

namespace SqlValue

/-- Whatever the nesting, the text is that of the slots, one after the other. So lists are
flattened, in plain text and in bound numbers, unless an empty one stands among other values. -/
theorem flattens_nonempty_lists (v : SqlValue) :
    v.plainText = ",".intercalate (v.slots.map slotText) ∧
    (v.plainText = ",".intercalate (v.leaves.map plainText) ↔ none ∉ v.slots ∨ v.slots = [none]) ∧
    (∀ w : SqlValue, none ∉ v.slots → none ∉ w.slots → v.leaves = w.leaves →
      v.plainText = w.plainText) ∧
    ((Binding.mk .number v).render = (Binding.mk .number (list v.leaves)).render ↔
      none ∉ v.slots ∨ v.slots = [none]) := by
  refine ⟨v.plainText_eq_slots, plainText_eq_leaves_iff, fun w hv hw hleaves => ?_, ?_⟩
  · rw [plainText_eq_leaves_iff.mpr (.inl hv), plainText_eq_leaves_iff.mpr (.inl hw), hleaves]
  · rw [Binding.render_number, Binding.render_number, plainText_list, plainText_eq_leaves_iff]

theorem flattens_nonempty_lists_pairs :
    (list [list [int 1, text "a"], list [list [null]]]).plainText =
      (list [int 1, list [text "a", null]]).plainText :=
  (flattens_nonempty_lists _).2.2.1 _ (by simp [slots, itemSlots])
    (by simp [slots, itemSlots]) rfl

/-- An empty list between two numbers: its comma stays. -/
theorem empty_list_keeps_comma :
    (list [int 1, list [], int 2]).leaves = [int 1, int 2] ∧
    (list [int 1, list [], int 2]).plainText = "1,,2" ∧
    ",".intercalate ((list [int 1, list [], int 2]).leaves.map plainText) = "1,2" ∧
    (list [int 1, list [], int 2]).plainText ≠ (list [int 1, int 2]).plainText ∧
    (Binding.mk .number (list [int 1, list [], int 2])).render ≠
      (Binding.mk .number (list (list [int 1, list [], int 2]).leaves)).render := by
  have hone : intText 1 = "1" := by decide +kernel
  have htwo : intText 2 = "2" := by decide +kernel
  have hleaves : (list [int 1, list [], int 2]).leaves = [int 1, int 2] := rfl
  simp [Binding.render_number, hleaves, plainText, plainTexts, hone, htwo]

end SqlValue

end SqlClient
