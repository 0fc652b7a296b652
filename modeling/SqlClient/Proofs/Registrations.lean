import SqlClient.Proofs.Entries
import SqlClient.Registry
import Mathlib.Data.Finset.Card

namespace SqlClient

namespace Registry

/-- The last of the models that were registered under a name. -/
def lastNamed? (name : String) (registered : List Model) : Option Model :=
  registered.findRev? fun m => m.name == name

/-- What the registrations of a run answer, one after the other: the model that each of them
replaces. -/
def answers (r : Registry) : List Model → List (Option Model)
  | [] => []
  | m :: rest => r.replaced? m :: answers (r.register m) rest

variable (r : Registry) (m : Model) (registered : List Model)

theorem register_eq : r.register m = r.insert m.name m := by
  rw [register, put, OrderedMap.exchange_eq]

theorem replaced?_eq : r.replaced? m = r.get? m.name := by
  rw [replaced?, put, OrderedMap.exchange_eq]

theorem registerAll_cons (rest : List Model) :
    r.registerAll (m :: rest) = (r.register m).registerAll rest :=
  rfl

theorem answers_eq :
    r.answers registered =
      registered.mapIdx fun i m => (r.registerAll (registered.take i)).get? m.name := by
  -- after the first registration the run goes on from another registry
  induction registered generalizing r with
  | nil => rfl
  | cons m rest ih =>
      rw [answers, ih, List.mapIdx_cons, replaced?_eq]
      simp only [List.take_succ_cons, registerAll_cons]
      rfl

theorem registerAll_empty :
    empty.registerAll registered = OrderedMap.ofList (registered.map fun m => (m.name, m)) := by
  rw [registerAll, OrderedMap.ofList, OrderedMap.insertAll, List.foldl_map]
  congr 1
  funext r m
  exact register_eq r m

theorem lookup?_reverse_named (name : String) :
    lookup? name (registered.map fun m => (m.name, m)).reverse = lastNamed? name registered := by
  rw [← List.map_reverse, lookup?_map name Model.name (fun m => m), Option.map_id', lastNamed?,
    List.findRev?_eq_find?_reverse]

theorem lastNamed?_eq_none_iff (name : String) :
    lastNamed? name registered = none ↔ name ∉ registered.map Model.name := by
  rw [← lookup?_reverse_named, lookup?_eq_none_iff]
  simp

theorem get?_registerAll (name : String) :
    (empty.registerAll registered).get? name = lastNamed? name registered := by
  rw [registerAll_empty, OrderedMap.get?_ofList, lookup?_reverse_named]

theorem keys_registerAll :
    (empty.registerAll registered).keys = (registered.map Model.name).eraseDups := by
  rw [registerAll_empty, OrderedMap.keys_ofList, List.map_map]
  rfl

theorem models_registerAll :
    (empty.registerAll registered).models =
      (registered.map Model.name).eraseDups.filterMap fun name => lastNamed? name registered := by
  rw [registerAll_empty, models, OrderedMap.entries_ofList, List.map_filterMap, List.map_map]
  simp only [lookup?_reverse_named, Option.map_map]
  congr 1
  funext name
  exact Option.map_id'

theorem name_models_registerAll :
    (empty.registerAll registered).models.map Model.name =
      (empty.registerAll registered).keys := by
  rw [models, OrderedMap.keys, List.map_map]
  apply List.map_congr_left
  intro e he
  -- an entry of the map is one of those it was made from, where each model stands under its name
  rw [registerAll_empty] at he
  obtain ⟨m, -, rfl⟩ := List.mem_map.mp (OrderedMap.mem_of_mem_ofList he)
  rfl

theorem size_registerAll :
    (empty.registerAll registered).size = (registered.map Model.name).toFinset.card := by
  have hnames : (registered.map Model.name).toFinset =
      (empty.registerAll registered).keys.toFinset := by
    ext name
    simp [keys_registerAll]
  have hnodup : (empty.registerAll registered).keys.Nodup := (empty.registerAll registered).nodup
  rw [hnames, List.toFinset_card_of_nodup hnodup, OrderedMap.keys, List.length_map,
    OrderedMap.size]

/-- After a run of registrations from the empty registry a name gives the last model registered
under it, and nothing exactly if there is none. The models stand under their own names, which are
the registered ones, each once and in the order in which they first came, and each with its last
model; there are as many as there are different names. Each registration of the run answers with
the model that its name gives just before it. -/
theorem keeps_last_models (registered : List Model) :
    (∀ name, (empty.registerAll registered).get? name = lastNamed? name registered) ∧
      (∀ name, (empty.registerAll registered).get? name = none ↔
        name ∉ registered.map Model.name) ∧
      (empty.registerAll registered).keys = (registered.map Model.name).eraseDups ∧
      (empty.registerAll registered).models.map Model.name = (empty.registerAll registered).keys ∧
      (empty.registerAll registered).models =
        (registered.map Model.name).eraseDups.filterMap (lastNamed? · registered) ∧
      (empty.registerAll registered).size = (registered.map Model.name).toFinset.card ∧
      empty.answers registered =
        registered.mapIdx fun i m => (empty.registerAll (registered.take i)).get? m.name := by
  refine ⟨get?_registerAll registered, ?_, keys_registerAll registered,
    name_models_registerAll registered, models_registerAll registered,
    size_registerAll registered, answers_eq empty registered⟩
  intro name
  rw [get?_registerAll, lastNamed?_eq_none_iff]

example :
    let registered : List Model :=
      [⟨"Sales", "sales_old"⟩, ⟨"Shops", "shops"⟩, ⟨"Sales", "sales"⟩]
    (empty.registerAll registered).models = [⟨"Sales", "sales"⟩, ⟨"Shops", "shops"⟩] ∧
      empty.answers registered = [none, none, some ⟨"Sales", "sales_old"⟩] := by
  decide

end Registry

end SqlClient
