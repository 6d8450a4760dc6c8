import RecordFlow.Field
import RecordFlow.Json.Reader
import RecordFlow.Proofs.Json.Nodes
import RecordFlow.Proofs.Path.Step

/-!
# Trees stay well formed

The objects of a tree are lists whose names strictly increase. Every tree that is read from a document is
such (`wellFormed_of_ofText?`), and writes and erasures keep it so (`wellFormed_write`,
`wellFormed_erase`).
-/

namespace RecordFlow.Json

variable {tree : Json} {items : List Json} {fields : List (String × Json)}

theorem wellFormed_array : (array items).WellFormed ↔ ∀ item ∈ items, item.WellFormed := by
  simp only [WellFormed, throughout_array, HasSortedNames, true_and]

theorem wellFormed_object :
    (object fields).WellFormed ↔ Fields.Sorted fields ∧ ∀ entry ∈ fields, entry.2.WellFormed := by
  simp only [WellFormed, throughout_object, HasSortedNames]

theorem wellFormed_of_not_isContainer (bare : tree.isContainer = false) : tree.WellFormed := by
  refine (throughout_of_not_isContainer bare).mpr ?_
  cases tree with
  | array | object => cases bare
  | null | bool | number | string => trivial

theorem wellFormed_empty : (object []).WellFormed :=
  wellFormed_object.mpr ⟨.nil, List.forall_mem_nil _⟩

theorem wellFormed_insert {key : String} {value : Json} (map : (object fields).WellFormed)
    (wellFormed : value.WellFormed) : (object (Fields.insert key value fields)).WellFormed := by
  obtain ⟨sorted, values⟩ := wellFormed_object.mp map
  refine wellFormed_object.mpr ⟨Fields.sorted_insert value sorted, ?_⟩
  intro entry member
  obtain rfl | old := Fields.mem_insert member
  · exact wellFormed
  · exact values entry old

theorem wellFormed_ofBytes (bytes : ByteArray) : (ofBytes bytes).WellFormed := by
  unfold ofBytes
  split
  · exact wellFormed_of_not_isContainer rfl
  · refine wellFormed_array.mpr ?_
    intro item member
    obtain ⟨byte, -, rfl⟩ := List.mem_map.mp member
    exact wellFormed_of_not_isContainer rfl

end RecordFlow.Json

/-! ### Reading -/

namespace RecordFlow.Node

open Json

theorem inherited_wellFormed : Inherited fun _ tree => tree.WellFormed where
  null := wellFormed_of_not_isContainer rfl
  bool _ := wellFormed_of_not_isContainer rfl
  number _ := wellFormed_of_not_isContainer rfl
  string _ := wellFormed_of_not_isContainer rfl
  array {_ _} each := by
    refine wellFormed_array.mpr fun item member => ?_
    obtain ⟨_, -, wellFormed⟩ := exists_of_forall₂_right each member
    exact wellFormed
  object {_ fields} each := by
    refine wellFormed_object.mpr ⟨Fields.sorted_ofList fields, fun field member => ?_⟩
    obtain ⟨_, -, -, wellFormed⟩ := exists_of_forall₂_right each (Fields.mem_ofList member)
    exact wellFormed

end RecordFlow.Node

namespace RecordFlow.Json

theorem wellFormed_of_ofText? {text : String} {tree : Json} (read : ofText? text = some tree) :
    tree.WellFormed := by
  obtain ⟨node, -, read⟩ := Option.bind_eq_some_iff.mp read
  exact Node.inherited_wellFormed.of_toJson? read

end RecordFlow.Json

/-! ### Writing and erasing -/

namespace RecordFlow.Path

variable {place path : Path} {segments : List String} {tree child value : Json} {slot : Slot}

theorem Slot.wellFormed_get? (wellFormed : tree.WellFormed) (held : slot.get? tree = some child) :
    child.WellFormed :=
  (Json.throughout_iff.mp wellFormed).2 child (mem_children_of_slot held)

theorem Slot.wellFormed_put (wellFormed : tree.WellFormed) (inner : child.WellFormed) :
    (slot.put child tree).WellFormed := by
  cases slot with
  | key name =>
    cases tree with
    | object fields => exact Json.wellFormed_insert wellFormed inner
    | null | bool | number | string | array => exact wellFormed
  | index i =>
    cases tree with
    | array items =>
      refine Json.wellFormed_array.mpr ?_
      intro item member
      obtain old | rfl := List.mem_or_eq_of_mem_set member
      · obtain old | padding := List.mem_append.mp old
        · exact Json.wellFormed_array.mp wellFormed item old
        · rw [List.eq_of_mem_replicate padding]
          exact Json.wellFormed_of_not_isContainer rfl
      · exact inner
    | null | bool | number | string | object => exact wellFormed

theorem Slot.wellFormed_clear (wellFormed : tree.WellFormed) : (slot.clear tree).WellFormed := by
  cases slot with
  | key name =>
    cases tree with
    | object fields =>
      obtain ⟨sorted, values⟩ := Json.wellFormed_object.mp wellFormed
      refine Json.wellFormed_object.mpr ⟨Fields.sorted_erase sorted, ?_⟩
      exact fun entry member => values entry ((Fields.erase_sublist name fields).mem member)
    | null | bool | number | string | array => exact wellFormed
  | index i =>
    cases tree with
    | array items =>
      refine Json.wellFormed_array.mpr ?_
      intro item member
      obtain old | rfl := List.mem_or_eq_of_mem_set member
      · exact Json.wellFormed_array.mp wellFormed item old
      · exact Json.wellFormed_of_not_isContainer rfl
    | null | bool | number | string | object => exact wellFormed

theorem wellFormed_entered (wellFormed : tree.WellFormed) : (entered tree).WellFormed := by
  cases tree with
  | null => exact Json.wellFormed_empty
  | bool | number | string | array | object => exact wellFormed

theorem wellFormed_writeFrom (wellFormed : tree.WellFormed) (inner : value.WellFormed) :
    (writeFrom place value segments tree).after.WellFormed := by
  induction segments generalizing place tree with
  | nil => exact inner
  | cons segment rest ih =>
    rw [writeFrom_entered]
    have wellFormed := wellFormed_entered wellFormed
    obtain ⟨error, stops⟩ | ⟨slot, denoted, free⟩ :=
      writeFrom_cons_cases place value segment rest (entered_ne_null tree)
    · rw [stops]
      exact wellFormed
    · rw [writeFrom_of_isOpen place value denoted free]
      refine Slot.wellFormed_put wellFormed (ih ?_)
      cases held : slot.get? (entered tree) with
      | none => exact Json.wellFormed_empty
      | some child => exact Slot.wellFormed_get? wellFormed held

theorem wellFormed_eraseFrom (wellFormed : tree.WellFormed) :
    (eraseFrom place segments tree).after.WellFormed := by
  induction segments generalizing place tree with
  | nil => exact Json.wellFormed_empty
  | cons segment rest ih =>
    cases step : childAt place segment tree with
    | error error =>
      rw [eraseFrom_of_stuck rest (stuck_of_childAt step)]
      split <;> exact wellFormed
    | ok child =>
      obtain ⟨slot, denoted, held⟩ := childAt_eq_ok_iff.mp step
      cases rest with
      | nil =>
        rw [eraseFrom_last place denoted]
        exact Slot.wellFormed_clear wellFormed
      | cons next rest =>
        rw [eraseFrom_of_get? place (List.cons_ne_nil next rest) denoted held]
        exact Slot.wellFormed_put wellFormed (ih (Slot.wellFormed_get? wellFormed held))

/-- Whether or not it goes through, a write of a well-formed tree leaves one. -/
theorem wellFormed_write (path : Path) (wellFormed : tree.WellFormed) (inner : value.WellFormed) :
    (path.write value tree).after.WellFormed := wellFormed_writeFrom wellFormed inner

theorem wellFormed_erase (path : Path) (wellFormed : tree.WellFormed) :
    (path.erase tree).after.WellFormed := wellFormed_eraseFrom wellFormed

end RecordFlow.Path
