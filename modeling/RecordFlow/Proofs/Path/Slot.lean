import RecordFlow.Proofs.Fields
import RecordFlow.Proofs.Path.Writing

/-!
# Slots

A segment of a path denotes a slot of the container it meets: a name of an object, an index of an array.
Two segments may denote one slot (`0` and `00` in an array) and one segment two slots (`0` in an object
and in an array), so it is slots that tell places apart. A slot is read by `get?` and filled by `put`,
and the two keep the laws of a store: `get?_put_self`, `get?_put_other`, `put_get?`, `put_put`,
`put_comm`.
-/

namespace RecordFlow.Path

inductive Slot where
  | key (name : String)
  | index (i : Nat)
  deriving DecidableEq, Repr

/-- The slot of a tree that a segment denotes. Only objects and arrays have slots. -/
def slot? (segment : String) : Json → Option Slot
  | .object _ => some (.key segment)
  | .array _ => (index? segment).map .index
  | _ => none

/-! ### Arrays -/

theorem length_storeItem (items : List Json) (i : Nat) (value : Json) :
    (storeItem items i value).length = max items.length (i + 1) := by
  simp only [storeItem, List.length_set, List.length_append, List.length_replicate]
  omega

theorem storeItem_of_lt {items : List Json} {i : Nat} (bound : i < items.length) (value : Json) :
    storeItem items i value = items.set i value := by
  have full : i + 1 - items.length = 0 := by omega
  rw [storeItem, full, List.replicate_zero, List.append_nil]

/-- Past the end the value comes last, after nulls. -/
theorem storeItem_of_le {items : List Json} {i : Nat} (past : items.length ≤ i) (value : Json) :
    storeItem items i value = items ++ List.replicate (i - items.length) .null ++ [value] := by
  have pad : i + 1 - items.length = (i - items.length) + 1 := by omega
  have last : (items ++ List.replicate (i - items.length) Json.null).length = i := by
    simp only [List.length_append, List.length_replicate]
    omega
  rw [storeItem, pad, List.replicate_succ', ← List.append_assoc, List.set_append_right _ _ last.le, last,
    Nat.sub_self, List.set_cons_zero]

theorem getElem?_storeItem (items : List Json) (i j : Nat) (value : Json) :
    (storeItem items i value)[j]? =
      if j = i then some value else if j < items.length then items[j]?
      else if j < i then some .null else none := by
  by_cases same : j = i
  · rw [if_pos same, same, getElem?_storeItem_self]
  · rw [if_neg same, storeItem, List.getElem?_set_ne (Ne.symm same)]
    by_cases inside : j < items.length
    · rw [if_pos inside, List.getElem?_append_left inside]
    · rw [if_neg inside, List.getElem?_append_right (by omega), List.getElem?_replicate]
      by_cases before : j < i
      · rw [if_pos before, if_pos (by omega)]
      · rw [if_neg before, if_neg (by omega)]

/-- Another element stays, and where there was none padding may have put a null. -/
theorem getElem?_storeItem_other (items : List Json) {i j : Nat} (value : Json) (apart : j ≠ i) :
    (storeItem items i value)[j]? = items[j]? ∨
      items[j]? = none ∧ (storeItem items i value)[j]? = some .null := by
  rw [getElem?_storeItem, if_neg apart]
  by_cases inside : j < items.length
  · exact .inl (if_pos inside)
  · have absent : items[j]? = none := List.getElem?_eq_none_iff.mpr (Nat.le_of_not_lt inside)
    rw [if_neg inside, absent]
    by_cases before : j < i
    · exact .inr ⟨rfl, if_pos before⟩
    · exact .inl (if_neg before)

theorem storeItem_storeItem (items : List Json) (i : Nat) (first value : Json) :
    storeItem (storeItem items i first) i value = storeItem items i value := by
  have bound : i < (storeItem items i first).length := by
    rw [length_storeItem]
    omega
  rw [storeItem_of_lt bound, storeItem, storeItem, List.set_set]

theorem storeItem_comm {i j : Nat} (apart : i ≠ j) (items : List Json) (value content : Json) :
    storeItem (storeItem items j content) i value =
      storeItem (storeItem items i value) j content := by
  apply List.ext_getElem?
  intro k
  simp only [getElem?_storeItem, length_storeItem]
  by_cases first : k = i
  · subst first
    simp [apart]
  · by_cases second : k = j
    · subst second
      simp [first]
    · by_cases inside : k < items.length
      · simp [first, second, inside]
      · simp only [first, second, inside, if_false]
        grind

/-! ### Reading and filling a slot -/

namespace Slot

variable {slot other : Slot} {tree child value : Json} {segment : String}

def get? : Slot → Json → Option Json
  | key name, .object fields => Fields.get? name fields
  | index i, .array items => items[i]?
  | _, _ => none

/-- Fills a slot; an array is padded with nulls up to it. -/
def put (slot : Slot) (child : Json) (tree : Json) : Json :=
  match slot, tree with
  | key name, .object fields => .object (Fields.insert name child fields)
  | index i, .array items => .array (storeItem items i child)
  | _, tree => tree

/-- Empties a slot: a name vanishes, an element becomes null. -/
def clear (slot : Slot) (tree : Json) : Json :=
  match slot, tree with
  | key name, .object fields => .object (Fields.erase name fields)
  | index i, .array items => .array (items.set i .null)
  | _, tree => tree

theorem get?_put_self (value : Json) (denoted : slot? segment tree = some slot) :
    slot.get? (slot.put value tree) = some value := by
  cases tree with
  | object fields =>
    cases denoted
    exact Fields.get?_insert_self segment value fields
  | array items =>
    obtain ⟨i, -, rfl⟩ := Option.map_eq_some_iff.mp denoted
    exact getElem?_storeItem_self items i value
  | null | bool | number | string => cases denoted

theorem get?_put_cases (apart : slot ≠ other) (value tree : Json) :
    slot.get? (other.put value tree) = slot.get? tree ∨
      slot.get? tree = none ∧ slot.get? (other.put value tree) = some .null := by
  cases slot with
  | key name =>
    cases tree with
    | object fields =>
      cases other with
      | key next =>
        have different : next ≠ name := fun same => apart (by rw [same])
        exact .inl (Fields.get?_insert_other value fields different)
      | index i => exact .inl rfl
    | null | bool | number | string | array => cases other <;> exact .inl rfl
  | index i =>
    cases tree with
    | array items =>
      cases other with
      | key next => exact .inl rfl
      | index j =>
        have different : i ≠ j := fun same => apart (by rw [same])
        exact getElem?_storeItem_other items value different
    | null | bool | number | string | object => cases other <;> exact .inl rfl

/-- What another slot holds stays. A slot that is free may come to hold a null. -/
theorem get?_put_other (value : Json) (apart : slot ≠ other) (held : slot.get? tree = some child) :
    slot.get? (other.put value tree) = some child := by
  obtain kept | ⟨free, -⟩ := get?_put_cases apart value tree
  · exact kept.trans held
  · rw [free] at held
    cases held

/-- What a slot holds once another is filled it held before, or it is one of the nulls before an element. -/
theorem get?_of_put_other (apart : slot ≠ other) (held : slot.get? (other.put value tree) = some child) :
    slot.get? tree = some child ∨ child = .null := by
  obtain kept | ⟨-, null⟩ := get?_put_cases apart value tree
  · exact .inl (kept.symm.trans held)
  · exact .inr (Option.some.inj (held.symm.trans null))

theorem get?_clear_other (apart : slot ≠ other) (tree : Json) :
    slot.get? (other.clear tree) = slot.get? tree := by
  cases slot with
  | key name =>
    cases tree with
    | object fields =>
      cases other with
      | key next =>
        have different : next ≠ name := fun same => apart (by rw [same])
        exact Fields.get?_erase_other different fields
      | index i => rfl
    | null | bool | number | string | array => cases other <;> rfl
  | index i =>
    cases tree with
    | array items =>
      cases other with
      | key next => rfl
      | index j =>
        have different : j ≠ i := fun same => apart (by rw [same])
        exact List.getElem?_set_ne different
    | null | bool | number | string | object => cases other <;> rfl

theorem put_get? (held : slot.get? tree = some child) : slot.put child tree = tree := by
  cases slot with
  | key name =>
    cases tree with
    | object fields => exact congrArg Json.object (Fields.insert_get? held)
    | null | bool | number | string | array => cases held
  | index i =>
    cases tree with
    | array items =>
      have bound : i < items.length := (List.getElem?_eq_some_iff.mp held).1
      rw [put, storeItem_of_lt bound, set_getElem? held]
    | null | bool | number | string | object => cases held

theorem put_put (slot : Slot) (first value tree : Json) :
    slot.put value (slot.put first tree) = slot.put value tree := by
  cases slot with
  | key name =>
    cases tree with
    | object fields => exact congrArg Json.object (Fields.insert_insert first value fields)
    | null | bool | number | string | array => rfl
  | index i =>
    cases tree with
    | array items => exact congrArg Json.array (storeItem_storeItem items i first value)
    | null | bool | number | string | object => rfl

theorem put_comm (apart : slot ≠ other) (value content tree : Json) :
    slot.put value (other.put content tree) = other.put content (slot.put value tree) := by
  cases slot with
  | key name =>
    cases tree with
    | object fields =>
      cases other with
      | key next =>
        have different : name ≠ next := fun same => apart (by rw [same])
        exact congrArg Json.object (Fields.insert_comm different value content fields)
      | index j => rfl
    | null | bool | number | string | array => cases other <;> rfl
  | index i =>
    cases tree with
    | array items =>
      cases other with
      | key next => rfl
      | index j =>
        have different : i ≠ j := fun same => apart (by rw [same])
        exact congrArg Json.array (storeItem_comm different items value content)
    | null | bool | number | string | object => cases other <;> rfl

@[simp] theorem slot?_put (segment : String) (slot : Slot) (child tree : Json) :
    slot? segment (slot.put child tree) = slot? segment tree := by
  cases slot <;> cases tree <;> rfl

@[simp] theorem slot?_clear (segment : String) (slot : Slot) (tree : Json) :
    slot? segment (slot.clear tree) = slot? segment tree := by
  cases slot <;> cases tree <;> rfl

end Slot

end RecordFlow.Path
