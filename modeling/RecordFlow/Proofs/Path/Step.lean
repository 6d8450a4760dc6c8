import RecordFlow.Proofs.Json.Subtree
import RecordFlow.Proofs.Outcome
import RecordFlow.Proofs.Path.Slot

/-!
# Single steps of a walk

What one segment does to the tree it meets, told in slots: a look-up takes the child in the slot that the
segment denotes, a write and an erasure work on that child and put it back. A write may also fill a slot
that is free (`IsOpen`); an erasure that finds no child changes nothing.
-/

namespace RecordFlow.Path

variable {place : Path} {segment : String} {rest : List String} {tree child value : Json} {slot : Slot}

theorem indexAt_eq_ok_iff {i : Nat} : indexAt place segment = .ok i ↔ index? segment = some i := by
  unfold indexAt
  cases index? segment <;> simp

theorem childAt_eq_ok_iff :
    childAt place segment tree = .ok child ↔
      ∃ slot, slot? segment tree = some slot ∧ slot.get? tree = some child := by
  cases tree with
  | object fields =>
    simp only [childAt, slot?, Option.some.injEq, exists_eq_left', Slot.get?]
    cases Fields.get? segment fields <;> simp
  | array items =>
    simp only [childAt, slot?, Option.map_eq_some_iff, bind_eq_ok_iff, indexAt_eq_ok_iff]
    constructor
    · rintro ⟨i, index, found⟩
      refine ⟨.index i, ⟨i, index, rfl⟩, ?_⟩
      cases held : items[i]? with
      | none => rw [held] at found; cases found
      | some old => rw [held] at found; cases found; exact held
    · rintro ⟨_, ⟨i, index, rfl⟩, held⟩
      have held : items[i]? = some child := held
      exact ⟨i, index, by rw [held]⟩
  | null | bool | number | string => simp [childAt, slot?]

/-- Why a look-up cannot take a step, and the error it makes of that. -/
inductive Stuck (place : Path) (segment : String) : Json → Error → Prop where
  | noName {fields : List (String × Json)} (absent : Fields.get? segment fields = none) :
    Stuck place segment (.object fields) (.keyNotFound segment (place.child segment))
  | noIndex {items : List Json} (refused : index? segment = none) :
    Stuck place segment (.array items) (.invalidIndex segment (place.child segment))
  | pastEnd {items : List Json} {i : Nat} (index : index? segment = some i)
    (outside : items.length ≤ i) :
    Stuck place segment (.array items) (.indexOutOfRange i items.length (place.child segment))
  | noContainer {tree : Json} (bare : tree.isContainer = false) :
    Stuck place segment tree (.notAContainer tree.kindName place)

theorem stuck_of_childAt {error : Error} (failed : childAt place segment tree = .error error) :
    Stuck place segment tree error := by
  cases tree with
  | object fields =>
    simp only [childAt] at failed
    cases held : Fields.get? segment fields with
    | some child => rw [held] at failed; cases failed
    | none => rw [held] at failed; cases failed; exact .noName held
  | array items =>
    simp only [childAt, indexAt] at failed
    cases index : index? segment with
    | none => rw [index] at failed; cases failed; exact .noIndex index
    | some i =>
      rw [index] at failed
      simp only [ok_bind] at failed
      cases held : items[i]? with
      | some child => rw [held] at failed; cases failed
      | none =>
        rw [held] at failed
        cases failed
        exact .pastEnd index (List.getElem?_eq_none_iff.mp held)
  | null | bool | number | string => cases failed; exact .noContainer rfl

theorem mem_children_of_slot (held : slot.get? tree = some child) : child ∈ tree.children := by
  cases slot with
  | key name =>
    cases tree with
    | object fields => exact Json.mem_children_of_get? held
    | null | bool | number | string | array => cases held
  | index i =>
    cases tree with
    | array items => exact List.mem_of_getElem? held
    | null | bool | number | string | object => cases held

/-- A write can go on through a slot of the tree, `rest` being what follows: any name can be filled, an
index only if the array has it or, at the end of the path, padding reaches it. -/
def Slot.IsOpen (rest : List String) : Slot → Json → Prop
  | .key _, _ => True
  | .index i, .array items => i < items.length ∨ rest = [] ∧ Reachable items i
  | .index _, _ => False

theorem Slot.isOpen_of_get? (held : slot.get? tree = some child) : slot.IsOpen rest tree := by
  cases slot with
  | key name => trivial
  | index i =>
    cases tree with
    | array items => exact .inl (List.getElem?_eq_some_iff.mp held).1
    | null | bool | number | string | object => cases held

/-- What a write enters: a null is entered as an empty object. -/
def entered : Json → Json
  | .null => .object []
  | tree => tree

theorem entered_ne_null (tree : Json) : entered tree ≠ .null := by
  cases tree <;> exact nofun

theorem writeFrom_entered (place : Path) (value : Json) (segment : String) (rest : List String)
    (tree : Json) :
    writeFrom place value (segment :: rest) tree =
      writeFrom place value (segment :: rest) (entered tree) := by
  cases tree with
  | null =>
    simp only [entered, writeFrom]
    rfl
  | bool | number | string | array | object => rfl

/-- A write through an open slot is the write below it, put back into the slot. -/
theorem writeFrom_of_isOpen (place : Path) (value : Json) (denoted : slot? segment tree = some slot)
    (free : slot.IsOpen rest tree) :
    writeFrom place value (segment :: rest) tree =
      (writeFrom (place.child segment) value rest ((slot.get? tree).getD (.object []))).map
        fun child => slot.put child tree := by
  cases tree with
  | object fields =>
    cases denoted
    simp only [writeFrom, Slot.get?, Slot.put]
  | array items =>
    obtain ⟨i, index, rfl⟩ := Option.map_eq_some_iff.mp denoted
    have index : indexAt place segment = .ok i := indexAt_eq_ok_iff.mpr index
    cases rest with
    | nil =>
      have reach : Reachable items i := free.elim .inl And.right
      simp only [writeFrom, index]
      exact if_pos reach
    | cons next rest =>
      have inside : i < items.length := free.resolve_right fun last => List.cons_ne_nil _ _ last.1
      have held : items[i]? = some items[i] := List.getElem?_eq_getElem inside
      simp only [writeFrom, index, held, Slot.get?, Slot.put, Option.getD_some, storeItem_of_lt inside]
  | null | bool | number | string => cases denoted

/-- A write through a slot that holds a child. -/
theorem writeFrom_of_get? (place : Path) (value : Json) (rest : List String)
    (denoted : slot? segment tree = some slot) (held : slot.get? tree = some child) :
    writeFrom place value (segment :: rest) tree =
      (writeFrom (place.child segment) value rest child).map fun child => slot.put child tree := by
  rw [writeFrom_of_isOpen place value denoted (Slot.isOpen_of_get? held), held, Option.getD_some]

/-- A write that meets something other than a null stops at once unless an open slot leads on. -/
theorem writeFrom_cons_cases (place : Path) (value : Json) (segment : String) (rest : List String)
    (solid : tree ≠ .null) :
    (∃ error, writeFrom place value (segment :: rest) tree = .stopped tree error) ∨
      ∃ slot, slot? segment tree = some slot ∧ slot.IsOpen rest tree := by
  cases tree with
  | null => exact absurd rfl solid
  | object fields => exact .inr ⟨.key segment, rfl, trivial⟩
  | array items =>
    cases rest with
    | nil =>
      obtain ⟨error, _, stops⟩ | ⟨i, index, reach, _⟩ | ⟨i, _, _, stops⟩ :=
        writeFrom_array_last place value segment items
      · exact .inl ⟨error, stops⟩
      · refine .inr ⟨.index i, ?_, .inr ⟨rfl, reach⟩⟩
        rw [slot?, indexAt_eq_ok_iff.mp index, Option.map_some]
      · exact .inl ⟨_, stops⟩
    | cons next rest =>
      obtain ⟨error, _, stops⟩ | ⟨i, _, _, stops⟩ | ⟨i, old, index, held, _⟩ :=
        writeFrom_array_next place value segment next rest items
      · exact .inl ⟨error, stops⟩
      · exact .inl ⟨_, stops⟩
      · refine .inr ⟨.index i, ?_, .inl (List.getElem?_eq_some_iff.mp held).1⟩
        rw [slot?, indexAt_eq_ok_iff.mp index, Option.map_some]
  | bool | number | string => exact .inl ⟨_, by cases rest <;> rfl⟩

/-- A write that goes through fills an open slot with what it has written below. -/
theorem exists_open_of_writeFrom (solid : tree ≠ .null)
    (through : (writeFrom place value (segment :: rest) tree).failure = none) :
    ∃ slot child, slot? segment tree = some slot ∧ slot.IsOpen rest tree ∧
      writeFrom (place.child segment) value rest ((slot.get? tree).getD (.object [])) = .done child ∧
      writeFrom place value (segment :: rest) tree = .done (slot.put child tree) := by
  obtain ⟨error, stops⟩ | ⟨slot, denoted, free⟩ := writeFrom_cons_cases place value segment rest solid
  · rw [stops] at through
    cases through
  · have step := writeFrom_of_isOpen place value denoted free
    have below := through
    rw [step, Edit.failure_map] at below
    refine ⟨slot, _, denoted, free, Edit.eq_done below, ?_⟩
    rw [Edit.eq_done through, step, Edit.after_map]

/-- An erasure at its last segment clears the slot, whether or not it holds anything. -/
theorem eraseFrom_last (place : Path) (denoted : slot? segment tree = some slot) :
    eraseFrom place [segment] tree = .done (slot.clear tree) := by
  cases tree with
  | object fields => cases denoted; rfl
  | array items =>
    obtain ⟨i, index, rfl⟩ := Option.map_eq_some_iff.mp denoted
    simp only [eraseFrom, indexAt_eq_ok_iff.mpr index, Slot.clear]
  | null | bool | number | string => cases denoted

theorem eraseFrom_of_get? (place : Path) (more : rest ≠ [])
    (denoted : slot? segment tree = some slot) (held : slot.get? tree = some child) :
    eraseFrom place (segment :: rest) tree =
      (eraseFrom (place.child segment) rest child).map fun child => slot.put child tree := by
  obtain ⟨next, rest, rfl⟩ := List.exists_cons_of_ne_nil more
  cases tree with
  | object fields =>
    cases denoted
    have held : Fields.get? segment fields = some child := held
    have present : (Fields.get? segment fields).isSome := by rw [held]; rfl
    simp only [eraseFrom, held, Slot.put, Fields.insert_of_present _ present]
  | array items =>
    obtain ⟨i, index, rfl⟩ := Option.map_eq_some_iff.mp denoted
    have held : items[i]? = some child := held
    have inside : i < items.length := (List.getElem?_eq_some_iff.mp held).1
    simp only [eraseFrom, indexAt_eq_ok_iff.mpr index, held, Slot.put, storeItem_of_lt inside]
  | null | bool | number | string => cases denoted

/-- An erasure that a look-up could not follow changes nothing. It ends there, unless the error of the
look-up says more than that nothing is there. -/
theorem eraseFrom_of_stuck {error : Error} (rest : List String)
    (stuck : Stuck place segment tree error) :
    eraseFrom place (segment :: rest) tree =
      if error.isAbsent then .done tree else .stopped tree error := by
  cases stuck with
  | noName absent =>
    cases rest with
    | nil => simp only [eraseFrom, Fields.erase_of_absent absent, Error.isAbsent, if_true]
    | cons next rest => simp only [eraseFrom, absent, Error.isAbsent, if_true]
  | noIndex refused =>
    cases rest <;> simp only [eraseFrom, indexAt, refused, Error.isAbsent] <;> rfl
  | @pastEnd items i index outside =>
    cases rest with
    | nil =>
      simp only [eraseFrom, indexAt, index, List.set_eq_of_length_le outside, Error.isAbsent, if_true]
    | cons next rest =>
      have held : items[i]? = none := List.getElem?_eq_none_iff.mpr outside
      simp only [eraseFrom, indexAt, index, held, Error.isAbsent, if_true]
  | noContainer bare =>
    cases tree with
    | array | object => cases bare
    | null | bool | number | string => cases rest <;> rfl

end RecordFlow.Path
