import RecordFlow.Proofs.Fields
import RecordFlow.Record

/-!
A write either stops and leaves the tree as it was, or it goes through and a look-up at the same
path finds the value. `write_stops_or_stores` is the law. The steps of a write change the tree on
the way down; what makes a stopped write harmless is that below a child which the write itself made
there is nothing it could stumble over (`writeFrom_fresh`).
-/

namespace RecordFlow.Path

variable {place : Path} {value tree : Json} {segments rest : List String} {segment : String}

/-! ### Arrays -/

theorem getElem?_storeItem_self (items : List Json) (i : Nat) (value : Json) :
    (storeItem items i value)[i]? = some value := by
  rw [storeItem, List.getElem?_set_self]
  simp only [List.length_append, List.length_replicate]
  omega

theorem set_getElem? {items : List Json} {i : Nat} {old : Json} (found : items[i]? = some old) :
    items.set i old = items := by
  obtain ⟨bound, rfl⟩ := List.getElem?_eq_some_iff.mp found
  exact List.set_getElem_self bound

/-- An element can be stored at the index: it exists, or padding reaches it. -/
def Reachable (items : List Json) (i : Nat) : Prop :=
  i < items.length ∨ (i + 1 < Text.wordSize ∧ i + 1 - items.length ≤ maxPadding)

/-- What a write whose last segment meets an array does. -/
theorem writeFrom_array_last (place : Path) (value : Json) (segment : String) (items : List Json) :
    (∃ error, indexAt place segment = .error error ∧
      writeFrom place value [segment] (.array items) = .stopped (.array items) error) ∨
    (∃ i, indexAt place segment = .ok i ∧ Reachable items i ∧
      writeFrom place value [segment] (.array items) = .done (.array (storeItem items i value))) ∨
    (∃ i, indexAt place segment = .ok i ∧ ¬Reachable items i ∧
      writeFrom place value [segment] (.array items) =
        .stopped (.array items) (.indexTooLarge i items.length (place.child segment))) := by
  cases index : indexAt place segment with
  | error error => exact .inl ⟨error, rfl, by rw [writeFrom, index]⟩
  | ok i =>
    refine .inr ?_
    by_cases reach : Reachable items i
    · exact .inl ⟨i, rfl, reach, by rw [writeFrom, index]; exact if_pos reach⟩
    · exact .inr ⟨i, rfl, reach, by rw [writeFrom, index]; exact if_neg reach⟩

/-- What a write does that meets an array on its way. -/
theorem writeFrom_array_next (place : Path) (value : Json) (segment next : String)
    (rest : List String) (items : List Json) :
    (∃ error, indexAt place segment = .error error ∧
      writeFrom place value (segment :: next :: rest) (.array items) =
        .stopped (.array items) error) ∨
    (∃ i, indexAt place segment = .ok i ∧ items[i]? = none ∧
      writeFrom place value (segment :: next :: rest) (.array items) =
        .stopped (.array items) (.indexOutOfRange i items.length (place.child segment))) ∨
    (∃ i old, indexAt place segment = .ok i ∧ items[i]? = some old ∧
      writeFrom place value (segment :: next :: rest) (.array items) =
        (writeFrom (place.child segment) value (next :: rest) old).map
          fun child => .array (items.set i child)) := by
  cases index : indexAt place segment with
  | error error => exact .inl ⟨error, rfl, by simp only [writeFrom, index]⟩
  | ok i =>
    refine .inr ?_
    cases found : items[i]? with
    | none => exact .inl ⟨i, rfl, found, by simp only [writeFrom, index, found]⟩
    | some old => exact .inr ⟨i, old, rfl, found, by simp only [writeFrom, index, found]⟩

/-! ### A write that stops -/

/-- Below a child that the write made, the rest of it goes through. -/
theorem writeFrom_fresh (place : Path) (value : Json) (segments : List String) :
    (writeFrom place value segments (.object [])).failure = none := by
  induction segments generalizing place with
  | nil => rfl
  | cons segment rest ih => exact ih (place.child segment)

theorem writeFrom_null (place : Path) (value : Json) (segments : List String) :
    (writeFrom place value segments .null).failure = none := by
  cases segments with
  | nil => rfl
  | cons segment rest => exact writeFrom_fresh (place.child segment) value rest

theorem after_writeFrom_of_failure {error : Error}
    (failed : (writeFrom place value segments tree).failure = some error) :
    (writeFrom place value segments tree).after = tree := by
  induction segments generalizing place tree with
  | nil => cases failed
  | cons segment rest ih =>
    cases tree with
    | null =>
      rw [writeFrom_null] at failed
      cases failed
    | object fields =>
      simp only [writeFrom, Edit.failure_map, Edit.after_map] at failed ⊢
      cases found : Fields.get? segment fields with
      | none =>
        rw [found, Option.getD_none, writeFrom_fresh] at failed
        cases failed
      | some old =>
        rw [found, Option.getD_some] at failed
        rw [Option.getD_some, ih failed, Fields.insert_get? found]
    | array items =>
      cases rest with
      | nil =>
        obtain ⟨_, _, same⟩ | ⟨_, _, _, same⟩ | ⟨_, _, _, same⟩ :=
          writeFrom_array_last place value segment items
        · rw [same]; rfl
        · rw [same] at failed; cases failed
        · rw [same]; rfl
      | cons next rest =>
        obtain ⟨_, _, same⟩ | ⟨_, _, _, same⟩ | ⟨i, old, _, found, same⟩ :=
          writeFrom_array_next place value segment next rest items
        · rw [same]; rfl
        · rw [same]; rfl
        · rw [same, Edit.failure_map] at failed
          rw [same, Edit.after_map, ih failed, set_getElem? found]
    | bool | number | string => rfl

/-! ### A write that goes through -/

theorem resolveFrom_array {items : List Json} {i : Nat} {child : Json}
    (index : indexAt place segment = .ok i) (found : items[i]? = some child) :
    resolveFrom place (segment :: rest) (.array items) =
      resolveFrom (place.child segment) rest child := by
  simp only [resolveFrom, childAt, index, found, bind, Except.bind]

theorem resolveFrom_writeFrom (stored : (writeFrom place value segments tree).failure = none) :
    resolveFrom place segments (writeFrom place value segments tree).after = .ok value := by
  induction segments generalizing place tree with
  | nil => rfl
  | cons segment rest ih =>
    cases tree with
    | null =>
      simp only [writeFrom, Edit.after_map, resolveFrom, childAt, Fields.get?, if_true]
      exact ih (writeFrom_fresh (place.child segment) value rest)
    | object fields =>
      simp only [writeFrom, Edit.failure_map, Edit.after_map] at stored ⊢
      simp only [resolveFrom, childAt, Fields.get?_insert_self]
      exact ih stored
    | array items =>
      cases rest with
      | nil =>
        obtain ⟨_, _, same⟩ | ⟨i, index, _, same⟩ | ⟨_, _, _, same⟩ :=
          writeFrom_array_last place value segment items
        · rw [same] at stored; cases stored
        · rw [same]
          exact resolveFrom_array index (getElem?_storeItem_self items i value)
        · rw [same] at stored; cases stored
      | cons next rest =>
        obtain ⟨_, _, same⟩ | ⟨_, _, _, same⟩ | ⟨i, old, index, found, same⟩ :=
          writeFrom_array_next place value segment next rest items
        · rw [same] at stored; cases stored
        · rw [same] at stored; cases stored
        · rw [same, Edit.failure_map] at stored
          have bound : i < items.length := (List.getElem?_eq_some_iff.mp found).1
          rw [same, Edit.after_map, resolveFrom_array index (List.getElem?_set_self bound)]
          exact ih stored
    | bool | number | string => cases rest <;> cases stored

theorem lookup_of_resolve {path : Path} (found : path.resolve tree = .ok value) :
    path.lookup tree = .ofTree value := by
  rw [lookup, found]

theorem isPresent_ofTree (value : Json) : (Field.ofTree value).isPresent = true ↔ value ≠ .null := by
  cases value <;> simp [Field.ofTree, Field.isPresent, Json.isNull]

/-- A write stops and leaves the tree as it was, or goes through and stores the value where a
look-up at the path finds it; a stored null is looked up as absent. -/
theorem write_stops_or_stores (path : Path) (value tree : Json) :
    (∃ error, path.write value tree = .stopped tree error) ∨
      ∃ after, path.write value tree = .done after ∧ path.resolve after = .ok value ∧
        ((path.lookup after).isPresent = true ↔ value ≠ .null) := by
  cases outcome : (path.write value tree).failure with
  | some error =>
    have unchanged : (path.write value tree).after = tree := after_writeFrom_of_failure outcome
    exact .inl ⟨error, by rw [Edit.eq_stopped outcome, unchanged]⟩
  | none =>
    have found : path.resolve (path.write value tree).after = .ok value :=
      resolveFrom_writeFrom outcome
    refine .inr ⟨(path.write value tree).after, Edit.eq_done outcome, found, ?_⟩
    rw [lookup_of_resolve found]
    exact isPresent_ofTree value

end RecordFlow.Path
