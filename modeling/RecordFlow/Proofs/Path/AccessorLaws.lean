import RecordFlow.Proofs.Path.Erasing

/-!
Writing what a look-up finds changes nothing, writing it again after an erasure restores the tree, and of two
writes at one path the second stays: `accessor_laws`. An erasure can be undone because it leaves the way down
in place, and in an object the name goes back where the order of names wants it (`Slot.put_clear`).
-/

namespace RecordFlow.Path

variable {place path : Path} {segments : List String} {tree container child value : Json} {slot : Slot}

/-! ### Two writes -/

/-- After a write that goes through, another one at the same path does what it would have done at first. -/
theorem writeFrom_writeFrom {first : Json} (value : Json)
    (through : (writeFrom place first segments tree).failure = none) :
    ∃ final, writeFrom place value segments (writeFrom place first segments tree).after = .done final ∧
      writeFrom place value segments tree = .done final := by
  induction segments generalizing place tree with
  | nil => exact ⟨value, rfl, rfl⟩
  | cons segment rest ih =>
    rw [writeFrom_entered place first] at through ⊢
    rw [writeFrom_entered place value segment rest tree]
    obtain ⟨slot, child, denoted, free, below, filled⟩ :=
      exists_open_of_writeFrom (entered_ne_null tree) through
    obtain ⟨final, again, once⟩ := ih (by rw [below, Edit.failure_done])
    rw [below, Edit.after_done] at again
    have stays : slot? segment (slot.put child (entered tree)) = some slot := by
      rw [Slot.slot?_put, denoted]
    have holds : slot.get? (slot.put child (entered tree)) = some child :=
      Slot.get?_put_self child denoted
    refine ⟨slot.put final (entered tree), ?_, ?_⟩
    · rw [filled, Edit.after_done, writeFrom_of_get? place value rest stays holds, again, Edit.map_done,
        Slot.put_put]
    · rw [writeFrom_of_isOpen place value denoted free, once, Edit.map_done]

theorem write_write {first after : Json} (value : Json) (through : path.write first tree = .done after) :
    ∃ final, path.write value after = .done final ∧ path.write value tree = .done final := by
  have passes : (path.write first tree).failure = none := by rw [through, Edit.failure_done]
  obtain ⟨final, again, once⟩ := writeFrom_writeFrom value passes
  have left : (path.write first tree).after = after := by rw [through, Edit.after_done]
  exact ⟨final, left ▸ again, once⟩

/-! ### Writing back -/

theorem write_of_resolve (found : path.resolve tree = .ok value) : path.write value tree = .done tree := by
  have unchanged : (path.write value tree).after = tree := after_writeFrom_of_resolveFrom found
  have passes : (path.write value tree).failure = none := writeFrom_done value found
  rw [Edit.eq_done passes, unchanged]

/-- What a slot held goes back where it was. -/
theorem Slot.put_clear (maps : container.HasSortedNames) (held : slot.get? container = some child) :
    slot.put child (slot.clear container) = container := by
  cases slot with
  | key name =>
    cases container with
    | object fields => exact congrArg Json.object (Fields.insert_erase maps held)
    | null | bool | number | string | array => cases held
  | index i =>
    cases container with
    | array items =>
      have held : items[i]? = some child := held
      have inside : i < (items.set i Json.null).length := by
        rw [List.length_set]
        exact (List.getElem?_eq_some_iff.mp held).1
      rw [clear, put, storeItem_of_lt inside, List.set_set, set_getElem? held]
    | null | bool | number | string | object => cases held

theorem Slot.isOpen_clear {rest : List String} (held : slot.get? container = some child) :
    slot.IsOpen rest (slot.clear container) := by
  cases slot with
  | key name => trivial
  | index i =>
    cases container with
    | array items =>
      refine .inl ?_
      rw [List.length_set]
      exact (List.getElem?_eq_some_iff.mp held).1
    | null | bool | number | string | object => cases held

/-- Writing what an erasure removed undoes the erasure. -/
theorem write_erase (maps : tree.WellFormed) (found : path.resolve tree = .ok value) :
    ∃ erased, path.erase tree = .done erased ∧ path.write value erased = .done tree := by
  cases root : path.isRoot with
  | true =>
    have empty : path.segments = [] := List.isEmpty_iff.mp root
    rw [resolve, empty] at found
    cases found
    exact ⟨.object [], by rw [erase, empty, eraseFrom], by rw [write, empty, writeFrom]⟩
  | false =>
    obtain ⟨parent, segment, rfl⟩ := exists_child root
    rw [resolve_child, bind_eq_ok_iff] at found
    obtain ⟨container, above, step⟩ := found
    obtain ⟨slot, denoted, held⟩ := childAt_eq_ok_iff.mp step
    -- names are in order in every container on the way, so also in the one that loses a child
    have sorted : container.HasSortedNames :=
      (Json.throughout_iff.mp (throughout_of_resolveFrom maps above)).1
    refine ⟨(parent.write (slot.clear container) tree).after, ?_, ?_⟩
    · rw [erase_child segment above, eraseFrom_last parent denoted]
      rfl
    · -- the erasure has written the cleared container, and this writes back the one before
      have cleared := resolve_write (slot.clear container) above
      have stays : slot? segment (slot.clear container) = some slot := by rw [Slot.slot?_clear, denoted]
      have back : writeFrom parent value [segment] (slot.clear container) = .done container := by
        rw [writeFrom_of_isOpen parent value stays (Slot.isOpen_clear held), writeFrom, Edit.map_done,
          Slot.put_clear sorted held]
      have passes : (parent.write (slot.clear container) tree).failure = none := writeFrom_done _ above
      obtain ⟨final, again, once⟩ := write_write container (Edit.eq_done passes)
      rw [write_child segment value cleared, back, Edit.map_done, again, ← once,
        write_of_resolve above, Edit.after_done]

/-- A look-up, a write and an erasure at one path keep the laws of an accessor. -/
theorem accessor_laws (path : Path) (tree : Json) :
    (∀ value, path.resolve tree = .ok value →
      path.write value tree = .done tree ∧
      (tree.WellFormed →
        ∃ erased, path.erase tree = .done erased ∧ path.write value erased = .done tree)) ∧
    ∀ first after, path.write first tree = .done after →
      ∀ value, ∃ final, path.write value after = .done final ∧ path.write value tree = .done final := by
  refine ⟨fun value found => ⟨write_of_resolve found, fun maps => write_erase maps found⟩, ?_⟩
  intro first after through value
  exact write_write value through

/-- A name goes back between its neighbours, and a second write goes where the first one padded. -/
theorem accessor_laws_between :
    (Json.object [("a", .bool true), ("b", .array [.null]), ("c", .null)]).WellFormed ∧
    (∃ erased,
      erase ⟨.payload, ["b"]⟩ (.object [("a", .bool true), ("b", .array [.null]), ("c", .null)]) =
        .done erased ∧
      write ⟨.payload, ["b"]⟩ (.array [.null]) erased =
        .done (.object [("a", .bool true), ("b", .array [.null]), ("c", .null)])) ∧
    ∃ final,
      write ⟨.payload, ["b", "2"]⟩ (.string "second")
        (.object [("b", .array [.null, .null, .string "first"])]) = .done final ∧
      write ⟨.payload, ["b", "2"]⟩ (.string "second") (.object [("b", .array [.null])]) =
        .done final := by
  have maps :
      (Json.object [("a", .bool true), ("b", .array [.null]), ("c", .null)]).WellFormed := by
    have sorted : Fields.Sorted [("a", Json.bool true), ("b", .array [.null]), ("c", .null)] := by
      simp only [Fields.Sorted, List.map_cons, List.map_nil, List.pairwise_cons]
      decide
    simp [Json.WellFormed, Json.HasSortedNames, sorted]
  have undo := ((accessor_laws ⟨.payload, ["b"]⟩ _).1 (.array [.null]) rfl).2 maps
  have twice := (accessor_laws ⟨.payload, ["b", "2"]⟩ (.object [("b", .array [.null])])).2
    (.string "first") _ rfl (.string "second")
  exact ⟨maps, undo, twice⟩

end RecordFlow.Path
