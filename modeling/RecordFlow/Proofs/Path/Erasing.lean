import RecordFlow.Proofs.Path.Descent

/-!
An erasure goes by what a look-up finds. Where the look-up fails it changes nothing, and fails itself only
if the error says more than that nothing is there (`erase_of_resolve_error`). Where it finds something the
slot of the last segment is cleared, after which nothing is found and a second erasure changes nothing
(`erase_follows_resolve`). That an erased name is gone rests on the objects of the tree being maps.
-/

namespace RecordFlow.Path

variable {path : Path} {segment : String} {tree container value : Json} {slot : Slot} {error : Error}

/-! ### Cleared slots -/

theorem Slot.clear_clear (maps : container.HasSortedNames) :
    slot.clear (slot.clear container) = slot.clear container := by
  cases slot with
  | key name =>
    cases container with
    | object fields =>
      exact congrArg Json.object (Fields.erase_of_absent (Fields.get?_erase_self maps))
    | null | bool | number | string | array => rfl
  | index i =>
    cases container with
    | array items => exact congrArg Json.array (List.set_set ..)
    | null | bool | number | string | object => rfl

/-- What is left of the child at a segment: a name of an object is gone, an element of an array is null, and
no other element has moved. -/
inductive Emptied (place : Path) (segment : String) : Json → Json → Prop where
  | name {fields remaining : List (String × Json)}
    (gone : childAt place segment (.object remaining) =
      .error (.keyNotFound segment (place.child segment))) :
    Emptied place segment (.object fields) (.object remaining)
  | element {items remaining : List Json} (null : childAt place segment (.array remaining) = .ok .null)
    (length : remaining.length = items.length) :
    Emptied place segment (.array items) (.array remaining)

theorem emptied_clear (place : Path) (maps : container.HasSortedNames)
    (denoted : slot? segment container = some slot) (held : slot.get? container = some value) :
    Emptied place segment container (slot.clear container) := by
  cases container with
  | object fields =>
    cases denoted
    refine .name ?_
    rw [childAt, Fields.get?_erase_self maps]
  | array items =>
    obtain ⟨i, index, rfl⟩ := Option.map_eq_some_iff.mp denoted
    have inside : i < items.length := (List.getElem?_eq_some_iff.mp held).1
    refine .element (childAt_eq_ok_iff.mpr ⟨.index i, ?_, List.getElem?_set_self inside⟩)
      List.length_set
    rw [slot?, index, Option.map_some]
  | null | bool | number | string => cases denoted

/-! ### The erasure -/

theorem erase_of_resolve_error (failed : path.resolve tree = .error error) :
    path.erase tree = if error.isAbsent then .done tree else .stopped tree error := by
  obtain ⟨root, segments⟩ := path
  obtain ⟨before, segment, rest, container, rfl, found, stuck⟩ := exists_stuck failed
  rw [erase, eraseFrom_append (List.cons_ne_nil segment rest) found, eraseFrom_of_stuck rest stuck]
  have unchanged := after_writeFrom_of_resolveFrom found
  split
  · exact congrArg Edit.done unchanged
  · exact congrArg (Edit.stopped · error) unchanged

/-- An erasure of something that resolves clears its slot, once and for all. -/
theorem erase_of_resolve_ok (maps : tree.WellFormed)
    (found : (path.child segment).resolve tree = .ok value) :
    ∃ container remaining after, path.resolve tree = .ok container ∧
      Emptied path segment container remaining ∧
      (path.child segment).erase tree = .done after ∧ path.resolve after = .ok remaining ∧
      (path.child segment).erase after = .done after := by
  rw [resolve_child, bind_eq_ok_iff] at found
  obtain ⟨container, above, step⟩ := found
  obtain ⟨slot, denoted, held⟩ := childAt_eq_ok_iff.mp step
  have sorted : container.HasSortedNames :=
    (Json.throughout_iff.mp (throughout_of_resolveFrom maps above)).1
  have first : (path.child segment).erase tree = .done (path.write (slot.clear container) tree).after := by
    rw [erase_child segment above, eraseFrom_last path denoted]
    rfl
  have cleared := resolve_write (slot.clear container) above
  refine ⟨container, slot.clear container, _, above, emptied_clear path sorted denoted held, first,
    cleared, ?_⟩
  have stays : slot? segment (slot.clear container) = some slot := by rw [Slot.slot?_clear, denoted]
  rw [erase_child segment cleared, eraseFrom_last path stays, Slot.clear_clear sorted]
  exact congrArg Edit.done (after_writeFrom_of_resolveFrom cleared)

theorem lookup_of_emptied {remaining : Json} (emptied : Emptied path segment container remaining)
    (found : path.resolve tree = .ok remaining) :
    ((path.child segment).lookup tree).isPresent = false := by
  cases emptied with
  | name gone =>
    rw [lookup, resolve_child, found, ok_bind, gone]
    rfl
  | element null _ =>
    rw [lookup, resolve_child, found, ok_bind, null]
    rfl

/-- An erasure goes by what a look-up finds. A root is replaced by an empty object. -/
theorem erase_follows_resolve (path : Path) {tree : Json} (maps : tree.WellFormed) :
    (path.isRoot = true → path.erase tree = .done (.object [])) ∧
    (path.isRoot = false →
      (∀ error, path.resolve tree = .error error →
        path.erase tree = if error.isAbsent then .done tree else .stopped tree error) ∧
      ∀ value, path.resolve tree = .ok value →
        ∃ after, path.erase tree = .done after ∧ (path.lookup after).isPresent = false ∧
          path.erase after = .done after ∧
          ∃ (parent : Path) (segment : String), path = parent.child segment ∧
            ((∃ fields, parent.resolve tree = .ok (.object fields) ∧
                path.resolve after = .error (.keyNotFound segment path)) ∨
              ∃ items remaining, parent.resolve tree = .ok (.array items) ∧
                parent.resolve after = .ok (.array remaining) ∧
                remaining.length = items.length ∧ path.resolve after = .ok .null)) := by
  refine ⟨?_, fun below => ⟨fun error failed => erase_of_resolve_error failed, ?_⟩⟩
  · intro root
    have empty : path.segments = [] := List.isEmpty_iff.mp root
    rw [erase, empty, eraseFrom]
  · intro value found
    obtain ⟨parent, segment, rfl⟩ := exists_child below
    obtain ⟨container, remaining, after, above, emptied, erased, left, again⟩ :=
      erase_of_resolve_ok maps found
    refine ⟨after, erased, lookup_of_emptied emptied left, again, parent, segment, rfl, ?_⟩
    cases emptied with
    | @name fields remaining gone =>
      refine .inl ⟨fields, above, ?_⟩
      rw [resolve_child, left, ok_bind, gone]
    | @element items remaining null length =>
      refine .inr ⟨items, remaining, above, left, length, ?_⟩
      rw [resolve_child, left, ok_bind, null]

theorem erase_follows_resolve_element :
    (Json.object [("a", .array [.bool true, .bool false]), ("b", .null)]).WellFormed ∧
      ∃ after, erase ⟨.payload, ["a", "0"]⟩
          (.object [("a", .array [.bool true, .bool false]), ("b", .null)]) = .done after ∧
        erase ⟨.payload, ["a", "0"]⟩ after = .done after ∧
        (lookup ⟨.payload, ["a", "0"]⟩ after).isPresent = false := by
  have maps : (Json.object [("a", .array [.bool true, .bool false]), ("b", .null)]).WellFormed := by
    have sorted : Fields.Sorted [("a", Json.array [.bool true, .bool false]), ("b", .null)] :=
      List.pairwise_pair.mpr (by decide)
    simp [Json.WellFormed, Json.HasSortedNames, sorted]
  obtain ⟨after, erased, absent, again, -⟩ :=
    ((erase_follows_resolve ⟨.payload, ["a", "0"]⟩ maps).2 rfl).2 (.bool true) rfl
  exact ⟨maps, after, erased, again, absent⟩

end RecordFlow.Path
