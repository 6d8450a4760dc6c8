import RecordFlow.Proofs.Path.AccessorLaws
import RecordFlow.Proofs.Path.Obstacles
import RecordFlow.Proofs.Path.Persistence
import RecordFlow.Proofs.Pipeline.Invariants

/-!
A delete is a move: it erases what lives at its source and writes it at its target. No value is lost by it,
even if the target lies inside the source, above it or in the other tree, and a move of a path onto itself
changes nothing (`delete_moves`). What the move does elsewhere follows from what the erasure and the write
each leave alone. A source that is a root is not gone afterwards, an empty tree is left there.
-/

namespace RecordFlow

/-! ### Records -/

namespace Record

variable {record : Record} {path : Path} {value : Json}

theorem wellFormed_tree (maps : record.WellFormed) (root : Path.Root) : (record.tree root).WellFormed := by
  cases root with
  | payload => exact maps.1
  | metadata => exact maps.2

theorem isPresent_get_iff (data : record.isControl = false) : (record.get path).isPresent = true ↔
    ∃ value, path.resolve (record.tree path.root) = .ok value ∧ value ≠ .null := by
  rw [get_eq_lookup data]
  exact Path.isPresent_lookup_iff

theorem isPresent_get_erase (maps : record.WellFormed) (data : record.isControl = false)
    (below : path.isRoot = false) (found : path.resolve (record.tree path.root) = .ok value) :
    ((record.erase path).after.get path).isPresent = false := by
  have still : (record.erase path).after.isControl = false := by rw [isControl_erase, data]
  obtain ⟨parent, segment, rfl⟩ := Path.exists_child below
  obtain ⟨_, remaining, after, _, emptied, erased, left, _⟩ :=
    Path.erase_of_resolve_ok (wellFormed_tree maps _) found
  rw [get_eq_lookup still, erase, (editTree_of_data data _ _).1, erased]
  exact Path.lookup_of_emptied emptied left

/-- Writing what an erasure removed restores the record. -/
theorem set_erase (maps : record.WellFormed) (found : path.resolve (record.tree path.root) = .ok value) :
    ∃ emptied, record.erase path = .done emptied ∧ emptied.set path value = .done record := by
  obtain ⟨tree, erased, restored⟩ := Path.write_erase (wellFormed_tree maps path.root) found
  obtain ⟨root, segments⟩ := path
  cases record with
  | control => exact ⟨control, rfl, rfl⟩
  | data payload metadata =>
    cases root with
    | payload =>
      refine ⟨data tree metadata, congrArg (Path.Edit.map (data · metadata)) erased, ?_⟩
      exact congrArg (Path.Edit.map (data · metadata)) restored
    | metadata =>
      refine ⟨data payload tree, congrArg (Path.Edit.map (data payload ·)) erased, ?_⟩
      exact congrArg (Path.Edit.map (data payload ·)) restored

end Record

namespace Operation.Builtin

/-! ### The parts of a move -/

variable {descriptor : Descriptor} {operation : Builtin} {id : String} {source target : Path}
  {value : Json} {record : Record} {τ : Type} [Output τ] {produced : List Record} {sink next : τ}

/-- A record before and after a value has moved from one path to another. -/
structure Moved (source target : Path) (value : Json) (record after : Record) : Prop where
  arrives : target.resolve (after.tree target.root) = .ok value
  leaves : record.DivergeIn source target → source.isRoot = false → (after.get source).isPresent = false
  empties : record.DivergeIn source target → source.isRoot = true → after.tree source.root = .object []
  spares (place : Path) (content : Json) : record.DivergeIn source place → record.DivergeIn target place →
    place.resolve (record.tree place.root) = .ok content → place.resolve (after.tree place.root) = .ok content

/-- An erasure and a write that both go through make a move. -/
theorem moved_of_edits (maps : record.WellFormed) (data : record.isControl = false)
    (found : source.resolve (record.tree source.root) = .ok value)
    (stored : ((record.erase source).after.set target value).failure = none) :
    Moved source target value record ((record.erase source).after.set target value).after := by
  have still : (record.erase source).after.isControl = false := by rw [Record.isControl_erase, data]
  have written : ((record.erase source).after.set target value).after.isControl = false := by
    rw [Record.isControl_set, still]
  refine ⟨Record.resolve_set still stored, ?_, ?_, ?_⟩
  · intro apart below
    by_contra present
    obtain ⟨content, there, solid⟩ :=
      (Record.isPresent_get_iff written).mp (Bool.eq_true_of_not_eq_false present)
    -- the write could have put back nothing but a null
    have apart := (Record.divergeIn_erase apart apart).symm
    have before := Record.resolve_before_set apart value there solid
    have back := (Record.isPresent_get_iff still).mpr ⟨content, before, solid⟩
    rw [Record.isPresent_get_erase maps data below found] at back
    cases back
  · intro apart root
    have empty : source.segments = [] := List.isEmpty_iff.mp root
    have elsewhere : target.root ≠ source.root := by
      obtain different | apart := apart
      · exact different.symm
      · exact absurd empty apart.ne_nil
    rw [Record.set, Record.tree_editTree_other elsewhere, Record.erase,
      (Record.editTree_of_data data _ _).1, Path.erase, empty, Path.eraseFrom, Path.Edit.after_done]
  · intro place content fromSource fromTarget before
    have kept := Record.resolve_editTree Path.inPlace_eraseFrom fromSource before
    have apart := Record.divergeIn_erase fromSource fromTarget
    exact Record.resolve_editTree (Path.inPlace_writeFrom value) apart kept

theorem apply_delete_of_absent (absent : (record.get source).isPresent = false) :
    (delete id source target).apply sink record = (.ok [record], sink) := by
  have idle : (delete id source target).handsOn record = true := by
    rw [handsOn, absent]
    rfl
  exact apply_eq_ok_iff.mpr ⟨successors_of_handsOn idle, Output.writeAll_nil sink⟩

theorem apply_delete_of_present (data : record.isControl = false)
    (present : (record.get source).isPresent = true) :
    (delete id source target).apply sink record =
      (do
        let emptied ← remove id record source
        return [← Endpoints.store id emptied target (record.get source).value], sink) := by
  rw [apply, data, applyData, present]
  rfl

theorem exists_moved (maps : record.WellFormed) (data : record.isControl = false)
    (found : source.resolve (record.tree source.root) = .ok value) (solid : value ≠ .null)
    (applied : (delete id source target).apply sink record = (.ok produced, next)) :
    ∃ after, produced = [after] ∧ next = sink ∧ Moved source target value record after := by
  have present := (Record.isPresent_get_iff data).mpr ⟨value, found, solid⟩
  rw [apply_delete_of_present data present, Record.get_of_resolve data found] at applied
  obtain ⟨through, same⟩ := Prod.mk.inj applied
  obtain ⟨emptied, removed, through⟩ := bind_eq_ok_iff.mp through
  obtain ⟨after, stored, through⟩ := bind_eq_ok_iff.mp through
  cases through
  obtain ⟨-, rfl⟩ := result_eq_ok_iff.mp removed
  obtain ⟨passes, rfl⟩ := result_eq_ok_iff.mp stored
  exact ⟨_, rfl, same.symm, moved_of_edits maps data found passes⟩

theorem apply_delete_self (maps : record.WellFormed) :
    (delete id source source).apply sink record = (.ok [record], sink) := by
  cases presence : (record.get source).isPresent with
  | false => exact apply_delete_of_absent presence
  | true =>
    cases record with
    | control => rfl
    | data payload metadata =>
      obtain ⟨value, found, -⟩ := (Record.isPresent_get_iff rfl).mp presence
      obtain ⟨emptied, erased, restored⟩ := Record.set_erase maps found
      have removed : remove id (.data payload metadata) source = .ok emptied := by
        rw [remove, erased]
        rfl
      have stored : Endpoints.store id emptied source value = .ok (.data payload metadata) := by
        rw [Endpoints.store, restored]
        rfl
      rw [apply_delete_of_present rfl presence, Record.get_of_resolve rfl found, removed, ok_bind]
      change (Endpoints.store id emptied source value >>= _, _) = _
      rw [stored]
      rfl

/-! ### Moves of a descriptor -/

theorem exists_delete (kind : descriptor.kind = .delete) (built : ofDescriptor descriptor = .ok operation) :
    ∃ source target, operation = delete descriptor.id source target ∧
      (∃ text, descriptor.source = some text ∧ Path.parse text = .ok source) ∧
      Path.parse (descriptor.target.getD "$.deleted_value") = .ok target := by
  obtain ⟨same, endpoints, read, id, reads, writes⟩ := endpoints_of_ofDescriptor built
  obtain ⟨named, source?, target?⟩ := Endpoints.of_ofDescriptor read
  rw [kind] at same writes
  cases operation with
  | delete name source target =>
    have id : name = endpoints.id := id
    have reads : some source = endpoints.source := reads
    have writes : some target = endpoints.target.or (some deletedField) := writes
    rw [← reads] at source?
    refine ⟨source, target, by rw [id, named], Endpoints.exists_text_of_path? source?, ?_⟩
    cases asked : endpoints.target with
    | none =>
      rw [asked] at target? writes
      cases writes
      cases unset : descriptor.target with
      | none => rfl
      | some text =>
        rw [unset, Endpoints.path?] at target?
        split at target? <;> cases target?
    | some path =>
      rw [asked] at target? writes
      cases writes
      obtain ⟨text, set, parses⟩ := Endpoints.exists_text_of_path? target?
      rw [set]
      exact parses
  | assign | split | gunzip | print | decodeBase64 | lowercase => cases same

/-- A delete gives a record back where its source finds nothing. Otherwise, if it goes through, it makes one record
of it, in which the value has moved to the target. Onto itself a path can always be moved, and nothing changes. -/
theorem delete_moves (kind : descriptor.kind = .delete) (built : ofDescriptor descriptor = .ok operation) :
    ∃ source target, operation = delete descriptor.id source target ∧
      (∃ text, descriptor.source = some text ∧ Path.parse text = .ok source) ∧
      Path.parse (descriptor.target.getD "$.deleted_value") = .ok target ∧
      ∀ (sink : τ) record, record.isControl = false → record.WellFormed →
        ((∀ value, source.resolve (record.tree source.root) = .ok value → value = .null) →
          operation.apply sink record = (.ok [record], sink)) ∧
        (∀ value produced next, source.resolve (record.tree source.root) = .ok value → value ≠ .null →
          operation.apply sink record = (.ok produced, next) →
          ∃ after, produced = [after] ∧ next = sink ∧ Moved source target value record after) ∧
        (source = target → operation.apply sink record = (.ok [record], sink)) := by
  obtain ⟨source, target, rfl, reads, writes⟩ := exists_delete kind built
  refine ⟨source, target, rfl, reads, writes, fun sink record data maps => ⟨?_, ?_, ?_⟩⟩
  · intro nothing
    refine apply_delete_of_absent (Bool.eq_false_of_not_eq_true fun present => ?_)
    obtain ⟨value, found, solid⟩ := (Record.isPresent_get_iff data).mp present
    exact solid (nothing value found)
  · intro value produced next found solid applied
    exact exists_moved maps data found solid applied
  · rintro rfl
    exact apply_delete_self maps

/-- An element moves past the end of its own array: a null stays in its place, others pad the array, and its
neighbour stays as it is. -/
theorem delete_moves_element :
    ∃ descriptor operation record after,
      descriptor = ⟨.delete, [], some "$.items.0", some "$.items.3"⟩ ∧
      ofDescriptor descriptor = .ok operation ∧
      record = .data (.object [("items", .array [.string "a", .string "b"])]) .null ∧
      operation.apply ({} : Sink) record = (.ok [after], {}) ∧
      Path.resolve ⟨.payload, ["items", "3"]⟩ (after.tree .payload) = .ok (.string "a") ∧
      (after.get ⟨.payload, ["items", "0"]⟩).isPresent = false ∧
      Path.resolve ⟨.payload, ["items", "1"]⟩ (after.tree .payload) = .ok (.string "b") := by
  have built : ofDescriptor ⟨.delete, [], some "$.items.0", some "$.items.3"⟩ =
      .ok (delete "delete" ⟨.payload, ["items", "0"]⟩ ⟨.payload, ["items", "3"]⟩) := by rfl
  have maps : (Record.data (.object [("items", .array [.string "a", .string "b"])]) .null).WellFormed := by
    have payload : (Json.object [("items", .array [.string "a", .string "b"])]).WellFormed := by
      simp [Json.WellFormed, Json.HasSortedNames, Fields.Sorted]
    exact ⟨payload, Json.wellFormed_of_not_isContainer rfl⟩
  obtain ⟨source, target, same, -, -, each⟩ := delete_moves rfl built
  cases same
  obtain ⟨after, one, -, moved⟩ := (each ({} : Sink) _ rfl maps).2.1 (.string "a") _ _ rfl (by rintro ⟨⟩) rfl
  have fork : (Record.data (.object [("items", .array [.string "a", .string "b"])]) .null).DivergeIn
      ⟨.payload, ["items", "0"]⟩ ⟨.payload, ["items", "3"]⟩ :=
    .inr (.deeper rfl rfl rfl (.fork (by decide)))
  have neighbour := moved.spares ⟨.payload, ["items", "1"]⟩ (.string "b")
    (.inr (.deeper rfl rfl rfl (.fork (by decide)))) (.inr (.deeper rfl rfl rfl (.fork (by decide)))) rfl
  cases one
  exact ⟨_, _, _, _, rfl, built, rfl, rfl, moved.arrives, moved.leaves fork rfl, neighbour⟩

/-- A payload that moves into the metadata leaves an empty object behind, which is something. -/
theorem payload_present_after_move :
    ∃ operation record after, ofDescriptor ⟨.delete, [], some "$", some "meta.$.kept"⟩ = .ok operation ∧
      operation = delete "delete" ⟨.payload, []⟩ ⟨.metadata, ["kept"]⟩ ∧
      record = .data (.object [("a", .bool true)]) .null ∧
      (record.get ⟨.payload, []⟩).isPresent = true ∧
      record.DivergeIn ⟨.payload, []⟩ ⟨.metadata, ["kept"]⟩ ∧
      operation.apply ({} : Sink) record = (.ok [after], {}) ∧ (after.get ⟨.payload, []⟩).isPresent = true :=
  ⟨_, _, .data (.object []) (.object [("kept", .object [("a", .bool true)])]), rfl, rfl, rfl, rfl,
    .inl (by decide), rfl, rfl⟩

end Operation.Builtin

end RecordFlow
