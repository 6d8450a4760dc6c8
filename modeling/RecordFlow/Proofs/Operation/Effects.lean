import RecordFlow.Proofs.Operation.Building
import RecordFlow.Proofs.Operation.Lines
import RecordFlow.Proofs.Path.Divergence

/-!
# What an operation reads and stores

An operation reads one field of a record, makes values of it, and stores each of them in a successor of its
own (`get_place_of_successors`); or it hands the record on as it is, as printing does, and a copy or a move that
finds nothing (`successors_of_handsOn`). What it stores depends on what it reads alone, so a field that it does
not look at has no say: the operation reads the same whatever that field holds (`input_of_agreeBut`), and still
goes through (`exists_successors`).
-/

namespace RecordFlow.Operation

theorem result_eq_ok_iff {edit : Path.Edit Record} {raise : Path.Error → Error} {after : Record} :
    edit.result.mapError raise = .ok after ↔ edit.failure = none ∧ edit.after = after := by
  unfold Path.Edit.result
  cases edit.failure <;> simp [Except.mapError]

namespace Builtin

/-- The field that the operation reads. A copy or a move does not fall back to the whole payload. -/
def input (operation : Builtin) (record : Record) : Field :=
  match operation with
  | assign _ source _ | delete _ source _ => record.get source
  | split endpoints _ _ | gunzip endpoints | print endpoints | decodeBase64 endpoints
  | lowercase endpoints => endpoints.read record

/-- The operations of the kind give the record back as it is: a print, and a copy or a move from where nothing
lives. -/
def Idle (kind : Kind) (path : Path) (record : Record) : Prop :=
  kind = .sendStdout ∨
    (kind = .directAssignment ∨ kind = .delete) ∧ (record.get path).isPresent = false

/-- The values that the operation makes of what it reads. -/
def values : Builtin → Field → List Json
  | assign .., field | delete .., field => if field.isPresent then [field.value] else []
  | split _ first more, field =>
    (pieces first more field.text).map fun piece => .string (String.ofList piece)
  | gunzip _, field => (decompress field.bytes).toOption.toList
  | print _, _ => []
  | decodeBase64 _, field => (decodeText field.text).toOption.toList
  | lowercase _, field => [.string (Text.lowercase field.text)]

/-- The operation gives the record back as it is. -/
def handsOn (operation : Builtin) (record : Record) : Bool :=
  match operation with
  | print _ => true
  | assign _ source _ | delete _ source _ => !(record.get source).isPresent
  | split .. | gunzip _ | decodeBase64 _ | lowercase _ => false

variable {operation : Builtin} {record after : Record} {produced : List Record} {path target : Path}
  {value : Json} {id : String}

/-! ### Handing on -/

theorem successors_data (operation : Builtin) (payload metadata : Json) :
    operation.successors (.data payload metadata) =
      (operation.applyData ({} : Sink) (.data payload metadata)).1 := rfl

theorem successors_of_handsOn (idle : operation.handsOn record = true) :
    operation.successors record = .ok [record] := by
  cases record with
  | control => rfl
  | data payload metadata =>
    cases operation with
    | print => rfl
    | assign _ source | delete _ source =>
      have nothing : (Record.get (.data payload metadata) source).isPresent = false := by
        rwa [handsOn, Bool.not_eq_true'] at idle
      rw [successors_data, applyData, nothing]
      rfl
    | split | gunzip | decodeBase64 | lowercase => cases idle

/-! ### Storing -/

theorem get_of_store (data : record.isControl = false)
    (stored : Endpoints.store id record path value = .ok after) : after.get path = .ofTree value := by
  obtain ⟨through, rfl⟩ := result_eq_ok_iff.mp stored
  exact Record.get_of_resolve (by rw [Record.isControl_set, data]) (Record.resolve_set data through)

theorem get_of_write {endpoints : Endpoints} (data : record.isControl = false)
    (written : endpoints.write record value = .ok after) :
    after.get (endpoints.target.getD .payload) = .ofTree value := by
  unfold Endpoints.write at written
  split at written
  · rename_i unset
    cases record with
    | control => cases data
    | data payload metadata =>
      cases written
      rw [unset]
      rfl
  · rename_i target asked
    rw [asked]
    exact get_of_store data written

theorem get_of_convert {endpoints : Endpoints} {input : Except BadInput Json}
    (data : record.isControl = false) (converted : convert endpoints record input = .ok produced) :
    produced.map (·.get (endpoints.target.getD .payload)) = input.toOption.toList.map Field.ofTree := by
  cases input with
  | error reason => cases converted
  | ok value =>
    obtain ⟨after, written, converted⟩ := bind_eq_ok_iff.mp converted
    cases converted
    exact congrArg ([·]) (get_of_write data written)

theorem isControl_of_remove (data : record.isControl = false) (removed : remove id record path = .ok after) :
    after.isControl = false := by
  rw [← (result_eq_ok_iff.mp removed).2, Record.isControl_erase, data]

theorem get_of_pieceRecord {endpoints : Endpoints} {metadata : Json} {piece : List Char}
    (made : pieceRecord endpoints metadata piece = .ok after) :
    after.get (endpoints.target.getD .payload) = .ofTree (.string (String.ofList piece)) := by
  unfold pieceRecord at made
  dsimp only at made
  split at made
  · rename_i target asked
    rw [asked]
    exact get_of_store rfl made
  · rename_i unset
    cases made
    rw [unset]
    rfl

theorem get_of_pieces {endpoints : Endpoints} {metadata : Json} {texts : List (List Char)}
    (made : texts.mapM (pieceRecord endpoints metadata) = .ok produced) :
    produced.map (·.get (endpoints.target.getD .payload)) =
      texts.map fun piece => .ofTree (.string (String.ofList piece)) := by
  replace made := mapM_eq_ok_iff.mp made
  induction made with
  | nil => rfl
  | cons one _ ih => exact congrArg₂ (· :: ·) (get_of_pieceRecord one) ih

/-- Every value that the operation makes is found where it writes, in a successor of its own. -/
theorem get_place_of_successors (data : record.isControl = false) (active : operation.handsOn record = false)
    (through : operation.successors record = .ok produced) :
    produced.map (·.get operation.place) = (operation.values (operation.input record)).map Field.ofTree := by
  cases record with
  | control => cases data
  | data payload metadata =>
    rw [successors_data] at through
    cases operation with
    | assign id source path =>
      rw [handsOn, Bool.not_eq_false'] at active
      rw [applyData, active] at through
      obtain ⟨after, stored, rfl⟩ := map_eq_ok_iff.mp through
      rw [values, input, active]
      exact congrArg ([·]) (get_of_store data stored)
    | split endpoints first more =>
      rw [values, List.map_map]
      exact get_of_pieces through
    | gunzip | decodeBase64 => exact get_of_convert data through
    | lowercase endpoints =>
      have converted : convert endpoints (.data payload metadata)
          (.ok (.string (Text.lowercase (endpoints.read (.data payload metadata)).text))) = .ok produced :=
        through
      exact get_of_convert data converted
    | print => cases active
    | delete id source path =>
      rw [handsOn, Bool.not_eq_false'] at active
      rw [applyData, active] at through
      obtain ⟨emptied, removed, through⟩ := bind_eq_ok_iff.mp through
      obtain ⟨after, stored, through⟩ := bind_eq_ok_iff.mp through
      cases through
      rw [values, input, active]
      -- the value is stored in what the removal has left
      exact congrArg ([·]) (get_of_store (isControl_of_remove data removed) stored)

theorem ofBytes_ne_null (bytes : ByteArray) : Json.ofBytes bytes ≠ .null := by
  unfold Json.ofBytes
  split <;> rintro ⟨⟩

theorem ne_null_of_values {field : Field} (made : value ∈ operation.values field) : value ≠ .null := by
  cases operation with
  | assign | delete =>
    rw [values] at made
    split at made
    · rename_i present
      obtain rfl := List.mem_singleton.mp made
      intro null
      rw [Field.isPresent, null] at present
      simp [Json.isNull] at present
    · cases made
  | split =>
    obtain ⟨piece, -, rfl⟩ := List.mem_map.mp made
    rintro ⟨⟩
  | gunzip =>
    rw [values, decompress] at made
    split at made
    · obtain rfl := List.mem_singleton.mp made
      exact ofBytes_ne_null _
    · cases made
  | decodeBase64 =>
    rw [values, decodeText] at made
    split at made
    · obtain rfl := List.mem_singleton.mp made
      exact ofBytes_ne_null _
    · cases made
  | lowercase =>
    obtain rfl := List.mem_singleton.mp made
    rintro ⟨⟩
  | print => cases made

theorem read_of_present {endpoints : Endpoints} (reads : endpoints.source = some path)
    (present : (record.get path).isPresent = true) : endpoints.read record = record.get path := by
  rw [Endpoints.read, reads]
  exact if_pos present

theorem input_of_present (reads : operation.source? = some path)
    (present : (record.get path).isPresent = true) : operation.input record = record.get path := by
  cases operation with
  | assign | delete =>
    cases reads
    rfl
  | split | gunzip | print | decodeBase64 | lowercase => exact read_of_present reads present

section Stored

variable {values : List Json} (stored : produced.map (·.get path) = values.map Field.ofTree)
  (present : ∀ value ∈ values, value ≠ .null)

include stored present

theorem isPresent_of_stored (member : record ∈ produced) : (record.get path).isPresent = true := by
  have held : record.get path ∈ values.map Field.ofTree := stored ▸ List.mem_map_of_mem member
  obtain ⟨value, made, same⟩ := List.mem_map.mp held
  rw [← same, Path.isPresent_ofTree]
  exact present value made

/-- What an operation reads where these values were stored is the values. -/
theorem map_input (reads : operation.source? = some path) :
    produced.map operation.input = values.map Field.ofTree := by
  rw [← stored]
  exact List.map_congr_left fun record member =>
    input_of_present reads (isPresent_of_stored stored present member)

end Stored

theorem handsOn_iff_idle (reads : operation.source? = some path) :
    operation.handsOn record = true ↔ Idle operation.kind path record := by
  cases operation with
  | assign | delete =>
    cases reads
    simp [handsOn, Idle, kind]
  | split | gunzip | print | decodeBase64 | lowercase => simp [handsOn, Idle, kind]

/-! ### A field that is not looked at -/

/-- The payloads are objects that differ at most in one field. -/
def AgreeBut (name : String) (one other : Record) : Prop :=
  ∃ fields others metadata, one = .data (.object fields) metadata ∧
    other = .data (.object others) metadata ∧
    ∀ key, key ≠ name → Fields.get? key fields = Fields.get? key others

/-- The path leads into a field of the payload, and not into the named one. -/
def Avoids (name : String) (path : Path) : Prop :=
  path.root = .payload ∧ ∃ first rest, path.segments = first :: rest ∧ first ≠ name

variable {name : String} {one other : Record}

theorem get_of_agreeBut (agree : AgreeBut name one other) (avoids : Avoids name path) :
    one.get path = other.get path := by
  obtain ⟨fields, others, metadata, rfl, rfl, same⟩ := agree
  obtain ⟨root, segments⟩ := path
  obtain ⟨onPayload, first, rest, below, different⟩ := avoids
  dsimp only at onPayload below
  subst onPayload below
  have resolved : Path.resolve ⟨.payload, first :: rest⟩ (.object fields) =
      Path.resolve ⟨.payload, first :: rest⟩ (.object others) := by
    simp only [Path.resolve, Path.resolveFrom, Path.childAt, same first different]
  simp only [Record.get, Path.lookup, resolved]

theorem eraseFrom_object (place : Path) {first : String} (rest : List String)
    {fields others : List (String × Json)} (same : Fields.get? first fields = Fields.get? first others) :
    (Path.eraseFrom place (first :: rest) (.object fields)).failure =
        (Path.eraseFrom place (first :: rest) (.object others)).failure ∧
      ∃ left, (Path.eraseFrom place (first :: rest) (.object others)).after = .object left := by
  cases rest with
  | nil => exact ⟨rfl, _, rfl⟩
  | cons next rest =>
    simp only [Path.eraseFrom, same]
    cases Fields.get? first others with
    | none => exact ⟨rfl, _, rfl⟩
    | some old => exact ⟨rfl, _, rfl⟩

/-- What can be removed from the one record can be removed from the other, and leaves an object. -/
theorem remove_of_agreeBut (agree : AgreeBut name one other) (avoids : Avoids name path)
    (removed : remove id one path = .ok after) :
    ∃ left metadata, remove id other path = .ok (.data (.object left) metadata) := by
  obtain ⟨fields, others, metadata, rfl, rfl, same⟩ := agree
  obtain ⟨root, segments⟩ := path
  obtain ⟨onPayload, first, rest, below, different⟩ := avoids
  dsimp only at onPayload below
  subst onPayload below
  obtain ⟨failure, left, emptied⟩ := eraseFrom_object ⟨.payload, []⟩ rest (same first different)
  have through := (result_eq_ok_iff.mp removed).1
  refine ⟨left, metadata, result_eq_ok_iff.mpr ⟨failure.symm.trans through, ?_⟩⟩
  exact congrArg (Record.data · metadata) emptied

theorem store_field (id : String) (fields : List (String × Json)) (metadata : Json) (name : String)
    (value : Json) : Endpoints.store id (.data (.object fields) metadata) ⟨.payload, [name]⟩ value =
      .ok (.data (.object (Fields.insert name value fields)) metadata) := rfl

theorem input_of_agreeBut (agree : AgreeBut name one other) (avoids : Avoids name path)
    (reads : operation.source? = some path) (present : (one.get path).isPresent = true) :
    operation.input one = operation.input other := by
  have same := get_of_agreeBut agree avoids
  rw [input_of_present reads present, input_of_present reads (same ▸ present), same]

theorem exists_convert {endpoints : Endpoints} {input : Except BadInput Json} (agree : AgreeBut name one other)
    (writes : endpoints.target = some ⟨.payload, [name]⟩)
    (converted : convert endpoints one input = .ok produced) :
    ∃ others, convert endpoints other input = .ok others := by
  obtain ⟨_, fields, metadata, -, rfl, -⟩ := agree
  cases input with
  | error reason => cases converted
  | ok value =>
    refine ⟨_, bind_eq_ok_iff.mpr ⟨.data (.object (Fields.insert name value fields)) metadata, ?_, rfl⟩⟩
    rw [Endpoints.write, writes]
    rfl

/-- An operation that writes to the field goes through whatever the field holds. -/
theorem exists_successors (agree : AgreeBut name one other) (avoids : Avoids name path)
    (reads : operation.source? = some path) (present : (one.get path).isPresent = true)
    (writes : operation.target? = some ⟨.payload, [name]⟩) (through : operation.successors one = .ok produced) :
    ∃ others, operation.successors other = .ok others := by
  have read : operation.input one = operation.input other := input_of_agreeBut agree avoids reads present
  have found : (other.get path).isPresent = true := get_of_agreeBut agree avoids ▸ present
  have agree' := agree
  obtain ⟨fields, others, metadata, rfl, rfl, -⟩ := agree'
  rw [successors_data] at through ⊢
  cases operation with
  | assign id source target =>
    cases reads
    cases writes
    rw [applyData, found]
    exact ⟨_, rfl⟩
  | split endpoints first more =>
    have text : endpoints.read (.data (.object fields) metadata) =
        endpoints.read (.data (.object others) metadata) := read
    rw [applyData, text] at through
    exact ⟨produced, through⟩
  | print => exact ⟨_, rfl⟩
  | gunzip | decodeBase64 | lowercase =>
    have read : Endpoints.read _ (.data (.object fields) metadata) =
        Endpoints.read _ (.data (.object others) metadata) := read
    rw [applyData, read] at through
    rw [applyData]
    dsimp only at through ⊢
    exact exists_convert agree writes through
  | delete id source target =>
    cases reads
    cases writes
    rw [applyData, present] at through
    obtain ⟨emptied, removed, -⟩ := bind_eq_ok_iff.mp through
    obtain ⟨left, metadata, removed⟩ := remove_of_agreeBut agree avoids removed
    rw [applyData, found]
    -- an object is left of the other record too, and takes the field
    exact ⟨_, bind_eq_ok_iff.mpr ⟨_, removed, bind_eq_ok_iff.mpr ⟨_, store_field .., rfl⟩⟩⟩

end Builtin

end RecordFlow.Operation
