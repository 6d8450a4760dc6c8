import RecordFlow.CommandLine.Execute
import RecordFlow.Proofs.Json.WellFormed
import RecordFlow.Proofs.Operation.Effects
import RecordFlow.Proofs.Path.Descent
import RecordFlow.Proofs.Pipeline.Running

/-!
# What every record of a run has

A property that each stage hands on from a record to its successors holds of every record a run ends with,
if it holds of every record it starts with (`Pipeline.run_keeps`). A builtin operation hands on whatever the
few things it does to a record keep (`Closed`), and it edits records only where its source and its target say
(`ClosedAt`). One such property is that the trees are well formed, and the first record of a run has it.
-/

namespace RecordFlow

open Operation

variable {σ τ : Type} {holds : Record → Prop} {fits : Json → Prop} {sink : τ}
  {batch produced : List Record}

/-! ### Runs -/

/-- Whatever the state and the sink, the successors of a record with the property have it too. -/
def Stage.Keeps (holds : Record → Prop) (stage : Stage σ τ) : Prop :=
  ∀ (state : σ) (sink : τ) {record : Record} {produced : List Record}, holds record →
    (stage.step state sink record).1 = .ok produced → ∀ successor ∈ produced, holds successor

theorem Stage.run_keeps {stage : Stage σ τ} (keeps : stage.Keeps holds)
    (all : ∀ record ∈ batch, holds record) (through : (stage.run sink batch).result = .ok produced) :
    ∀ record ∈ produced, holds record := by
  induction batch generalizing stage sink produced with
  | nil =>
    cases through
    exact List.forall_mem_nil _
  | cons record rest ih =>
    obtain ⟨one, others⟩ := List.forall_mem_cons.mp all
    rcases stepped : stage.step stage.state sink record with ⟨outcome, state, next⟩
    cases outcome with
    | error error =>
      rw [run_cons_error stepped] at through
      cases through
    | ok made =>
      rw [run_cons_ok stepped] at through
      obtain ⟨later, ran, rfl⟩ := map_eq_ok_iff.mp through
      have same : { stage with state }.Keeps holds := keeps
      have first := keeps stage.state sink one (congrArg Prod.fst stepped)
      exact List.forall_mem_append.mpr ⟨first, ih same others ran⟩

theorem Pipeline.run_keeps {stages : List (Stage σ τ)} (keep : ∀ stage ∈ stages, stage.Keeps holds)
    (all : ∀ record ∈ batch, holds record) (through : (run sink stages batch).result = .ok produced) :
    ∀ record ∈ produced, holds record := by
  induction stages generalizing sink batch with
  | nil =>
    cases through
    exact all
  | cons stage rest ih =>
    obtain ⟨keeps, others⟩ := List.forall_mem_cons.mp keep
    rw [run_cons] at through
    cases ran : (stage.run sink batch).result with
    | error error =>
      rw [ran] at through
      cases through
    | ok middle =>
      rw [ran] at through
      exact ih others (Stage.run_keeps keeps all ran) through

/-! ### Operations -/

variable [Output τ]

namespace Operation

variable {id : String} {record after : Record} {value : Json} {endpoints : Endpoints}

/-- What an operation does to a record keeps the property, if it edits the record at such places only: it
reads values, which `fits` is about, and writes such values, texts and bytes into the record or into a fresh
one with the same metadata. -/
structure ClosedAt (places : Path → Prop) (holds : Record → Prop) (fits : Json → Prop) : Prop where
  get {record : Record} (path : Path) : holds record → fits (record.get path).value
  string (text : String) : fits (.string text)
  ofBytes (bytes : ByteArray) : fits (.ofBytes bytes)
  set {record : Record} {value : Json} (path : Path) :
    places path → holds record → fits value → holds (record.set path value).after
  erase {record : Record} (path : Path) :
    places path → holds record → holds (record.erase path).after
  setPayload {record : Record} {value : Json} :
    holds record → fits value → holds (record.setPayload value)
  fresh {record : Record} {payload : Json} :
    holds record → payload = .object [] ∨ fits payload → holds (.data payload record.metadata)

namespace ClosedAt

variable {places : Path → Prop}

theorem store {path : Path} (closed : ClosedAt places holds fits) (place : places path)
    (held : holds record) (inner : fits value)
    (stored : Endpoints.store id record path value = .ok after) : holds after := by
  rw [← (result_eq_ok_iff.mp stored).2]
  exact closed.set path place held inner

theorem convert {input : Except BadInput Json} (closed : ClosedAt places holds fits)
    (target : ∀ path, endpoints.target = some path → places path) (held : holds record)
    (inner : ∀ value, input = .ok value → fits value)
    (converted : Builtin.convert endpoints record input = .ok produced) :
    ∀ successor ∈ produced, holds successor := by
  cases input with
  | error reason => cases converted
  | ok value =>
    obtain ⟨written, stored, h⟩ := bind_eq_ok_iff.mp converted
    cases h
    refine List.forall_mem_singleton.mpr ?_
    unfold Endpoints.write at stored
    split at stored
    · cases stored
      exact closed.setPayload held (inner value rfl)
    · rename_i path asked
      exact closed.store (target path asked) held (inner value rfl) stored

theorem decodeText {text : String} (closed : ClosedAt places holds fits)
    (decoded : Builtin.decodeText text = .ok value) : fits value := by
  unfold Builtin.decodeText at decoded
  split at decoded
  · cases decoded
    exact closed.ofBytes _
  · cases decoded

theorem decompress {bytes : ByteArray} (closed : ClosedAt places holds fits)
    (decompressed : Builtin.decompress bytes = .ok value) : fits value := by
  unfold Builtin.decompress at decompressed
  split at decompressed
  · cases decompressed
    exact closed.ofBytes _
  · cases decompressed

theorem pieceRecord {piece : List Char} (closed : ClosedAt places holds fits)
    (target : ∀ path, endpoints.target = some path → places path) (held : holds record)
    (made : Builtin.pieceRecord endpoints record.metadata piece = .ok after) : holds after := by
  have text : fits (.string (String.ofList piece)) := closed.string _
  unfold Builtin.pieceRecord at made
  dsimp only at made
  split at made
  · rename_i path asked
    exact closed.store (target path asked) (closed.fresh held (.inl rfl)) text made
  · cases made
    exact closed.fresh held (.inr text)

/-- One case for each operation: what it writes is a part of the record, a text, or bytes. -/
theorem applyData {operation : Builtin} (closed : ClosedAt places holds fits)
    (edits : ∀ path, operation.Edits path → places path) (held : holds record)
    (applied : (operation.applyData sink record).1 = .ok produced) :
    ∀ successor ∈ produced, holds successor := by
  have unchanged : ∀ successor ∈ [record], holds successor := List.forall_mem_singleton.mpr held
  have target (path : Path) (asked : operation.target? = some path) : places path := edits path (.inl asked)
  cases operation with
  | assign id source path =>
    dsimp only [Builtin.applyData] at applied
    split at applied
    · obtain ⟨written, stored, rfl⟩ := map_eq_ok_iff.mp applied
      have place := target path rfl
      exact List.forall_mem_singleton.mpr (closed.store place held (closed.get source held) stored)
    · cases applied
      exact unchanged
  | split endpoints first more =>
    intro successor member
    obtain ⟨piece, -, made⟩ := exists_of_mem_mapM applied member
    exact closed.pieceRecord target held made
  | gunzip endpoints => exact closed.convert target held (fun _ => closed.decompress) applied
  | print endpoints =>
    dsimp only [Builtin.applyData] at applied
    split at applied
    · cases applied
      exact unchanged
    · cases applied
  | decodeBase64 endpoints => exact closed.convert target held (fun _ => closed.decodeText) applied
  | lowercase endpoints =>
    dsimp only [Builtin.applyData] at applied
    refine closed.convert target held ?_ applied
    rintro _ ⟨⟩
    exact closed.string _
  | delete id source path =>
    dsimp only [Builtin.applyData] at applied
    split at applied
    · obtain ⟨emptied, removed, applied⟩ := bind_eq_ok_iff.mp applied
      obtain ⟨written, stored, h⟩ := bind_eq_ok_iff.mp applied
      cases h
      have left : holds emptied := by
        rw [← (result_eq_ok_iff.mp removed).2]
        exact closed.erase source (edits source (.inr ⟨rfl, rfl⟩)) held
      have place := target path rfl
      exact List.forall_mem_singleton.mpr (closed.store place left (closed.get source held) stored)
    · cases applied
      exact unchanged

theorem apply {operation : Builtin} (closed : ClosedAt places holds fits)
    (edits : ∀ path, operation.Edits path → places path) (held : holds record)
    (applied : (operation.apply sink record).1 = .ok produced) :
    ∀ successor ∈ produced, holds successor := by
  unfold Builtin.apply at applied
  split at applied
  · cases applied
    exact List.forall_mem_singleton.mpr held
  · exact closed.applyData edits held applied

end ClosedAt

/-- The operation may edit the record anywhere. -/
abbrev Closed (holds : Record → Prop) (fits : Json → Prop) : Prop := ClosedAt (fun _ => True) holds fits

theorem Closed.apply {operation : Builtin} (closed : Closed holds fits) (held : holds record)
    (applied : (operation.apply sink record).1 = .ok produced) :
    ∀ successor ∈ produced, holds successor :=
  ClosedAt.apply closed (fun _ _ => trivial) held applied

end Operation

/-! ### Well-formed records -/

namespace Record

variable {record : Record}

/-- Both trees are well formed. -/
def WellFormed (record : Record) : Prop := record.payload.WellFormed ∧ record.metadata.WellFormed

theorem wellFormed_ofPayload {payload : Json} (wellFormed : payload.WellFormed) :
    (ofPayload payload).WellFormed :=
  ⟨wellFormed, Json.wellFormed_of_not_isContainer rfl⟩

theorem wellFormed_get (path : Path) (wellFormed : record.WellFormed) :
    (record.get path).value.WellFormed := by
  have inTree : ∀ tree : Json, tree.WellFormed → (path.lookup tree).value.WellFormed := by
    intro tree wellFormed
    unfold Path.lookup
    split
    · rename_i value found
      exact Path.throughout_of_resolveFrom wellFormed found
    · exact Json.wellFormed_of_not_isContainer rfl
  unfold get
  split
  · exact Json.wellFormed_of_not_isContainer rfl
  · exact inTree _ wellFormed.1
  · exact inTree _ wellFormed.2

theorem wellFormed_editTree (root : Path.Root) {change : Json → Path.Edit Json}
    (keeps : ∀ tree : Json, tree.WellFormed → (change tree).after.WellFormed)
    (wellFormed : record.WellFormed) : (record.editTree root change).after.WellFormed := by
  unfold editTree
  split
  · exact wellFormed
  · exact ⟨keeps _ wellFormed.1, wellFormed.2⟩
  · exact ⟨wellFormed.1, keeps _ wellFormed.2⟩

theorem closed_wellFormed : Closed WellFormed Json.WellFormed where
  get := wellFormed_get
  string := fun _ => Json.wellFormed_of_not_isContainer rfl
  ofBytes := Json.wellFormed_ofBytes
  set := fun path _ wellFormed inner =>
    wellFormed_editTree path.root (fun _ tree => Path.wellFormed_write path tree inner) wellFormed
  erase := fun path _ wellFormed =>
    wellFormed_editTree path.root (fun _ => Path.wellFormed_erase path) wellFormed
  setPayload := by
    intro record value wellFormed inner
    cases record with
    | control => exact wellFormed
    | data => exact ⟨inner, wellFormed.2⟩
  fresh := by
    rintro record payload wellFormed (rfl | inner)
    · exact ⟨Json.wellFormed_empty, wellFormed.2⟩
    · exact ⟨inner, wellFormed.2⟩

end Record

/-! ### Runs of builtin operations -/

/-- Builtin operations make well-formed records of well-formed records, however many of them run. -/
theorem Pipeline.run_wellFormed {descriptors : List Descriptor} {stages : List (Stage Unit τ)}
    (built : build builtinStage descriptors = .ok stages)
    (all : ∀ record ∈ batch, record.WellFormed)
    (through : (run sink stages batch).result = .ok produced) :
    ∀ record ∈ produced, record.WellFormed := by
  refine run_keeps ?_ all through
  intro stage member
  obtain ⟨operation, rfl⟩ := exists_operation_of_mem built member
  intro state sink record produced held stepped
  have applied : (operation.apply sink record).1 = .ok produced := stepped
  exact Record.closed_wellFormed.apply held applied

theorem CommandLine.wellFormed_firstRecord (compressed : Bool) (bytes : ByteArray) :
    (firstRecord compressed bytes).WellFormed := by
  have plain : (Record.ofBytes bytes).WellFormed :=
    Record.wellFormed_ofPayload (Json.wellFormed_ofBytes bytes)
  have reads : ∀ tree, (String.fromUTF8? bytes).bind Json.ofText? = some tree → tree.WellFormed := by
    intro tree read
    obtain ⟨text, -, read⟩ := Option.bind_eq_some_iff.mp read
    exact Json.wellFormed_of_ofText? read
  unfold firstRecord
  split
  · exact plain
  · split
    · rename_i fields read
      exact Record.wellFormed_ofPayload (reads _ read)
    · rename_i items read
      exact Record.wellFormed_ofPayload (reads _ read)
    · exact plain

end RecordFlow
