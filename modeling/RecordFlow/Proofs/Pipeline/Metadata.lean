import RecordFlow.Proofs.Pipeline.Invariants

/-!
An operation edits a record at its target, and a delete also at its source. Where all these places lie in the
payload, every record of a run comes out with the metadata it went in with (`metadata_travels`). This holds of the
pieces of a split as well, which are records of their own, and of what a delete leaves at the target it has by
default.
-/

namespace RecordFlow

open Operation

variable {metadata : Json} {record : Record} {descriptor : Descriptor}

/-- A data record with this metadata. -/
def Record.Carries (metadata : Json) (record : Record) : Prop := ∃ payload, record = .data payload metadata

/-- The text spells no path into the metadata. -/
def Path.SparesMetadata (text : String) : Prop := ∀ path, parse text = .ok path → path.root = .payload

/-- Wherever the operation is told to edit a record, that place lies in the payload. -/
def Descriptor.SparesMetadata (descriptor : Descriptor) : Prop :=
  (∀ text, descriptor.target = some text → Path.SparesMetadata text) ∧
    (descriptor.kind = .delete → ∀ text, descriptor.source = some text → Path.SparesMetadata text)

namespace Record

theorem carries_editTree {root : Path.Root} (payload : root = .payload) (change : Json → Path.Edit Json)
    (carries : record.Carries metadata) : (record.editTree root change).after.Carries metadata := by
  obtain ⟨before, rfl⟩ := carries
  subst payload
  exact ⟨(change before).after, rfl⟩

theorem closed_carries (metadata : Json) :
    ClosedAt (fun path => path.root = .payload) (Carries metadata) fun _ => True where
  get := fun _ _ => trivial
  string := fun _ => trivial
  ofBytes := fun _ => trivial
  set := fun path place carries _ => carries_editTree place (path.write _) carries
  erase := fun path place carries => carries_editTree place path.erase carries
  setPayload := by
    rintro record value ⟨before, rfl⟩ _
    exact ⟨value, rfl⟩
  fresh := by
    rintro record payload ⟨before, rfl⟩ _
    exact ⟨payload, rfl⟩

end Record

theorem Operation.Builtin.root_of_edits {operation : Builtin}
    (built : ofDescriptor descriptor = .ok operation) (spares : descriptor.SparesMetadata) :
    ∀ path, operation.Edits path → path.root = .payload := by
  obtain ⟨kind, endpoints, made, -, source, target⟩ := endpoints_of_ofDescriptor built
  obtain ⟨-, readSource, readTarget⟩ := Endpoints.of_ofDescriptor made
  intro path edits
  rcases edits with writes | ⟨removes, reads⟩
  · rw [target, Option.or_eq_some_iff] at writes
    rcases writes with asked | ⟨-, standing⟩
    · rw [asked] at readTarget
      obtain ⟨text, given, spelled⟩ := Endpoints.exists_text_of_path? readTarget
      exact spares.1 text given path spelled
    · -- only a delete writes somewhere without being told
      unfold standingTarget? at standing
      split at standing
      · cases standing
        rfl
      · cases standing
  · rw [source] at reads
    rw [reads] at readSource
    obtain ⟨text, given, spelled⟩ := Endpoints.exists_text_of_path? readSource
    have delete : descriptor.kind = .delete := kind.symm.trans removes
    exact spares.2 delete text given path spelled

namespace Pipeline

theorem metadata_travels {τ : Type} [Output τ] {descriptors : List Descriptor} {stages : List (Stage Unit τ)}
    (built : build builtinStage descriptors = .ok stages)
    (spare : ∀ descriptor ∈ descriptors, descriptor.SparesMetadata) {sink : τ} {payload : Json}
    {produced : List Record}
    (through : (run sink stages [.data payload metadata]).result = .ok produced) :
    ∀ record ∈ produced, ∃ payload, record = .data payload metadata := by
  have start : ∀ record ∈ [.data payload metadata], Record.Carries metadata record := by
    rw [List.forall_mem_singleton]
    exact ⟨payload, rfl⟩
  have keep : ∀ stage ∈ stages, stage.Keeps (Record.Carries metadata) := by
    intro stage member
    obtain ⟨k, entry⟩ := List.mem_iff_getElem?.mp member
    obtain ⟨descriptor, operation, given, made, rfl⟩ := exists_operation built entry
    have spares := spare descriptor (List.mem_of_getElem? given)
    intro state sink record produced carries stepped
    have applied : (operation.apply sink record).1 = .ok produced := stepped
    exact (Record.closed_carries metadata).apply (Builtin.root_of_edits made spares) carries applied
  exact run_keeps keep start through

/-- The delete is not told where to write, and the pieces of the split are fresh records. -/
theorem metadata_travels_split :
    ∃ descriptors stages produced,
      descriptors = [⟨.delete, [], some "$.note", none⟩, ⟨.splitString, [], some "$.lines", some "$.line"⟩] ∧
      build builtinStage descriptors = .ok stages ∧
      (∀ descriptor ∈ descriptors, descriptor.SparesMetadata) ∧
      (run ({} : Sink) stages [.data (.object [("lines", .string "a\nb"), ("note", .bool true)])
        (.object [("file", .string "in.txt")])]).result = .ok produced ∧
      produced.length = 2 ∧
      ∀ record ∈ produced, ∃ payload, record = .data payload (.object [("file", .string "in.txt")]) := by
  have built : build builtinStage
      [⟨.delete, [], some "$.note", none⟩, ⟨.splitString, [], some "$.lines", some "$.line"⟩] =
        .ok [Stage.ofBuiltin (.delete "delete" ⟨.payload, ["note"]⟩ Builtin.deletedField) (),
          Stage.ofBuiltin (.split ⟨"split_string", some ⟨.payload, ["lines"]⟩, some ⟨.payload, ["line"]⟩⟩
            '\n' []) ()] := rfl
  have note : Path.parse "$.note" = .ok ⟨.payload, ["note"]⟩ := rfl
  have line : Path.parse "$.line" = .ok ⟨.payload, ["line"]⟩ := rfl
  have spare : ∀ descriptor ∈ [(⟨.delete, [], some "$.note", none⟩ : Descriptor),
      ⟨.splitString, [], some "$.lines", some "$.line"⟩], descriptor.SparesMetadata := by
    simp [Descriptor.SparesMetadata, Path.SparesMetadata, note, line]
  have through : (run ({} : Sink) [Stage.ofBuiltin (.delete "delete" ⟨.payload, ["note"]⟩ Builtin.deletedField) (),
      Stage.ofBuiltin (.split ⟨"split_string", some ⟨.payload, ["lines"]⟩, some ⟨.payload, ["line"]⟩⟩
        '\n' []) ()] [.data (.object [("lines", .string "a\nb"), ("note", .bool true)])
          (.object [("file", .string "in.txt")])]).result =
        .ok [.data (.object [("line", .string "a")]) (.object [("file", .string "in.txt")]),
          .data (.object [("line", .string "b")]) (.object [("file", .string "in.txt")])] := by cbv
  exact ⟨_, _, _, rfl, built, spare, through, rfl, metadata_travels built spare through⟩

end Pipeline

end RecordFlow
