import RecordFlow.Proofs.Operation.Building

/-!
Wherever an operation fails, in a path, in its input or at the sink, the error carries the identifier that
the operation was built with (`Builtin.id_of_apply_error`), which is that of its descriptor
(`Builtin.id_of_ofDescriptor`).
-/

namespace RecordFlow.Operation

variable {τ : Type} [Output τ] {id : String} {record : Record} {sink : τ} {endpoints : Endpoints} {error : Error}

/-- An edit made on behalf of an operation fails in its name. -/
theorem id_of_mapError_error {edit : Path.Edit Record}
    (failed : edit.result.mapError (fun fault => (⟨id, .path fault⟩ : Error)) = .error error) :
    error.id = id := by
  cases outcome : edit.result with
  | ok after =>
    rw [outcome] at failed
    cases failed
  | error fault =>
    rw [outcome] at failed
    cases failed
    rfl

theorem Endpoints.id_of_write_error {value : Json} (failed : endpoints.write record value = .error error) :
    error.id = endpoints.id := by
  unfold write at failed
  split at failed
  · cases failed
  · exact id_of_mapError_error failed

namespace Builtin

variable {operation : Builtin}

theorem id_of_convert_error {value : Except BadInput Json}
    (failed : convert endpoints record value = .error error) : error.id = endpoints.id := by
  cases value with
  | error input =>
    cases failed
    rfl
  | ok value =>
    obtain failed | ⟨_, _, ⟨⟩⟩ := bind_eq_error_iff.mp failed
    exact Endpoints.id_of_write_error failed

theorem id_of_pieceRecord_error {metadata : Json} {piece : List Char}
    (failed : pieceRecord endpoints metadata piece = .error error) : error.id = endpoints.id := by
  unfold pieceRecord at failed
  dsimp only at failed
  split at failed
  · exact id_of_mapError_error failed
  · cases failed

theorem id_of_applyData_error (failed : (operation.applyData sink record).1 = .error error) :
    error.id = operation.id := by
  cases operation with
  | assign id source target =>
    dsimp only [applyData] at failed
    split at failed
    · exact id_of_mapError_error (map_eq_error_iff.mp failed)
    · cases failed
  | split endpoints first more =>
    obtain ⟨piece, -, failed⟩ := exists_of_mapM_error failed
    exact id_of_pieceRecord_error failed
  | gunzip endpoints => exact id_of_convert_error failed
  | print endpoints =>
    dsimp only [applyData] at failed
    split at failed
    · cases failed
    · cases failed
      rfl
  | decodeBase64 endpoints => exact id_of_convert_error failed
  | lowercase endpoints =>
    dsimp only [applyData] at failed
    exact id_of_convert_error failed
  | delete id source target =>
    dsimp only [applyData] at failed
    split at failed
    · obtain failed | ⟨emptied, _, failed⟩ := bind_eq_error_iff.mp failed
      · exact id_of_mapError_error failed
      · obtain failed | ⟨_, _, ⟨⟩⟩ := bind_eq_error_iff.mp failed
        exact id_of_mapError_error failed
    · cases failed

theorem id_of_apply_error (failed : (operation.apply sink record).1 = .error error) :
    error.id = operation.id := by
  unfold apply at failed
  split at failed
  · cases failed
  · exact id_of_applyData_error failed

end Builtin

end RecordFlow.Operation
