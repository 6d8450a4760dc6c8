import RecordFlow.Proofs.Operation.Effects
import RecordFlow.Proofs.Pipeline.Running

/-!
The builtin operations that turn one value into another: what they compute of a value, apart from where
they find it and where they leave it.
-/

namespace RecordFlow.Operation

inductive Conversion where
  | lowercase
  | decodeBase64
  | gunzip
  deriving DecidableEq, Repr

/-- What an operation takes that reads at a path of the payload: the value there, or the whole payload
if none is there or a null. -/
def valueOrWhole (path : Path) (payload : Json) : Json :=
  match path.resolve payload with
  | .ok .null => payload
  | .ok value => value
  | .error _ => payload

namespace Conversion

def kind : Conversion → Kind
  | lowercase => .lowercaseString
  | decodeBase64 => .decodeBase64
  | gunzip => .decompressGzip

def eval : Conversion → Json → Except BadInput Json
  | lowercase, value => .ok (.string (Text.lowercase (Field.ofTree value).text))
  | decodeBase64, value => Builtin.decodeText (Field.ofTree value).text
  | gunzip, value => Builtin.decompress (Field.ofTree value).bytes

/-- The converted value, or the failure that the operation reports. -/
def evaluate (conversion : Conversion) (value : Json) : Except Error Json :=
  (conversion.eval value).mapError fun reason => ⟨conversion.kind.name, .input reason⟩

def builtin : Conversion → Endpoints → Builtin
  | lowercase => .lowercase
  | decodeBase64 => .decodeBase64
  | gunzip => .gunzip

variable {τ : Type} [Output τ] {conversion : Conversion} {value result : Json}

theorem kind_isBuiltin (conversion : Conversion) : conversion.kind.isBuiltin = true := by
  cases conversion <;> rfl

theorem values_builtin (conversion : Conversion) (endpoints : Endpoints) (value : Json) :
    (conversion.builtin endpoints).values (.ofTree value) = (conversion.eval value).toOption.toList := by
  cases conversion <;> rfl

/-- A conversion never gives a null, which a look-up would take for nothing. -/
theorem ne_null_of_eval (converted : conversion.eval value = .ok result) : result ≠ .null := by
  have made : result ∈ (conversion.builtin ⟨"", none, none⟩).values (.ofTree value) := by
    rw [values_builtin, converted]
    exact List.mem_singleton.mpr rfl
  exact Builtin.ne_null_of_values made

theorem ne_null_of_evaluate (converted : conversion.evaluate value = .ok result) :
    result ≠ .null := by
  unfold evaluate at converted
  cases evaluated : conversion.eval value with
  | error reason => rw [evaluated] at converted; cases converted
  | ok value =>
    rw [evaluated] at converted
    cases converted
    exact ne_null_of_eval evaluated

/-! ### The operation -/

theorem apply_builtin (conversion : Conversion) (endpoints : Endpoints) (sink : τ)
    (payload metadata : Json) :
    (conversion.builtin endpoints).apply sink (.data payload metadata) =
      (Builtin.convert endpoints (.data payload metadata)
        (conversion.eval (endpoints.read (.data payload metadata)).value), sink) := by
  cases conversion <;> rfl

theorem read_value (id : String) (path : Path) (target : Option Path) (onPayload : path.root = .payload)
    (payload metadata : Json) :
    (Endpoints.read ⟨id, some path, target⟩ (.data payload metadata)).value =
      valueOrWhole path payload := by
  have found : (Record.data payload metadata).get path = path.lookup payload := by
    simp only [Record.get, onPayload]
  rw [Endpoints.read]
  simp only [found]
  unfold valueOrWhole Path.lookup
  cases path.resolve payload with
  | error _ => rfl
  | ok value => cases value <;> rfl

/-- The operation that the defaults and two paths make of a conversion: it evaluates what it reads and
stores what that gives. -/
theorem run_descriptor {source target : String} {sourcePath targetPath : Path}
    (readsSource : Path.parse source = .ok sourcePath) (onPayload : sourcePath.root = .payload)
    (readsTarget : Path.parse target = .ok targetPath) (conversion : Conversion) :
    ∃ stage : Stage Unit τ, Pipeline.builtinStage
        ⟨conversion.kind, [("id", .string conversion.kind.name)], some source, some target⟩ =
          .ok stage ∧
      ∀ (sink : τ) payload metadata,
        (Pipeline.run sink [stage] [.data payload metadata]).sink = sink ∧
        (Pipeline.run sink [stage] [.data payload metadata]).result = do
          let value ← conversion.evaluate (valueOrWhole sourcePath payload)
          let record ← Endpoints.store conversion.kind.name (.data payload metadata) targetPath value
          return [record] := by
  have endpoints : Endpoints.ofDescriptor
      ⟨conversion.kind, [("id", .string conversion.kind.name)], some source, some target⟩ =
        .ok ⟨conversion.kind.name, some sourcePath, some targetPath⟩ := by
    unfold Endpoints.ofDescriptor
    simp only [Endpoints.path?, readsSource, readsTarget, ok_bind]
    rfl
  refine ⟨Stage.ofBuiltin
    (conversion.builtin ⟨conversion.kind.name, some sourcePath, some targetPath⟩) (), ?_, ?_⟩
  · have built : Builtin.ofDescriptor
        ⟨conversion.kind, [("id", .string conversion.kind.name)], some source, some target⟩ =
          .ok (conversion.builtin ⟨conversion.kind.name, some sourcePath, some targetPath⟩) := by
      unfold Builtin.ofDescriptor
      rw [endpoints]
      cases conversion <;> rfl
    rw [Pipeline.builtinStage, built]
    rfl
  · intro sink payload metadata
    have applied := apply_builtin conversion
      ⟨conversion.kind.name, some sourcePath, some targetPath⟩ sink payload metadata
    rw [read_value conversion.kind.name sourcePath (some targetPath) onPayload] at applied
    rw [Pipeline.run_cons, Stage.run_singleton]
    simp only [Stage.ofBuiltin, applied]
    unfold Builtin.convert evaluate
    cases conversion.eval (valueOrWhole sourcePath payload) with
    | error reason => exact ⟨rfl, rfl⟩
    | ok value =>
      simp only [Endpoints.write, Except.mapError, ok_bind]
      cases Endpoints.store conversion.kind.name (.data payload metadata) targetPath value with
      | error error => exact ⟨rfl, rfl⟩
      | ok record => exact ⟨rfl, rfl⟩

end Conversion

end RecordFlow.Operation
