import RecordFlow.CommandLine.Execute
import RecordFlow.Proofs.Bytes
import RecordFlow.Proofs.Json.Subtree
import RecordFlow.Proofs.Outcome
import RecordFlow.Proofs.Pipeline.Running

/-!
# Compressed input

Input that begins like a gzip file is not read as JSON: its bytes become the first record, and a decompression is
put in front of the operations. That stage gets the very bytes of the input and leaves what they decompress to as a
first record of its own (`run_decompression`). So a run on the compressed bytes reports what a run on the bytes
themselves does, with one operation more (`compressed_input_is_transparent`).
-/

namespace RecordFlow

open Operation

variable {descriptors : List Descriptor} {stages : List (Stage Unit)} {data packed bytes : ByteArray}

theorem Gzip.isPrefixOf_of_decompress? (member : decompress? packed = some data) :
    magic.isPrefixOf packed.toList = true := by
  obtain ⟨rest, header, -⟩ := Option.bind_eq_some_iff.mp member
  unfold afterHeader? at header
  split at header
  · rename_i begins
    rw [begins]
    rfl
  · cases header

/-! ### The stage that decompresses -/

/-- The stage that is put in front of a pipeline for compressed input. -/
def decompression : Stage Unit := .ofBuiltin (.gunzip ⟨Kind.decompressGzip.name, none, none⟩) ()

theorem run_decompression (member : Gzip.decompress? packed = some data) (sink : Sink) :
    decompression.run sink [.ofBytes packed] = ⟨.ok [.ofBytes data], decompression, sink⟩ := by
  have reads : (Endpoints.read ⟨Kind.decompressGzip.name, none, none⟩ (.ofBytes packed)).bytes = packed :=
    Json.toBytes_ofBytes packed
  have decompressed : Builtin.decompress packed = .ok (.ofBytes data) := by
    rw [Builtin.decompress, member]
  have stepped : decompression.step decompression.state sink (.ofBytes packed) =
      (.ok [.ofBytes data], (), sink) := by
    change ((Builtin.convert ⟨Kind.decompressGzip.name, none, none⟩ (.ofBytes packed)
      (Builtin.decompress (Endpoints.read ⟨Kind.decompressGzip.name, none, none⟩ (.ofBytes packed)).bytes)),
      (), sink) = _
    rw [reads, decompressed]
    rfl
  rw [Stage.run_singleton, stepped]

theorem Pipeline.build_withDecompression (built : build builtinStage descriptors = .ok stages)
    (first : ∀ descriptor, descriptors.head? = some descriptor → descriptor.kind ≠ .decompressGzip) :
    build builtinStage (CommandLine.withDecompression descriptors) = .ok (decompression :: stages) := by
  have inserted : CommandLine.withDecompression descriptors =
      ⟨.decompressGzip, [], none, none⟩ :: descriptors := by
    cases descriptors with
    | nil => rfl
    | cons descriptor rest =>
      have other := first descriptor rfl
      simp only [CommandLine.withDecompression, if_neg other]
  have one : builtinStage ⟨.decompressGzip, [], none, none⟩ = .ok decompression := rfl
  rw [build] at built ⊢
  rw [inserted, List.mapM_cons, one, ok_bind, built]
  rfl

namespace CommandLine

/-! ### What a run reports -/

/-- What a run through so many operations prints and reports: the number of records, or the failure. -/
def report {α : Type} (operations : Nat) (run : Run α) : Outcome :=
  match run.result with
  | .ok records => ⟨0, run.sink.printed, doneText records.length operations⟩
  | .error error => ⟨1, run.sink.printed, ((Failure.ofOperation error).during "Pipeline failed").text⟩

theorem runPipeline_eq_report {gzip : Bool}
    (built : Pipeline.build Pipeline.builtinStage
      (if gzip || isGzip bytes then withDecompression descriptors else descriptors) = .ok stages) :
    runPipeline descriptors gzip bytes =
      report stages.length (Pipeline.run ({} : Sink) stages [firstRecord (isGzip bytes) bytes]) := by
  cases ran : (Pipeline.run ({} : Sink) stages [firstRecord (isGzip bytes) bytes]).result with
  | ok records => simp only [runPipeline, built, report, ran]
  | error error => simp only [runPipeline, built, report, ran]

/-- The bytes are on the standard input, or in the file that the options name. -/
def Surroundings.Gives (surroundings : Surroundings) (options : RunOptions) (bytes : ByteArray) : Prop :=
  match options.input with
  | none => surroundings.input = bytes
  | some path => surroundings.file path = .ok bytes

theorem execute_run {surroundings : Surroundings} {options : RunOptions}
    (loaded : runDescriptors surroundings options = .ok descriptors)
    (given : surroundings.Gives options bytes) (nonempty : bytes.isEmpty = false) :
    (Command.run options).execute surroundings = runPipeline descriptors options.gzip bytes := by
  have input : runInput surroundings options = .ok bytes := by
    unfold Surroundings.Gives at given
    unfold runInput
    cases named : options.input with
    | none =>
      rw [named] at given
      subst given
      simp [nonempty, pure_eq_ok, ok_bind]
    | some path =>
      rw [named] at given
      simp [given, nonempty, Except.mapError, pure_eq_ok, ok_bind]
  simp only [Command.execute, loaded, input]

theorem isEmpty_of_isGzip (compressed : isGzip bytes = true) : bytes.isEmpty = false := by
  rw [isGzip, Json.toList_eq_data] at compressed
  by_contra empty
  have none : bytes.size = 0 := by simpa [ByteArray.isEmpty] using empty
  have nothing : bytes.data.toList = [] := List.length_eq_zero_iff.mp none
  rw [nothing] at compressed
  cases compressed

theorem firstRecord_of_bare
    (bare : ∀ text tree, String.fromUTF8? data = some text → Json.ofText? text = some tree →
      tree.isContainer = false) : firstRecord false data = .ofBytes data := by
  unfold firstRecord
  split
  · rename_i compressed
    cases compressed
  · split
    · rename_i fields read
      obtain ⟨text, decoded, parsed⟩ := Option.bind_eq_some_iff.mp read
      have container := bare text _ decoded parsed
      cases container
    · rename_i items read
      obtain ⟨text, decoded, parsed⟩ := Option.bind_eq_some_iff.mp read
      have container := bare text _ decoded parsed
      cases container
    · rfl

/-- Compressed bytes are taken like the bytes they hold: a run on them prints the same and ends with the same
failure or with as many records. Only the number of operations that it reports is greater by one. -/
theorem compressed_input_is_transparent
    (built : Pipeline.build Pipeline.builtinStage descriptors = .ok stages)
    (first : ∀ descriptor, descriptors.head? = some descriptor → descriptor.kind ≠ .decompressGzip)
    (nonempty : data.isEmpty = false) (uncompressed : isGzip data = false)
    (bare : ∀ text tree, String.fromUTF8? data = some text → Json.ofText? text = some tree →
      tree.isContainer = false)
    (member : Gzip.decompress? packed = some data) :
    let run := Pipeline.run ({} : Sink) stages [.ofBytes data]
    (∀ gzip, runPipeline descriptors gzip packed = report (descriptors.length + 1) run) ∧
      runPipeline descriptors false data = report descriptors.length run ∧
      ∀ surroundings options, runDescriptors surroundings options = .ok descriptors →
        (surroundings.Gives options packed →
          (Command.run options).execute surroundings = report (descriptors.length + 1) run) ∧
        (surroundings.Gives options data → options.gzip = false →
          (Command.run options).execute surroundings = report descriptors.length run) := by
  intro run
  have length : descriptors.length = stages.length := (mapM_eq_ok_iff.mp built).length_eq
  have compressed : isGzip packed = true := Gzip.isPrefixOf_of_decompress? member
  have onPacked (gzip : Bool) :
      runPipeline descriptors gzip packed = report (descriptors.length + 1) run := by
    have decompresses := Pipeline.build_withDecompression built first
    have inserted : Pipeline.build Pipeline.builtinStage
        (if gzip || isGzip packed then withDecompression descriptors else descriptors) =
          .ok (decompression :: stages) := by
      rw [compressed, Bool.or_true, if_pos rfl, decompresses]
    rw [runPipeline_eq_report inserted, compressed, firstRecord, if_pos rfl, Pipeline.run_cons,
      run_decompression member, length]
    rfl
  have onData : runPipeline descriptors false data = report descriptors.length run := by
    have kept : Pipeline.build Pipeline.builtinStage
        (if false || isGzip data then withDecompression descriptors else descriptors) = .ok stages := by
      rw [uncompressed]
      exact built
    rw [runPipeline_eq_report kept, uncompressed, firstRecord_of_bare bare, length]
  refine ⟨onPacked, onData, ?_⟩
  intro surroundings options loaded
  constructor
  · intro given
    rw [execute_run loaded given (isEmpty_of_isGzip compressed), onPacked]
  · intro given switchedOff
    rw [execute_run loaded given nonempty, switchedOff, onData]

/-- Two bytes that are no text, in a stored block, on the standard input of the default pipeline. -/
theorem compressed_input_is_transparent_bytes :
    ∃ packed data : ByteArray,
      packed = ⟨#[31, 139, 8, 0, 0, 0, 0, 0, 0, 255, 1, 2, 0, 253, 255, 255, 65, 139, 158, 38, 211, 2, 0, 0, 0]⟩ ∧
      data = ⟨#[255, 65]⟩ ∧ Gzip.decompress? packed = some data ∧
      (Command.run { gzip := true }).execute ⟨fun _ => .error "", packed⟩ =
        ⟨0, "[255,65]\n", "done: 1 record(s) from 3 operation(s)\n"⟩ ∧
      (Command.run {}).execute ⟨fun _ => .error "", data⟩ =
        ⟨0, "[255,65]\n", "done: 1 record(s) from 2 operation(s)\n"⟩ := by
  have compiled : Script.compile defaultScript = .ok
      [⟨.splitString, [("id", .string "split_string"), ("separator", .string "\n")], none, none⟩,
        ⟨.sendStdout, [("id", .string "send_stdout")], none, none⟩] := by
    simp only [defaultScript, Script.compile, String.reduceToList]
    rfl
  have built : Pipeline.build Pipeline.builtinStage
      [⟨.splitString, [("id", .string "split_string"), ("separator", .string "\n")], none, none⟩,
        ⟨.sendStdout, [("id", .string "send_stdout")], none, none⟩] =
      .ok [Stage.ofBuiltin (.split ⟨"split_string", none, none⟩ '\n' []) (),
        Stage.ofBuiltin (.print ⟨"send_stdout", none, none⟩) ()] := rfl
  have member : Gzip.decompress?
      ⟨#[31, 139, 8, 0, 0, 0, 0, 0, 0, 255, 1, 2, 0, 253, 255, 255, 65, 139, 158, 38, 211, 2, 0, 0, 0]⟩ =
        some ⟨#[255, 65]⟩ := by decide +kernel
  have undecoded : String.fromUTF8? ⟨#[255, 65]⟩ = none := by decide +kernel
  have loaded (input : ByteArray) (gzip : Bool) :
      runDescriptors ⟨fun _ => .error "", input⟩ { gzip := gzip } = .ok
        [⟨.splitString, [("id", .string "split_string"), ("separator", .string "\n")], none, none⟩,
          ⟨.sendStdout, [("id", .string "send_stdout")], none, none⟩] := by
    simp only [runDescriptors, compiled, Except.mapError]
  obtain ⟨-, -, commands⟩ := compressed_input_is_transparent built (by simp) rfl (by decide +kernel)
    (by simp [undecoded]) member
  refine ⟨_, _, rfl, rfl, member, ?_, ?_⟩
  · rw [(commands _ _ (loaded _ true)).1 rfl]
    decide +kernel
  · rw [(commands _ _ (loaded _ false)).2 rfl rfl]
    decide +kernel

end CommandLine

end RecordFlow
