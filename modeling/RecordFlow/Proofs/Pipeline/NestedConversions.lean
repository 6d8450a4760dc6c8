import RecordFlow.Proofs.Pipeline.Running
import RecordFlow.Proofs.Script.CallChain

/-!
# Nested conversions

The pipeline of a line that assigns `f(g(...(x)...))` computes what the conversions make of the value at
`x`, the innermost first: `run_nested_conversions`. Every result but the last goes through a field of
the payload, where the next conversion finds it, for it is never null.
-/

namespace RecordFlow.Pipeline

open Script Text Operation

/-! ### Fields between calls -/

def nestedName (k : Nat) : String :=
  if k = 0 then "nested_output" else "nested_output_" ++ toString k

theorem keyChar_of_nestedName (k : Nat) : ∀ c ∈ (nestedName k).toList, isKeyChar c = true := by
  have base : ∀ c ∈ "nested_output".toList, isKeyChar c = true :=
    List.all_eq_true.mp (by decide)
  have long : ∀ c ∈ "nested_output_".toList, isKeyChar c = true :=
    List.all_eq_true.mp (by decide)
  intro c member
  unfold nestedName at member
  split at member
  · exact base c member
  · rw [String.toList_append, List.mem_append] at member
    rcases member with letter | digit
    · exact long c letter
    · rw [Nat.toString_eq_repr, Nat.toList_repr] at digit
      have isDigit := Nat.isDigit_of_mem_toDigits (by decide) (by decide) digit
      simp [isKeyChar, Char.isAlphanum, isDigit]

theorem toList_nestedField (k : Nat) :
    (nestedField k).toList = '$' :: '.' :: (nestedName k).toList := by
  unfold nestedField nestedName
  split
  · rfl
  · rw [String.toList_append, String.toList_append]
    rfl

theorem parse_nestedField (k : Nat) :
    Path.parse (nestedField k) = .ok ⟨.payload, [nestedName k]⟩ := by
  have keyChars := keyChar_of_nestedName k
  have noDot : '.' ∉ (nestedName k).toList := fun member => by cases keyChars _ member
  have nonempty : (nestedName k).toList ≠ [] := by
    unfold nestedName
    split
    · decide
    · rw [String.toList_append]
      simp
  have trimmed : trim (nestedField k).toList = '$' :: '.' :: (nestedName k).toList := by
    rw [toList_nestedField]
    refine trim_eq_self (trimmed_of_noBlank ?_)
    rw [List.forall_mem_cons, List.forall_mem_cons]
    exact ⟨rfl, rfl, fun c member => isBlank_of_keyChar (keyChars c member)⟩
  have groups : Path.Groups .payload [(nestedName k).toList] (trim (nestedField k).toList) :=
    ⟨by rw [trimmed, List.flatMap_singleton]; rfl, List.forall_mem_singleton.mpr noDot⟩
  have full : [] ∉ [(nestedName k).toList] := fun empty => nonempty (List.mem_singleton.mp empty).symm
  rw [Path.parse_of_groups groups, if_neg full, List.map_singleton, String.ofList_toList]

/-- A payload that takes fields: an object, or a null, which becomes one. -/
inductive TakesFields : Json → Prop where
  | null : TakesFields .null
  | object (fields : List (String × Json)) : TakesFields (.object fields)

def withField (name : String) (value : Json) : Json → Json
  | .object fields => .object (Fields.insert name value fields)
  | _ => .object [(name, value)]

/-- The payload with the results of nested calls, of which the first has the number `k`. -/
def withNested (k : Nat) : List Json → Json → Json
  | [], payload => payload
  | value :: rest, payload => withField (nestedName k) value (withNested (k + 1) rest payload)

theorem takesFields_withNested {payload : Json} (takes : TakesFields payload) (k : Nat)
    (results : List Json) : TakesFields (withNested k results payload) := by
  cases results with
  | nil => exact takes
  | cons value rest =>
    rw [withNested]
    unfold withField
    split
    · exact .object _
    · exact .object _

theorem store_nested {payload : Json} (takes : TakesFields payload) (id : String) (metadata : Json)
    (k : Nat) (value : Json) :
    Endpoints.store id (.data payload metadata) ⟨.payload, [nestedName k]⟩ value =
      .ok (.data (withField (nestedName k) value payload) metadata) := by
  cases takes with
  | null => rfl
  | object fields => rfl

theorem valueOrWhole_withField (name : String) {value : Json} (present : value ≠ .null)
    (payload : Json) :
    valueOrWhole ⟨.payload, [name]⟩ (withField name value payload) = value := by
  have resolved : Path.resolve ⟨.payload, [name]⟩ (withField name value payload) = .ok value := by
    unfold withField
    split
    · simp only [Path.resolve, Path.resolveFrom, Path.childAt, Fields.get?_insert_self, ok_bind]
    · simp only [Path.resolve, Path.resolveFrom, Path.childAt, Fields.get?, if_true, ok_bind]
  unfold valueOrWhole
  rw [resolved]
  split
  · rename_i isNull
    cases isNull
    exact absurd rfl present
  · rename_i found
    cases found
    rfl
  · rename_i isError
    cases isError

/-! ### Running -/

/-- The results of calls around an input, the outermost first, or the failure of the innermost that
fails. -/
def results (input : Json) : List NamedConversion → Except Operation.Error (List Json)
  | [] => .ok []
  | call :: rest => do
    let inner ← results input rest
    let value ← call.conversion.evaluate (inner.headD input)
    return value :: inner

theorem run_chainOperations {τ : Type} [Output τ] (source : PlainPath) (onPayload : source.path.root = .payload)
    {target : String} {targetPath : Path} (readsTarget : Path.parse target = .ok targetPath) (k : Nat)
    (first : NamedConversion) (rest : List NamedConversion) :
    ∃ stages : List (Stage Unit τ), Pipeline.build Pipeline.builtinStage
        (chainOperations source.text target k first rest) = .ok stages ∧
      ∀ (sink : τ) payload metadata, TakesFields payload →
        (Pipeline.run sink stages [.data payload metadata]).sink = sink ∧
        (Pipeline.run sink stages [.data payload metadata]).result = do
          let inner ← results (valueOrWhole source.path payload) rest
          let value ← first.conversion.evaluate (inner.headD (valueOrWhole source.path payload))
          let record ← Endpoints.store first.conversion.kind.name
            (.data (withNested k inner payload) metadata) targetPath value
          return [record] := by
  induction rest generalizing first target targetPath k with
  | nil =>
    obtain ⟨stage, built, ran⟩ :=
      Conversion.run_descriptor (τ := τ) source.reads onPayload readsTarget first.conversion
    refine ⟨[stage], ?_, fun sink payload metadata _ => ran sink payload metadata⟩
    rw [chainOperations, Pipeline.build, List.mapM_cons, built, ok_bind]
    rfl
  | cons second rest ih =>
    obtain ⟨stages, built, ran⟩ := ih (parse_nestedField k) (k + 1) second
    obtain ⟨stage, builtStage, ranStage⟩ :=
      Conversion.run_descriptor (τ := τ) (parse_nestedField k) rfl readsTarget first.conversion
    refine ⟨stages ++ [stage], ?_, ?_⟩
    · rw [Pipeline.build] at built
      rw [chainOperations, Pipeline.build, List.mapM_append, built, ok_bind, List.mapM_cons, builtStage]
      rfl
    · intro sink payload metadata takes
      obtain ⟨kept, result⟩ := ran sink payload metadata takes
      obtain ⟨wholeResult, wholeSink⟩ :=
        Pipeline.run_append sink stages [stage] [.data payload metadata]
      rw [result, kept] at wholeResult wholeSink
      rw [wholeResult, wholeSink, results]
      cases results (valueOrWhole source.path payload) rest with
      | error error => exact ⟨rfl, rfl⟩
      | ok inner =>
        simp only [ok_bind]
        cases evaluated : second.conversion.evaluate (inner.headD (valueOrWhole source.path payload)) with
        | error error => exact ⟨rfl, rfl⟩
        | ok value =>
          have present := Conversion.ne_null_of_evaluate evaluated
          have stored := store_nested (takesFields_withNested takes (k + 1) inner)
            second.conversion.kind.name metadata k value
          obtain ⟨kept', result'⟩ := ranStage sink
            (withField (nestedName k) value (withNested (k + 1) inner payload)) metadata
          rw [valueOrWhole_withField _ present] at result'
          simp only [ok_bind, stored, pure_eq_ok] at result' ⊢
          exact ⟨kept', result'⟩

/-- The pipeline of a line that assigns nested conversions of a payload path computes the conversions
one after another, the innermost first, and fails as the first of them that fails. The last value is
stored at the target, in the record that holds the values before it in the fields of their calls. -/
theorem run_nested_conversions {τ : Type} [Output τ] (first : NamedConversion) (rest : List NamedConversion)
    (few : rest.length ≤ maxNesting) (source target : PlainPath)
    (onPayload : source.path.root = .payload) {payload : Json} (takes : TakesFields payload)
    (metadata : Json) (sink : τ) :
    ∃ operations, ∃ stages : List (Stage Unit τ),
      compile (assignmentText source.text target.text (first :: rest)) = .ok operations ∧
      Pipeline.build Pipeline.builtinStage operations = .ok stages ∧
      (Pipeline.run sink stages [.data payload metadata]).sink = sink ∧
      (Pipeline.run sink stages [.data payload metadata]).result = do
        let inner ← results (valueOrWhole source.path payload) rest
        let value ← first.conversion.evaluate (inner.headD (valueOrWhole source.path payload))
        let record ← Endpoints.store first.conversion.kind.name
          (.data (withNested 0 inner payload) metadata) target.path value
        return [record] := by
  obtain ⟨stages, built, ran⟩ := run_chainOperations (τ := τ) source onPayload target.reads 0 first rest
  obtain ⟨kept, result⟩ := ran sink payload metadata takes
  exact ⟨_, stages, compile_assignmentText source target onPayload few, built, kept, result⟩

theorem run_lower_decode : ∃ operations stages,
    compile "$.o = lower(b64decode($.a))" = .ok operations ∧
    Pipeline.build Pipeline.builtinStage operations = .ok stages ∧
    (Pipeline.run ({} : Sink) stages [.data (.object [("a", .string "QUI=")]) .null]).result =
      .ok [.data (.object [("a", .string "QUI="), ("nested_output", .string "AB"),
        ("o", .string "ab")]) .null] := by
  obtain ⟨operations, stages, compiled, built, _, result⟩ := run_nested_conversions
    ⟨"lower", .lowercase, rfl⟩ [⟨"b64decode", .decodeBase64, rfl⟩] (by decide)
    ⟨"$.a", ⟨.payload, ["a"]⟩, rfl, List.all_eq_true.mp (by decide)⟩
    ⟨"$.o", ⟨.payload, ["o"]⟩, rfl, List.all_eq_true.mp (by decide)⟩ rfl
    (.object [("a", .string "QUI=")]) .null ({} : Sink)
  have bytes : Base64.decode (Text.trimmed "QUI=").toUTF8.toList = .ok [65, 66] := by decide +kernel
  have text : String.fromUTF8? ⟨#[65, 66]⟩ = some "AB" := by decide +kernel
  have decoded : Conversion.decodeBase64.evaluate (.string "QUI=") = .ok (.string "AB") := by
    change Except.mapError _ (Builtin.decodeText "QUI=") = _
    unfold Builtin.decodeText Json.ofBytes
    rw [bytes]
    dsimp only
    rw [text]
    rfl
  have input : valueOrWhole ⟨.payload, ["a"]⟩ (.object [("a", .string "QUI=")]) = .string "QUI=" := rfl
  refine ⟨operations, stages, compiled, built, result.trans ?_⟩
  rw [input]
  simp only [results, ok_bind, List.headD_nil, decoded, pure_eq_ok, List.headD_cons]
  rfl

end RecordFlow.Pipeline
