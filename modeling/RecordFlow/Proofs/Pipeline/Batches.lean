import RecordFlow.Proofs.Operation.Lines
import RecordFlow.Proofs.Pipeline.Running

/-!
# Batches taken apart

Builtin operations keep nothing from one record to the next, so what they make of a batch is what they make
of its parts. `Makes` tells what a row of operations makes of a batch and which lines it writes, without a
sink; a run goes through exactly if there is such an account and the sink takes its lines (`makes_of_run`,
`run_of_makes`). Accounts of two batches join to one of both (`Makes.append`), and one of both comes apart
(`Makes.split`), where only the order of the lines is another. `run_append_batch` draws the conclusion.
-/

namespace RecordFlow

open Operation

/-! ### One operation -/

namespace Operation.Builtin

variable {operation : Builtin} {first second produced : List Record} {lines : List String}

/-- What an operation makes of the records of a batch, and the lines it writes. -/
inductive Yields (operation : Builtin) : List Record → List Record → List String → Prop where
  | nothing : Yields operation [] [] []
  | record {record : Record} {rest made others : List Record} {lines : List String}
      (one : operation.successors record = .ok made) (later : Yields operation rest others lines) :
      Yields operation (record :: rest) (made ++ others) (operation.lines record ++ lines)

theorem Yields.append {one two : List Record} {more : List String} (early : operation.Yields first one lines)
    (late : operation.Yields second two more) :
    operation.Yields (first ++ second) (one ++ two) (lines ++ more) := by
  induction early with
  | nothing => exact late
  | record made _ ih =>
    rw [List.append_assoc, List.append_assoc]
    exact .record made ih

theorem Yields.split (whole : operation.Yields (first ++ second) produced lines) :
    ∃ one two early late, operation.Yields first one early ∧ operation.Yields second two late ∧
      produced = one ++ two ∧ lines = early ++ late := by
  induction first generalizing produced lines with
  | nil => exact ⟨[], produced, [], lines, .nothing, whole, rfl, rfl⟩
  | cons record rest ih =>
    cases whole with
    | @record _ _ made _ _ successors later =>
      obtain ⟨one, two, early, late, before, after, rfl, rfl⟩ := ih later
      exact ⟨made ++ one, two, operation.lines record ++ early, late, .record successors before, after,
        (List.append_assoc ..).symm, (List.append_assoc ..).symm⟩

theorem Yields.exists_origin {batch : List Record} {record : Record}
    (account : operation.Yields batch produced lines) (member : record ∈ produced) :
    ∃ origin ∈ batch, ∃ made, operation.successors origin = .ok made ∧ record ∈ made := by
  induction account with
  | nothing => cases member
  | @record first _ made _ _ one _ ih =>
    obtain here | later := List.mem_append.mp member
    · exact ⟨first, List.mem_cons_self, made, one, here⟩
    · obtain ⟨origin, held, rest⟩ := ih later
      exact ⟨origin, List.mem_cons_of_mem first held, rest⟩

end Operation.Builtin

namespace Stage

variable {τ : Type} [Output τ] {operation : Builtin} {sink final : τ} {batch produced : List Record}
  {lines : List String} {reason : String}

theorem step_ofBuiltin {record : Record} {outcome : Except Error (List Record)} {next : τ}
    (applied : operation.apply sink record = (outcome, next)) (state : Unit) :
    (ofBuiltin operation ()).step state sink record = (outcome, (), next) := by
  simp only [ofBuiltin, applied]

theorem yields_of_run (through : ((ofBuiltin operation ()).run sink batch).result = .ok produced) :
    ∃ lines, operation.Yields batch produced lines ∧
      Output.writeAll sink lines = .ok ((ofBuiltin operation ()).run sink batch).sink := by
  induction batch generalizing sink produced with
  | nil =>
    cases through
    exact ⟨[], .nothing, rfl⟩
  | cons record rest ih =>
    rcases applied : operation.apply sink record with ⟨outcome, next⟩
    cases outcome with
    | error error =>
      rw [run_cons_error (step_ofBuiltin applied ())] at through
      cases through
    | ok made =>
      rw [run_cons_ok (step_ofBuiltin applied ())] at through ⊢
      obtain ⟨others, later, rfl⟩ := map_eq_ok_iff.mp through
      obtain ⟨lines, account, taken⟩ := ih later
      obtain ⟨successors, written⟩ := Builtin.apply_eq_ok_iff.mp applied
      refine ⟨_, .record successors account, ?_⟩
      rw [Output.writeAll_append, written]
      exact taken

theorem run_of_yields (account : operation.Yields batch produced lines)
    (taken : Output.writeAll sink lines = .ok final) :
    ((ofBuiltin operation ()).run sink batch).result = .ok produced ∧
      ((ofBuiltin operation ()).run sink batch).sink = final := by
  induction account generalizing sink with
  | nothing =>
    cases taken
    exact ⟨rfl, rfl⟩
  | record successors _ ih =>
    rw [Output.writeAll_append] at taken
    obtain ⟨next, written, taken⟩ := bind_eq_ok_iff.mp taken
    have applied := Builtin.apply_eq_ok_iff.mpr ⟨successors, written⟩
    obtain ⟨others, left⟩ := ih taken
    rw [run_cons_ok (step_ofBuiltin applied ())]
    exact ⟨map_eq_ok_iff.mpr ⟨_, others, rfl⟩, left⟩

theorem run_of_refused (account : operation.Yields batch produced lines)
    (refused : Output.writeAll sink lines = .error reason) :
    ((ofBuiltin operation ()).run sink batch).result = .error ⟨operation.id, .output reason⟩ := by
  induction account generalizing sink with
  | nothing => cases refused
  | @record record _ _ _ _ successors _ ih =>
    rw [Output.writeAll_append] at refused
    obtain here | ⟨next, written, later⟩ := bind_eq_error_iff.mp refused
    · have applied : operation.apply sink record = (.error ⟨operation.id, .output reason⟩, sink) := by
        rw [Builtin.apply_eq, here]
      rw [run_cons_error (step_ofBuiltin applied ())]
    · have applied := Builtin.apply_eq_ok_iff.mpr ⟨successors, written⟩
      rw [run_cons_ok (step_ofBuiltin applied ())]
      exact map_eq_error_iff.mpr (ih later)

end Stage

/-! ### A row of operations -/

namespace Pipeline

variable {τ : Type} [Output τ] {operations : List Builtin} {sink final : τ}
  {batch first second produced : List Record} {lines : List String} {reason : String}
  {descriptors : List Descriptor} {stages : List (Stage Unit τ)}

/-- What a row of operations makes of a batch, one operation after another, and the lines they write. -/
inductive Makes : List Builtin → List Record → List Record → List String → Prop where
  | done (batch : List Record) : Makes [] batch batch []
  | stage {operation : Builtin} {operations : List Builtin} {batch middle produced : List Record}
      {lines others : List String} (one : operation.Yields batch middle lines)
      (later : Makes operations middle produced others) :
      Makes (operation :: operations) batch produced (lines ++ others)

theorem Makes.append {one two : List Record} {more : List String} (early : Makes operations first one lines)
    (late : Makes operations second two more) :
    ∃ all, Makes operations (first ++ second) (one ++ two) all := by
  induction early generalizing second two more with
  | done batch =>
    cases late
    exact ⟨[], .done _⟩
  | stage yields _ ih =>
    cases late with
    | stage other later =>
      obtain ⟨all, made⟩ := ih later
      exact ⟨_, .stage (yields.append other) made⟩

/-- The lines of the parts are those of the whole, but the whole has the operations in turn. -/
theorem Makes.split (whole : Makes operations (first ++ second) produced lines) :
    ∃ one two early late, Makes operations first one early ∧ Makes operations second two late ∧
      produced = one ++ two ∧ lines.Perm (early ++ late) := by
  induction operations generalizing first second lines with
  | nil =>
    cases whole
    exact ⟨first, second, [], [], .done first, .done second, rfl, .refl _⟩
  | cons operation operations ih =>
    cases whole with
    | stage yields later =>
      obtain ⟨one, two, early, late, before, after, rfl, rfl⟩ := yields.split
      obtain ⟨last, other, others, more, makes, makesOther, rfl, perm⟩ := ih later
      refine ⟨last, other, early ++ others, late ++ more, .stage before makes, .stage after makesOther,
        rfl, List.perm_iff_count.mpr fun line => ?_⟩
      -- an operation writes for both parts before the next one does, so only the numbers of lines agree
      have count := perm.count_eq line
      simp only [List.count_append] at count ⊢
      omega

/-- The stages of operations. -/
def stagesOf (operations : List Builtin) : List (Stage Unit τ) := operations.map (Stage.ofBuiltin · ())

theorem makes_of_run (through : (run sink (stagesOf operations) batch).result = .ok produced) :
    ∃ lines, Makes operations batch produced lines ∧
      Output.writeAll sink lines = .ok (run sink (stagesOf operations) batch).sink := by
  induction operations generalizing sink batch with
  | nil =>
    cases through
    exact ⟨[], .done _, rfl⟩
  | cons operation operations ih =>
    rw [stagesOf, List.map_cons, run_cons] at through ⊢
    cases result : ((Stage.ofBuiltin operation ()).run sink batch).result with
    | error error =>
      rw [result] at through
      cases through
    | ok middle =>
      rw [result] at through
      obtain ⟨lines, yields, written⟩ := Stage.yields_of_run result
      obtain ⟨others, later, taken⟩ := ih through
      refine ⟨lines ++ others, .stage yields later, ?_⟩
      rw [Output.writeAll_append, written]
      exact taken

theorem run_of_makes (account : Makes operations batch produced lines)
    (taken : Output.writeAll sink lines = .ok final) :
    (run sink (stagesOf operations) batch).result = .ok produced ∧
      (run sink (stagesOf operations) batch).sink = final := by
  induction account generalizing sink with
  | done batch =>
    cases taken
    exact ⟨rfl, rfl⟩
  | stage yields _ ih =>
    rw [Output.writeAll_append] at taken
    obtain ⟨next, written, taken⟩ := bind_eq_ok_iff.mp taken
    obtain ⟨result, left⟩ := Stage.run_of_yields yields written
    rw [stagesOf, List.map_cons, run_cons, result, left]
    exact ih taken

theorem run_of_makes_refused (account : Makes operations batch produced lines)
    (refused : Output.writeAll sink lines = .error reason) :
    ∃ id, (run sink (stagesOf operations) batch).result = .error ⟨id, .output reason⟩ := by
  induction account generalizing sink with
  | done batch => cases refused
  | @stage operation _ _ _ _ _ _ yields _ ih =>
    rw [Output.writeAll_append] at refused
    rw [stagesOf, List.map_cons, run_cons]
    obtain here | ⟨next, written, later⟩ := bind_eq_error_iff.mp refused
    · rw [Stage.run_of_refused yields here]
      exact ⟨operation.id, rfl⟩
    · obtain ⟨result, left⟩ := Stage.run_of_yields yields written
      rw [result, left]
      exact ih later

/-- The operations that are built are the same for every sink. -/
theorem build_eq_ok_iff :
    build builtinStage descriptors = .ok stages ↔
      ∃ operations, descriptors.mapM Builtin.ofDescriptor = .ok operations ∧ stagesOf operations = stages := by
  rw [build, mapM_eq_ok_iff]
  constructor
  · intro each
    induction each with
    | nil => exact ⟨[], rfl, rfl⟩
    | cons one _ ih =>
      obtain ⟨operation, made, rfl⟩ := map_eq_ok_iff.mp one
      obtain ⟨operations, others, rfl⟩ := ih
      exact ⟨operation :: operations, mapM_eq_ok_iff.mpr (.cons made (mapM_eq_ok_iff.mp others)), rfl⟩
  · rintro ⟨operations, made, rfl⟩
    rw [stagesOf, List.forall₂_map_right_iff]
    exact (mapM_eq_ok_iff.mp made).imp fun _ _ one => map_eq_ok_iff.mpr ⟨_, one, rfl⟩

/-- On sinks that accept every text a run through both parts of a batch goes through exactly if the runs
through the parts do, and its result is theirs in a row. -/
theorem run_append_batch
    (built : build builtinStage descriptors = .ok stages) {sink sinkFirst sinkSecond : τ}
    (accepts : Output.AcceptsAll sink) (acceptsFirst : Output.AcceptsAll sinkFirst)
    (acceptsSecond : Output.AcceptsAll sinkSecond) (first second produced : List Record) :
    (run sink stages (first ++ second)).result = .ok produced ↔
      ∃ one two, (run sinkFirst stages first).result = .ok one ∧
        (run sinkSecond stages second).result = .ok two ∧ produced = one ++ two := by
  obtain ⟨operations, -, rfl⟩ := build_eq_ok_iff.mp built
  constructor
  · intro through
    obtain ⟨lines, whole, -⟩ := makes_of_run through
    obtain ⟨one, two, early, late, before, after, joined, -⟩ := whole.split
    obtain ⟨_, takenFirst⟩ := acceptsFirst early
    obtain ⟨_, takenSecond⟩ := acceptsSecond late
    exact ⟨one, two, (run_of_makes before takenFirst).1, (run_of_makes after takenSecond).1, joined⟩
  · rintro ⟨one, two, before, after, rfl⟩
    obtain ⟨early, makesOne, -⟩ := makes_of_run before
    obtain ⟨late, makesTwo, -⟩ := makes_of_run after
    obtain ⟨lines, whole⟩ := makesOne.append makesTwo
    obtain ⟨_, taken⟩ := accepts lines
    exact (run_of_makes whole taken).1

/-- One record of the first part has two successors, one of the second part none. -/
theorem run_append_batch_split :
    ∃ stages, build builtinStage [⟨.splitString, [], none, none⟩, ⟨.sendStdout, [], none, none⟩] =
        .ok stages ∧
      Output.AcceptsAll (⟨"earlier\n", none⟩ : Sink) ∧
      (run (⟨"earlier\n", none⟩ : Sink) stages
        ([.data (.string "a\nb") .null] ++ [.data (.string "\n") .null, .control])).result =
          .ok ([.data (.string "a") .null, .data (.string "b") .null] ++ [.control]) := by
  have accepts (printed : String) : Output.AcceptsAll (⟨printed, none⟩ : Sink) :=
    Sink.acceptsAll_of_boundless rfl
  have built : build builtinStage [⟨.splitString, [], none, none⟩, ⟨.sendStdout, [], none, none⟩] =
      .ok [Stage.ofBuiltin (.split ⟨"split_string", none, none⟩ '\n' []) (),
        Stage.ofBuiltin (.print ⟨"send_stdout", none, none⟩) ()] := rfl
  refine ⟨_, built, accepts _, ?_⟩
  refine (run_append_batch built (accepts _) (accepts "") (accepts "a\nb\n") _ _ _).mpr
    ⟨_, _, ?_, ?_, rfl⟩
  · cbv
  · cbv

end Pipeline

end RecordFlow
