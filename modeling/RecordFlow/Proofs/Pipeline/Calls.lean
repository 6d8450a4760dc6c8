import RecordFlow.Proofs.Operation.Lines
import RecordFlow.Proofs.Operation.Naming
import RecordFlow.Proofs.Pipeline.Running

/-!
# The calls of a run

A journal holds, for every stage of a run, the calls it makes, in order. A run that fails is cut at one call of
one stage (`FailsAt`): the stages before have taken all that there was to take, this one has taken the records up to
the one it fails on, the later ones nothing, and the sink is as these calls leave it. `runs_stage_by_stage`
states this, beside the cut of a run between two rows of stages.
-/

namespace RecordFlow

open Operation

/-- A call of a stage: the record it takes, what comes of it, and the sink before and after. -/
structure Call (τ : Type) where
  record : Record
  result : Except Error (List Record)
  before : τ
  after : τ

namespace Call

variable {τ : Type}

def Passes (call : Call τ) : Prop := ∃ records, call.result = .ok records

/-- The successors of the record; none if the call fails. -/
def produced (call : Call τ) : List Record := call.result.toOption.getD []

/-- What the call did to the sink is writing these lines. -/
def Wrote [Output τ] (call : Call τ) (lines : List String) : Prop :=
  Output.writeAll call.before lines = .ok call.after

end Call

variable {σ τ : Type} {stage last : Stage σ τ} {sink next final : τ} {batch produced : List Record}
  {error : Error} {calls : List (Call τ)} {journal : List (List (Call τ))}

/-! ### Calls of one stage -/

namespace Stage

/-- The stage makes the calls one after another, each in the state and on the sink that the one before left. -/
inductive Calls : Stage σ τ → τ → List (Call τ) → Stage σ τ → τ → Prop where
  | none (stage : Stage σ τ) (sink : τ) : Calls stage sink [] stage sink
  | call {stage last : Stage σ τ} {sink next final : τ} {record : Record}
      {result : Except Error (List Record)} {state : σ} {calls : List (Call τ)}
      (stepped : stage.step stage.state sink record = (result, state, next))
      (others : Calls { stage with state } next calls last final) :
      Calls stage sink (⟨record, result, sink, next⟩ :: calls) last final

theorem calls_of_run_ok (through : (stage.run sink batch).result = .ok produced) :
    ∃ calls, Calls stage sink calls (stage.run sink batch).ran (stage.run sink batch).sink ∧
      calls.map Call.record = batch ∧ (∀ call ∈ calls, call.Passes) ∧
      calls.flatMap Call.produced = produced := by
  induction batch generalizing stage sink produced with
  | nil =>
    cases through
    exact ⟨[], .none stage sink, rfl, List.forall_mem_nil _, rfl⟩
  | cons record rest ih =>
    rcases stepped : stage.step stage.state sink record with ⟨outcome, state, next⟩
    cases outcome with
    | error error =>
      rw [run_cons_error stepped] at through
      cases through
    | ok made =>
      rw [run_cons_ok stepped] at through ⊢
      obtain ⟨others, later, rfl⟩ := map_eq_ok_iff.mp through
      obtain ⟨calls, taken, records, pass, rfl⟩ := ih later
      refine ⟨⟨record, .ok made, sink, next⟩ :: calls, .call stepped taken, ?_, ?_, rfl⟩
      · rw [List.map_cons, records]
      · exact List.forall_mem_cons.mpr ⟨⟨made, rfl⟩, pass⟩

theorem calls_of_run_error (failed : (stage.run sink batch).result = .error error) :
    ∃ passed call,
      Calls stage sink (passed ++ [call]) (stage.run sink batch).ran (stage.run sink batch).sink ∧
      (passed ++ [call]).map Call.record <+: batch ∧ (∀ call ∈ passed, call.Passes) ∧
      call.result = .error error := by
  induction batch generalizing stage sink with
  | nil => cases failed
  | cons record rest ih =>
    rcases stepped : stage.step stage.state sink record with ⟨outcome, state, next⟩
    cases outcome with
    | error fault =>
      rw [run_cons_error stepped] at failed ⊢
      cases failed
      refine ⟨[], ⟨record, .error error, sink, next⟩, .call stepped (.none _ next), ?_,
        List.forall_mem_nil _, rfl⟩
      exact List.prefix_append [record] rest
    | ok made =>
      rw [run_cons_ok stepped] at failed ⊢
      obtain ⟨passed, call, taken, records, pass, failure⟩ := ih (map_eq_error_iff.mp failed)
      refine ⟨⟨record, .ok made, sink, next⟩ :: passed, call, .call stepped taken, ?_, ?_, failure⟩
      · exact (List.prefix_cons_inj record).mpr records
      · exact List.forall_mem_cons.mpr ⟨⟨made, rfl⟩, pass⟩

theorem Calls.writeAll [Output τ] {lines : Call τ → List String} (made : Calls stage sink calls last final)
    (wrote : ∀ call ∈ calls, call.Wrote (lines call)) :
    Output.writeAll sink (calls.flatMap lines) = .ok final := by
  induction made with
  | none stage sink => rfl
  | call stepped others ih =>
    obtain ⟨first, later⟩ := List.forall_mem_cons.mp wrote
    rw [List.flatMap_cons, Output.writeAll_append, first, ok_bind, ih later]

theorem Calls.stepped {call : Call τ} (made : Calls stage sink calls last final) (member : call ∈ calls) :
    ∃ before after, stage.step before call.before call.record = (call.result, after, call.after) := by
  induction made with
  | none stage sink => cases member
  | @call stage _ _ _ _ _ _ state _ stepped others ih =>
    obtain rfl | later := List.mem_cons.mp member
    · exact ⟨stage.state, state, stepped⟩
    · exact ih later

end Stage

/-! ### Calls of a row of stages -/

namespace Pipeline

variable {stages left : List (Stage σ τ)}

/-- The stages make their calls in turn, one list of calls for each stage. -/
inductive Calls : List (Stage σ τ) → τ → List (List (Call τ)) → List (Stage σ τ) → τ → Prop where
  | none (sink : τ) : Calls [] sink [] [] sink
  | stage {stage last : Stage σ τ} {stages left : List (Stage σ τ)} {sink next final : τ}
      {calls : List (Call τ)} {journal : List (List (Call τ))} (first : stage.Calls sink calls last next)
      (others : Calls stages next journal left final) :
      Calls (stage :: stages) sink (calls :: journal) (last :: left) final

/-- The batch that stage `k` takes: the whole one, or what the stage before has made. -/
def inputOf (batch : List Record) (journal : List (List (Call τ))) : Nat → List Record
  | 0 => batch
  | k + 1 => (journal.getD k []).flatMap Call.produced

/-- The journal of a run that stage `k` ends with an error, on the record at `i` of its batch. -/
structure FailsAt (batch : List Record) (journal : List (List (Call τ))) (k i : Nat) (error : Error) :
    Prop where
  whole : ∀ j < k, ∃ calls, journal[j]? = some calls ∧ calls.map Call.record = inputOf batch journal j ∧
    ∀ call ∈ calls, call.Passes
  here : ∃ passed call, journal[k]? = some (passed ++ [call]) ∧ passed.length = i ∧
    (passed ++ [call]).map Call.record <+: inputOf batch journal k ∧ (∀ call ∈ passed, call.Passes) ∧
    call.result = .error error
  idle : ∀ j, k < j → ∀ calls, journal[j]? = some calls → calls = []

theorem calls_idle (stages : List (Stage σ τ)) (sink : τ) :
    Calls stages sink (List.replicate stages.length []) stages sink := by
  induction stages with
  | nil => exact .none sink
  | cons stage rest ih => exact .stage (.none stage sink) ih

theorem inputOf_cons (batch : List Record) (calls : List (Call τ)) (journal : List (List (Call τ))) (k : Nat) :
    inputOf batch (calls :: journal) (k + 1) = inputOf (calls.flatMap Call.produced) journal k := by
  cases k <;> rfl

/-- The stages before the one that fails only shift its number. -/
theorem FailsAt.cons {k i : Nat} (records : calls.map Call.record = batch)
    (pass : ∀ call ∈ calls, call.Passes)
    (fails : FailsAt (calls.flatMap Call.produced) journal k i error) :
    FailsAt batch (calls :: journal) (k + 1) i error where
  whole := by
    intro j before
    cases j with
    | zero => exact ⟨calls, rfl, records, pass⟩
    | succ j =>
      rw [inputOf_cons]
      exact fails.whole j (Nat.lt_of_succ_lt_succ before)
  here := by
    rw [inputOf_cons]
    exact fails.here
  idle := by
    intro j after calls entry
    cases j with
    | zero => cases after
    | succ j => exact fails.idle j (Nat.lt_of_succ_lt_succ after) calls entry

theorem failsAt_first {passed : List (Call τ)} {call : Call τ}
    (records : (passed ++ [call]).map Call.record <+: batch) (pass : ∀ call ∈ passed, call.Passes)
    (failure : call.result = .error error) (idle : Nat) :
    FailsAt batch ((passed ++ [call]) :: List.replicate idle []) 0 passed.length error where
  whole := fun j before => absurd before (Nat.not_lt_zero j)
  here := ⟨passed, call, rfl, rfl, records, pass, failure⟩
  idle := by
    intro j after calls entry
    cases j with
    | zero => cases after
    | succ j => exact List.eq_of_mem_replicate (List.mem_of_getElem? entry)

theorem calls_of_run_error (failed : (run sink stages batch).result = .error error) :
    ∃ journal k i, Calls stages sink journal (run sink stages batch).ran (run sink stages batch).sink ∧
      FailsAt batch journal k i error := by
  induction stages generalizing sink batch with
  | nil => cases failed
  | cons stage rest ih =>
    rw [run_cons] at failed ⊢
    cases first : (stage.run sink batch).result with
    | error fault =>
      rw [first] at failed
      cases failed
      -- cut here: what is left of the row stays idle
      obtain ⟨passed, call, taken, records, pass, failure⟩ := Stage.calls_of_run_error first
      exact ⟨_, 0, passed.length, .stage taken (calls_idle rest _),
        failsAt_first records pass failure rest.length⟩
    | ok middle =>
      rw [first] at failed
      obtain ⟨calls, taken, records, pass, rfl⟩ := Stage.calls_of_run_ok first
      obtain ⟨journal, k, i, others, fails⟩ := ih failed
      exact ⟨calls :: journal, k + 1, i, .stage taken others, fails.cons records pass⟩

theorem Calls.writeAll [Output τ] {lines : Call τ → List String} (made : Calls stages sink journal left final)
    (wrote : ∀ call ∈ journal.flatten, call.Wrote (lines call)) :
    Output.writeAll sink (journal.flatten.flatMap lines) = .ok final := by
  induction made with
  | none sink => rfl
  | stage first others ih =>
    rw [List.flatten_cons] at wrote ⊢
    obtain ⟨early, late⟩ := List.forall_mem_append.mp wrote
    rw [List.flatMap_append, Output.writeAll_append, first.writeAll early, ok_bind, ih late]

theorem Calls.stepped {k : Nat} {call : Call τ} (made : Calls stages sink journal left final)
    (entry : journal[k]? = some calls) (member : call ∈ calls) :
    ∃ stage before after, stages[k]? = some stage ∧
      stage.step before call.before call.record = (call.result, after, call.after) := by
  induction made generalizing k with
  | none sink => cases entry
  | @stage stage _ _ _ _ _ _ _ _ first others ih =>
    cases k with
    | zero =>
      cases entry
      obtain ⟨before, after, stepped⟩ := first.stepped member
      exact ⟨stage, before, after, rfl, stepped⟩
    | succ k => exact ih entry

/-! ### Builtin operations -/

/-- A call of a builtin operation writes the lines of the operation, or fails without writing any. -/
theorem wrote_of_ofBuiltin [Output τ] {operation : Builtin} {call : Call τ} {state before after : Unit}
    (stepped : (Stage.ofBuiltin operation state).step before call.before call.record =
      (call.result, after, call.after)) : ∃ lines, call.Wrote lines := by
  have left : (operation.apply call.before call.record).2 = call.after :=
    congrArg (fun outcome => outcome.2.2) stepped
  rw [Builtin.apply_eq] at left
  cases written : Output.writeAll call.before (operation.lines call.record) with
  | ok next =>
    rw [written] at left
    exact ⟨operation.lines call.record, written.trans (congrArg Except.ok left)⟩
  | error reason =>
    rw [written] at left
    exact ⟨[], (Output.writeAll_nil _).trans (congrArg Except.ok left)⟩

/-- Stages run one after another. A run that fails is cut at one call, whose error it ends with; for builtin
operations that error has the identifier of the descriptor. -/
theorem runs_stage_by_stage :
    (∀ {σ τ : Type} (sink : τ) (first second : List (Stage σ τ)) (batch : List Record),
      run sink (first ++ second) batch = goOn (run sink first batch) second) ∧
    (∀ {σ τ : Type} [Output τ] (sink : τ) (stages : List (Stage σ τ)) (batch : List Record) (error : Error),
      (run sink stages batch).result = .error error →
        ∃ journal k i,
          Calls stages sink journal (run sink stages batch).ran (run sink stages batch).sink ∧
          FailsAt batch journal k i error ∧
          ∀ lines : Call τ → List String, (∀ call ∈ journal.flatten, call.Wrote (lines call)) →
            Output.writeAll sink (journal.flatten.flatMap lines) = .ok (run sink stages batch).sink ∧
            Output.printed (run sink stages batch).sink =
              Output.printed sink ++ String.join (journal.flatten.flatMap lines)) ∧
    ∀ {τ : Type} [Output τ] (descriptors : List Descriptor) (stages : List (Stage Unit τ)),
      build builtinStage descriptors = .ok stages →
        ∀ (sink : τ) journal left final, Calls stages sink journal left final →
          (∃ lines : Call τ → List String, ∀ call ∈ journal.flatten, call.Wrote (lines call)) ∧
          ∀ batch k i error, FailsAt batch journal k i error →
            ∃ descriptor, descriptors[k]? = some descriptor ∧ error.id = descriptor.id := by
  refine ⟨fun sink first second batch => run_rows sink first second batch, ?_, ?_⟩
  · intro σ τ _ sink stages batch error failed
    obtain ⟨journal, k, i, made, fails⟩ := calls_of_run_error failed
    refine ⟨journal, k, i, made, fails, fun lines wrote => ?_⟩
    have taken := made.writeAll wrote
    exact ⟨taken, Output.printed_writeAll taken⟩
  · intro τ _ descriptors stages through sink journal left final made
    constructor
    · have each : ∀ call ∈ journal.flatten, ∃ lines, call.Wrote lines := by
        intro call member
        obtain ⟨calls, inside, member⟩ := List.mem_flatten.mp member
        obtain ⟨k, entry⟩ := List.mem_iff_getElem?.mp inside
        obtain ⟨stage, before, after, placed, stepped⟩ := made.stepped entry member
        obtain ⟨_, operation, _, _, rfl⟩ := exists_operation through placed
        exact wrote_of_ofBuiltin stepped
      choose! lines wrote using each
      exact ⟨lines, wrote⟩
    · intro batch k i error fails
      obtain ⟨passed, call, entry, _, _, _, failure⟩ := fails.here
      have member : call ∈ passed ++ [call] := List.mem_append_right passed List.mem_cons_self
      obtain ⟨stage, before, after, placed, stepped⟩ := made.stepped entry member
      obtain ⟨descriptor, operation, listed, made, rfl⟩ := exists_operation through placed
      have failed : (operation.apply call.before call.record).1 = .error error :=
        (congrArg Prod.fst stepped).trans failure
      refine ⟨descriptor, listed, ?_⟩
      rw [Builtin.id_of_apply_error failed, Builtin.id_of_ofDescriptor made]

/-- Both records are printed before the second stage fails on the second one. -/
theorem runs_stage_by_stage_print :
    ∃ stages, build builtinStage [⟨.sendStdout, [], none, none⟩,
        ⟨.directAssignment, [("id", .string "move")], some "$", some "$.x"⟩] = .ok stages ∧
      (run ({} : Sink) stages [.data (.object []) .null, .data (.bool true) .null]).sink.printed = "\x7b\x7d\ntrue\n" ∧
      ∃ journal i error,
        Calls stages ({} : Sink) journal (run ({} : Sink) stages [.data (.object []) .null, .data (.bool true) .null]).ran
          (run ({} : Sink) stages [.data (.object []) .null, .data (.bool true) .null]).sink ∧
        FailsAt [.data (.object []) .null, .data (.bool true) .null] journal 1 i error ∧
        error.id = "move" := by
  obtain ⟨-, cut, names⟩ := runs_stage_by_stage
  have built : build builtinStage [⟨.sendStdout, [], none, none⟩,
      ⟨.directAssignment, [("id", .string "move")], some "$", some "$.x"⟩] =
        .ok [Stage.ofBuiltin (.print ⟨"send_stdout", none, none⟩) (),
          Stage.ofBuiltin (.assign "move" .payload ⟨.payload, ["x"]⟩) ()] := rfl
  refine ⟨_, built, by cbv, ?_⟩
  obtain ⟨journal, k, i, made, fails, -⟩ := cut ({} : Sink)
    [Stage.ofBuiltin (.print ⟨"send_stdout", none, none⟩) (),
      Stage.ofBuiltin (.assign "move" .payload ⟨.payload, ["x"]⟩) ()]
    [.data (.object []) .null, .data (.bool true) .null]
    ⟨"move", .path (.notAContainer "boolean" .payload)⟩ (by cbv)
  obtain ⟨descriptor, listed, named⟩ := (names _ _ built _ _ _ _ made).2 _ _ _ _ fails
  cases k with
  | zero =>
    cases listed
    exact absurd named (by decide)
  | succ k =>
    cases k with
    | zero => exact ⟨journal, i, _, made, fails, rfl⟩
    | succ k => cases listed

end Pipeline

end RecordFlow
