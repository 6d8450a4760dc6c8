import RecordFlow.Pipeline
import RecordFlow.Proofs.Outcome

/-!
A stage takes the records of a batch one after the other, so that a batch cut in two is taken in two goes
(`Stage.run_append_ok`). Stages run one after the other: a run through two rows of stages is a run through the
first, followed by a run through the second of what the first leaves (`Pipeline.run_rows`).
-/

namespace RecordFlow

open Operation

variable {σ τ : Type}

namespace Stage

theorem run_nil (stage : Stage σ τ) (sink : τ) : stage.run sink [] = ⟨.ok [], stage, sink⟩ := rfl

/-- The records produced before only come first in the result. -/
theorem runFrom_eq (stage : Stage σ τ) (sink : τ) (done batch : List Record) :
    stage.runFrom sink done batch =
      ⟨(stage.run sink batch).result.map (done.reverse ++ ·), (stage.run sink batch).ran,
        (stage.run sink batch).sink⟩ := by
  induction batch generalizing stage sink done with
  | nil => simp only [run, runFrom, Except.map, List.reverse_nil, List.append_nil]
  | cons record rest ih =>
    simp only [run, runFrom]
    split
    · rename_i produced state next _
      rw [ih _ next (produced.reverse ++ done), ih _ next (produced.reverse ++ [])]
      cases (run { stage with state } next rest).result with
      | error error => rfl
      | ok others => simp [Except.map]
    · rfl

section Step

variable {stage : Stage σ τ} {sink next : τ} {record : Record} {state : σ}

theorem run_cons_ok {produced : List Record}
    (stepped : stage.step stage.state sink record = (.ok produced, state, next)) (rest : List Record) :
    stage.run sink (record :: rest) =
      ⟨(run { stage with state } next rest).result.map (produced ++ ·),
        (run { stage with state } next rest).ran, (run { stage with state } next rest).sink⟩ := by
  simp only [run, runFrom, stepped]
  rw [runFrom_eq, List.append_nil, List.reverse_reverse]
  rfl

theorem run_cons_error {error : Error}
    (stepped : stage.step stage.state sink record = (.error error, state, next)) (rest : List Record) :
    stage.run sink (record :: rest) = ⟨.error error, { stage with state }, next⟩ := by
  simp only [run, runFrom, stepped]

end Step

theorem run_singleton (stage : Stage σ τ) (sink : τ) (record : Record) :
    stage.run sink [record] =
      ⟨(stage.step stage.state sink record).1,
        { stage with state := (stage.step stage.state sink record).2.1 },
        (stage.step stage.state sink record).2.2⟩ := by
  rcases stepped : stage.step stage.state sink record with ⟨outcome, state, next⟩
  cases outcome with
  | error error => rw [run_cons_error stepped]
  | ok produced => simp only [run_cons_ok stepped, run_nil, Except.map, List.append_nil]

/-- The second part of a batch is taken as the first part leaves the stage. -/
theorem run_append_ok {stage : Stage σ τ} {sink : τ} {first produced : List Record}
    (passed : (stage.run sink first).result = .ok produced) (second : List Record) :
    stage.run sink (first ++ second) =
      ⟨((stage.run sink first).ran.run (stage.run sink first).sink second).result.map (produced ++ ·),
        ((stage.run sink first).ran.run (stage.run sink first).sink second).ran,
        ((stage.run sink first).ran.run (stage.run sink first).sink second).sink⟩ := by
  induction first generalizing stage sink produced with
  | nil =>
    cases passed
    rw [List.nil_append, run_nil]
    cases whole : stage.run sink second with
    | mk result ran after => cases result <;> rfl
  | cons record rest ih =>
    rcases stepped : stage.step stage.state sink record with ⟨outcome, state, next⟩
    cases outcome with
    | error error =>
      rw [run_cons_error stepped] at passed
      cases passed
    | ok made =>
      rw [run_cons_ok stepped] at passed
      obtain ⟨others, through, rfl⟩ := map_eq_ok_iff.mp passed
      rw [List.cons_append, run_cons_ok stepped, run_cons_ok stepped, ih through]
      cases ((run { stage with state } next rest).ran.run (run { stage with state } next rest).sink second).result with
      | error error => rfl
      | ok last => simp only [Except.map, List.append_assoc]

/-- Nothing is taken after a failure. -/
theorem run_append_error {stage : Stage σ τ} {sink : τ} {first : List Record} {error : Error}
    (failed : (stage.run sink first).result = .error error) (second : List Record) :
    stage.run sink (first ++ second) = stage.run sink first := by
  induction first generalizing stage sink with
  | nil => cases failed
  | cons record rest ih =>
    rcases stepped : stage.step stage.state sink record with ⟨outcome, state, next⟩
    cases outcome with
    | error other => rw [List.cons_append, run_cons_error stepped, run_cons_error stepped]
    | ok made =>
      rw [run_cons_ok stepped] at failed
      have failed : (run { stage with state } next rest).result = .error error :=
        map_eq_error_iff.mp failed
      rw [List.cons_append, run_cons_ok stepped, run_cons_ok stepped, ih failed]

end Stage

namespace Pipeline

theorem run_nil (sink : τ) (stages : List (Stage σ τ)) :
    run sink stages [] = ⟨.ok [], stages, sink⟩ := by
  cases stages <;> rfl

/-- Also an empty batch can be thought of as taken through all stages. -/
theorem run_cons (sink : τ) (stage : Stage σ τ) (stages : List (Stage σ τ)) (batch : List Record) :
    run sink (stage :: stages) batch =
      match (stage.run sink batch).result with
      | .ok produced =>
        ⟨(run (stage.run sink batch).sink stages produced).result,
          (stage.run sink batch).ran :: (run (stage.run sink batch).sink stages produced).ran,
          (run (stage.run sink batch).sink stages produced).sink⟩
      | .error error => ⟨.error error, (stage.run sink batch).ran :: stages, (stage.run sink batch).sink⟩ := by
  cases batch with
  | nil => simp only [Stage.run_nil, run_nil]
  | cons record batch => rfl

/-- The run goes on through more stages, unless it has failed. -/
def goOn (first : Run (List (Stage σ τ)) τ) (more : List (Stage σ τ)) : Run (List (Stage σ τ)) τ :=
  match first.result with
  | .ok produced =>
    ⟨(run first.sink more produced).result, first.ran ++ (run first.sink more produced).ran,
      (run first.sink more produced).sink⟩
  | .error error => ⟨.error error, first.ran ++ more, first.sink⟩

theorem run_rows (sink : τ) (first second : List (Stage σ τ)) (batch : List Record) :
    run sink (first ++ second) batch = goOn (run sink first batch) second := by
  induction first generalizing sink batch with
  | nil => rfl
  | cons stage rest ih =>
    rw [List.cons_append, run_cons, run_cons]
    cases (stage.run sink batch).result with
    | error error => rfl
    | ok produced =>
      simp only [ih]
      unfold goOn
      cases (run (stage.run sink batch).sink rest produced).result <;> rfl

/-- The second row of stages runs on what the first produces, unless the first fails. -/
theorem run_append (sink : τ) (first second : List (Stage σ τ)) (batch : List Record) :
    (run sink (first ++ second) batch).result =
        ((run sink first batch).result >>= fun produced =>
          (run (run sink first batch).sink second produced).result) ∧
      (run sink (first ++ second) batch).sink =
        match (run sink first batch).result with
        | .ok produced => (run (run sink first batch).sink second produced).sink
        | .error _ => (run sink first batch).sink := by
  rw [run_rows, goOn]
  cases (run sink first batch).result with
  | error error => exact ⟨rfl, rfl⟩
  | ok produced => exact ⟨rfl, rfl⟩

/-! ### Builtin stages -/

section Built

variable [Output τ] {descriptors : List Descriptor} {stages : List (Stage Unit τ)} {stage : Stage Unit τ}

theorem exists_operation {k : Nat} (built : build builtinStage descriptors = .ok stages)
    (entry : stages[k]? = some stage) :
    ∃ descriptor operation, descriptors[k]? = some descriptor ∧
      Builtin.ofDescriptor descriptor = .ok operation ∧ stage = Stage.ofBuiltin operation () := by
  have each := mapM_eq_ok_iff.mp built
  obtain ⟨inside, rfl⟩ := List.getElem?_eq_some_iff.mp entry
  have known : k < descriptors.length := by
    rw [each.length_eq]
    exact inside
  obtain ⟨operation, made, same⟩ := map_eq_ok_iff.mp (each.get known inside)
  exact ⟨descriptors[k], operation, List.getElem?_eq_getElem known, made, same.symm⟩

theorem exists_operation_of_mem (built : build builtinStage descriptors = .ok stages)
    (member : stage ∈ stages) : ∃ operation, stage = Stage.ofBuiltin operation () := by
  obtain ⟨k, entry⟩ := List.mem_iff_getElem?.mp member
  obtain ⟨_, operation, _, _, same⟩ := exists_operation built entry
  exact ⟨operation, same⟩

end Built

end Pipeline

end RecordFlow
