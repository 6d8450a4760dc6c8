import RecordFlow.Operation.Builtin

/-!
A run takes a batch of records through a row of stages; a stage sees all that the one before produced, in order.
The first failure ends the run, and a stage is not reached once the batch is empty.
-/

namespace RecordFlow

open Operation

/-- One stage: how it takes a record, given its state and the sink, and its present state. -/
structure Stage (σ : Type) (τ : Type := Sink) where
  id : String
  step : σ → τ → Record → Except Error (List Record) × σ × τ
  state : σ

structure Run (α : Type) (τ : Type := Sink) where
  result : Except Error (List Record)
  ran : α
  sink : τ

variable {σ τ : Type}

namespace Stage

def ofBuiltin [Output τ] (operation : Builtin) (state : σ) : Stage σ τ where
  id := operation.id
  step := fun state sink record =>
    let (result, sink) := operation.apply sink record
    (result, state, sink)
  state := state

/-- Takes a batch through the stage; `done` are the records produced before, in reverse. -/
def runFrom (stage : Stage σ τ) (sink : τ) (done : List Record) : List Record → Run (Stage σ τ) τ
  | [] => ⟨.ok done.reverse, stage, sink⟩
  | record :: rest =>
    match stage.step stage.state sink record with
    | (.ok produced, state, sink) =>
      runFrom { stage with state } sink (produced.reverse ++ done) rest
    | (.error error, state, sink) => ⟨.error error, { stage with state }, sink⟩

def run (stage : Stage σ τ) (sink : τ) (batch : List Record) : Run (Stage σ τ) τ :=
  stage.runFrom sink [] batch

end Stage

namespace Pipeline

def run (sink : τ) : List (Stage σ τ) → List Record → Run (List (Stage σ τ)) τ
  | [], batch => ⟨.ok batch, [], sink⟩
  | stages, [] => ⟨.ok [], stages, sink⟩
  | stage :: rest, batch =>
    let first := stage.run sink batch
    match first.result with
    | .ok batch =>
      let others := run first.sink rest batch
      ⟨others.result, first.ran :: others.ran, others.sink⟩
    | .error error => ⟨.error error, first.ran :: rest, first.sink⟩

def build (factory : Descriptor → Except Error (Stage σ τ)) (descriptors : List Descriptor) :
    Except Error (List (Stage σ τ)) :=
  descriptors.mapM factory

def builtinStage [Output τ] (descriptor : Descriptor) : Except Error (Stage Unit τ) :=
  (Builtin.ofDescriptor descriptor).map (Stage.ofBuiltin · ())

end Pipeline

end RecordFlow
