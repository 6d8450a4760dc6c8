import RecordFlow.Proofs.Pipeline.Batches
import RecordFlow.Proofs.Pipeline.Invariants

/-!
A control record goes through a run of builtin operations as if it were not there: with it and without it
the run prints the same and fails alike, and where it goes through, the control record comes out between what
is made of the records before it and after it (`control_is_inert`). Nothing becomes a control record on the way,
and no change by a caller makes one carry data.
-/

namespace RecordFlow

open Operation

/-! ### Changes of a record -/

namespace Record

/-- The ways in which a caller can change a record. -/
inductive Change where
  | set (path : String) (value : Json)
  | erase (path : String)
  | payload (tree : Json)
  | metadata (tree : Json)

def change (record : Record) : Change → Record
  | .set path value => (record.setText path value).after
  | .erase path => (record.eraseText path).after
  | .payload tree => record.setPayload tree
  | .metadata tree => record.setMetadata tree

theorem change_control (change : Change) : control.change change = control := by
  cases change with
  | set path value =>
    simp only [Record.change, setText, editAt]
    cases Path.parse path <;> rfl
  | erase path =>
    simp only [Record.change, eraseText, editAt]
    cases Path.parse path <;> rfl
  | payload tree => rfl
  | metadata tree => rfl

theorem foldl_change_control (changes : List Change) : changes.foldl change control = control := by
  induction changes with
  | nil => rfl
  | cons first rest ih => rw [List.foldl_cons, change_control, ih]

/-- Data stays data. -/
theorem closed_data : Closed (fun record => record.isControl = false) fun _ => True where
  get := fun _ _ => trivial
  string := fun _ => trivial
  ofBytes := fun _ => trivial
  set := fun path _ data _ => (isControl_set _ path _).trans data
  erase := fun path _ data => (isControl_erase _ path).trans data
  setPayload := by
    intro record value data _
    cases record with
    | control => exact data
    | data => rfl
  fresh := fun _ _ => rfl

end Record

/-! ### A control record in a batch -/

variable {σ τ : Type}

/-- The outcomes of two runs, of which the first has taken a control record more than the second. -/
inductive Inserted : Except Error (List Record) → Except Error (List Record) → Prop where
  | failed (error : Error) : Inserted (.error error) (.error error)
  | between (one two : List Record) : Inserted (.ok (one ++ .control :: two)) (.ok (one ++ two))

namespace Stage

/-- The stage hands a control record on and does nothing else. -/
def Inert (stage : Stage σ τ) : Prop :=
  ∀ state sink, stage.step state sink .control = (.ok [.control], state, sink)

theorem inert_ofBuiltin [Output τ] (operation : Builtin) (state : σ) :
    (ofBuiltin operation state : Stage σ τ).Inert :=
  fun _ _ => rfl

theorem step_run (stage : Stage σ τ) (sink : τ) (batch : List Record) :
    (stage.run sink batch).ran.step = stage.step := by
  induction batch generalizing stage sink with
  | nil => rfl
  | cons record rest ih =>
    rcases stepped : stage.step stage.state sink record with ⟨outcome, state, next⟩
    cases outcome with
    | error error => rw [run_cons_error stepped]
    | ok made =>
      rw [run_cons_ok stepped]
      exact ih { stage with state } next

theorem run_insert {stage : Stage σ τ} (inert : stage.Inert) (sink : τ) (before after : List Record) :
    (stage.run sink (before ++ .control :: after)).sink = (stage.run sink (before ++ after)).sink ∧
      Inserted (stage.run sink (before ++ .control :: after)).result
        (stage.run sink (before ++ after)).result := by
  cases early : (stage.run sink before).result with
  | error error =>
    rw [run_append_error early, run_append_error early, early]
    exact ⟨rfl, .failed error⟩
  | ok one =>
    have handed : (stage.run sink before).ran.step (stage.run sink before).ran.state
        (stage.run sink before).sink .control =
          (.ok [.control], (stage.run sink before).ran.state, (stage.run sink before).sink) := by
      rw [step_run]
      exact inert _ _
    rw [run_append_ok early, run_append_ok early, run_cons_ok handed]
    refine ⟨rfl, ?_⟩
    cases late : ((stage.run sink before).ran.run (stage.run sink before).sink after).result with
    | error error =>
      simp only [Except.map]
      exact .failed error
    | ok two =>
      simp only [Except.map]
      exact .between one two

end Stage

namespace Pipeline

variable {stages : List (Stage σ τ)} {operations : List Builtin} {descriptors : List Descriptor}
  {batch before after produced : List Record} {lines : List String}

theorem run_insert (inert : ∀ stage ∈ stages, stage.Inert) (sink : τ) (before after : List Record) :
    (run sink stages (before ++ .control :: after)).sink = (run sink stages (before ++ after)).sink ∧
      Inserted (run sink stages (before ++ .control :: after)).result
        (run sink stages (before ++ after)).result := by
  induction stages generalizing sink before after with
  | nil => exact ⟨rfl, .between before after⟩
  | cons stage rest ih =>
    obtain ⟨one, others⟩ := List.forall_mem_cons.mp inert
    obtain ⟨same, outcome⟩ := Stage.run_insert one sink before after
    rw [run_cons, run_cons, same]
    generalize (stage.run sink (before ++ .control :: after)).result = whole at outcome ⊢
    generalize (stage.run sink (before ++ after)).result = without at outcome ⊢
    cases outcome with
    | failed error => exact ⟨rfl, .failed error⟩
    | between first second => exact ih others _ first second

theorem Makes.control (account : Makes operations [.control] produced lines) :
    produced = [.control] ∧ lines = [] := by
  induction operations generalizing lines with
  | nil =>
    cases account
    exact ⟨rfl, rfl⟩
  | cons operation operations ih =>
    cases account with
    | stage yields later =>
      cases yields with
      | record successors none =>
        cases none
        cases successors
        obtain ⟨rfl, rfl⟩ := ih later
        exact ⟨rfl, by rw [Builtin.lines_control]; rfl⟩

/-- The parts before and after a control record have accounts of their own, which share the lines of the whole. -/
theorem Makes.parts (whole : Makes operations (before ++ .control :: after) produced lines) :
    ∃ one two early late, Makes operations before one early ∧ Makes operations after two late ∧
      produced = one ++ .control :: two ∧ lines.Perm (early ++ late) := by
  obtain ⟨one, later, early, rest, makesBefore, makesLater, rfl, perm⟩ := whole.split
  have joined : Makes operations ([.control] ++ after) later rest := makesLater
  obtain ⟨middle, two, none, late, makesControl, makesAfter, rfl, permLater⟩ := joined.split
  obtain ⟨rfl, rfl⟩ := makesControl.control
  exact ⟨one, two, early, late, makesBefore, makesAfter, rfl, perm.trans (permLater.append_left early)⟩

/-- The records that the operations make of the batch, and the lines they write on the way: on any sink that takes
these, the run ends with those, and on any other it fails as that refuses one. -/
def Gives (descriptors : List Descriptor) (batch produced : List Record) : Prop :=
  ∃ lines, ∀ {τ : Type} [Output τ] (stages : List (Stage Unit τ)),
    build builtinStage descriptors = .ok stages → ∀ sink : τ,
      match Output.writeAll sink lines with
      | .ok final => (run sink stages batch).result = .ok produced ∧ (run sink stages batch).sink = final
      | .error reason => ∃ id, (run sink stages batch).result = .error ⟨id, .output reason⟩

theorem gives_of_makes (made : descriptors.mapM Builtin.ofDescriptor = .ok operations)
    (account : Makes operations batch produced lines) : Gives descriptors batch produced := by
  refine ⟨lines, ?_⟩
  intro τ _ stages built sink
  obtain ⟨others, same, rfl⟩ := build_eq_ok_iff.mp built
  rw [made] at same
  cases same
  cases taken : Output.writeAll sink lines with
  | ok final => exact run_of_makes account taken
  | error reason => exact run_of_makes_refused account taken

/-- A sink that only has a capacity and has taken the lines of the whole takes those of either part. -/
theorem run_parts {sink : Sink}
    (through : (run sink (stagesOf operations) (before ++ .control :: after)).result = .ok produced) :
    ∃ one two, (run sink (stagesOf operations) before).result = .ok one ∧
      (run sink (stagesOf operations) after).result = .ok two ∧ produced = one ++ .control :: two := by
  obtain ⟨lines, account, written⟩ := makes_of_run through
  obtain ⟨one, two, early, late, makesBefore, makesAfter, rfl, perm⟩ := account.parts
  obtain ⟨_, takenBefore⟩ := Sink.exists_writeAll_of_perm perm written
  obtain ⟨_, takenAfter⟩ := Sink.exists_writeAll_of_perm (perm.trans List.perm_append_comm) written
  exact ⟨one, two, (run_of_makes makesBefore takenBefore).1, (run_of_makes makesAfter takenAfter).1, rfl⟩

/-- A control record leaves a run of builtin operations as it is and comes out where it went in, between what the
records before it and after it give; on a sink that only has a capacity these go through on their own. No operation
makes a control record of a data record, and no change makes one carry data. -/
theorem control_is_inert :
    (∀ {τ : Type} [Output τ] (descriptors : List Descriptor) (stages : List (Stage Unit τ)),
      build builtinStage descriptors = .ok stages → ∀ (sink : τ) (before after : List Record),
        (run sink stages (before ++ .control :: after)).sink = (run sink stages (before ++ after)).sink ∧
        (∀ error, (run sink stages (before ++ .control :: after)).result = .error error ↔
          (run sink stages (before ++ after)).result = .error error) ∧
        ∀ produced, (run sink stages (before ++ .control :: after)).result = .ok produced →
          ∃ one two, Gives descriptors before one ∧ Gives descriptors after two ∧
            produced = one ++ .control :: two) ∧
    (∀ (descriptors : List Descriptor) (stages : List (Stage Unit)),
      build builtinStage descriptors = .ok stages → ∀ (sink : Sink) (before after produced : List Record),
        (run sink stages (before ++ .control :: after)).result = .ok produced →
          ∃ one two, (run sink stages before).result = .ok one ∧
            (run sink stages after).result = .ok two ∧ produced = one ++ .control :: two) ∧
    (∀ {τ : Type} [Output τ] (operation : Builtin) (sink : τ) (record : Record) (produced : List Record),
      record.isControl = false → (operation.apply sink record).1 = .ok produced →
        ∀ successor ∈ produced, successor.isControl = false) ∧
    ∀ changes : List Record.Change, changes.foldl Record.change .control = .control := by
  refine ⟨?_, ?_, ?_, Record.foldl_change_control⟩
  · intro τ _ descriptors stages built sink before after
    obtain ⟨operations, made, rfl⟩ := build_eq_ok_iff.mp built
    have inert : ∀ stage ∈ (stagesOf operations : List (Stage Unit τ)), stage.Inert :=
      List.forall_mem_map.mpr fun operation _ => Stage.inert_ofBuiltin operation ()
    obtain ⟨same, outcome⟩ := run_insert inert sink before after
    refine ⟨same, ?_, ?_⟩
    · intro error
      generalize (run sink (stagesOf operations) (before ++ .control :: after)).result = whole at outcome ⊢
      generalize (run sink (stagesOf operations) (before ++ after)).result = without at outcome ⊢
      cases outcome with
      | failed other => exact Iff.rfl
      | between one two => exact ⟨nofun, nofun⟩
    · intro produced through
      obtain ⟨lines, account, -⟩ := makes_of_run through
      obtain ⟨one, two, early, late, makesBefore, makesAfter, rfl, -⟩ := account.parts
      exact ⟨one, two, gives_of_makes made makesBefore, gives_of_makes made makesAfter, rfl⟩
  · intro descriptors stages built sink before after produced through
    obtain ⟨operations, -, rfl⟩ := build_eq_ok_iff.mp built
    exact run_parts through
  · intro τ _ operation sink record produced data applied
    exact Record.closed_data.apply data applied

/-- Also where the sink refuses a line after the control record. -/
theorem control_is_inert_full_sink :
    ∃ stages, build builtinStage [⟨.splitString, [], none, none⟩, ⟨.sendStdout, [], none, none⟩] =
        .ok stages ∧
      (run (⟨"", some 3⟩ : Sink) stages [.data (.string "a") .null, .control, .data (.string "b") .null]).result =
        .error ⟨"send_stdout", .output "sink full"⟩ ∧
      (run (⟨"", some 3⟩ : Sink) stages
        [.data (.string "a") .null, .control, .data (.string "b") .null]).sink.printed = "a\n" := by
  have built : build builtinStage [⟨.splitString, [], none, none⟩, ⟨.sendStdout, [], none, none⟩] =
      .ok [Stage.ofBuiltin (.split ⟨"split_string", none, none⟩ '\n' []) (),
        Stage.ofBuiltin (.print ⟨"send_stdout", none, none⟩) ()] := rfl
  obtain ⟨same, failures, -⟩ := control_is_inert.1 _ _ built (⟨"", some 3⟩ : Sink)
    [.data (.string "a") .null] [.data (.string "b") .null]
  refine ⟨_, built, (failures _).mpr (by with_unfolding_all rfl), ?_⟩
  exact (congrArg Sink.printed same).trans (by decide +kernel)

end Pipeline

end RecordFlow
