import Mathlib.Data.List.Forall2

/-!
# Steps that can fail

A step after another succeeds exactly if both succeed, and a row of steps if each of them does.
-/

namespace RecordFlow

variable {ε α β γ : Type}

theorem bind_eq_ok_iff {first : Except ε α} {next : α → Except ε β} {result : β} :
    (first >>= next) = .ok result ↔ ∃ value, first = .ok value ∧ next value = .ok result := by
  cases first with
  | ok value =>
    constructor
    · intro h
      exact ⟨value, rfl, h⟩
    · rintro ⟨_, ⟨⟩, h⟩
      exact h
  | error fault =>
    constructor
    · rintro ⟨⟩
    · rintro ⟨_, ⟨⟩, _⟩

theorem bind_eq_error_iff {first : Except ε α} {next : α → Except ε β} {fault : ε} :
    (first >>= next) = .error fault ↔
      first = .error fault ∨ ∃ value, first = .ok value ∧ next value = .error fault := by
  cases first with
  | ok value =>
    constructor
    · intro h
      exact .inr ⟨value, rfl, h⟩
    · rintro (⟨⟨⟩⟩ | ⟨_, ⟨⟩, h⟩)
      exact h
  | error other =>
    constructor
    · rintro ⟨⟩
      exact .inl rfl
    · rintro (⟨⟨⟩⟩ | ⟨_, ⟨⟩, _⟩)
      rfl

theorem ok_bind (value : α) (next : α → Except ε β) : (Except.ok value >>= next) = next value := rfl

theorem error_bind (fault : ε) (next : α → Except ε β) :
    (Except.error fault >>= next) = .error fault := rfl

theorem throw_eq_error (fault : ε) : (throw fault : Except ε α) = .error fault := rfl

theorem pure_eq_ok (value : α) : (pure value : Except ε α) = .ok value := rfl

theorem map_eq_ok_iff {first : Except ε α} {f : α → β} {result : β} :
    first.map f = .ok result ↔ ∃ value, first = .ok value ∧ f value = result := by
  cases first with
  | ok value =>
    constructor
    · rintro ⟨⟩
      exact ⟨value, rfl, rfl⟩
    · rintro ⟨_, ⟨⟩, rfl⟩
      rfl
  | error fault =>
    constructor
    · rintro ⟨⟩
    · rintro ⟨_, ⟨⟩, _⟩

theorem map_eq_error_iff {first : Except ε α} {f : α → β} {fault : ε} :
    first.map f = .error fault ↔ first = .error fault := by
  cases first with
  | ok value => constructor <;> rintro ⟨⟩
  | error other => simp only [Except.map, Except.error.injEq]

theorem mapM_eq_ok_iff {step : α → Except ε β} {inputs : List α} {results : List β} :
    inputs.mapM step = .ok results ↔
      List.Forall₂ (fun input result => step input = .ok result) inputs results := by
  induction inputs generalizing results with
  | nil =>
    rw [List.mapM_nil, List.forall₂_nil_left_iff, pure_eq_ok, Except.ok.injEq, eq_comm]
  | cons input rest ih =>
    rw [List.mapM_cons, List.forall₂_cons_left_iff, bind_eq_ok_iff]
    constructor
    · rintro ⟨first, one, h⟩
      obtain ⟨others, many, h⟩ := bind_eq_ok_iff.mp h
      exact ⟨first, others, one, ih.mp many, (Except.ok.inj h).symm⟩
    · rintro ⟨first, others, one, many, rfl⟩
      exact ⟨first, one, bind_eq_ok_iff.mpr ⟨others, ih.mpr many, rfl⟩⟩

theorem exists_getElem?_of_forall₂ {related : α → β → Prop} {inputs : List α} {results : List β} {input : α}
    {i : Nat} (each : List.Forall₂ related inputs results) (found : inputs[i]? = some input) :
    ∃ result, results[i]? = some result ∧ related input result := by
  induction each generalizing i with
  | nil => cases found
  | @cons _ first _ _ one _ ih =>
    cases i with
    | zero =>
      cases found
      exact ⟨first, rfl, one⟩
    | succ i => exact ih found

theorem exists_of_forall₂_left {related : α → β → Prop} {inputs : List α} {results : List β} {input : α}
    (each : List.Forall₂ related inputs results) (member : input ∈ inputs) :
    ∃ result ∈ results, related input result := by
  obtain ⟨i, found⟩ := List.mem_iff_getElem?.mp member
  obtain ⟨result, there, one⟩ := exists_getElem?_of_forall₂ each found
  exact ⟨result, List.mem_of_getElem? there, one⟩

theorem exists_of_forall₂_right {related : α → β → Prop} {inputs : List α} {results : List β} {result : β}
    (each : List.Forall₂ related inputs results) (member : result ∈ results) :
    ∃ input ∈ inputs, related input result := exists_of_forall₂_left each.flip member

theorem exists_forall₂_iff {related : α → β → Prop} {inputs : List α} :
    (∃ results, List.Forall₂ related inputs results) ↔ ∀ input ∈ inputs, ∃ result, related input result := by
  induction inputs with
  | nil => exact ⟨fun _ => List.forall_mem_nil _, fun _ => ⟨[], .nil⟩⟩
  | cons input rest ih =>
    rw [List.forall_mem_cons, ← ih]
    constructor
    · rintro ⟨_, each⟩
      obtain ⟨first, others, one, many, rfl⟩ := List.forall₂_cons_left_iff.mp each
      exact ⟨⟨first, one⟩, others, many⟩
    · rintro ⟨⟨first, one⟩, others, many⟩
      exact ⟨first :: others, .cons one many⟩

theorem forall₂_imp_of_mem {related implied : α → β → Prop} {inputs : List α} {results : List β}
    (each : List.Forall₂ related inputs results)
    (follows : ∀ input ∈ inputs, ∀ result, related input result → implied input result) :
    List.Forall₂ implied inputs results :=
  ((List.forall₂_and_left _ _).mpr ⟨follows, each⟩).imp fun _ _ both => both.1 _ both.2

theorem exists_forall₂_between {first : α → γ → Prop} {second : β → γ → Prop} {inputs : List α} {results : List β}
    (each : List.Forall₂ (fun input result => ∃ between, first input between ∧ second result between)
      inputs results) :
    ∃ betweens, List.Forall₂ first inputs betweens ∧ List.Forall₂ second results betweens := by
  induction each with
  | nil => exact ⟨[], .nil, .nil⟩
  | cons one _ ih =>
    obtain ⟨between, left, right⟩ := one
    obtain ⟨betweens, lefts, rights⟩ := ih
    exact ⟨between :: betweens, .cons left lefts, .cons right rights⟩

theorem exists_of_mem_mapM {step : α → Except ε β} {inputs : List α} {results : List β} {result : β}
    (through : inputs.mapM step = .ok results) (member : result ∈ results) :
    ∃ input ∈ inputs, step input = .ok result := by
  have each := mapM_eq_ok_iff.mp through
  obtain ⟨input, held, one⟩ := exists_of_forall₂_right each member
  exact ⟨input, held, one⟩

theorem exists_of_mapM_error {step : α → Except ε β} {inputs : List α} {fault : ε}
    (failed : inputs.mapM step = .error fault) : ∃ input ∈ inputs, step input = .error fault := by
  induction inputs with
  | nil => cases failed
  | cons input rest ih =>
    rw [List.mapM_cons] at failed
    obtain one | ⟨_, _, failed⟩ := bind_eq_error_iff.mp failed
    · exact ⟨input, List.mem_cons_self, one⟩
    · obtain later | ⟨_, _, ⟨⟩⟩ := bind_eq_error_iff.mp failed
      obtain ⟨other, member, one⟩ := ih later
      exact ⟨other, List.mem_cons_of_mem input member, one⟩

end RecordFlow
