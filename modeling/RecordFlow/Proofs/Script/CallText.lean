import RecordFlow.Proofs.Outcome
import RecordFlow.Proofs.Script.Scanning

/-!
A call is a name, an opening parenthesis, the text of its arguments and the parenthesis that closes
it: `splitCall_eq_ok_iff`. `StandsWhole` says of a text that, as the arguments of a call, it is a single
positional argument; this is so when its parentheses balance by themselves, quotes between them
counting for nothing, and no comma, `=` or `:` stands outside them.
-/

namespace RecordFlow.Script

open Text

variable {name body inner text before after : List Char}

/-! ### Outline -/

/-- No parenthesis closes the text of the arguments early, and at its end the scan is outside all
quotes and parentheses: the next closing parenthesis is that of the call. -/
structure Enclosed (text : List Char) : Prop where
  noClose : Scan.start.splitFirst? .close (fun _ => true) text = none
  balanced : Scan.start.after text = Scan.start

theorem Enclosed.splitFirst? (enclosed : Enclosed body) (after : List Char) :
    Scan.start.splitFirst? .close (fun _ => true) (body ++ ')' :: after) = some (body, after) :=
  Scan.splitFirst?_append enclosed.noClose ')' (by rw [enclosed.balanced]; exact ⟨rfl, rfl⟩) after

theorem enclosed_of_splitFirst?
    (found : Scan.start.splitFirst? .close (fun _ => true) text = some (body, after)) :
    text = body ++ ')' :: after ∧ Enclosed body := by
  obtain ⟨c, rfl, close, _, clean⟩ := Scan.splitFirst?_eq_some found
  obtain ⟨balanced, rfl⟩ := Scan.step_eq_close_iff.mp close
  exact ⟨rfl, clean, balanced⟩

theorem Enclosed.append (first : Enclosed before) (second : Enclosed after) : Enclosed (before ++ after) where
  noClose := by
    rw [Scan.splitFirst?_append_eq_none_iff, first.balanced]
    exact ⟨first.noClose, second.noClose⟩
  balanced := by rw [Scan.after_append, first.balanced, second.balanced]

theorem enclosed_of_inert (inert : ∀ c ∈ text, Scan.isInert c = true) : Enclosed text := by
  refine ⟨Scan.splitFirst?_eq_none_iff.mpr ?_, Scan.after_inert inert 0⟩
  rintro entry member ⟨close, _⟩
  rw [Scan.entries_inert inert 0 entry member] at close
  cases close

theorem splitCall_of_trimmed (trimmed : Trimmed text) :
    splitCall text =
      match splitFirst? '(' text with
      | none => .error .invalidLine
      | some (before, rest) =>
        if isIdentifier (trim before) then
          match Scan.start.splitFirst? .close (fun _ => true) rest with
          | none =>
            match Scan.finish text (Scan.start.after rest) with
            | .error fault => .error fault
            | .ok () => .error (.unbalancedParens (String.ofList text))
          | some (body, after) =>
            if trim after = [] then .ok (trim before, body)
            else .error (.trailingText (String.ofList (trim after)))
        else .error (.invalidFunctionName (String.ofList (trim before))) := by
  rw [splitCall, trim_eq_self trimmed]
  cases splitFirst? '(' text with
  | none => rfl
  | some parts =>
    obtain ⟨before, rest⟩ := parts
    simp only [throw_eq_error, pure_eq_ok]
    cases isIdentifier (trim before) with
    | false => rfl
    | true =>
      simp only [Bool.not_true, Bool.false_eq_true, if_false, if_true]
      cases Scan.start.splitFirst? .close (fun _ => true) rest with
      | none => cases Scan.finish text (Scan.start.after rest) <;> rfl
      | some parts =>
        obtain ⟨body, after⟩ := parts
        by_cases empty : trim after = []
        · simp [empty]
        · simp [empty, error_bind]

/-- A trimmed text splits into a name and arguments exactly if it consists of the name, perhaps
blanks, and the arguments in parentheses. -/
theorem splitCall_eq_ok_iff (trimmed : Trimmed text) :
    splitCall text = .ok (name, body) ↔
      ∃ before, text = before ++ '(' :: (body ++ [')']) ∧ '(' ∉ before ∧ trim before = name ∧
        isIdentifier name = true ∧ Enclosed body := by
  rw [splitCall_of_trimmed trimmed]
  constructor
  · intro h
    cases opened : splitFirst? '(' text with
    | none => rw [opened] at h; cases h
    | some parts =>
      obtain ⟨before, rest⟩ := parts
      obtain ⟨rfl, absent⟩ := splitFirst?_some opened
      rw [opened] at h
      dsimp only at h
      split at h
      · rename_i identifier
        cases closed : Scan.start.splitFirst? .close (fun _ => true) rest with
        | none =>
          rw [closed] at h
          dsimp only at h
          split at h <;> cases h
        | some parts =>
          obtain ⟨body', after⟩ := parts
          obtain ⟨rfl, enclosed⟩ := enclosed_of_splitFirst? closed
          rw [closed] at h
          dsimp only at h
          split at h
          · rename_i empty
            cases h
            have nothing : after = [] :=
              eq_nil_of_trimmed (before ++ '(' :: (body ++ [')'])) (by simpa using trimmed) empty
            exact ⟨before, by rw [nothing], absent, rfl, identifier, enclosed⟩
          · cases h
      · cases h
  · rintro ⟨before, rfl, absent, rfl, identifier, enclosed⟩
    rw [splitFirst?_append absent]
    dsimp only
    rw [if_pos identifier, enclosed.splitFirst?]
    rfl

theorem getLast?_opened (before body : List Char) :
    (before ++ '(' :: (body ++ [')'])).getLast? = some ')' := by
  rw [← List.cons_append, ← List.append_assoc, List.getLast?_concat]

theorem trimmed_of_splitCall {before : List Char} (identifier : isIdentifier (trim before) = true)
    (head : ∀ c, before.head? = some c → isBlank c = false) (body : List Char) :
    Trimmed (before ++ '(' :: (body ++ [')'])) := by
  cases before with
  | nil => cases identifier
  | cons first rest =>
    rw [← List.cons_append, ← List.append_assoc, List.cons_append]
    exact trimmed_between _ (head first rfl) rfl

/-! ### Arguments -/

theorem splitFirst?_close_eq_none_iff {scan : Scan} :
    scan.splitFirst? .close (fun _ => true) text = none ↔ .close ∉ scan.marks text := by
  induction text generalizing scan with
  | nil => simp [Scan.splitFirst?, Scan.marks]
  | cons c rest ih =>
    rw [Scan.splitFirst?, Scan.marks, List.mem_cons, not_or]
    by_cases here : (scan.step c).1 = .close
    · simp [here]
    · simp [here, Ne.symm here, ih]

theorem finish_eq_ok_iff {scan : Scan} : Scan.finish text scan = .ok () ↔ scan = Scan.start := by
  match scan with
  | .inside _ _ => simp [Scan.finish, Scan.start]
  | .outside 0 => simp [Scan.finish, Scan.start]
  | .outside (_ + 1) => simp [Scan.finish, Scan.start]

theorem splitArguments_eq_ok_iff {arguments : List (List Char)} :
    splitArguments text = .ok arguments ↔
      Enclosed text ∧ ((Scan.start.stretches text).map trim).filter (· ≠ []) = arguments := by
  rw [splitArguments]
  by_cases close : .close ∈ Scan.start.marks text
  · rw [if_pos close]
    constructor
    · rintro ⟨⟩
    · rintro ⟨⟨noClose, _⟩, _⟩
      exact absurd close (splitFirst?_close_eq_none_iff.mp noClose)
  · rw [if_neg close]
    have noClose := splitFirst?_close_eq_none_iff.mpr close
    constructor
    · intro h
      obtain ⟨_, finished, h⟩ := bind_eq_ok_iff.mp h
      exact ⟨⟨noClose, finish_eq_ok_iff.mp finished⟩, Except.ok.inj h⟩
    · rintro ⟨⟨_, balanced⟩, rfl⟩
      exact bind_eq_ok_iff.mpr ⟨(), finish_eq_ok_iff.mpr balanced, rfl⟩

theorem infix_of_mem_splitArguments {arguments : List (List Char)} {argument : List Char}
    (split : splitArguments text = .ok arguments) (member : argument ∈ arguments) : argument <:+: text := by
  obtain ⟨-, rfl⟩ := splitArguments_eq_ok_iff.mp split
  obtain ⟨inside, -⟩ := List.mem_filter.mp member
  obtain ⟨stretch, isStretch, rfl⟩ := List.mem_map.mp inside
  exact (infix_trim stretch).trans (Scan.infix_of_mem_stretches isStretch)

theorem splitAtSign?_of_notMem {sign : Char} (absent : sign ∉ text) : splitAtSign? sign text = none := by
  refine Scan.splitFirst?_eq_none_iff.mpr ?_
  rintro entry member ⟨_, isSign⟩
  rw [beq_iff_eq] at isSign
  exact absent (isSign ▸ Scan.mem_of_mem_entries member)

/-- The text, read as the arguments of a call, is one positional argument. -/
structure StandsWhole (text : List Char) : Prop where
  enclosed : Enclosed text
  comma : splitAtSign? ',' text = none
  equals : splitAtSign? '=' text = none
  colon : splitAtSign? ':' text = none

theorem StandsWhole.splitArguments (whole : StandsWhole text) (trimmed : Trimmed text)
    (nonempty : text ≠ []) : splitArguments text = .ok [text] := by
  rw [splitArguments_eq_ok_iff, Scan.stretches_eq_singleton whole.comma]
  simp [whole.enclosed, trim_eq_self trimmed, nonempty]

theorem StandsWhole.ofText (whole : StandsWhole text) :
    Argument.ofText text = .ok (.positional text) := by
  simp only [Argument.ofText, whole.equals, whole.colon]

end RecordFlow.Script
