import RecordFlow.Proofs.Outcome
import RecordFlow.Proofs.Text.Lines
import RecordFlow.Script.Compile

/-!
Nothing passes from a line of a script to the next but its number, so the lines of two scripts that a line
break joins compile as they do in their own script (`compile_append`). A script that fails reports the first
of its lines that does (`reportsFirst_of_compile`).
-/

namespace RecordFlow.Script

open Text

variable {earlier later : List (List Char)} {raw : List Char} {operations : List Descriptor} {error : Error}
  {script : String}

/-! ### Lines in a row -/

def Error.moveDown (count : Nat) (error : Error) : Error :=
  { error with lineNumber := error.lineNumber + count }

theorem compileRaw_moveDown (number count : Nat) (raw : List Char) :
    compileRaw (number + count) raw = (compileRaw number raw).mapError (·.moveDown count) := by
  unfold compileRaw
  dsimp only
  split
  · rfl
  · cases compileLine (trim raw) <;> rfl

theorem compileLines_moveDown (number count : Nat) (lines : List (List Char)) :
    compileLines (number + count) lines = (compileLines number lines).mapError (·.moveDown count) := by
  induction lines generalizing number with
  | nil => rfl
  | cons raw rest ih =>
    rw [compileLines, compileLines, compileRaw_moveDown]
    cases compileRaw number raw with
    | error error => rfl
    | ok first =>
      simp only [Except.mapError, ok_bind]
      rw [Nat.add_right_comm, ih]
      cases compileLines (number + 1) rest <;> rfl

theorem compileLines_append (number : Nat) (earlier later : List (List Char)) :
    compileLines number (earlier ++ later) = do
      let first ← compileLines number earlier
      let second ← compileLines (number + earlier.length) later
      return first ++ second := by
  induction earlier generalizing number with
  | nil =>
    rw [List.nil_append, compileLines, ok_bind, List.length_nil, Nat.add_zero]
    cases compileLines number later <;> rfl
  | cons raw rest ih =>
    rw [List.cons_append, compileLines, compileLines, ih, List.length_cons, Nat.add_right_comm,
      ← Nat.add_assoc]
    cases compileRaw number raw with
    | error error => rfl
    | ok first =>
      cases compileLines (number + 1) rest with
      | error error => rfl
      | ok second =>
        cases compileLines (number + rest.length + 1) later with
        | error error => rfl
        | ok third => simp only [ok_bind, pure_eq_ok, List.append_assoc]

theorem compileLines_singleton (number : Nat) (raw : List Char) :
    compileLines number [raw] = compileRaw number raw := by
  rw [compileLines, compileLines]
  cases compileRaw number raw with
  | error error => rfl
  | ok operations => simp only [ok_bind, List.append_nil, pure_eq_ok]

/-! ### The last line -/

/-- The errors differ at most in a carriage return that ends the line. -/
structure Error.Matches (error other : Error) : Prop where
  lineNumber : error.lineNumber = other.lineNumber
  fault : error.fault = other.fault
  line : error.line = other.line ∨ error.line = other.line ++ "\r"

theorem Error.Matches.refl (error : Error) : error.Matches error := ⟨rfl, rfl, .inl rfl⟩

/-- Both come out the same, but for a carriage return that ends the line of an error. -/
inductive Agree : Except Error (List Descriptor) → Except Error (List Descriptor) → Prop where
  | done (operations : List Descriptor) : Agree (.ok operations) (.ok operations)
  | failed {error other : Error} (matching : error.Matches other) : Agree (.error error) (.error other)

theorem Agree.refl (outcome : Except Error (List Descriptor)) : Agree outcome outcome := by
  cases outcome with
  | ok operations => exact .done operations
  | error error => exact .failed (.refl error)

theorem Agree.after {outcome other : Except Error (List Descriptor)} (agree : Agree outcome other)
    (first : Except Error (List Descriptor)) :
    Agree (do return (← first) ++ (← outcome)) (do return (← first) ++ (← other)) := by
  cases first with
  | error error => exact .failed (.refl error)
  | ok first =>
    cases agree with
    | done operations => exact .done (first ++ operations)
    | failed matching => exact .failed matching

theorem compileRaw_withoutReturn (number : Nat) (raw : List Char) :
    Agree (compileRaw number raw) (compileRaw number (withoutReturn raw)) := by
  have line : String.ofList raw = String.ofList (withoutReturn raw) ∨
      String.ofList raw = String.ofList (withoutReturn raw) ++ "\r" := by
    obtain same | ends := withoutReturn_cases raw
    · exact .inl (congrArg String.ofList same.symm)
    · exact .inr ((congrArg String.ofList ends).trans String.ofList_append)
  simp only [compileRaw, trim_withoutReturn]
  split
  · exact .done []
  · cases compileLine (trim raw) with
    | ok operations => exact .done operations
    | error fault => exact .failed ⟨rfl, rfl, line⟩

/-- A line break after the script changes nothing but the reported text of its last line. -/
theorem compile_agree (script : String) :
    Agree (compile script) (compileLines 1 (closedLines script.toList)) := by
  obtain ⟨inner, last, closed, listed⟩ := lines_cases script.toList
  rw [compile, listed, closed, compileLines_append, compileLines_singleton]
  split
  · rename_i empty
    subst empty
    -- the break opens an empty line, which holds no statement
    have nothing : compileRaw (1 + inner.length) (withoutReturn []) = .ok [] := rfl
    rw [nothing]
    cases compileLines 1 inner with
    | error error => exact .refl _
    | ok operations =>
      simp only [ok_bind, List.append_nil, pure_eq_ok]
      exact .refl _
  · rw [compileLines_append, compileLines_singleton]
    exact (compileRaw_withoutReturn _ last).after _

theorem compileLines_closedLines_ok (compiled : compile script = .ok operations) :
    compileLines 1 (closedLines script.toList) = .ok operations := by
  have agree := compile_agree script
  generalize compileLines 1 (closedLines script.toList) = closed at agree ⊢
  rw [compiled] at agree
  cases agree
  rfl

theorem compileLines_closedLines_error (failed : compile script = .error error) :
    ∃ other, compileLines 1 (closedLines script.toList) = .error other ∧ error.Matches other := by
  have agree := compile_agree script
  generalize compileLines 1 (closedLines script.toList) = closed at agree ⊢
  rw [failed] at agree
  cases agree with
  | @failed _ other matching => exact ⟨other, rfl, matching⟩

theorem toList_join (first second : String) :
    (first ++ "\n" ++ second).toList = first.toList ++ '\n' :: second.toList := by
  simp [String.toList_append]

/-- The second script compiles as it does alone, moved down by the lines of the first. -/
theorem compile_append (first second : String) :
    compile (first ++ "\n" ++ second) = do
      let one ← compileLines 1 (closedLines first.toList)
      let two ← (compile second).mapError (·.moveDown (first.toList.count '\n' + 1))
      return one ++ two := by
  rw [compile, toList_join, lines_join, compileLines_append, length_closedLines, compileLines_moveDown]
  rfl

/-! ### The line that fails -/

theorem exists_of_compileLines_error {number : Nat} {lines : List (List Char)}
    (failed : compileLines number lines = .error error) :
    ∃ earlier raw later operations, lines = earlier ++ raw :: later ∧
      compileLines number earlier = .ok operations ∧
      compileRaw (number + earlier.length) raw = .error error := by
  induction lines generalizing number with
  | nil => cases failed
  | cons raw rest ih =>
    rw [compileLines] at failed
    cases first : compileRaw number raw with
    | error fault =>
      rw [first] at failed
      cases failed
      exact ⟨[], raw, rest, [], rfl, rfl, first⟩
    | ok operations =>
      rw [first, ok_bind] at failed
      obtain failed | ⟨_, _, ⟨⟩⟩ := bind_eq_error_iff.mp failed
      obtain ⟨earlier, line, later, others, rfl, passed, here⟩ := ih failed
      refine ⟨raw :: earlier, line, later, operations ++ others, rfl, ?_, ?_⟩
      · rw [compileLines, first, ok_bind, passed, ok_bind, pure_eq_ok]
      · rw [List.length_cons, ← Nat.add_assoc, Nat.add_right_comm, here]

/-- The error is that of a line of the script, by its number and as it is written, before which the script
compiles. -/
def Error.ReportsFirst (error : Error) (script : String) : Prop :=
  ∃ before, IsLine script.toList before error.line.toList ∧
    error.lineNumber = before.count '\n' + 1 ∧
    (∃ operations, compile (String.ofList before) = .ok operations) ∧
    isComment (trim error.line.toList) = false ∧
    compileLine (trim error.line.toList) = .error error.fault

theorem reportsFirst_of_compile (failed : compile script = .error error) : error.ReportsFirst script := by
  obtain ⟨earlier, raw, later, operations, listed, passed, here⟩ := exists_of_compileLines_error failed
  obtain ⟨before, isLine, listedBefore, number⟩ := exists_isLine listed
  unfold compileRaw at here
  dsimp only at here
  split at here
  · cases here
  · rename_i statement
    cases fails : compileLine (trim raw) with
    | ok operations =>
      rw [fails] at here
      cases here
    | error fault =>
      rw [fails] at here
      cases here
      have written : (String.ofList raw).toList = raw := String.toList_ofList
      refine ⟨before, by rwa [written], ?_, ⟨operations, ?_⟩, ?_, ?_⟩
      · rw [number, Nat.add_comm]
      · rw [compile, String.toList_ofList, listedBefore, passed]
      · rw [written]
        exact Bool.not_eq_true _ ▸ statement
      · rw [written, fails]

/-- Two scripts joined by a line break compile to the operations of the one and of the other. If the first
fails, the whole fails like it; if only the second does, the whole reports the same line further down. -/
theorem compile_join (first second : String) :
    (∀ one two, compile first = .ok one → compile second = .ok two →
      compile (first ++ "\n" ++ second) = .ok (one ++ two)) ∧
    (∀ one error, compile first = .ok one → compile second = .error error →
      compile (first ++ "\n" ++ second) =
        .error ⟨error.lineNumber + first.toList.count '\n' + 1, error.line, error.fault⟩) ∧
    (∀ error, compile first = .error error → ∃ other, compile (first ++ "\n" ++ second) = .error other ∧
      error.lineNumber = other.lineNumber ∧ error.fault = other.fault ∧
      (error.line = other.line ∨ error.line = other.line ++ "\r")) ∧
    ∀ error, compile first = .error error → error.ReportsFirst first := by
  refine ⟨?_, ?_, ?_, fun error => reportsFirst_of_compile⟩
  · intro one two early late
    rw [compile_append, compileLines_closedLines_ok early, late]
    rfl
  · intro one error early late
    rw [compile_append, compileLines_closedLines_ok early, late]
    rfl
  · intro error early
    obtain ⟨other, closed, matching⟩ := compileLines_closedLines_error early
    refine ⟨other, ?_, matching.lineNumber, matching.fault, matching.line⟩
    rw [compile_append, closed]
    rfl

/-- The carriage return after `words` is part of the line at the end of a script, and of the line break in
the middle of one. -/
theorem compile_join_words :
    compile "# head\r\nprint()\r" = .ok [⟨.sendStdout, [("id", .string "send_stdout")], none, none⟩] ∧
      compile "\r\nwords\r" = .error ⟨2, "words\r", .invalidLine⟩ ∧
      compile ("# head\r\nprint()\r" ++ "\n" ++ "\r\nwords\r") = .error ⟨4, "words\r", .invalidLine⟩ ∧
      ∃ other, compile ("\r\nwords\r" ++ "\n" ++ "") = .error other ∧ other.lineNumber = 2 := by
  have head : compile "# head\r\nprint()\r" =
      .ok [⟨.sendStdout, [("id", .string "send_stdout")], none, none⟩] := by
    simp only [compile, String.reduceToList]
    rfl
  have tail : compile "\r\nwords\r" = .error ⟨2, "words\r", .invalidLine⟩ := by
    simp only [compile, String.reduceToList]
    rfl
  obtain ⟨-, late, -, -⟩ := compile_join "# head\r\nprint()\r" "\r\nwords\r"
  obtain ⟨-, -, early, -⟩ := compile_join "\r\nwords\r" ""
  obtain ⟨other, fails, number, -⟩ := early _ tail
  exact ⟨head, tail, late _ _ head tail, other, fails, number.symm⟩

end RecordFlow.Script
