import RecordFlow.Proofs.Script.Wrapping

/-!
Where a call ends and what its arguments are is decided by two scans, one up to the parenthesis that closes the
call and one through the text between its parentheses. They agree: a text has the outline of a call exactly if
what stands between its parentheses splits into arguments (`splitCall_outline`). What can go wrong with such a
call afterwards is never a quote or a parenthesis, and as a line it is a call, whatever signs its arguments hold.
-/

namespace RecordFlow.Script

open Text

variable {name body before blanks text : List Char} {α β : Type}

/-- The text is a name, perhaps blanks, and the arguments in parentheses. -/
def HasOutline (text name body : List Char) : Prop :=
  ∃ blanks, text = name ++ (blanks ++ '(' :: (body ++ [')'])) ∧ isIdentifier name = true ∧
    ∀ c ∈ blanks, isBlank c = true

/-! ### The text between the parentheses -/

theorem enclosed_iff : Enclosed text ↔ ∃ arguments, splitArguments text = .ok arguments := by
  constructor
  · intro enclosed
    exact ⟨_, splitArguments_eq_ok_iff.mpr ⟨enclosed, rfl⟩⟩
  · rintro ⟨arguments, split⟩
    exact (splitArguments_eq_ok_iff.mp split).1

theorem exists_blanks (first : ∀ c, before.head? = some c → isBlank c = false) :
    ∃ blanks, before = trim before ++ blanks ∧ ∀ c ∈ blanks, isBlank c = true := by
  rw [trim, trimStart_of_first first]
  exact trimEnd_append before

theorem splitCall_iff_of_trimmed (trimmed : Trimmed text) :
    splitCall text = .ok (name, body) ↔
      HasOutline text name body ∧ ∃ arguments, splitArguments body = .ok arguments := by
  rw [splitCall_eq_ok_iff trimmed, ← enclosed_iff]
  constructor
  · rintro ⟨before, rfl, _, rfl, identifier, enclosed⟩
    have first : ∀ c, before.head? = some c → isBlank c = false := fun c found =>
      trimmed.first c (by rw [List.head?_append, found, Option.some_or])
    obtain ⟨blanks, same, blank⟩ := exists_blanks first
    refine ⟨⟨blanks, ?_, identifier, blank⟩, enclosed⟩
    rw [← List.append_assoc, ← same]
  · rintro ⟨⟨blanks, rfl, identifier, blank⟩, enclosed⟩
    have absent : '(' ∉ name ++ blanks := by
      rw [List.mem_append, not_or]
      exact ⟨notMem_identifier identifier rfl, notMem_blanks blank rfl⟩
    refine ⟨name ++ blanks, (List.append_assoc _ _ _).symm, absent, ?_, identifier, enclosed⟩
    rw [trim_append_blanks blank, trim_of_isIdentifier identifier]

theorem splitCall_trim (text : List Char) : splitCall (trim text) = splitCall text := by
  rw [splitCall, splitCall, trim_eq_self (trimmed_trim text)]

theorem trimmed_of_hasOutline (outline : HasOutline text name body) : Trimmed text := by
  obtain ⟨blanks, rfl, identifier, blank⟩ := outline
  rw [← List.append_assoc]
  apply trimmed_of_splitCall
  · rwa [trim_append_blanks blank, trim_of_isIdentifier identifier]
  · intro c found
    cases name with
    | nil => cases identifier
    | cons d rest =>
      obtain rfl : d = c := Option.some.inj found
      exact isBlank_of_keyChar (keyChar_of_isIdentifier identifier d List.mem_cons_self)

/-! ### Faults of arguments -/

/-- The outcome, if it is a fault, is such a fault. -/
def FailsOnly (faults : Fault → Prop) (outcome : Except Fault α) : Prop :=
  ∀ fault, outcome = .error fault → faults fault

theorem failsOnly_ok {faults : Fault → Prop} (value : α) : FailsOnly faults (.ok value) := by
  intro fault failed
  cases failed

theorem failsOnly_error {faults : Fault → Prop} {fault : Fault} (is : faults fault) :
    FailsOnly faults (.error fault : Except Fault α) := by
  intro fault failed
  cases failed
  exact is

theorem FailsOnly.bind {faults : Fault → Prop} {first : Except Fault α} {next : α → Except Fault β}
    (start : FailsOnly faults first) (later : ∀ value, FailsOnly faults (next value)) :
    FailsOnly faults (first >>= next) := by
  intro fault failed
  rcases bind_eq_error_iff.mp failed with failed | ⟨value, _, failed⟩
  · exact start fault failed
  · exact later value fault failed

/-- The argument has no key that could be one, or what it gives has no place in the call. -/
def Fault.isOfArgument : Fault → Bool
  | .invalidNamedArgument _ | .nestedCallNotAllowed _ | .invalidFirstPositional _ | .positionalNotAllowed _ => true
  | _ => false

theorem failsOnly_namedParts (argument before after : List Char) :
    FailsOnly (·.isOfArgument = true) (namedParts argument before after) := by
  unfold namedParts
  dsimp only
  split
  · exact failsOnly_error rfl
  · exact failsOnly_ok _

theorem failsOnly_argument (text : List Char) : FailsOnly (·.isOfArgument = true) (Argument.ofText text) := by
  unfold Argument.ofText
  split
  · apply (failsOnly_namedParts _ _ _).bind
    rintro ⟨key, value⟩
    dsimp only
    split
    · split
      · exact failsOnly_ok _
      · split
        · exact failsOnly_error rfl
        · exact failsOnly_ok _
    · exact failsOnly_ok _
  · split
    · apply (failsOnly_namedParts _ _ _).bind
      intro parts
      exact failsOnly_ok _
    · exact failsOnly_ok _

theorem failsOnly_addPositional (draft : Draft) (text : List Char) :
    FailsOnly (·.isOfArgument = true) (draft.addPositional text) := by
  unfold Draft.addPositional
  dsimp only
  repeat' split
  all_goals first
    | exact failsOnly_ok _
    | exact failsOnly_error rfl

theorem failsOnly_add (draft : Draft) (text : List Char) : FailsOnly (·.isOfArgument = true) (draft.add text) := by
  unfold Draft.add
  apply (failsOnly_argument text).bind
  intro argument
  cases argument with
  | literal key value => exact failsOnly_ok _
  | call slot call => exact failsOnly_ok _
  | positional text => exact failsOnly_addPositional draft text

theorem failsOnly_arguments (arguments : List (List Char)) (draft : Draft) :
    FailsOnly (·.isOfArgument = true) (arguments.foldlM Draft.add draft) := by
  induction arguments generalizing draft with
  | nil => exact failsOnly_ok draft
  | cons argument rest ih =>
    rw [List.foldlM_cons]
    exact (failsOnly_add draft argument).bind ih

/-! ### Faults past the outline -/

/-- The fault is that of a quote or of a parenthesis. -/
def Fault.isOfScan : Fault → Bool
  | .unterminatedQuote .. | .unbalancedParens .. => true
  | _ => false

/-- Whatever fails here, it is no quote and no parenthesis. -/
def PastScan (outcome : Except Fault α) : Prop := ∀ fault, outcome = .error fault → fault.isOfScan = false

theorem pastScan_arguments (arguments : List (List Char)) (draft : Draft) :
    PastScan (arguments.foldlM Draft.add draft) := by
  intro fault failed
  have ofArgument := failsOnly_arguments arguments draft fault failed
  cases fault with
  | unterminatedQuote quote text => cases ofArgument
  | unbalancedParens text => cases ofArgument
  | _ => rfl

theorem pastScan_nested (nested : List Char → Except Fault Call) (pending : Slot × List Char) :
    PastScan (Call.ofArgument nested pending) := by
  unfold Call.ofArgument
  split
  · exact failsOnly_ok _
  · rename_i fault _
    have other : (fault.inNestedCall pending.2).isOfScan = false := by cases fault <;> rfl
    rintro _ ⟨⟩
    exact other

theorem pastScan_call (nested : List Char → Except Fault Call) {arguments : List (List Char)}
    (split : splitCall text = .ok (name, body)) (read : splitArguments body = .ok arguments) :
    PastScan (Call.ofText nested text) := by
  rw [ofText_eq, split, ok_bind]
  dsimp only
  rw [read, ok_bind]
  apply FailsOnly.bind (pastScan_arguments arguments _)
  intro draft
  refine FailsOnly.bind ?_ fun inputs => failsOnly_ok _
  intro fault failed
  obtain ⟨pending, _, failed⟩ := exists_of_mapM_error failed
  exact pastScan_nested nested pending fault failed

/-! ### The line -/

theorem classify_of_splitCall (split : splitCall text = .ok (name, body)) :
    Line.classify text = .ok (.call (trim text)) := by
  rw [← splitCall_trim] at split
  obtain ⟨⟨blanks, same, identifier, blank⟩, _⟩ := (splitCall_iff_of_trimmed (trimmed_trim text)).mp split
  obtain ⟨early, late, whole, blankEarly, blankLate⟩ := trim_append text
  have opened : text = ((early ++ (name ++ blanks)) ++ '(' :: (body ++ [')'])) ++ late := by
    rw [whole, same]
    simp
  have closes : (trimEnd text).getLast? = some ')' := by
    rw [opened, trimEnd_append_blanks blankLate, trimEnd_of_last, getLast?_opened]
    intro c found
    rw [getLast?_opened, Option.some.injEq] at found
    rw [← found]
    rfl
  have absent : '=' ∉ early ++ (name ++ blanks) := by
    simp only [List.mem_append, not_or]
    exact ⟨notMem_blanks blankEarly rfl, notMem_identifier identifier rfl, notMem_blanks blank rfl⟩
  rw [opened, List.append_assoc, List.cons_append] at closes ⊢
  exact classify_of_opens absent closes

/-- A text has the outline of a call exactly if its arguments split. What fails afterwards is then neither a
quote nor a parenthesis, any text that splits can be the arguments of a call, and the line is a call. -/
theorem splitCall_outline (text : List Char) :
    (∀ name body, splitCall text = .ok (name, body) ↔
      HasOutline (trim text) name body ∧ ∃ arguments, splitArguments body = .ok arguments) ∧
    (∀ name body nested fault, splitCall text = .ok (name, body) → Call.ofText nested text = .error fault →
      fault.isOfScan = false) ∧
    (∀ name blanks arguments, isIdentifier name = true → (∀ c ∈ blanks, isBlank c = true) →
      splitArguments text = .ok arguments →
      splitCall (name ++ (blanks ++ '(' :: (text ++ [')']))) = .ok (name, text)) ∧
    (∀ name body, splitCall text = .ok (name, body) → Line.classify text = .ok (.call (trim text))) := by
  have outlined (name body : List Char) : splitCall text = .ok (name, body) ↔
      HasOutline (trim text) name body ∧ ∃ arguments, splitArguments body = .ok arguments := by
    rw [← splitCall_trim, splitCall_iff_of_trimmed (trimmed_trim text)]
  refine ⟨outlined, ?_, ?_, ?_⟩
  · intro name body nested fault split failed
    obtain ⟨_, arguments, read⟩ := (outlined name body).mp split
    exact pastScan_call nested split read fault failed
  · intro name blanks arguments identifier blank split
    have outline : HasOutline (name ++ (blanks ++ '(' :: (text ++ [')']))) name text :=
      ⟨blanks, rfl, identifier, blank⟩
    exact (splitCall_iff_of_trimmed (trimmed_of_hasOutline outline)).mpr ⟨outline, arguments, split⟩
  · intro name body
    exact classify_of_splitCall

/-- The sign of an assignment is in quotes, and a quote is in the call that refuses. -/
theorem splitCall_outline_nested :
    splitCall " f ( a=\"=\", g(') ) ".toList = .ok ("f".toList, " a=\"=\", g(') ".toList) ∧
      HasOutline "f ( a=\"=\", g(') )".toList "f".toList " a=\"=\", g(') ".toList ∧
      Call.ofText (fun _ => .error .invalidLine) " f ( a=\"=\", g(') ) ".toList =
        .error (.nestedCall "g(')" .invalidLine) ∧
      Fault.isOfScan (.nestedCall "g(')" .invalidLine) = false ∧
      splitArguments " f ( a=\"=\", g(') ) ".toList = .ok ["f ( a=\"=\", g(') )".toList] ∧
      splitCall ("h".toList ++ ([' '] ++ '(' :: (" f ( a=\"=\", g(') ) ".toList ++ [')']))) =
        .ok ("h".toList, " f ( a=\"=\", g(') ) ".toList) ∧
      Line.classify " f ( a=\"=\", g(') ) ".toList = .ok (.call "f ( a=\"=\", g(') )".toList) := by
  have split : splitCall " f ( a=\"=\", g(') ) ".toList = .ok ("f".toList, " a=\"=\", g(') ".toList) := by
    decide +kernel
  have refusing : Call.ofText (fun _ => .error .invalidLine) " f ( a=\"=\", g(') ) ".toList =
      .error (.nestedCall "g(')" .invalidLine) := by
    rfl
  have whole : splitArguments " f ( a=\"=\", g(') ) ".toList = .ok ["f ( a=\"=\", g(') )".toList] := by
    decide +kernel
  obtain ⟨outline, past, call, line⟩ := splitCall_outline " f ( a=\"=\", g(') ) ".toList
  refine ⟨split, ((outline _ _).mp split).1, refusing, past _ _ _ _ split refusing, whole, ?_, line _ _ split⟩
  exact call "h".toList [' '] _ (by decide) (by simp [isBlank]) whole

end RecordFlow.Script
