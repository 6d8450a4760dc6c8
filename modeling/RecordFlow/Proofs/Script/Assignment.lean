import RecordFlow.Proofs.Script.Wiring

/-!
A line that assigns a call stands for the call with another target. What it compiles to differs from what the
call compiles to in where the last operation writes, and in nothing else (`compileLine_assignment`): the line is
cut at the sign before any that the call holds, and the target plays no part in how calls are flattened.
-/

namespace RecordFlow.Script

open Text

variable {line text target before after : List Char}

/-! ### The line -/

/-- What stands before the first `=` is the target if no parenthesis opens there. -/
theorem classify_assignment (noSign : '=' ∉ target) (noCall : '(' ∉ target) (nonblank : trim target ≠ [])
    (opens : '(' ∈ after) :
    Line.classify (target ++ '=' :: after) = .ok (.callAssignment (trim target) (trim after)) := by
  have opensLine : '(' ∈ target ++ '=' :: after := List.mem_append_right _ (List.mem_cons_of_mem _ opens)
  rw [Line.classify, splitFirst?_append noSign]
  simp only [opensLine, not_true, if_false, noCall, not_false_eq_true, if_true, nonblank]

theorem opens_of_classify (shape : Line.classify line = .ok (.call text)) : '(' ∈ line ∧ text = trim line := by
  have ofCallText (opens : '(' ∈ line) (shape : Line.ofCallText line = .ok (.call text)) :
      '(' ∈ line ∧ text = trim line := by
    unfold Line.ofCallText at shape
    split at shape
    · cases shape
      exact ⟨opens, rfl⟩
    · cases shape
  unfold Line.classify at shape
  split at shape
  · split at shape
    · rename_i opens
      exact ofCallText opens shape
    · cases shape
  · dsimp only at shape
    split at shape
    · split at shape <;> cases shape
    · rename_i opens
      split at shape
      · split at shape <;> cases shape
      · exact ofCallText (not_not.mp opens) shape

/-! ### The call tree -/

theorem fillSlot_withTarget (descriptor : Descriptor) (target : Option String) (slot : Slot) (field : String) :
    fillSlot { descriptor with target } slot field = { fillSlot descriptor slot field with target } := by
  cases slot <;> rfl

theorem flattenInputs_withTarget (next : Nat) (descriptor : Descriptor) (target : Option String)
    (inputs : List (Slot × Call)) :
    flattenInputs next { descriptor with target } inputs =
      { flattenInputs next descriptor inputs with
        outer := { (flattenInputs next descriptor inputs).outer with target } } := by
  induction inputs generalizing next descriptor with
  | nil => rfl
  | cons input rest ih =>
    obtain ⟨slot, call⟩ := input
    rw [flattenInputs, flattenInputs, fillSlot_withTarget, ih]

theorem operations_retargeted (tree : Call) (target : String) (next : Nat) :
    ((tree.withTarget target).flatten next).operations = retargetLast target (tree.flatten next).operations := by
  obtain ⟨descriptor, inputs⟩ := tree
  rw [Call.withTarget, Call.flatten, Call.flatten, flattenInputs_withTarget, Flat.operations, Flat.operations,
    retargetLast_concat]

/-! ### Compiling the line -/

theorem compileLine_ne_nil {operations : List Descriptor} (compiled : compileLine line = .ok operations) :
    ∃ inner last, operations = inner ++ [last] := by
  obtain ⟨tree, -, rfl⟩ := map_eq_ok_iff.mp compiled
  exact ⟨_, _, rfl⟩

theorem compileLine_retargeted (isCall : Line.classify line = .ok (.call text)) {assigned : List Char}
    (assigns : Line.classify assigned = .ok (.callAssignment target (trim line))) :
    compileLine assigned = (compileLine line).map (retargetLast (String.ofList target)) := by
  obtain ⟨-, rfl⟩ := opens_of_classify isCall
  rw [compileLine, compileLine, Call.parse, Call.parse, isCall, assigns, ok_bind, ok_bind]
  dsimp only
  cases Call.ofText (Call.parse maxNesting) (trim line) with
  | error fault => rfl
  | ok tree => exact congrArg Except.ok (operations_retargeted tree _ 0)

/-- The assignment of a call fails as the call does, and otherwise compiles to the same operations but for the
target of the last one, which is the left side. -/
theorem compileLine_assignment (isCall : Line.classify line = .ok (.call text)) (noSign : '=' ∉ target)
    (noCall : '(' ∉ target) (nonblank : trim target ≠ []) (blankBefore : ∀ c ∈ before, isBlank c = true)
    (blankAfter : ∀ c ∈ after, isBlank c = true) :
    (∀ fault, compileLine (target ++ (before ++ '=' :: (after ++ line))) = .error fault ↔
      compileLine line = .error fault) ∧
    ∀ operations, compileLine (target ++ (before ++ '=' :: (after ++ line))) = .ok operations ↔
      ∃ inner last, compileLine line = .ok (inner ++ [last]) ∧
        operations = inner ++ [{ last with target := some (String.ofList (trim target)) }] := by
  have opens : '(' ∈ after ++ line := List.mem_append_right _ (opens_of_classify isCall).1
  have noSign' : '=' ∉ target ++ before := by
    rw [List.mem_append, not_or]
    exact ⟨noSign, notMem_blanks blankBefore rfl⟩
  have noCall' : '(' ∉ target ++ before := by
    rw [List.mem_append, not_or]
    exact ⟨noCall, notMem_blanks blankBefore rfl⟩
  have left : trim (target ++ before) = trim target := trim_append_blanks blankBefore target
  have assigns := classify_assignment noSign' noCall' (by rwa [left]) opens
  rw [left, trim_blanks_append blankAfter, List.append_assoc] at assigns
  rw [compileLine_retargeted isCall assigns]
  constructor
  · intro fault
    exact map_eq_error_iff
  · intro operations
    rw [map_eq_ok_iff]
    constructor
    · rintro ⟨own, compiled, rfl⟩
      obtain ⟨inner, last, rfl⟩ := compileLine_ne_nil compiled
      exact ⟨inner, last, compiled, retargetLast_concat _ inner last⟩
    · rintro ⟨inner, last, compiled, rfl⟩
      exact ⟨_, compiled, retargetLast_concat _ inner last⟩

/-- The call has signs of its own, and asks for another target. -/
theorem compileLine_assignment_signs :
    compileLine (" $.o".toList ++ ("\t".toList ++ '=' :: (" ".toList ++
        "print(lower($.a), id=\"=(\", target=$.t)".toList))) =
      .ok [⟨.lowercaseString, [("id", .string "lowercase_string")], some "$.a", some "$.nested_output"⟩,
        ⟨.sendStdout, [("id", .string "=(")], some "$.nested_output", some "$.o"⟩] := by
  have isCall : Line.classify "print(lower($.a), id=\"=(\", target=$.t)".toList =
      .ok (.call "print(lower($.a), id=\"=(\", target=$.t)".toList) := by
    decide +kernel
  have compiled : compileLine "print(lower($.a), id=\"=(\", target=$.t)".toList =
      .ok ([⟨.lowercaseString, [("id", .string "lowercase_string")], some "$.a", some "$.nested_output"⟩] ++
        [⟨.sendStdout, [("id", .string "=(")], some "$.nested_output", some "$.t"⟩]) := by
    simp only [String.reduceToList]
    rfl
  have left : String.ofList (trim " $.o".toList) = "$.o" := by
    decide +kernel
  have noSign : '=' ∉ " $.o".toList := by
    decide
  have blankBefore : ∀ c ∈ "\t".toList, isBlank c = true := by
    simp [isBlank]
  have blankAfter : ∀ c ∈ " ".toList, isBlank c = true := by
    simp [isBlank]
  obtain ⟨-, same⟩ := compileLine_assignment isCall noSign (by decide) (by decide) blankBefore blankAfter
  rw [same, left]
  exact ⟨_, _, compiled, rfl⟩

end RecordFlow.Script
