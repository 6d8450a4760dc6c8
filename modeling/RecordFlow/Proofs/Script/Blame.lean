import RecordFlow.Proofs.Script.Outline

/-!
# Which call is to blame

The fault of a nested call is reported from the line down, with every call on the way. Each of these calls is a part
of the line that fails by itself, with the fault that is reported of it, and the innermost has nothing to blame but
itself (`compileLine_culprit`): as a line a call has more levels than as an argument, and more levels change
nothing but a fault of the depth (`parse_of_finished`), which is never reported of a call.
-/

namespace RecordFlow.Script

open Text

variable {name body before text call line : List Char} {fault inner : Fault}
  {nested other : List Char → Except Fault Call}

/-! ### Parts of a line -/

theorem infix_of_nestedArgument? {kind : Kind} {index : Nat} {argument : List Char} {pending : Slot × List Char}
    (found : nestedArgument? kind index argument = some pending) : pending.2 <:+: argument := by
  unfold nestedArgument? at found
  split at found
  · rename_i key value cut
    obtain ⟨c, spelled, -⟩ := Scan.splitFirst?_eq_some cut
    split at found
    · cases found
      have after : value <:+: argument := ⟨key ++ [c], [], by simp [spelled]⟩
      exact (infix_trim value).trans after
    · cases found
  · split at found
    · cases found
      exact List.infix_rfl
    · cases found

theorem infix_of_mem_nestedArguments {kind : Kind} {index : Nat} {arguments : List (List Char)}
    {pending : Slot × List Char} (member : pending ∈ nestedArguments kind index arguments) :
    ∃ argument ∈ arguments, pending.2 <:+: argument := by
  induction arguments generalizing index with
  | nil => cases member
  | cons argument rest ih =>
    rw [nestedArguments, List.mem_append, Option.mem_toList] at member
    rcases member with here | later
    · exact ⟨argument, List.mem_cons_self, infix_of_nestedArgument? here⟩
    · obtain ⟨other, isArgument, inside⟩ := ih later
      exact ⟨other, List.mem_cons_of_mem argument isArgument, inside⟩

/-- What stands between the parentheses is a shorter part of the call. -/
theorem infix_of_splitCall (split : splitCall text = .ok (name, body)) :
    body <:+: text ∧ body.length < text.length := by
  rw [← splitCall_trim] at split
  obtain ⟨⟨blanks, spelled, -, -⟩, -⟩ := (splitCall_iff_of_trimmed (trimmed_trim text)).mp split
  have inside : body <:+: trim text := ⟨name ++ (blanks ++ ['(']), [')'], by simp [spelled]⟩
  have shorter : body.length < (trim text).length := by
    rw [spelled]
    simp only [List.length_append, List.length_cons]
    omega
  exact ⟨inside.trans (infix_trim text), shorter.trans_le (infix_trim text).length_le⟩

/-! ### Faults of a call itself -/

/-- The fault is neither that of a call within nor that of the depth. -/
def Fault.isOwn : Fault → Bool
  | .nestedCall .. | .nestingTooDeep _ => false
  | _ => true

theorem isOwn_of_isOfArgument (ofArgument : fault.isOfArgument = true) : fault.isOwn = true := by
  cases fault with
  | nestedCall call inner => cases ofArgument
  | nestingTooDeep limit => cases ofArgument
  | _ => rfl

theorem failsOnly_finish (text : List Char) (scan : Scan) :
    FailsOnly (·.isOwn = true) (Scan.finish text scan) := by
  match scan with
  | .inside quote escaped => exact failsOnly_error rfl
  | .outside 0 => exact failsOnly_ok _
  | .outside (depth + 1) => exact failsOnly_error rfl

theorem failsOnly_splitArguments (text : List Char) :
    FailsOnly (·.isOwn = true) (splitArguments text) := by
  unfold splitArguments
  split
  · exact failsOnly_error rfl
  · exact (failsOnly_finish _ _).bind fun _ => failsOnly_ok _

theorem failsOnly_splitCall (text : List Char) : FailsOnly (·.isOwn = true) (splitCall text) := by
  unfold splitCall
  dsimp only
  split
  · exact failsOnly_error rfl
  · split
    · exact failsOnly_error rfl
    · split
      · exact (failsOnly_finish _ _).bind fun _ => failsOnly_error rfl
      · split
        · exact failsOnly_error rfl
        · exact failsOnly_ok _

/-- What a line can be: the call that it holds is a part of it. -/
inductive Line.Shape (line : List Char) : Except Fault Line → Prop where
  | fault {fault : Fault} (own : fault.isOwn = true) : Shape line (.error fault)
  | directAssignment (target source : List Char) : Shape line (.ok (.directAssignment target source))
  | callAssignment (target : List Char) {text : List Char} (part : text <:+: line) :
      Shape line (.ok (.callAssignment target text))
  | call {text : List Char} (part : text <:+: line) : Shape line (.ok (.call text))

theorem shape_ofCallText (line : List Char) : Line.Shape line (Line.ofCallText line) := by
  unfold Line.ofCallText
  split
  · exact .call (infix_trim line)
  · exact .fault rfl

theorem shape_classify (line : List Char) : Line.Shape line (Line.classify line) := by
  unfold Line.classify
  split
  · split
    · exact shape_ofCallText line
    · exact .fault rfl
  · rename_i before after cut
    have part : trim after <:+: line := by
      have inside : after <:+: line := ⟨before ++ ['='], [], by simp [(splitFirst?_some cut).1]⟩
      exact (infix_trim after).trans inside
    dsimp only
    split
    · split
      · exact .fault rfl
      · exact .directAssignment _ _
    · split
      · split
        · exact .fault rfl
        · exact .callAssignment _ part
      · exact shape_ofCallText line

/-! ### Faults of calls within -/

theorem inNestedCall_cases (call : List Char) (inner : Fault) :
    (∃ limit, inner = .nestingTooDeep limit ∧ inner.inNestedCall call = .nestingTooDeep limit) ∨
      (∀ limit, inner ≠ .nestingTooDeep limit) ∧
        inner.inNestedCall call = .nestedCall (String.ofList call) inner := by
  cases inner with
  | nestingTooDeep limit => exact .inl ⟨limit, rfl, rfl⟩
  | _ => exact .inr ⟨fun limit => Fault.noConfusion, rfl⟩

/-- A call that is not read is itself at fault, or a call that is a part of it is. -/
theorem fault_of_ofText (failed : Call.ofText nested text = .error fault) :
    fault.isOwn = true ∨ ∃ call inner, call <:+: text ∧ call.length < text.length ∧
      nested call = .error inner ∧ fault = inner.inNestedCall call := by
  rw [ofText_eq] at failed
  obtain failed | ⟨⟨name, body⟩, split, failed⟩ := bind_eq_error_iff.mp failed
  · exact .inl (failsOnly_splitCall text fault failed)
  obtain failed | ⟨arguments, read, failed⟩ := bind_eq_error_iff.mp failed
  · exact .inl (failsOnly_splitArguments body fault failed)
  obtain failed | ⟨draft, added, failed⟩ := bind_eq_error_iff.mp failed
  · exact .inl (isOwn_of_isOfArgument (failsOnly_arguments arguments _ fault failed))
  obtain failed | ⟨inputs, -, ⟨⟩⟩ := bind_eq_error_iff.mp failed
  obtain ⟨⟨slot, call⟩, member, failed⟩ := exists_of_mapM_error failed
  obtain ⟨-, -, pending⟩ := foldlM_add added
  rw [pending] at member
  obtain ⟨argument, isArgument, inside⟩ := infix_of_mem_nestedArguments member
  obtain ⟨within, shorter⟩ := infix_of_splitCall split
  have part : call <:+: body := inside.trans (infix_of_mem_splitArguments read isArgument)
  unfold Call.ofArgument at failed
  split at failed
  · cases failed
  · rename_i inner refused
    cases failed
    exact .inr ⟨call, inner, part.trans within, part.length_le.trans_lt shorter, refused, rfl⟩

/-- What the fault of a line that is not read says: the line itself is wrong, or it is too deep, or a call that is
a part of it is wrong by itself. -/
inductive Blames (levels : Nat) (line : List Char) : Fault → Prop where
  | own {fault : Fault} (own : fault.isOwn = true) : Blames levels line fault
  | depth : Blames levels line (.nestingTooDeep maxNesting)
  | nested {fewer : Nat} {call : List Char} {inner : Fault} (below : fewer + 1 = levels) (part : call <:+: line)
      (shorter : call.length < line.length) (failed : Call.parse fewer call = .error inner)
      (notDeep : ∀ limit, inner ≠ .nestingTooDeep limit) :
      Blames levels line (.nestedCall (String.ofList call) inner)

theorem blames_of_ofText {levels : Nat}
    (blames : ∀ call inner, Call.parse levels call = .error inner → Blames levels call inner)
    (part : text <:+: line) (failed : Call.ofText (Call.parse levels) text = .error fault) :
    Blames (levels + 1) line fault := by
  obtain own | ⟨call, inner, inside, shorter, refused, rfl⟩ := fault_of_ofText failed
  · exact .own own
  rcases inNestedCall_cases call inner with ⟨limit, rfl, same⟩ | ⟨notDeep, same⟩
  · rw [same]
    cases blames call _ refused with
    | own own => cases own
    | depth => exact .depth
  · rw [same]
    exact .nested rfl (inside.trans part) (shorter.trans_le part.length_le) refused notDeep

theorem blames_of_parse {levels : Nat} (failed : Call.parse levels line = .error fault) :
    Blames levels line fault := by
  induction levels generalizing line fault with
  | zero =>
    cases failed
    exact .depth
  | succ levels ih =>
    have shape := shape_classify line
    rw [Call.parse] at failed
    generalize Line.classify line = outcome at failed shape
    cases shape with
    | fault own =>
      cases failed
      exact .own own
    | directAssignment target source => cases failed
    | callAssignment target part =>
      rw [ok_bind] at failed
      obtain failed | ⟨_, _, ⟨⟩⟩ := bind_eq_error_iff.mp failed
      exact blames_of_ofText (fun _ _ => ih) part failed
    | call part => exact blames_of_ofText (fun _ _ => ih) part failed

/-! ### More levels -/

/-- The outcome was not cut short by the bound on the depth. -/
def Finished {α : Type} (outcome : Except Fault α) : Prop :=
  FailsOnly (fun fault => ∀ limit, fault ≠ .nestingTooDeep limit) outcome

theorem bind_of_finished {α β : Type} {first : Except Fault α} {next next' : α → Except Fault β}
    (finished : Finished (first >>= next)) (agree : ∀ value, Finished (next value) → next' value = next value) :
    (first >>= next') = (first >>= next) := by
  cases first with
  | ok value => exact agree value finished
  | error fault => rfl

theorem Finished.of_bind {α β : Type} {first : Except Fault α} {next : α → Except Fault β}
    (finished : Finished (first >>= next)) : Finished first := by
  intro fault failed
  exact finished fault (bind_eq_error_iff.mpr (.inl failed))

theorem mapM_of_finished {α β : Type} {read read' : α → Except Fault β} {inputs : List α}
    (agree : ∀ input, Finished (read input) → read' input = read input)
    (finished : Finished (inputs.mapM read)) : inputs.mapM read' = inputs.mapM read := by
  induction inputs with
  | nil => rfl
  | cons input rest ih =>
    rw [List.mapM_cons] at finished
    rw [List.mapM_cons, List.mapM_cons, agree input finished.of_bind]
    apply bind_of_finished finished
    intro first later
    rw [ih later.of_bind]

theorem ofArgument_of_finished (agree : ∀ call, Finished (nested call) → other call = nested call)
    {pending : Slot × List Char} (finished : Finished (Call.ofArgument nested pending)) :
    Call.ofArgument other pending = Call.ofArgument nested pending := by
  have same : other pending.2 = nested pending.2 := by
    apply agree
    rintro fault failed limit rfl
    have reported : Call.ofArgument nested pending = .error (.nestingTooDeep limit) := by
      rw [Call.ofArgument, failed]
      rfl
    exact finished _ reported limit rfl
  rw [Call.ofArgument, Call.ofArgument, same]

theorem ofText_of_finished (agree : ∀ call, Finished (nested call) → other call = nested call)
    (finished : Finished (Call.ofText nested text)) : Call.ofText other text = Call.ofText nested text := by
  rw [ofText_eq] at finished
  rw [ofText_eq, ofText_eq]
  apply bind_of_finished finished
  rintro ⟨name, body⟩ finished
  apply bind_of_finished finished
  intro arguments finished
  apply bind_of_finished finished
  intro draft finished
  rw [mapM_of_finished (fun _ => ofArgument_of_finished agree) finished.of_bind]

/-- Whatever a line is read as, unless it is too deep, it is read so with more levels. -/
theorem parse_of_finished {n m : Nat} (enough : n ≤ m) (finished : Finished (Call.parse n line)) :
    Call.parse m line = Call.parse n line := by
  induction n generalizing m line with
  | zero => exact absurd rfl (finished _ rfl maxNesting)
  | succ n ih =>
    cases m with
    | zero => cases enough
    | succ m =>
      have agree (call : List Char) (finished : Finished (Call.parse n call)) :
          Call.parse m call = Call.parse n call := ih (Nat.le_of_succ_le_succ enough) finished
      apply bind_of_finished finished
      intro shape finished
      cases shape with
      | directAssignment target source => rfl
      | callAssignment target text =>
        dsimp only
        rw [ofText_of_finished agree finished.of_bind]
      | call text => exact ofText_of_finished agree finished

/-! ### The innermost call -/

/-- The calls that a fault names, the outermost first. -/
def Fault.calls : Fault → List String
  | .nestedCall call inner => call :: inner.calls
  | _ => []

/-- What is wrong with the innermost of them, or with the line if there is none. -/
def Fault.root : Fault → Fault
  | .nestedCall _ inner => inner.root
  | fault => fault

theorem compileLine_eq_error_iff :
    compileLine line = .error fault ↔ Call.parse (maxNesting + 1) line = .error fault :=
  map_eq_error_iff

/-- The call that the fault of a line names fails by itself, and in the same way: as a line it has one level more. -/
theorem compileLine_of_nestedCall {call : String} (failed : compileLine line = .error (.nestedCall call inner)) :
    call.toList <:+: line ∧ call.toList.length < line.length ∧ compileLine call.toList = .error inner ∧
      ∀ limit, inner ≠ .nestingTooDeep limit := by
  cases blames_of_parse (compileLine_eq_error_iff.mp failed) with
  | own own => cases own
  | @nested fewer call _ below part shorter refused notDeep =>
    rw [String.toList_ofList]
    refine ⟨part, shorter, ?_, notDeep⟩
    have finished : Finished (Call.parse fewer call) := by
      intro fault failed
      rw [refused] at failed
      cases failed
      exact notDeep
    rw [compileLine_eq_error_iff, parse_of_finished (by omega) finished, refused]

theorem root_of_compileLine (failed : compileLine line = .error fault) :
    fault.root.isOwn = true ∨ fault = .nestingTooDeep maxNesting := by
  induction fault generalizing line with
  | nestedCall call inner ih =>
    obtain ⟨-, -, refused, notDeep⟩ := compileLine_of_nestedCall failed
    exact .inl ((ih refused).resolve_right (notDeep _))
  | nestingTooDeep limit =>
    cases blames_of_parse (compileLine_eq_error_iff.mp failed) with
    | own own => cases own
    | depth => exact .inr rfl
  | _ => exact .inl rfl

theorem compileLine_innermost {call : String} (failed : compileLine line = .error fault)
    (last : fault.calls.getLast? = some call) : compileLine call.toList = .error fault.root := by
  induction fault generalizing line with
  | nestedCall outer inner ih =>
    obtain ⟨-, -, refused, -⟩ := compileLine_of_nestedCall failed
    rw [Fault.calls, List.getLast?_cons] at last
    cases deeper : inner.calls.getLast? with
    | none =>
      rw [deeper, Option.getD_none] at last
      cases last
      cases inner with
      | nestedCall other source => simp [Fault.calls, List.getLast?_cons] at deeper
      | _ => exact refused
    | some other =>
      rw [deeper, Option.getD_some] at last
      cases last
      exact ih refused deeper
  | _ => cases last

/-- A fault of a nested call names a shorter part of the line that fails by itself with the fault that is reported
of it. The innermost of the calls named is itself wrong: too deep a nesting is never reported of a call. -/
theorem compileLine_culprit (failed : compileLine line = .error fault) :
    (∀ call inner, fault = .nestedCall call inner →
      call.toList <:+: line ∧ call.toList.length < line.length ∧ compileLine call.toList = .error inner) ∧
    (∀ call, fault.calls.getLast? = some call →
      compileLine call.toList = .error fault.root ∧ fault.root.isOwn = true) ∧
    ∀ limit, fault.root = .nestingTooDeep limit → fault = .nestingTooDeep maxNesting := by
  refine ⟨?_, ?_, ?_⟩
  · rintro call inner rfl
    obtain ⟨part, shorter, refused, -⟩ := compileLine_of_nestedCall failed
    exact ⟨part, shorter, refused⟩
  · intro call last
    refine ⟨compileLine_innermost failed last, ?_⟩
    rcases root_of_compileLine failed with own | rfl
    · exact own
    · cases last
  · intro limit deep
    rcases root_of_compileLine failed with own | same
    · rw [deep] at own
      cases own
    · exact same

/-- Three calls deep a builtin has two positional arguments. -/
theorem compileLine_culprit_positional :
    compileLine "f(g($.a), k=print(lower(split($.a, $.b))))".toList =
      .error (.nestedCall "print(lower(split($.a, $.b)))" (.nestedCall "lower(split($.a, $.b))"
        (.nestedCall "split($.a, $.b)" (.positionalNotAllowed "$.b")))) ∧
    compileLine "print(lower(split($.a, $.b)))".toList =
      .error (.nestedCall "lower(split($.a, $.b))"
        (.nestedCall "split($.a, $.b)" (.positionalNotAllowed "$.b"))) ∧
    compileLine "split($.a, $.b)".toList = .error (.positionalNotAllowed "$.b") := by
  have failed : compileLine "f(g($.a), k=print(lower(split($.a, $.b))))".toList =
      .error (.nestedCall "print(lower(split($.a, $.b)))" (.nestedCall "lower(split($.a, $.b))"
        (.nestedCall "split($.a, $.b)" (.positionalNotAllowed "$.b")))) := by
    rfl
  obtain ⟨named, innermost, -⟩ := compileLine_culprit failed
  obtain ⟨-, -, refused⟩ := named _ _ rfl
  exact ⟨failed, refused, (innermost _ rfl).1⟩

end RecordFlow.Script
