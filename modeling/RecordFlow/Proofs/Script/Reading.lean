import RecordFlow.Proofs.Script.CallText
import RecordFlow.Proofs.Script.CallTree

/-!
# What a line spells

`Call.Spells` says which call trees a line stands for, without building one: the kind of every call is
its name's, and its inputs are the calls among its arguments, in the order of the arguments, each with
the slot that its form gives it. `spells_of_parse` says that reading a line gives such a tree.
-/

namespace RecordFlow.Script

open Text

/-! ### Arguments by their form -/

def namedSlot (key : String) : Slot := if key = "source" then .source else .setting key

def positionalSlot (kind : Kind) (index : Nat) : Slot :=
  if kind.isBuiltin then .source else .setting (Draft.positionalKey index)

/-- What stands before and after the sign of a named argument: a plain `=` counts before a plain `:`. -/
def namedTexts? (argument : List Char) : Option (List Char × List Char) :=
  (splitAtSign? '=' argument).or (splitAtSign? ':' argument)

/-- The argument has neither a plain `=` nor a plain `:`. -/
def isPositional (argument : List Char) : Bool :=
  (splitAtSign? '=' argument).isNone && (splitAtSign? ':' argument).isNone

theorem namedTexts?_eq_none_iff {argument : List Char} :
    namedTexts? argument = none ↔ isPositional argument = true := by
  simp [namedTexts?, isPositional]

/-- The call that an argument stands for, if it stands for one, and the slot that waits for it;
`index` is the number of positional arguments before it. -/
def nestedArgument? (kind : Kind) (index : Nat) (argument : List Char) :
    Option (Slot × List Char) :=
  match splitAtSign? '=' argument with
  | some (key, value) =>
    if looksLikeCall (trim value) then
      some (namedSlot (String.ofList (trim key)), trim value)
    else none
  | none =>
    if isPositional argument && looksLikeCall argument then
      some (positionalSlot kind index, argument)
    else none

def nestedArguments (kind : Kind) (index : Nat) : List (List Char) → List (Slot × List Char)
  | [] => []
  | argument :: rest =>
    (nestedArgument? kind index argument).toList ++
      nestedArguments kind (if isPositional argument then index + 1 else index) rest

/-- The call that an argument stands for, wherever its result goes. -/
def callText? (argument : List Char) : Option (List Char) :=
  match splitAtSign? '=' argument with
  | some (_, value) => if looksLikeCall (trim value) then some (trim value) else none
  | none => if isPositional argument && looksLikeCall argument then some argument else none

theorem map_nestedArgument? (kind : Kind) (index : Nat) (argument : List Char) :
    (nestedArgument? kind index argument).map Prod.snd = callText? argument := by
  unfold nestedArgument? callText?
  split <;> split <;> rfl

theorem map_nestedArguments (kind : Kind) (index : Nat) (arguments : List (List Char)) :
    (nestedArguments kind index arguments).map Prod.snd = arguments.filterMap callText? := by
  induction arguments generalizing index with
  | nil => rfl
  | cons argument rest ih =>
    rw [nestedArguments, List.map_append, ih, List.filterMap_cons, ← map_nestedArgument? kind index]
    cases nestedArgument? kind index argument <;> rfl

/-- The text that an argument gives for the target. A truth value or a whole number in the older form
is no text, and so no target. -/
def targetText? (argument : List Char) : Option String :=
  match splitAtSign? '=' argument with
  | some (key, value) =>
    if String.ofList (trim key) = "target" then some (String.ofList (unquote (trim value))) else none
  | none =>
    match splitAtSign? ':' argument with
    | some (key, value) =>
      if String.ofList (trim key) = "target" then (typedValue (trim value)).string? else none
    | none => none

def argumentsTarget (arguments : List (List Char)) : Option String :=
  (arguments.filterMap targetText?).getLast?

/-! ### Lines -/

def IsCall (text name : List Char) (arguments : List (List Char)) : Prop :=
  ∃ body, splitCall text = .ok (name, body) ∧ splitArguments body = .ok arguments

def HoldsCall (line text : List Char) : Prop :=
  Line.classify line = .ok (.call text) ∨
    ∃ target, Line.classify line = .ok (.callAssignment target text)

mutual

/-- The line stands for the call tree. -/
def Call.Spells : Call → List Char → Prop
  | .node descriptor inputs, line =>
    (∃ target source, Line.classify line = .ok (.directAssignment target source) ∧
      descriptor.kind = .directAssignment ∧ inputs = []) ∨
    ∃ text name arguments, HoldsCall line text ∧ IsCall text name arguments ∧
      descriptor.kind = Kind.ofName (String.ofList name) ∧
      InputsSpell inputs (nestedArguments descriptor.kind 0 arguments)

/-- The texts, each with its slot, stand for the inputs. -/
def InputsSpell : List (Slot × Call) → List (Slot × List Char) → Prop
  | [], texts => texts = []
  | (slot, call) :: rest, texts =>
    ∃ text others, texts = (slot, text) :: others ∧ call.Spells text ∧ InputsSpell rest others

end

/-- Where the operation of a line writes to: the left side of an assignment, or else what the arguments
of the call ask for. -/
inductive HasTarget (line : List Char) : Option String → Prop where
  | assignment {target source} (shape : Line.classify line = .ok (.directAssignment target source)) :
      HasTarget line (some (String.ofList target))
  | callAssignment {target text} (shape : Line.classify line = .ok (.callAssignment target text)) :
      HasTarget line (some (String.ofList target))
  | call {text name arguments} (shape : Line.classify line = .ok (.call text))
      (isCall : IsCall text name arguments) : HasTarget line (argumentsTarget arguments)

/-! ### Drafts -/

theorem namedParts_eq_ok {argument before after : List Char} {key : String} {value : List Char}
    (split : namedParts argument before after = .ok (key, value)) :
    key = String.ofList (trim before) ∧ value = trim after := by
  rw [namedParts] at split
  split at split
  · cases split
  · cases split
    exact ⟨rfl, rfl⟩

/-- A text under the name of a path is stored as such, and everything else among the settings. -/
theorem setNamed_cases (descriptor : Descriptor) (key : String) (value : Setting) :
    (∃ path, key = "source" ∧ value = .string path ∧
      setNamed descriptor key value = { descriptor with source := some path }) ∨
    (∃ path, key = "target" ∧ value = .string path ∧
      setNamed descriptor key value = { descriptor with target := some path }) ∨
    (value.string? = none ∨ key ≠ "source" ∧ key ≠ "target") ∧
      setNamed descriptor key value =
        { descriptor with settings := Fields.insert key value descriptor.settings } := by
  unfold setNamed
  split
  · exact .inl ⟨_, rfl, rfl, rfl⟩
  · exact .inr (.inl ⟨_, rfl, rfl, rfl⟩)
  · rename_i notSource notTarget
    refine .inr (.inr ⟨?_, rfl⟩)
    cases value with
    | string path => exact .inr ⟨fun same => notSource path same rfl, fun same => notTarget path same rfl⟩
    | _ => exact .inl rfl

theorem setNamed_kind (descriptor : Descriptor) (key : String) (value : Setting) :
    (setNamed descriptor key value).kind = descriptor.kind := by
  unfold setNamed
  split <;> rfl

theorem setNamed_target (descriptor : Descriptor) (key : String) (value : Setting) :
    (setNamed descriptor key value).target =
      (if key = "target" then value.string? else none).or descriptor.target := by
  obtain ⟨path, rfl, rfl, same⟩ | ⟨path, rfl, rfl, same⟩ | ⟨typed | ⟨-, notTarget⟩, same⟩ :=
    setNamed_cases descriptor key value
  · rw [same]; rfl
  · rw [same]; rfl
  · rw [same, typed, ite_self, Option.none_or]
  · rw [same, if_neg notTarget, Option.none_or]

/-- The key and the value of a named argument that is no call. -/
def namedValue? (argument : List Char) : Option (String × Setting) :=
  match splitAtSign? '=' argument with
  | some (key, value) =>
    if looksLikeCall (trim value) then none
    else some (String.ofList (trim key), .string (String.ofList (unquote (trim value))))
  | none =>
    (splitAtSign? ':' argument).map fun (key, value) => (String.ofList (trim key), typedValue (trim value))

/-- What an argument is read as. -/
inductive Argument.Reads (argument : List Char) : Argument → Prop where
  | literal {key : String} {value : Setting} (is : namedValue? argument = some (key, value)) :
      Reads argument (.literal key value)
  | call {key value : List Char} (equals : splitAtSign? '=' argument = some (key, value))
      (callLike : looksLikeCall (trim value) = true) (allowed : String.ofList (trim key) ≠ "target") :
      Reads argument (.call (namedSlot (String.ofList (trim key))) (trim value))
  | positional (is : isPositional argument = true) : Reads argument (.positional argument)

theorem reads_of_ofText {argument : List Char} {form : Argument}
    (read : Argument.ofText argument = .ok form) : Argument.Reads argument form := by
  unfold Argument.ofText at read
  cases equals : splitAtSign? '=' argument with
  | some parts =>
    obtain ⟨before, after⟩ := parts
    rw [equals] at read
    obtain ⟨⟨key, value⟩, split, read⟩ := bind_eq_ok_iff.mp read
    obtain ⟨rfl, rfl⟩ := namedParts_eq_ok split
    dsimp only at read
    split at read
    · rename_i callLike
      split at read
      · rename_i source
        cases read
        have call := Argument.Reads.call equals callLike (by rw [source]; decide)
        rwa [namedSlot, if_pos source] at call
      · rename_i notSource
        split at read
        · cases read
        · rename_i notTarget
          cases read
          have call := Argument.Reads.call equals callLike notTarget
          rwa [namedSlot, if_neg notSource] at call
    · rename_i plain
      cases read
      exact .literal (by simp [namedValue?, equals, plain])
  | none =>
    rw [equals] at read
    cases colon : splitAtSign? ':' argument with
    | some parts =>
      obtain ⟨before, after⟩ := parts
      simp only [colon] at read
      obtain ⟨⟨key, value⟩, split, read⟩ := bind_eq_ok_iff.mp read
      obtain ⟨rfl, rfl⟩ := namedParts_eq_ok split
      cases read
      exact .literal (by simp [namedValue?, equals, colon])
    | none =>
      simp only [colon] at read
      cases read
      exact .positional (by simp [isPositional, equals, colon])

/-- Everything that adding an argument to a draft can do. -/
inductive Draft.Step (draft : Draft) (argument : List Char) : Draft → Prop where
  | named {key : String} {value : Setting} (is : namedValue? argument = some (key, value)) :
      Step draft argument { draft with descriptor := setNamed draft.descriptor key value }
  | namedCall {key value : List Char} (equals : splitAtSign? '=' argument = some (key, value))
      (callLike : looksLikeCall (trim value) = true) (allowed : String.ofList (trim key) ≠ "target") :
      Step draft argument (draft.addInput (namedSlot (String.ofList (trim key))) (trim value))
  | call (is : isPositional argument = true) (callLike : looksLikeCall argument = true) :
      Step draft argument
        ({ draft with positional := draft.positional + 1 }.addInput
          (positionalSlot draft.descriptor.kind draft.positional) argument)
  | path (is : isPositional argument = true) (plain : looksLikeCall argument = false)
      (builtin : draft.descriptor.kind.isBuiltin = true) :
      Step draft argument
        { draft with
          descriptor := { draft.descriptor with source := some (String.ofList argument) }
          positional := draft.positional + 1 }
  | numbered (is : isPositional argument = true) (plain : looksLikeCall argument = false)
      (custom : draft.descriptor.kind.isBuiltin = false) :
      Step draft argument
        { draft with
          descriptor := { draft.descriptor with
            settings := Fields.insert (positionalKey draft.positional)
              (.string (String.ofList (unquote argument))) draft.descriptor.settings }
          positional := draft.positional + 1 }

theorem step_of_addPositional {draft draft' : Draft} {argument : List Char}
    (is : isPositional argument = true) (added : draft.addPositional argument = .ok draft') :
    draft.Step argument draft' := by
  unfold Draft.addPositional at added
  dsimp only at added
  split at added
  · rename_i builtin
    have slot : positionalSlot draft.descriptor.kind draft.positional = .source := if_pos builtin
    split at added
    · cases added
    split at added
    · rename_i callLike
      cases added
      rw [← slot]
      exact .call is callLike
    · rename_i plain
      split at added
      · cases added
        exact .path is (Bool.not_eq_true _ ▸ plain) builtin
      · cases added
  · rename_i custom
    have slot : positionalSlot draft.descriptor.kind draft.positional =
        .setting (Draft.positionalKey draft.positional) := if_neg custom
    split at added
    · rename_i callLike
      cases added
      rw [← slot]
      exact .call is callLike
    · rename_i plain
      cases added
      exact .numbered is (Bool.not_eq_true _ ▸ plain) (Bool.not_eq_true _ ▸ custom)

theorem step_of_add {draft draft' : Draft} {argument : List Char}
    (added : draft.add argument = .ok draft') : draft.Step argument draft' := by
  obtain ⟨form, read, added⟩ := bind_eq_ok_iff.mp added
  cases reads_of_ofText read with
  | literal is =>
    cases added
    exact .named is
  | call equals callLike allowed =>
    cases added
    exact .namedCall equals callLike allowed
  | positional is => exact step_of_addPositional is added

/-- A named argument that is no call takes no position and waits for no call. -/
theorem of_namedValue? {argument : List Char} {key : String} {value : Setting}
    (is : namedValue? argument = some (key, value)) :
    isPositional argument = false ∧ (∀ kind index, nestedArgument? kind index argument = none) ∧
      targetText? argument = if key = "target" then value.string? else none := by
  unfold namedValue? at is
  cases equals : splitAtSign? '=' argument with
  | some parts =>
    obtain ⟨before, after⟩ := parts
    simp only [equals] at is
    split at is
    · cases is
    · rename_i plain
      cases is
      refine ⟨by simp [isPositional, equals], ?_, ?_⟩
      · intro kind index
        simp [nestedArgument?, equals, plain]
      · simp only [targetText?, equals, Setting.string?]
  | none =>
    simp only [equals] at is
    obtain ⟨⟨before, after⟩, colon, same⟩ := Option.map_eq_some_iff.mp is
    cases same
    have named : isPositional argument = false := by simp [isPositional, colon]
    refine ⟨named, ?_, ?_⟩
    · intro kind index
      simp [nestedArgument?, equals, named]
    · simp only [targetText?, equals, colon]

theorem of_isPositional {argument : List Char} (is : isPositional argument = true) :
    splitAtSign? '=' argument = none ∧ splitAtSign? ':' argument = none ∧ targetText? argument = none := by
  rw [isPositional, Bool.and_eq_true, Option.isNone_iff_eq_none, Option.isNone_iff_eq_none] at is
  obtain ⟨equals, colon⟩ := is
  exact ⟨equals, colon, by simp only [targetText?, equals, colon]⟩

structure Adds (draft : Draft) (argument : List Char) (draft' : Draft) : Prop where
  kind : draft'.descriptor.kind = draft.descriptor.kind
  target : draft'.descriptor.target = (targetText? argument).or draft.descriptor.target
  inputs : draft'.inputs = draft.inputs ++
    (nestedArgument? draft.descriptor.kind draft.positional argument).toList
  positional : draft'.positional = if isPositional argument then draft.positional + 1 else draft.positional

theorem adds_of_add {draft draft' : Draft} {argument : List Char}
    (added : draft.add argument = .ok draft') : Adds draft argument draft' := by
  cases step_of_add added with
  | named is =>
    obtain ⟨noPosition, noCall, target⟩ := of_namedValue? is
    refine ⟨setNamed_kind _ _ _, ?_, ?_, ?_⟩
    · rw [setNamed_target, target]
    · rw [noCall, Option.toList_none, List.append_nil]
    · rw [noPosition]; rfl
  | namedCall equals callLike allowed =>
    refine ⟨rfl, ?_, ?_, ?_⟩
    · simp only [targetText?, equals, if_neg allowed, Option.none_or]; rfl
    · simp only [nestedArgument?, equals, callLike, if_true]; rfl
    · simp only [isPositional, equals]; rfl
  | call is callLike =>
    obtain ⟨equals, -, noTarget⟩ := of_isPositional is
    refine ⟨rfl, by rw [noTarget]; rfl, ?_, by rw [is]; rfl⟩
    simp only [nestedArgument?, equals, is, callLike, Bool.and_self, if_true]
    rfl
  | path is plain | numbered is plain =>
    obtain ⟨equals, -, noTarget⟩ := of_isPositional is
    refine ⟨rfl, by rw [noTarget]; rfl, ?_, by rw [is]; rfl⟩
    simp only [nestedArgument?, equals, is, plain, Bool.and_false, Bool.false_eq_true, if_false,
      Option.toList_none, List.append_nil]

/-- What the last argument says goes before what an earlier one does. -/
theorem getLast?_filterMap_cons {α : Type} (reading : List Char → Option α) (argument : List Char)
    (rest : List (List Char)) (old : Option α) :
    ((argument :: rest).filterMap reading).getLast?.or old =
      (rest.filterMap reading).getLast?.or ((reading argument).or old) := by
  rw [List.filterMap_cons]
  cases reading argument with
  | none => rw [Option.none_or]
  | some value => rw [List.getLast?_cons, ← Option.or_some, Option.or_assoc, Option.some_or]

theorem foldlM_add {arguments : List (List Char)} {draft draft' : Draft}
    (added : arguments.foldlM Draft.add draft = .ok draft') :
    draft'.descriptor.kind = draft.descriptor.kind ∧
      draft'.descriptor.target = (argumentsTarget arguments).or draft.descriptor.target ∧
      draft'.inputs = draft.inputs ++
        nestedArguments draft.descriptor.kind draft.positional arguments := by
  induction arguments generalizing draft with
  | nil =>
    cases added
    exact ⟨rfl, rfl, (List.append_nil _).symm⟩
  | cons argument rest ih =>
    rw [List.foldlM_cons] at added
    obtain ⟨next, first, others⟩ := bind_eq_ok_iff.mp added
    have adds := adds_of_add first
    obtain ⟨kind, target, inputs⟩ := ih others
    refine ⟨kind.trans adds.kind, ?_, ?_⟩
    · rw [target, adds.target, argumentsTarget, argumentsTarget, getLast?_filterMap_cons]
    · rw [inputs, adds.inputs, adds.kind, adds.positional, nestedArguments, List.append_assoc]

/-! ### Calls and lines -/

theorem withDefaults_kind (descriptor : Descriptor) :
    (withDefaults descriptor).kind = descriptor.kind := by
  unfold withDefaults
  split <;> simp [*]

theorem withDefaults_target (descriptor : Descriptor) :
    (withDefaults descriptor).target = descriptor.target := by
  unfold withDefaults
  split <;> rfl

theorem withDefaults_source (descriptor : Descriptor) :
    (withDefaults descriptor).source = descriptor.source := by
  unfold withDefaults
  split <;> rfl

def Draft.ofName (name : List Char) : Draft :=
  ⟨⟨Kind.ofName (String.ofList name), [], none, none⟩, [], 0⟩

def Call.ofArgument (nested : List Char → Except Fault Call) (pending : Slot × List Char) :
    Except Fault (Slot × Call) :=
  match nested pending.2 with
  | .ok tree => .ok (pending.1, tree)
  | .error fault => .error (fault.inNestedCall pending.2)

theorem ofArgument_eq_ok_iff {nested : List Char → Except Fault Call} {pending : Slot × List Char}
    {input : Slot × Call} :
    Call.ofArgument nested pending = .ok input ↔
      pending.1 = input.1 ∧ nested pending.2 = .ok input.2 := by
  obtain ⟨slot, tree⟩ := input
  unfold Call.ofArgument
  cases nested pending.2 with
  | ok read => simp only [Except.ok.injEq, Prod.mk.injEq]
  | error fault => simp

theorem ofText_eq (nested : List Char → Except Fault Call) (text : List Char) :
    Call.ofText nested text = do
      let (name, body) ← splitCall text
      let arguments ← splitArguments body
      let draft ← arguments.foldlM Draft.add (Draft.ofName name)
      let inputs ← draft.inputs.mapM (Call.ofArgument nested)
      return .node (withDefaults draft.descriptor) inputs := rfl

theorem ofText_eq_ok_iff {nested : List Char → Except Fault Call} {text : List Char} {tree : Call} :
    Call.ofText nested text = .ok tree ↔
      ∃ name arguments draft inputs, IsCall text name arguments ∧
        arguments.foldlM Draft.add (Draft.ofName name) = .ok draft ∧
        List.Forall₂ (fun pending input => pending.1 = input.1 ∧ nested pending.2 = .ok input.2)
          draft.inputs inputs ∧
        .node (withDefaults draft.descriptor) inputs = tree := by
  rw [ofText_eq]
  constructor
  · intro h
    obtain ⟨⟨name, body⟩, split, h⟩ := bind_eq_ok_iff.mp h
    obtain ⟨arguments, read, h⟩ := bind_eq_ok_iff.mp h
    obtain ⟨draft, added, h⟩ := bind_eq_ok_iff.mp h
    obtain ⟨inputs, mapped, h⟩ := bind_eq_ok_iff.mp h
    refine ⟨name, arguments, draft, inputs, ⟨body, split, read⟩, added, ?_, Except.ok.inj h⟩
    exact (mapM_eq_ok_iff.mp mapped).imp fun _ _ => ofArgument_eq_ok_iff.mp
  · rintro ⟨name, arguments, draft, inputs, ⟨body, split, read⟩, added, mapped, rfl⟩
    refine bind_eq_ok_iff.mpr ⟨(name, body), split, ?_⟩
    refine bind_eq_ok_iff.mpr ⟨arguments, read, ?_⟩
    refine bind_eq_ok_iff.mpr ⟨draft, added, ?_⟩
    refine bind_eq_ok_iff.mpr ⟨inputs, mapM_eq_ok_iff.mpr ?_, rfl⟩
    exact mapped.imp fun _ _ => ofArgument_eq_ok_iff.mpr

theorem inputsSpell_of_forall {read : List Char → Except Fault Call}
    (spells : ∀ text tree, read text = .ok tree → tree.Spells text)
    {pending : List (Slot × List Char)} {inputs : List (Slot × Call)}
    (matched : List.Forall₂ (fun pending input => pending.1 = input.1 ∧ read pending.2 = .ok input.2)
      pending inputs) : InputsSpell inputs pending := by
  induction matched with
  | nil => rw [InputsSpell]
  | @cons first input others rest one _ ih =>
    obtain ⟨slot, text⟩ := first
    obtain ⟨rfl, tree⟩ := one
    rw [InputsSpell]
    exact ⟨text, others, rfl, spells _ _ tree, ih⟩

/-- A call that is read has its target from its arguments, and the line that holds it stands for the
tree if the calls among the arguments stand for theirs. -/
theorem spells_of_ofText {read : List Char → Except Fault Call} {line text : List Char} {tree : Call}
    (spells : ∀ text tree, read text = .ok tree → tree.Spells text) (holds : HoldsCall line text)
    (isTree : Call.ofText read text = .ok tree) :
    tree.Spells line ∧ (∀ target, (tree.withTarget target).Spells line) ∧
      ∃ name arguments, IsCall text name arguments ∧
        tree.descriptor.target = argumentsTarget arguments := by
  obtain ⟨name, arguments, draft, inputs, isCall, added, matched, rfl⟩ := ofText_eq_ok_iff.mp isTree
  obtain ⟨kind, target, pending⟩ := foldlM_add added
  have ownKind : (withDefaults draft.descriptor).kind = Kind.ofName (String.ofList name) := by
    rw [withDefaults_kind, kind]
    rfl
  have inner : InputsSpell inputs (nestedArguments (Kind.ofName (String.ofList name)) 0 arguments) := by
    have nested : draft.inputs = nestedArguments (Kind.ofName (String.ofList name)) 0 arguments :=
      pending
    rw [← nested]
    exact inputsSpell_of_forall spells matched
  refine ⟨?_, ?_, name, arguments, isCall, ?_⟩
  · rw [Call.Spells, ownKind]
    exact .inr ⟨text, name, arguments, holds, isCall, rfl, inner⟩
  · intro target
    rw [Call.withTarget, Call.Spells]
    refine .inr ⟨text, name, arguments, holds, isCall, ownKind, ?_⟩
    dsimp only
    rw [ownKind]
    exact inner
  · rw [Call.descriptor, withDefaults_target, target]
    exact Option.or_none

/-- A line that is read stands for its call tree, and the call around all others writes where the line
says. -/
theorem spells_of_parse {levels : Nat} {line : List Char} {tree : Call}
    (read : Call.parse levels line = .ok tree) :
    tree.Spells line ∧ HasTarget line tree.descriptor.target := by
  induction levels generalizing line tree with
  | zero => cases read
  | succ levels ih =>
    have spells (text : List Char) (tree : Call) (read : Call.parse levels text = .ok tree) :
        tree.Spells text := (ih read).1
    obtain ⟨shape, classified, read⟩ := bind_eq_ok_iff.mp read
    cases shape with
    | directAssignment target source =>
      cases read
      refine ⟨?_, ?_⟩
      · rw [Call.Spells, withDefaults_kind]
        exact .inl ⟨target, source, classified, rfl, rfl⟩
      · rw [Call.descriptor, withDefaults_target]
        exact .assignment classified
    | callAssignment target text =>
      obtain ⟨inner, isTree, same⟩ := bind_eq_ok_iff.mp read
      cases same
      obtain ⟨_, retargeted, _⟩ := spells_of_ofText spells (.inr ⟨target, classified⟩) isTree
      refine ⟨retargeted _, ?_⟩
      cases inner with
      | node descriptor inputs => exact .callAssignment classified
    | call text =>
      obtain ⟨spelled, _, name, arguments, isCall, target⟩ :=
        spells_of_ofText spells (.inl classified) read
      exact ⟨spelled, target ▸ .call classified isCall⟩

end RecordFlow.Script
