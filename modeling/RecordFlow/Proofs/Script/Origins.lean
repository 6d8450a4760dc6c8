import RecordFlow.Proofs.Script.Wiring
import RecordFlow.Script.Compile

/-!
Every operation that a script compiles to is an assignment or comes from a call of one of its lines, and
every call of its lines gives an operation. The arguments of a call make a draft (`draftOf`); the operation
is the draft with its defaults, in which the fields of nested calls have filled the slots that waited for
them (`Draft.Makes`).
-/

namespace RecordFlow.Script

open Text

/-! ### Calls of a line -/

/-- The text is the line, or that of a call nested in it. -/
inductive Within : List Char → List Char → Prop where
  | self (line : List Char) : Within line line
  | nested {line text name next inner : List Char} {arguments : List (List Char)} {slot : Slot}
      (holds : HoldsCall line text) (isCall : IsCall text name arguments)
      (argument : (slot, next) ∈ nestedArguments (Kind.ofName (String.ofList name)) 0 arguments)
      (within : Within next inner) : Within line inner

/-- What the arguments of a call make, before the calls among them are read. -/
def draftOf (name : List Char) (arguments : List (List Char)) : Except Fault Draft :=
  arguments.foldlM Draft.add (Draft.ofName name)

/-- The call is made from the draft, but for where it writes to. -/
def Call.IsFrom (draft : Draft) (call : Call) : Prop :=
  ∃ target, call.descriptor = { withDefaults draft.descriptor with target } ∧
    call.inputs.map Prod.fst = draft.inputs.map Prod.fst

def IsAssignment (descriptor : Descriptor) : Prop :=
  ∃ source target, descriptor = { withDefaults ⟨.directAssignment, [], some source, none⟩ with target }

variable {line inner text name : List Char} {arguments : List (List Char)} {levels : Nat}
  {tree call : Call} {position : Position} {draft : Draft}

theorem Call.isFrom_withTarget (target : String) (made : tree.IsFrom draft) :
    (tree.withTarget target).IsFrom draft := by
  obtain ⟨descriptor, inputs⟩ := tree
  obtain ⟨old, same, slots⟩ := made
  refine ⟨some target, ?_, slots⟩
  rw [Call.descriptor] at same
  rw [Call.withTarget, Call.descriptor, same]

/-- The inputs of a call are read from the texts that wait for them. -/
def InputsRead (read : List Char → Except Fault Call) (pending : List (Slot × List Char))
    (inputs : List (Slot × Call)) : Prop :=
  List.Forall₂ (fun pending input => pending.1 = input.1 ∧ read pending.2 = .ok input.2) pending inputs

theorem InputsRead.slots {read : List Char → Except Fault Call} {pending : List (Slot × List Char)}
    {inputs : List (Slot × Call)} (matched : InputsRead read pending inputs) :
    inputs.map Prod.fst = pending.map Prod.fst := by
  induction matched with
  | nil => rfl
  | cons one _ ih => rw [List.map_cons, List.map_cons, one.1, ih]

theorem isFrom_of_ofText {read : List Char → Except Fault Call} (isTree : Call.ofText read text = .ok tree) :
    ∃ name arguments draft, IsCall text name arguments ∧ draftOf name arguments = .ok draft ∧
      tree.IsFrom draft ∧
      InputsRead read (nestedArguments (Kind.ofName (String.ofList name)) 0 arguments) tree.inputs := by
  obtain ⟨name, arguments, draft, inputs, isCall, added, matched, rfl⟩ := ofText_eq_ok_iff.mp isTree
  refine ⟨name, arguments, draft, isCall, added, ⟨_, rfl, InputsRead.slots matched⟩, ?_⟩
  obtain ⟨-, -, pending⟩ := foldlM_add added
  rw [Draft.ofName, List.nil_append] at pending
  rw [← pending]
  exact matched

/-- A line that is read is an assignment without inputs, or a call. -/
theorem cases_of_parse (read : Call.parse (levels + 1) line = .ok tree) :
    (IsAssignment tree.descriptor ∧ tree.inputs = [] ∧ ∀ text, ¬HoldsCall line text) ∨
      ∃ text name arguments draft, HoldsCall line text ∧ IsCall text name arguments ∧
        draftOf name arguments = .ok draft ∧ tree.IsFrom draft ∧
        InputsRead (Call.parse levels)
          (nestedArguments (Kind.ofName (String.ofList name)) 0 arguments) tree.inputs := by
  obtain ⟨shape, classified, read⟩ := bind_eq_ok_iff.mp read
  cases shape with
  | directAssignment target source =>
    cases read
    refine .inl ⟨⟨String.ofList source, some (String.ofList target), rfl⟩, rfl, ?_⟩
    rintro text (other | ⟨_, other⟩) <;> rw [classified] at other <;> cases other
  | callAssignment target text =>
    obtain ⟨inner, isTree, same⟩ := bind_eq_ok_iff.mp read
    cases same
    obtain ⟨name, arguments, draft, isCall, added, made, matched⟩ := isFrom_of_ofText isTree
    refine .inr ⟨text, name, arguments, draft, .inr ⟨target, classified⟩, isCall, added,
      Call.isFrom_withTarget _ made, ?_⟩
    cases inner
    exact matched
  | call text =>
    obtain ⟨name, arguments, draft, isCall, added, made, matched⟩ := isFrom_of_ofText read
    exact .inr ⟨text, name, arguments, draft, .inl classified, isCall, added, made, matched⟩

/-! ### Places of the tree -/

theorem at?_cons {i : Nat} (there : tree.at? (i :: position) = some call) :
    ∃ input ∈ tree.inputs, input.2.at? position = some call := by
  rw [Call.at?] at there
  split at there
  · rename_i slot input found
    exact ⟨(slot, input), List.mem_of_getElem? found, there⟩
  · cases there

theorem exists_at?_of_input {input : Slot × Call} (member : input ∈ tree.inputs)
    (there : input.2.at? position = some call) : ∃ place, tree.at? place = some call := by
  obtain ⟨i, bound, rfl⟩ := List.mem_iff_getElem.mp member
  refine ⟨i :: position, ?_⟩
  rw [Call.at?, List.getElem?_eq_getElem bound]
  exact there

/-- The call at a place is an assignment, or is made from the arguments of a call of the line and writes
where the text of that call says. -/
theorem origin_of_at? (read : Call.parse levels line = .ok tree) (there : tree.at? position = some call) :
    IsAssignment call.descriptor ∧ call.inputs = [] ∨
      ∃ inner text name arguments draft, Within line inner ∧ HoldsCall inner text ∧
        IsCall text name arguments ∧ draftOf name arguments = .ok draft ∧ call.IsFrom draft ∧
        HasTarget inner call.descriptor.target := by
  -- below the root the place lies in an input, which is read as a line of its own one level down
  induction levels generalizing line tree position with
  | zero => cases read
  | succ levels ih =>
    obtain ⟨assignment, noInputs, -⟩ | ⟨text, name, arguments, draft, holds, isCall, added, made, matched⟩ :=
      cases_of_parse read
    · cases position with
      | nil =>
        cases there
        exact .inl ⟨assignment, noInputs⟩
      | cons i position =>
        obtain ⟨input, member, -⟩ := at?_cons there
        rw [noInputs] at member
        cases member
    · cases position with
      | nil =>
        cases there
        exact .inr ⟨line, text, name, arguments, draft, .self line, holds, isCall, added, made,
          (spells_of_parse read).2⟩
      | cons i position =>
        obtain ⟨input, member, there⟩ := at?_cons there
        obtain ⟨⟨slot, next⟩, pending, -, read⟩ := exists_of_forall₂_right matched member
        obtain assignment | ⟨inner, text, name, arguments, draft, within, origin⟩ := ih read there
        · exact .inl assignment
        · exact .inr ⟨inner, text, name, arguments, draft, .nested holds isCall pending within, origin⟩

theorem holdsCall_unique {other : List Char} (one : HoldsCall line text) (two : HoldsCall line other) :
    text = other := by
  obtain one | ⟨_, one⟩ := one <;> obtain two | ⟨_, two⟩ := two <;> rw [one] at two <;> cases two <;> rfl

theorem isCall_unique {other : List Char} {others : List (List Char)} (one : IsCall text name arguments)
    (two : IsCall text other others) : name = other ∧ arguments = others := by
  obtain ⟨body, split, read⟩ := one
  obtain ⟨_, split', read'⟩ := two
  rw [split] at split'
  cases split'
  rw [read] at read'
  cases read'
  exact ⟨rfl, rfl⟩

theorem isFrom_of_holdsCall (read : Call.parse (levels + 1) line = .ok tree) (holds : HoldsCall line text)
    (isCall : IsCall text name arguments) :
    ∃ draft, draftOf name arguments = .ok draft ∧ tree.IsFrom draft ∧
      InputsRead (Call.parse levels)
        (nestedArguments (Kind.ofName (String.ofList name)) 0 arguments) tree.inputs := by
  obtain ⟨-, -, noCall⟩ | ⟨text, name, arguments, draft, holds', isCall', result⟩ := cases_of_parse read
  · exact absurd holds (noCall _)
  · obtain rfl := holdsCall_unique holds holds'
    obtain ⟨rfl, rfl⟩ := isCall_unique isCall isCall'
    exact ⟨draft, result⟩

/-- Each call of a line that is read stands at a place of the tree. -/
theorem exists_at?_of_within (within : Within line inner) (holds : HoldsCall inner text)
    (isCall : IsCall text name arguments) (read : Call.parse levels line = .ok tree) :
    ∃ position call draft, tree.at? position = some call ∧ draftOf name arguments = .ok draft ∧
      call.IsFrom draft ∧ HasTarget inner call.descriptor.target := by
  -- on the way down to the inner text every step enters an input, and so the next level of the tree
  induction within generalizing levels tree with
  | self line =>
    cases levels with
    | zero => cases read
    | succ levels =>
      obtain ⟨draft, added, made, -⟩ := isFrom_of_holdsCall read holds isCall
      exact ⟨[], tree, draft, rfl, added, made, (spells_of_parse read).2⟩
  | nested holds' isCall' argument _ ih =>
    cases levels with
    | zero => cases read
    | succ levels =>
      obtain ⟨-, -, -, matched⟩ := isFrom_of_holdsCall read holds' isCall'
      obtain ⟨input, member, -, inside⟩ := exists_of_forall₂_left matched argument
      obtain ⟨position, call, draft, there, origin⟩ := ih holds inside
      obtain ⟨place, there⟩ := exists_at?_of_input member there
      exact ⟨place, call, draft, there, origin⟩

/-! ### Operations -/

/-- The operation is the draft with its defaults and with fields in its slots, but for where it writes
to. -/
def Draft.Makes (draft : Draft) (operation : Descriptor) : Prop :=
  ∃ wires target, wires.map Prod.fst = draft.inputs.map Prod.fst ∧
    (∀ wire ∈ wires, ∃ k, wire.2 = nestedField k) ∧
    operation = { fillSlots (withDefaults draft.descriptor) wires with target }

/-- The operation writes where the text of its call says, unless the call is nested. -/
def WritesTo (inner : List Char) (operation : Descriptor) : Prop :=
  HasTarget inner operation.target ∨ ∃ k, operation.target = some (nestedField k)

theorem fillSlots_withTarget (descriptor : Descriptor) (target : Option String)
    (wires : List (Slot × String)) :
    fillSlots { descriptor with target } wires = { fillSlots descriptor wires with target } := by
  induction wires generalizing descriptor with
  | nil => rfl
  | cons wire rest ih =>
    obtain ⟨slot, field⟩ := wire
    rw [fillSlots_cons, fillSlots_cons, ← ih]
    cases slot <;> rfl

theorem operationAt?_eq (there : tree.at? position = some call) : ∃ target,
    tree.operationAt? nestedField position =
      some { fillSlots call.descriptor (tree.wires nestedField position call) with target } ∧
    (target = call.descriptor.target ∨ ∃ k, target = some (nestedField k)) := by
  rw [Call.operationAt?, there, Option.map_some]
  dsimp only
  split
  · exact ⟨_, rfl, .inl (fillSlots_target _ _)⟩
  · exact ⟨_, rfl, .inr ⟨_, rfl⟩⟩

theorem makes_of_isFrom (tree : Call) (position : Position) (target : Option String)
    (made : call.IsFrom draft) :
    draft.Makes { fillSlots call.descriptor (tree.wires nestedField position call) with target } := by
  obtain ⟨old, descriptor, slots⟩ := made
  refine ⟨_, target, (wires_slots nestedField tree position call).trans slots, ?_, ?_⟩
  · intro wire member
    obtain ⟨j, _, rfl⟩ := List.mem_mapIdx.mp member
    exact ⟨_, rfl⟩
  · rw [descriptor, fillSlots_withTarget]

variable {operations : List Descriptor} {operation : Descriptor}

theorem origin_of_compileLine (compiled : compileLine line = .ok operations)
    (member : operation ∈ operations) :
    IsAssignment operation ∨
      ∃ inner text name arguments draft, Within line inner ∧ HoldsCall inner text ∧
        IsCall text name arguments ∧ draftOf name arguments = .ok draft ∧ draft.Makes operation ∧
        WritesTo inner operation := by
  obtain ⟨tree, read, flattened⟩ := map_eq_ok_iff.mp compiled
  rw [operations_eq_listing] at flattened
  subst flattened
  obtain ⟨position, placed, is⟩ := List.mem_filterMap.mp member
  obtain ⟨call, there⟩ := Option.isSome_iff_exists.mp (mem_postorder_iff.mp placed)
  obtain ⟨target, same, from_call⟩ := operationAt?_eq there
  rw [same, Option.some.injEq] at is
  subst is
  obtain ⟨⟨source, old, descriptor⟩, noInputs⟩ |
    ⟨inner, text, name, arguments, draft, within, holds, isCall, added, made, writes⟩ :=
    origin_of_at? read there
  · refine .inl ⟨source, target, ?_⟩
    rw [Call.wires, noInputs, List.mapIdx_nil, descriptor]
    rfl
  · refine .inr ⟨inner, text, name, arguments, draft, within, holds, isCall, added,
      makes_of_isFrom tree position target made, ?_⟩
    obtain rfl | nested := from_call
    · exact .inl writes
    · exact .inr nested

theorem exists_operation_of_within (compiled : compileLine line = .ok operations)
    (within : Within line inner) (holds : HoldsCall inner text) (isCall : IsCall text name arguments) :
    ∃ operation ∈ operations, ∃ draft, draftOf name arguments = .ok draft ∧ draft.Makes operation ∧
      WritesTo inner operation := by
  obtain ⟨tree, read, flattened⟩ := map_eq_ok_iff.mp compiled
  rw [operations_eq_listing] at flattened
  subst flattened
  obtain ⟨position, call, draft, there, added, made, writes⟩ := exists_at?_of_within within holds isCall read
  obtain ⟨target, same, from_call⟩ := operationAt?_eq there
  have placed : position ∈ tree.postorder :=
    mem_postorder_iff.mpr (Option.isSome_iff_exists.mpr ⟨call, there⟩)
  refine ⟨_, List.mem_filterMap.mpr ⟨position, placed, same⟩, draft, added,
    makes_of_isFrom tree position target made, ?_⟩
  obtain rfl | nested := from_call
  · exact .inl writes
  · exact .inr nested

/-! ### Scripts -/

/-- The trimmed text of a line of the script that is no comment. -/
def IsStatement (script : String) (line : List Char) : Prop :=
  ∃ raw ∈ lines script.toList, trim raw = line ∧ isComment line = false

theorem compileRaw_eq_ok_iff {number : Nat} {raw : List Char} :
    compileRaw number raw = .ok operations ↔
      isComment (trim raw) = true ∧ operations = [] ∨
        isComment (trim raw) = false ∧ compileLine (trim raw) = .ok operations := by
  unfold compileRaw
  dsimp only
  cases comment : isComment (trim raw) with
  | true => simp [eq_comm]
  | false => cases compileLine (trim raw) <;> simp [Except.mapError]

theorem compileLines_eq_ok {number : Nat} {rows : List (List Char)}
    (compiled : compileLines number rows = .ok operations) :
    (∀ operation ∈ operations, ∃ raw ∈ rows, isComment (trim raw) = false ∧
      ∃ own, compileLine (trim raw) = .ok own ∧ operation ∈ own) ∧
    ∀ raw ∈ rows, isComment (trim raw) = false →
      ∃ own, compileLine (trim raw) = .ok own ∧ own ⊆ operations := by
  induction rows generalizing number operations with
  | nil =>
    cases compiled
    exact ⟨List.forall_mem_nil _, List.forall_mem_nil _⟩
  | cons raw rest ih =>
    obtain ⟨first, one, compiled⟩ := bind_eq_ok_iff.mp compiled
    obtain ⟨others, more, compiled⟩ := bind_eq_ok_iff.mp compiled
    cases compiled
    obtain ⟨from_rest, of_rest⟩ := ih more
    obtain ⟨comment, rfl⟩ | ⟨statement, line⟩ := compileRaw_eq_ok_iff.mp one
    · refine ⟨?_, List.forall_mem_cons.mpr ⟨?_, of_rest⟩⟩
      · intro operation member
        obtain ⟨row, member, rest⟩ := from_rest operation member
        exact ⟨row, List.mem_cons_of_mem raw member, rest⟩
      · intro statement
        rw [comment] at statement
        cases statement
    · refine ⟨?_, List.forall_mem_cons.mpr ⟨?_, ?_⟩⟩
      · intro operation member
        obtain here | member := List.mem_append.mp member
        · exact ⟨raw, List.mem_cons_self, statement, first, line, here⟩
        · obtain ⟨row, member, rest⟩ := from_rest operation member
          exact ⟨row, List.mem_cons_of_mem raw member, rest⟩
      · exact fun _ => ⟨first, line, List.subset_append_left first others⟩
      · intro row member statement
        obtain ⟨own, compiled, inside⟩ := of_rest row member statement
        exact ⟨own, compiled, List.subset_append_of_subset_right first inside⟩

/-- The script has a call of the name with the arguments, in a statement or nested in one; `inner` is the
text that it is read from. -/
def HasCall (script : String) (inner name : List Char) (arguments : List (List Char)) : Prop :=
  ∃ line text, IsStatement script line ∧ Within line inner ∧ HoldsCall inner text ∧
    IsCall text name arguments

variable {script : String}

theorem origin_of_compile (compiled : compile script = .ok operations) (member : operation ∈ operations) :
    IsAssignment operation ∨
      ∃ inner name arguments draft, HasCall script inner name arguments ∧
        draftOf name arguments = .ok draft ∧ draft.Makes operation ∧ WritesTo inner operation := by
  obtain ⟨raw, row, statement, own, compiled, member⟩ := (compileLines_eq_ok compiled).1 operation member
  obtain assignment | ⟨inner, text, name, arguments, draft, within, holds, isCall, origin⟩ :=
    origin_of_compileLine compiled member
  · exact .inl assignment
  · exact .inr ⟨inner, name, arguments, draft,
      ⟨trim raw, text, ⟨raw, row, rfl, statement⟩, within, holds, isCall⟩, origin⟩

theorem exists_operation_of_hasCall (compiled : compile script = .ok operations)
    (has : HasCall script inner name arguments) :
    ∃ operation ∈ operations, ∃ draft, draftOf name arguments = .ok draft ∧ draft.Makes operation ∧
      WritesTo inner operation := by
  obtain ⟨_, text, ⟨raw, row, rfl, statement⟩, within, holds, isCall⟩ := has
  obtain ⟨own, compiled, inside⟩ := (compileLines_eq_ok compiled).2 raw row statement
  obtain ⟨operation, member, origin⟩ := exists_operation_of_within compiled within holds isCall
  exact ⟨operation, inside member, origin⟩

end RecordFlow.Script
