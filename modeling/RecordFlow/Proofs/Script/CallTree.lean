import Mathlib.Data.List.Basic
import Mathlib.Data.List.Nodup
import RecordFlow.Script.Compile

/-!
A place in a call tree is the row of input numbers that leads to it. `Call.preorder` and
`Call.postorder` list the places, a call before or after its inputs; each place of the tree is in each of
the lists once. The nested calls are numbered as they stand in `Call.preorder`: the calls of an earlier
input come before those of a later one (`idxOf_inputsPreorder`).
-/

namespace RecordFlow.Script

/-- A call has a property if it has it whenever its inputs have. -/
@[induction_eliminator] theorem Call.induction {motive : Call → Prop}
    (node : ∀ descriptor inputs, (∀ input ∈ inputs, motive input.2) → motive (.node descriptor inputs))
    (call : Call) : motive call :=
  @Call.rec motive (fun inputs => ∀ input ∈ inputs, motive input.2) (fun input => motive input.2) node
    (fun _ member => nomatch member)
    (fun _ _ first others => List.forall_mem_cons.mpr ⟨first, others⟩) (fun _ _ holds => holds) call

def Call.descriptor : Call → Descriptor
  | .node descriptor _ => descriptor

def Call.inputs : Call → List (Slot × Call)
  | .node _ inputs => inputs

/-- The input numbers that lead from a call to one below it. -/
abbrev Position := List Nat

def Call.at? (call : Call) : Position → Option Call
  | [] => some call
  | i :: position =>
    match call.inputs[i]? with
    | some (_, input) => input.at? position
    | none => none

mutual

/-- The places of a tree, a call before its inputs. -/
def Call.preorder : Call → List Position
  | .node _ inputs => [] :: inputsPreorder 0 inputs

/-- The places below inputs of which the first has the number `i`. -/
def inputsPreorder (i : Nat) : List (Slot × Call) → List Position
  | [] => []
  | (_, call) :: rest => call.preorder.map (i :: ·) ++ inputsPreorder (i + 1) rest

end

mutual

/-- The places of a tree, a call after its inputs. -/
def Call.postorder : Call → List Position
  | .node _ inputs => inputsPostorder 0 inputs ++ [[]]

/-- The places below inputs of which the first has the number `i`, each after those below it. -/
def inputsPostorder (i : Nat) : List (Slot × Call) → List Position
  | [] => []
  | (_, call) :: rest => call.postorder.map (i :: ·) ++ inputsPostorder (i + 1) rest

end

/-- The places of the nested calls, by their numbers. -/
def Call.nested (call : Call) : List Position := call.preorder.tail

mutual

def Call.levels : Call → Nat
  | .node _ inputs => inputsLevels inputs + 1

def inputsLevels : List (Slot × Call) → Nat
  | [] => 0
  | (_, call) :: rest => max call.levels (inputsLevels rest)

end

theorem preorder_eq (call : Call) : call.preorder = [] :: call.nested := by
  cases call with
  | node descriptor inputs => rfl

theorem nested_node (descriptor : Descriptor) (inputs : List (Slot × Call)) :
    (Call.node descriptor inputs).nested = inputsPreorder 0 inputs := rfl

/-! ### Each place once -/

theorem postorder_perm_preorder (tree : Call) : tree.postorder.Perm tree.preorder := by
  induction tree with
  | node descriptor inputs ih =>
    have below (i : Nat) : (inputsPostorder i inputs).Perm (inputsPreorder i inputs) := by
      induction inputs generalizing i with
      | nil => exact .refl _
      | cons input rest others =>
        obtain ⟨first, later⟩ := List.forall_mem_cons.mp ih
        exact (first.map _).append (others later (i + 1))
    rw [Call.postorder, Call.preorder]
    exact List.perm_append_singleton .. |>.trans ((below 0).cons [])

theorem mem_inputsPreorder {i : Nat} {inputs : List (Slot × Call)} {position : Position} :
    position ∈ inputsPreorder i inputs ↔
      ∃ j slot input place, inputs[j]? = some (slot, input) ∧ place ∈ input.preorder ∧
        (i + j) :: place = position := by
  induction inputs generalizing i with
  | nil => simp [inputsPreorder]
  | cons input rest ih =>
    obtain ⟨slot, call⟩ := input
    rw [inputsPreorder, List.mem_append, List.mem_map, ih]
    constructor
    · rintro (⟨place, member, rfl⟩ | ⟨j, slot', input, place, found, member, rfl⟩)
      · exact ⟨0, slot, call, place, rfl, member, rfl⟩
      · exact ⟨j + 1, slot', input, place, found, member, by rw [Nat.add_assoc, Nat.add_comm 1 j]⟩
    · rintro ⟨j, slot', input, place, found, member, rfl⟩
      cases j with
      | zero =>
        rw [List.getElem?_cons_zero, Option.some.injEq, Prod.mk.injEq] at found
        obtain ⟨rfl, rfl⟩ := found
        exact .inl ⟨place, member, rfl⟩
      | succ j =>
        exact .inr ⟨j, slot', input, place, found, member, by rw [Nat.add_assoc, Nat.add_comm 1 j]⟩

theorem mem_preorder_iff {tree : Call} {position : Position} :
    position ∈ tree.preorder ↔ (tree.at? position).isSome = true := by
  induction position generalizing tree with
  | nil => simp [preorder_eq, Call.at?]
  | cons i place ih =>
    cases tree with
    | node descriptor inputs =>
      rw [Call.preorder, List.mem_cons, mem_inputsPreorder, Call.at?, Call.inputs]
      constructor
      · rintro (absurd | ⟨j, slot, input, place', found, member, same⟩)
        · cases absurd
        rw [List.cons.injEq, Nat.zero_add] at same
        obtain ⟨rfl, rfl⟩ := same
        rw [found]
        exact ih.mp member
      · intro present
        cases found : inputs[i]? with
        | none => rw [found] at present; cases present
        | some entry =>
          obtain ⟨slot, input⟩ := entry
          rw [found] at present
          exact .inr ⟨i, slot, input, place, found, ih.mpr present, by rw [Nat.zero_add]⟩

theorem mem_postorder_iff {tree : Call} {position : Position} :
    position ∈ tree.postorder ↔ (tree.at? position).isSome = true := by
  rw [(postorder_perm_preorder tree).mem_iff, mem_preorder_iff]

theorem preorder_nodup (tree : Call) : tree.preorder.Nodup := by
  induction tree with
  | node descriptor inputs ih =>
    have below (i : Nat) : (inputsPreorder i inputs).Nodup := by
      induction inputs generalizing i with
      | nil => exact List.nodup_nil
      | cons input rest others =>
        obtain ⟨first, later⟩ := List.forall_mem_cons.mp ih
        rw [inputsPreorder, List.nodup_append]
        refine ⟨first.map fun _ _ => List.tail_eq_of_cons_eq, others later (i + 1), ?_⟩
        rintro _ here _ there rfl
        obtain ⟨place, _, rfl⟩ := List.mem_map.mp here
        obtain ⟨j, _, _, _, _, _, same⟩ := mem_inputsPreorder.mp there
        rw [List.cons.injEq] at same
        omega
    rw [Call.preorder, List.nodup_cons]
    refine ⟨fun root => ?_, below 0⟩
    obtain ⟨_, _, _, _, _, _, same⟩ := mem_inputsPreorder.mp root
    cases same

theorem nested_nodup (tree : Call) : tree.nested.Nodup :=
  (preorder_nodup tree).sublist (List.tail_sublist _)

/-! ### Numbers -/

def inputsSize : List (Slot × Call) → Nat
  | [] => 0
  | (_, call) :: rest => call.preorder.length + inputsSize rest

theorem length_inputsPreorder (i : Nat) (inputs : List (Slot × Call)) :
    (inputsPreorder i inputs).length = inputsSize inputs := by
  induction inputs generalizing i with
  | nil => rfl
  | cons input rest ih =>
    rw [inputsPreorder, List.length_append, List.length_map, ih]
    rfl

theorem idxOf_map_cons (i : Nat) (place : Position) (places : List Position) :
    (places.map (i :: ·)).idxOf (i :: place) = places.idxOf place := by
  induction places with
  | nil => rfl
  | cons first rest ih => simp [List.idxOf_cons, ih]

/-- The calls below an input are numbered after all calls of the earlier inputs, and as they stand
below the input. -/
theorem idxOf_inputsPreorder {i j : Nat} {inputs : List (Slot × Call)} {slot : Slot} {input : Call}
    {place : Position} (found : inputs[j]? = some (slot, input)) (member : place ∈ input.preorder) :
    (inputsPreorder i inputs).idxOf ((i + j) :: place) =
      inputsSize (inputs.take j) + input.preorder.idxOf place := by
  induction inputs generalizing i j with
  | nil => cases found
  | cons first rest ih =>
    obtain ⟨slot', call⟩ := first
    cases j with
    | zero =>
      rw [List.getElem?_cons_zero, Option.some.injEq, Prod.mk.injEq] at found
      obtain ⟨rfl, rfl⟩ := found
      rw [inputsPreorder, Nat.add_zero, List.idxOf_append_of_mem (List.mem_map_of_mem member),
        idxOf_map_cons, List.take_zero]
      exact (Nat.zero_add _).symm
    | succ j =>
      have elsewhere : (i + (j + 1)) :: place ∉ call.preorder.map (i :: ·) := by
        intro here
        obtain ⟨_, _, same⟩ := List.mem_map.mp here
        rw [List.cons.injEq] at same
        omega
      rw [inputsPreorder, List.idxOf_append_of_notMem elsewhere, List.length_map,
        show i + (j + 1) = i + 1 + j by omega, ih found, List.take_succ_cons]
      rw [inputsSize, Nat.add_assoc]

def Call.number (tree : Call) (position : Position) : Nat := tree.nested.idxOf position

theorem number_of_getElem? {tree : Call} {k : Nat} {position : Position}
    (found : tree.nested[k]? = some position) : tree.number position = k := by
  obtain ⟨bound, rfl⟩ := List.getElem?_eq_some_iff.mp found
  exact (nested_nodup tree).idxOf_getElem k bound

theorem mem_nested_iff {tree : Call} {position : Position} :
    position ∈ tree.nested ↔ (tree.at? position).isSome = true ∧ position ≠ [] := by
  have once := preorder_nodup tree
  rw [preorder_eq, List.nodup_cons] at once
  rw [← mem_preorder_iff, preorder_eq, List.mem_cons]
  constructor
  · intro member
    exact ⟨.inr member, fun root => once.1 (root ▸ member)⟩
  · rintro ⟨root | member, below⟩
    · exact absurd root below
    · exact member

theorem getElem?_number {tree : Call} {position : Position} (member : position ∈ tree.nested) :
    tree.nested[tree.number position]? = some position := by
  rw [Call.number, List.getElem?_eq_getElem (List.idxOf_lt_length_of_mem member), List.getElem_idxOf]

theorem at?_append (tree : Call) (position place : Position) :
    tree.at? (position ++ place) = (tree.at? position).bind (·.at? place) := by
  induction position generalizing tree with
  | nil => rfl
  | cons i rest ih =>
    rw [List.cons_append, Call.at?, Call.at?]
    cases tree.inputs[i]? with
    | none => rfl
    | some entry => exact ih entry.2

/-- The number of an input is that of the calls of the inputs before it. -/
theorem number_input {descriptor : Descriptor} {inputs : List (Slot × Call)} {j : Nat} {slot : Slot}
    {input : Call} (found : inputs[j]? = some (slot, input)) :
    (Call.node descriptor inputs).number [j] = inputsSize (inputs.take j) := by
  have root : [] ∈ input.preorder := by rw [preorder_eq]; exact List.mem_cons_self
  have index := idxOf_inputsPreorder (i := 0) found root
  rw [Nat.zero_add] at index
  rw [Call.number, nested_node, index, preorder_eq, List.idxOf_cons_self, Nat.add_zero]

theorem number_below {descriptor : Descriptor} {inputs : List (Slot × Call)} {j : Nat} {slot : Slot}
    {input : Call} {place : Position} (found : inputs[j]? = some (slot, input))
    (member : place ∈ input.nested) :
    (Call.node descriptor inputs).number (j :: place) =
      inputsSize (inputs.take j) + (input.number place + 1) := by
  have below : place ∈ input.preorder := by rw [preorder_eq]; exact List.mem_cons_of_mem _ member
  have index := idxOf_inputsPreorder (i := 0) found below
  rw [Nat.zero_add] at index
  rw [Call.number, nested_node, index, preorder_eq, Call.number]
  rw [List.idxOf_cons_ne _ (mem_nested_iff.mp member).2.symm]

end RecordFlow.Script
