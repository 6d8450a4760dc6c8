import RecordFlow.Proofs.Script.Reading

/-!
# The operations of a call tree

`Call.listing` says what a call tree stands for, place by place: the operations are the calls in
post-order, the nested call with number `k` writes to field `k`, and the slot that waits for it holds
that field. `operations_flatten` shows that flattening gives this list: the counter it hands on is the
number of the next call in pre-order. `compileLine_wires` states it of lines.
-/

namespace RecordFlow.Script

open Text

/-! ### Slots -/

def slotContent (descriptor : Descriptor) : Slot → Option Setting
  | .source => descriptor.source.map .string
  | .setting key => descriptor.setting? key

theorem slotContent_fillSlot_self (descriptor : Descriptor) (slot : Slot) (field : String) :
    slotContent (fillSlot descriptor slot field) slot = some (.string field) := by
  cases slot with
  | source => rfl
  | setting key => exact Fields.get?_insert_self key _ _

theorem slotContent_fillSlot_other (descriptor : Descriptor) {slot other : Slot} (field : String)
    (different : slot ≠ other) :
    slotContent (fillSlot descriptor slot field) other = slotContent descriptor other := by
  cases slot with
  | source =>
    cases other with
    | source => exact absurd rfl different
    | setting key => rfl
  | setting key =>
    cases other with
    | source => rfl
    | setting key' =>
      exact Fields.get?_insert_other _ _ fun same => different (congrArg Slot.setting same)

theorem fillSlot_kind (descriptor : Descriptor) (slot : Slot) (field : String) :
    (fillSlot descriptor slot field).kind = descriptor.kind := by
  cases slot <;> rfl

theorem fillSlot_target (descriptor : Descriptor) (slot : Slot) (field : String) :
    (fillSlot descriptor slot field).target = descriptor.target := by
  cases slot <;> rfl

def fillSlots (descriptor : Descriptor) (wires : List (Slot × String)) : Descriptor :=
  wires.foldl (fun filled wire => fillSlot filled wire.1 wire.2) descriptor

theorem fillSlots_cons (descriptor : Descriptor) (wire : Slot × String)
    (rest : List (Slot × String)) :
    fillSlots descriptor (wire :: rest) = fillSlots (fillSlot descriptor wire.1 wire.2) rest := rfl

theorem fillSlots_kind (descriptor : Descriptor) (wires : List (Slot × String)) :
    (fillSlots descriptor wires).kind = descriptor.kind := by
  induction wires generalizing descriptor with
  | nil => rfl
  | cons wire rest ih => rw [fillSlots_cons, ih, fillSlot_kind]

theorem fillSlots_target (descriptor : Descriptor) (wires : List (Slot × String)) :
    (fillSlots descriptor wires).target = descriptor.target := by
  induction wires generalizing descriptor with
  | nil => rfl
  | cons wire rest ih => rw [fillSlots_cons, ih, fillSlot_target]

theorem slotContent_fillSlots_other (descriptor : Descriptor) {wires : List (Slot × String)}
    {slot : Slot} (absent : slot ∉ wires.map Prod.fst) :
    slotContent (fillSlots descriptor wires) slot = slotContent descriptor slot := by
  induction wires generalizing descriptor with
  | nil => rfl
  | cons wire rest ih =>
    rw [List.map_cons, List.mem_cons, not_or] at absent
    rw [fillSlots_cons, ih _ absent.2, slotContent_fillSlot_other _ _ (Ne.symm absent.1)]

theorem slotContent_fillSlots (descriptor : Descriptor) {wires : List (Slot × String)} {slot : Slot}
    {field : String} (once : (wires.map Prod.fst).Nodup) (wire : (slot, field) ∈ wires) :
    slotContent (fillSlots descriptor wires) slot = some (.string field) := by
  induction wires generalizing descriptor with
  | nil => cases wire
  | cons first rest ih =>
    rw [List.map_cons, List.nodup_cons] at once
    rw [fillSlots_cons]
    rcases List.mem_cons.mp wire with rfl | later
    · rw [slotContent_fillSlots_other _ once.1, slotContent_fillSlot_self]
    · exact ih _ once.2 later

/-- A slot that several fields were put into holds one of them. -/
theorem exists_slotContent_fillSlots (descriptor : Descriptor) {wires : List (Slot × String)} {slot : Slot}
    (waits : slot ∈ wires.map Prod.fst) : ∃ field, (slot, field) ∈ wires ∧
      slotContent (fillSlots descriptor wires) slot = some (.string field) := by
  induction wires generalizing descriptor with
  | nil => cases waits
  | cons wire rest ih =>
    rw [fillSlots_cons]
    by_cases later : slot ∈ rest.map Prod.fst
    · obtain ⟨field, member, content⟩ := ih _ later
      exact ⟨field, List.mem_cons_of_mem wire member, content⟩
    · obtain rfl := (List.mem_cons.mp waits).resolve_right later
      refine ⟨wire.2, List.mem_cons_self, ?_⟩
      rw [slotContent_fillSlots_other _ later, slotContent_fillSlot_self]

/-! ### The list of operations -/

variable {field : Nat → String}

/-- The slots of the inputs of the call at a place, each with the field of its input. -/
def Call.wires (field : Nat → String) (tree : Call) (position : Position) (call : Call) :
    List (Slot × String) :=
  call.inputs.mapIdx fun j input => (input.1, field (tree.number (position ++ [j])))

theorem wires_slots (field : Nat → String) (tree : Call) (position : Position) (call : Call) :
    (tree.wires field position call).map Prod.fst = call.inputs.map Prod.fst := by
  apply List.ext_getElem?
  intro j
  rw [List.getElem?_map, Call.wires, List.getElem?_mapIdx, List.getElem?_map, Option.map_map]
  rfl

/-- The operation of the call at a place, when the nested call with number `k` writes to `field k`. -/
def Call.operationAt? (field : Nat → String) (tree : Call) (position : Position) :
    Option Descriptor :=
  (tree.at? position).map fun call =>
    let filled := fillSlots call.descriptor (tree.wires field position call)
    if position = [] then filled else { filled with target := some (field (tree.number position)) }

/-- The operations of a call tree, when the nested call with number `k` writes to `field k`. -/
def Call.listing (field : Nat → String) (tree : Call) : List Descriptor :=
  tree.postorder.filterMap (tree.operationAt? field)

/-- The operations with another target of the last one. -/
def retargetLast (target : String) : List Descriptor → List Descriptor
  | [] => []
  | [last] => [{ last with target := some target }]
  | first :: rest => first :: retargetLast target rest

theorem retargetLast_concat (target : String) (operations : List Descriptor) (last : Descriptor) :
    retargetLast target (operations ++ [last]) =
      operations ++ [{ last with target := some target }] := by
  induction operations with
  | nil => rfl
  | cons first rest ih =>
    cases rest with
    | nil => rfl
    | cons second rest => exact congrArg (first :: ·) ih

/-! ### Flattening -/

variable {descriptor : Descriptor} {inputs : List (Slot × Call)} {slot : Slot} {input : Call} {j : Nat}

theorem mapIdx_congr {α β : Type} {items : List α} {f g : Nat → α → β}
    (same : ∀ i item, items[i]? = some item → f i item = g i item) :
    items.mapIdx f = items.mapIdx g :=
  List.mapIdx_eq_mapIdx_iff.mpr fun i bound => same i _ (List.getElem?_eq_getElem bound)

theorem wires_root (field : Nat → String) (descriptor : Descriptor) (inputs : List (Slot × Call)) :
    (Call.node descriptor inputs).wires field [] (.node descriptor inputs) =
      inputs.mapIdx fun j input => (input.1, field (inputsSize (inputs.take j))) :=
  mapIdx_congr fun j input found => by
    have stands : inputs[j]? = some (input.1, input.2) := found
    rw [List.nil_append, number_input stands]

theorem wires_below (found : inputs[j]? = some (slot, input)) {place : Position} {call : Call}
    (there : input.at? place = some call) :
    (Call.node descriptor inputs).wires field (j :: place) call =
      input.wires (fun k => field (inputsSize (inputs.take j) + (k + 1))) place call := by
  refine mapIdx_congr fun i nested stands => ?_
  have below : place ++ [i] ∈ input.nested := by
    rw [mem_nested_iff, at?_append, there, Option.bind_some, Call.at?, stands]
    exact ⟨rfl, by simp⟩
  rw [List.cons_append, number_below found below]

theorem operationAt?_below (field : Nat → String) (descriptor : Descriptor)
    (found : inputs[j]? = some (slot, input)) {place : Position} (member : place ∈ input.preorder) :
    (Call.node descriptor inputs).operationAt? field (j :: place) =
      (input.operationAt? (fun k => field (inputsSize (inputs.take j) + (k + 1))) place).map
        fun operation =>
          if place = [] then { operation with target := some (field (inputsSize (inputs.take j))) }
          else operation := by
  obtain ⟨call, stands⟩ := Option.isSome_iff_exists.mp (mem_preorder_iff.mp member)
  have whole : (Call.node descriptor inputs).at? (j :: place) = some call := by
    rw [Call.at?, Call.inputs, found]
    exact stands
  simp only [Call.operationAt?, whole, stands, Option.map_some, wires_below found stands,
    if_neg (List.cons_ne_nil j place)]
  cases place with
  | nil => simp only [if_true, number_input found]
  | cons i rest =>
    have below : i :: rest ∈ input.nested := by
      rw [preorder_eq] at member
      exact (List.mem_cons.mp member).resolve_left (List.cons_ne_nil i rest)
    simp only [if_neg (List.cons_ne_nil i rest), number_below found below]

theorem postorder_eq (tree : Call) : ∃ inner, tree.postorder = inner ++ [[]] ∧ [] ∉ inner := by
  cases tree with
  | node descriptor inputs =>
    refine ⟨inputsPostorder 0 inputs, rfl, ?_⟩
    have once := (postorder_perm_preorder (.node descriptor inputs)).nodup_iff.mpr (preorder_nodup _)
    rw [Call.postorder, List.nodup_append] at once
    exact fun root => once.2.2 [] root [] List.mem_cons_self rfl

theorem listing_node (field : Nat → String) (descriptor : Descriptor) (inputs : List (Slot × Call)) :
    (Call.node descriptor inputs).listing field =
      (inputsPostorder 0 inputs).filterMap ((Call.node descriptor inputs).operationAt? field) ++
        [fillSlots descriptor
          (inputs.mapIdx fun j input => (input.1, field (inputsSize (inputs.take j))))] := by
  rw [Call.listing, Call.postorder, List.filterMap_append, ← wires_root]
  rfl

theorem filterMap_below (field : Nat → String) (descriptor : Descriptor)
    (found : inputs[j]? = some (slot, input)) :
    (input.postorder.map (j :: ·)).filterMap ((Call.node descriptor inputs).operationAt? field) =
      retargetLast (field (inputsSize (inputs.take j)))
        (input.listing fun k => field (inputsSize (inputs.take j) + (k + 1))) := by
  obtain ⟨inner, places, below⟩ := postorder_eq input
  have member {place : Position} (here : place ∈ inner ++ [[]]) : place ∈ input.preorder := by
    rw [← (postorder_perm_preorder input).mem_iff, places]
    exact here
  rw [Call.listing, places, List.filterMap_map, List.filterMap_append, List.filterMap_append]
  have last : input.operationAt? (fun k => field (inputsSize (inputs.take j) + (k + 1))) [] =
      some (fillSlots input.descriptor
        (input.wires (fun k => field (inputsSize (inputs.take j) + (k + 1))) [] input)) := rfl
  have root := operationAt?_below field descriptor found
    (member (List.mem_append_right inner List.mem_cons_self))
  rw [last] at root
  simp only [List.filterMap_cons, List.filterMap_nil, Function.comp_apply, root, last, Option.map_some,
    if_true, retargetLast_concat]
  congr 1
  apply List.filterMap_congr
  intro place here
  have nonempty : place ≠ [] := fun root => below (root ▸ here)
  rw [operationAt?_below field descriptor found (member (List.mem_append_left _ here))]
  simp only [if_neg nonempty, Option.map_id']

theorem inputsSize_append (first second : List (Slot × Call)) :
    inputsSize (first ++ second) = inputsSize first + inputsSize second := by
  induction first with
  | nil => exact (Nat.zero_add _).symm
  | cons input rest ih => rw [List.cons_append, inputsSize, inputsSize, ih, Nat.add_assoc]

/-- Flattening the inputs that follow `done`: the counter stands at the number of the next call. -/
theorem flattenInputs_eq (descriptor : Descriptor) (done : List (Slot × Call))
    {whole rest : List (Slot × Call)} (split : whole = done ++ rest)
    (ih : ∀ input ∈ rest, ∀ next, (input.2.flatten next).operations =
        input.2.listing (fun k => nestedField (next + k)) ∧
      (input.2.flatten next).next = next + input.2.nested.length)
    (next : Nat) (filled : Descriptor) :
    flattenInputs (next + inputsSize done) filled rest =
      ⟨(inputsPostorder done.length rest).filterMap
          ((Call.node descriptor whole).operationAt? fun k => nestedField (next + k)),
        fillSlots filled (rest.mapIdx fun i input =>
          (input.1, nestedField (next + inputsSize (whole.take (done.length + i))))),
        next + inputsSize whole⟩ := by
  induction rest generalizing done filled with
  | nil => rw [split, List.append_nil]; rfl
  | cons input rest others =>
    obtain ⟨slot, call⟩ := input
    obtain ⟨here, later⟩ := List.forall_mem_cons.mp ih
    obtain ⟨listed, counter⟩ := here (next + inputsSize done + 1)
    have found : whole[done.length]? = some (slot, call) := by
      rw [split, List.getElem?_append_right (Nat.le_refl _), Nat.sub_self, List.getElem?_cons_zero]
    have taken : whole.take done.length = done := by rw [split, List.take_left]
    have size : next + inputsSize done + 1 + call.nested.length =
        next + inputsSize (done ++ [(slot, call)]) := by
      rw [inputsSize_append]
      simp only [inputsSize, preorder_eq, List.length_cons]
      omega
    have first := filterMap_below (fun k => nestedField (next + k)) descriptor found
    rw [taken] at first
    have shifted : (fun k => nestedField (next + (inputsSize done + (k + 1)))) =
        fun k => nestedField (next + inputsSize done + 1 + k) := by
      funext k
      congr 1
      omega
    rw [shifted, ← listed, Flat.operations, retargetLast_concat] at first
    have rest' := others (done ++ [(slot, call)]) (by rw [split, List.append_assoc]; rfl) later
      (fillSlot filled slot (nestedField (next + inputsSize done)))
    rw [List.length_append, List.length_singleton] at rest'
    rw [flattenInputs, counter, size, rest', inputsPostorder, List.filterMap_append, first]
    rw [List.mapIdx_cons, fillSlots_cons]
    simp only [Nat.add_zero, taken, List.append_assoc, List.singleton_append, Nat.add_assoc,
      Nat.add_comm 1]

theorem operations_flatten (tree : Call) (next : Nat) :
    (tree.flatten next).operations = tree.listing (fun k => nestedField (next + k)) ∧
      (tree.flatten next).next = next + tree.nested.length := by
  induction tree generalizing next with
  | node descriptor inputs ih =>
    have all : flattenInputs next descriptor inputs = _ :=
      flattenInputs_eq descriptor [] rfl ih next descriptor
    rw [Call.flatten, all, nested_node, length_inputsPreorder, listing_node]
    simp only [Flat.operations, List.length_nil, List.nil_append, Nat.zero_add, and_self]

theorem operations_eq_listing (tree : Call) :
    (tree.flatten 0).operations = tree.listing nestedField := by
  rw [(operations_flatten tree 0).1]
  simp only [Nat.zero_add]

/-! ### Fields -/

theorem toString_injective : Function.Injective (toString : Nat → String) := by
  intro j k same
  have digits (n : Nat) : Nat.ofDigitChars 10 (toString n).toList 0 = n := by
    rw [Nat.toString_eq_repr, Nat.toList_repr, Nat.ofDigitChars_ten_toDigits]
  rw [← digits j, ← digits k, same]

theorem nestedField_injective : Function.Injective nestedField := by
  intro j k same
  have short : "$.nested_output".length = 15 := rfl
  have long (n : Nat) : 15 < ("$.nested_output_" ++ toString n).length := by
    have first : "$.nested_output_".length = 16 := rfl
    rw [String.length_append]
    omega
  unfold nestedField at same
  split at same <;> split at same
  · omega
  · exact absurd (congrArg String.length same) (by rw [short]; exact (long k).ne)
  · exact absurd (congrArg String.length same) (by rw [short]; exact (long j).ne')
  · exact toString_injective ((String.append_right_inj _).mp same)

/-! ### Lines -/

structure Wires (tree : Call) (position : Position) (operation : Descriptor) : Prop where
  /-- But for the slots of its inputs, the operation is configured as the call there says. -/
  own : ∃ call, tree.at? position = some call ∧ operation.kind = call.descriptor.kind ∧
    ∀ slot, slot ∉ call.inputs.map Prod.fst →
      slotContent operation slot = slotContent call.descriptor slot
  target : ∀ k, tree.nested[k]? = some position → operation.target = some (nestedField k)
  /-- Where no two inputs have one slot, each slot holds the field that its input writes to. -/
  slots : ∀ call, tree.at? position = some call → (call.inputs.map Prod.fst).Nodup →
    ∀ (j : Nat) (slot : Slot) (input : Call), call.inputs[j]? = some (slot, input) →
      ∃ k, tree.nested[k]? = some (position ++ [j]) ∧
        slotContent operation slot = some (.string (nestedField k))

theorem wires_of_operationAt? {tree : Call} {position : Position} {operation : Descriptor}
    (operates : tree.operationAt? nestedField position = some operation) :
    Wires tree position operation := by
  obtain ⟨call, stands, same⟩ := Option.map_eq_some_iff.mp operates
  have slots := wires_slots nestedField tree position call
  -- the target of an operation has no part in its slots
  have content (slot : Slot) : slotContent operation slot =
      slotContent (fillSlots call.descriptor (tree.wires nestedField position call)) slot := by
    rw [← same]
    split
    · rfl
    · cases slot <;> rfl
  constructor
  · refine ⟨call, stands, ?_, ?_⟩
    · rw [← same, ← fillSlots_kind call.descriptor (tree.wires nestedField position call)]
      split <;> rfl
    · intro slot absent
      rw [content, slotContent_fillSlots_other _ (by rwa [slots])]
  · intro k found
    have below : position ≠ [] := (mem_nested_iff.mp (List.mem_of_getElem? found)).2
    rw [← same]
    simp only [if_neg below, number_of_getElem? found]
  · intro call' stands' once j slot input found
    rw [stands, Option.some.injEq] at stands'
    subst stands'
    have nested : position ++ [j] ∈ tree.nested := by
      rw [mem_nested_iff, at?_append, stands, Option.bind_some, Call.at?, found]
      exact ⟨rfl, by simp⟩
    refine ⟨tree.number (position ++ [j]), getElem?_number nested, ?_⟩
    rw [content]
    refine slotContent_fillSlots _ (by rwa [slots]) ?_
    rw [List.mem_iff_getElem?]
    exact ⟨j, by rw [Call.wires, List.getElem?_mapIdx, found]; rfl⟩

theorem operates_listing (field : Nat → String) (tree : Call) :
    List.Forall₂ (fun position operation => tree.operationAt? field position = some operation) tree.postorder
      (tree.listing field) := by
  have all (positions : List Position)
      (present : ∀ position ∈ positions, (tree.at? position).isSome = true) :
      List.Forall₂ (fun position operation => tree.operationAt? field position = some operation) positions
        (positions.filterMap (tree.operationAt? field)) := by
    induction positions with
    | nil => exact .nil
    | cons position rest ih =>
      obtain ⟨here, later⟩ := List.forall_mem_cons.mp present
      obtain ⟨call, stands⟩ := Option.isSome_iff_exists.mp here
      have built : ∃ operation, tree.operationAt? field position = some operation :=
        ⟨_, by rw [Call.operationAt?, stands]; rfl⟩
      obtain ⟨operation, is⟩ := built
      rw [List.filterMap_cons_some is]
      exact .cons is (ih later)
  exact all tree.postorder fun position member => mem_postorder_iff.mp member

theorem wires_listing (tree : Call) :
    List.Forall₂ (Wires tree) tree.postorder (tree.listing nestedField) :=
  (operates_listing nestedField tree).imp fun _ _ => wires_of_operationAt?

theorem getLast?_listing (field : Nat → String) (tree : Call) :
    ∃ last, (tree.listing field).getLast? = some last ∧ last.target = tree.descriptor.target := by
  cases tree with
  | node descriptor inputs =>
    rw [listing_node]
    exact ⟨_, List.getLast?_concat, fillSlots_target _ _⟩

/-- The operations of a line are the calls of the tree it is read as, in post-order, each nested call
writing to the field of its number and each slot reading from the field of its input; the fields differ
from each other, and the last operation writes where the line says. -/
theorem compileLine_wires {line : List Char} {operations : List Descriptor}
    (compiled : compileLine line = .ok operations) :
    ∃ tree, Call.parse (maxNesting + 1) line = .ok tree ∧ tree.Spells line ∧
      List.Forall₂ (Wires tree) tree.postorder operations ∧
      ((List.range tree.nested.length).map nestedField).Nodup ∧
      ∃ last, operations.getLast? = some last ∧ HasTarget line last.target := by
  obtain ⟨tree, read, flattened⟩ := map_eq_ok_iff.mp compiled
  obtain ⟨spells, target⟩ := spells_of_parse read
  rw [operations_eq_listing] at flattened
  subst flattened
  obtain ⟨last, isLast, lastTarget⟩ := getLast?_listing nestedField tree
  exact ⟨tree, read, spells, wires_listing tree,
    List.nodup_range.map nestedField_injective, last, isLast, lastTarget ▸ target⟩

theorem compileLine_wires_print : ∃ operations,
    compileLine "$.o = print(lower($.a))".toList = .ok operations ∧
      ∃ tree, Call.parse (maxNesting + 1) "$.o = print(lower($.a))".toList = .ok tree ∧
        tree.Spells "$.o = print(lower($.a))".toList ∧
        List.Forall₂ (Wires tree) tree.postorder operations ∧
        ((List.range tree.nested.length).map nestedField).Nodup ∧
        ∃ last, operations.getLast? = some last ∧
          HasTarget "$.o = print(lower($.a))".toList last.target := by
  have compiled : compileLine "$.o = print(lower($.a))".toList = .ok
      [⟨.lowercaseString, [("id", .string "lowercase_string")], some "$.a", some "$.nested_output"⟩,
        ⟨.sendStdout, [("id", .string "send_stdout")], some "$.nested_output", some "$.o"⟩] := by
    simp only [String.reduceToList]
    rfl
  exact ⟨_, compiled, compileLine_wires compiled⟩

/-- In the older form a whole number does not reach the target, where `target=5` does: it ends up as a setting. -/
theorem target_of_whole_number :
    Line.classify "print(target:5)".toList = .ok (.call "print(target:5)".toList) ∧
      IsCall "print(target:5)".toList "print".toList ["target:5".toList] ∧
      Argument.ofText "target:5".toList = .ok (.literal "target" (.integer 5)) ∧
      ∃ last, compileLine "print(target:5)".toList = .ok [last] ∧ last.target = none := by
  simp only [String.reduceToList]
  exact ⟨rfl, ⟨_, rfl, rfl⟩, rfl, _, rfl, rfl⟩

end RecordFlow.Script
