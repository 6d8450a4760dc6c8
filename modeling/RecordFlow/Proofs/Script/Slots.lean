import RecordFlow.Proofs.Fields
import RecordFlow.Proofs.Script.Origins

/-!
# What fills a slot

An argument of a call fills at most one slot, with a value or with the result of a nested call. The values are
stored while the arguments are read, and the fields of the nested calls after the defaults, when the call is
flattened. So a slot holds the field of the last nested call for it, or else the last value for it, or else the
default (`compileLine_slots`): the last argument prevails unless it is a value that follows a nested call.
-/

namespace RecordFlow.Script

open Text

/-! ### What arguments supply -/

/-- What an argument puts into a slot: a value, or the result of the nested call with that number. -/
inductive Supply where
  | value (value : Setting)
  | result (number : Nat)

namespace Supply

def value? : Supply → Option Setting
  | value content => some content
  | result _ => none

/-- The field of the nested call, given the field of each. -/
def field? (field : Nat → String) : Supply → Option Setting
  | value _ => none
  | result number => some (.string (field number))

def content (field : Nat → String) : Supply → Setting
  | value content => content
  | result number => .string (field number)

end Supply

/-- The slot for a value with a key. A text for the target goes to no slot. -/
def valueSlot? (key : String) (value : Setting) : Option Slot :=
  match value.string? with
  | none => some (.setting key)
  | some _ => if key = "target" then none else some (namedSlot key)

/-- A positional argument that is no call. Quotes are dropped if the call is not one of a builtin. -/
def positionalValue (kind : Kind) (argument : List Char) : Setting :=
  .string (String.ofList (if kind.isBuiltin then argument else unquote argument))

/-- What an argument supplies, after `index` positional arguments and `number` nested calls. -/
def supply? (kind : Kind) (index number : Nat) (argument : List Char) : Option (Slot × Supply) :=
  match nestedArgument? kind index argument with
  | some (slot, _) => some (slot, .result number)
  | none =>
    match namedValue? argument with
    | some (key, value) => (valueSlot? key value).map fun slot => (slot, .value value)
    | none => some (positionalSlot kind index, .value (positionalValue kind argument))

def supplies (kind : Kind) (index number : Nat) : List (List Char) → List (Slot × Supply)
  | [] => []
  | argument :: rest =>
    (supply? kind index number argument).toList ++
      supplies kind (if isPositional argument then index + 1 else index)
        (number + (nestedArgument? kind index argument).toList.length) rest

/-- What is read off the last supply for a slot. -/
def lastFor {α : Type} (slot : Slot) (read : Supply → Option α) (row : List (Slot × Supply)) : Option α :=
  (row.filterMap fun entry => if entry.1 = slot then read entry.2 else none).getLast?

variable {α : Type} {slot : Slot} {read : Supply → Option α} {row : List (Slot × Supply)}

theorem lastFor_append (slot : Slot) (read : Supply → Option α) (first second : List (Slot × Supply)) :
    lastFor slot read (first ++ second) = (lastFor slot read second).or (lastFor slot read first) := by
  rw [lastFor, List.filterMap_append, List.getLast?_append]
  rfl

theorem lastFor_singleton (slot : Slot) (read : Supply → Option α) (entry : Slot × Supply) :
    lastFor slot read [entry] = if entry.1 = slot then read entry.2 else none := by
  rw [lastFor]
  split <;> rename_i same
  · cases given : read entry.2 <;> simp [same, given]
  · simp [same]

theorem lastFor_eq_none (absent : ∀ supply, (slot, supply) ∈ row → read supply = none) :
    lastFor slot read row = none := by
  rw [lastFor, List.getLast?_eq_none_iff, List.filterMap_eq_nil_iff]
  rintro ⟨other, supply⟩ member
  split
  · rename_i same
    exact absent supply (same ▸ member)
  · rfl

theorem lastFor_of_some (read : Supply → Option α) {supply : Supply} {value : α}
    (last : lastFor slot some row = some supply) (reads : read supply = some value) : lastFor slot read row = some value := by
  have through : (row.filterMap fun entry => if entry.1 = slot then some entry.2 else none).filterMap read =
      row.filterMap fun entry => if entry.1 = slot then read entry.2 else none := by
    rw [List.filterMap_filterMap]
    congr 1
    funext entry
    split <;> rfl
  obtain ⟨before, same⟩ := List.getLast?_eq_some_iff.mp last
  rw [lastFor, ← through, same, List.filterMap_append, List.filterMap_cons_some reads, List.getLast?_append]
  rfl

/-! ### The draft -/

variable {draft draft' : Draft} {argument name : List Char} {arguments : List (List Char)}

theorem valueSlot?_eq_setting {key : String} {value : Setting}
    (free : value.string? = none ∨ key ≠ "source" ∧ key ≠ "target") : valueSlot? key value = some (.setting key) := by
  unfold valueSlot?
  obtain typed | ⟨notSource, notTarget⟩ := free
  · rw [typed]
  · split
    · rfl
    · rw [if_neg notTarget, namedSlot, if_neg notSource]

theorem slotContent_setNamed (descriptor : Descriptor) (key : String) (value : Setting) (slot : Slot) :
    slotContent (setNamed descriptor key value) slot =
      (if valueSlot? key value = some slot then some value else none).or (slotContent descriptor slot) := by
  obtain ⟨path, rfl, rfl, stored⟩ | ⟨path, rfl, rfl, stored⟩ | ⟨free, stored⟩ :=
    setNamed_cases descriptor key value
  · rw [stored]
    cases slot <;> simp [valueSlot?, Setting.string?, namedSlot, slotContent, Descriptor.setting?]
  · rw [stored]
    cases slot <;> simp [valueSlot?, Setting.string?, slotContent, Descriptor.setting?]
  · have isSetting := valueSlot?_eq_setting free
    rw [stored]
    cases slot with
    | source => simp [isSetting, slotContent]
    | setting other =>
      by_cases same : key = other
      · subst same
        simp [isSetting, slotContent, Descriptor.setting?]
      · simp [isSetting, slotContent, Descriptor.setting?, same]

theorem slotContent_fillSlot (descriptor : Descriptor) (slot other : Slot) (field : String) :
    slotContent (fillSlot descriptor slot field) other =
      (if slot = other then some (.string field) else none).or (slotContent descriptor other) := by
  split
  · rename_i same
    rw [same, slotContent_fillSlot_self, Option.some_or]
  · rename_i different
    rw [slotContent_fillSlot_other descriptor field different, Option.none_or]

/-- A step stores what the argument supplies, unless that is the result of a call. -/
theorem slotContent_of_step (step : draft.Step argument draft') (number : Nat) (slot : Slot) :
    slotContent draft'.descriptor slot =
      (lastFor slot Supply.value?
        (supply? draft.descriptor.kind draft.positional number argument).toList).or
        (slotContent draft.descriptor slot) := by
  have noValue (waiting : Slot) : lastFor slot Supply.value? [(waiting, .result number)] = none := by
    rw [lastFor_singleton]
    exact ite_self none
  -- a positional argument that is no call is stored where a call in its place would wait
  have stored (is : isPositional argument = true) (plain : looksLikeCall argument = false) :
      supply? draft.descriptor.kind draft.positional number argument =
        some (positionalSlot draft.descriptor.kind draft.positional,
          .value (positionalValue draft.descriptor.kind argument)) := by
    obtain ⟨equals, colon, -⟩ := of_isPositional is
    simp [supply?, nestedArgument?, namedValue?, equals, colon, plain]
  cases step with
  | @named key value is =>
    obtain ⟨-, noCall, -⟩ := of_namedValue? is
    rw [slotContent_setNamed]
    simp only [supply?, noCall, is]
    cases valueSlot? key value with
    | none => rfl
    | some own => simp [lastFor_singleton, Supply.value?]
  | @namedCall key value equals callLike allowed =>
    have call : nestedArgument? draft.descriptor.kind draft.positional argument =
        some (namedSlot (String.ofList (trim key)), trim value) := by
      simp [nestedArgument?, equals, callLike]
    simp only [supply?, call, Option.toList_some, noValue, Option.none_or]
    rfl
  | call is callLike =>
    obtain ⟨equals, -, -⟩ := of_isPositional is
    have call : nestedArgument? draft.descriptor.kind draft.positional argument =
        some (positionalSlot draft.descriptor.kind draft.positional, argument) := by
      simp [nestedArgument?, equals, is, callLike]
    simp only [supply?, call, Option.toList_some, noValue, Option.none_or]
    rfl
  | path is plain builtin =>
    have own : positionalSlot draft.descriptor.kind draft.positional = .source := if_pos builtin
    have value : positionalValue draft.descriptor.kind argument = .string (String.ofList argument) := by
      simp [positionalValue, builtin]
    rw [stored is plain, own, Option.toList_some, lastFor_singleton, value]
    exact slotContent_fillSlot draft.descriptor .source slot (String.ofList argument)
  | numbered is plain custom =>
    have own : positionalSlot draft.descriptor.kind draft.positional =
        .setting (Draft.positionalKey draft.positional) := if_neg (by simp [custom])
    have value : positionalValue draft.descriptor.kind argument = .string (String.ofList (unquote argument)) := by
      simp [positionalValue, custom]
    rw [stored is plain, own, Option.toList_some, lastFor_singleton, value]
    exact slotContent_fillSlot draft.descriptor (.setting (Draft.positionalKey draft.positional)) slot
      (String.ofList (unquote argument))

/-- The values that the arguments supply, the last for each slot. -/
theorem slotContent_foldlM (added : arguments.foldlM Draft.add draft = .ok draft') (number : Nat) (slot : Slot) :
    slotContent draft'.descriptor slot =
      (lastFor slot Supply.value? (supplies draft.descriptor.kind draft.positional number arguments)).or
        (slotContent draft.descriptor slot) := by
  induction arguments generalizing draft number with
  | nil =>
    cases added
    rfl
  | cons argument rest ih =>
    rw [List.foldlM_cons] at added
    obtain ⟨next, first, others⟩ := bind_eq_ok_iff.mp added
    have adds := adds_of_add first
    rw [ih others (number + (nestedArgument? draft.descriptor.kind draft.positional argument).toList.length),
      slotContent_of_step (step_of_add first) number slot, adds.kind, adds.positional, supplies, lastFor_append,
      Option.or_assoc]

/-! ### Nested calls and defaults -/

/-- The slots of the nested calls, each with its field. -/
def resultWires (field : Nat → String) (row : List (Slot × Supply)) : List (Slot × String) :=
  row.filterMap fun entry =>
    match entry.2 with
    | .value _ => none
    | .result number => some (entry.1, field number)

theorem resultWires_supplies (field : Nat → String) (kind : Kind) (index number : Nat)
    (arguments : List (List Char)) :
    resultWires field (supplies kind index number arguments) =
      (nestedArguments kind index arguments).mapIdx fun j pending => (pending.1, field (number + j)) := by
  induction arguments generalizing index number with
  | nil => rfl
  | cons argument rest ih =>
    have first : resultWires field (supply? kind index number argument).toList =
        (nestedArgument? kind index argument).toList.mapIdx fun j pending => (pending.1, field (number + j)) := by
      unfold supply?
      cases nestedArgument? kind index argument with
      | some pending => rfl
      | none =>
        cases namedValue? argument with
        | some named => cases slot : valueSlot? named.1 named.2 <;> simp [resultWires, slot]
        | none => rfl
    rw [supplies, nestedArguments, List.mapIdx_append, ← first, resultWires, List.filterMap_append,
      ← resultWires, ← resultWires, ih]
    congr 1
    apply mapIdx_congr
    intro j pending _
    rw [Nat.add_assoc, Nat.add_comm _ j]

theorem slotContent_fillSlots_eq (descriptor : Descriptor) (field : Nat → String)
    (row : List (Slot × Supply)) (slot : Slot) :
    slotContent (fillSlots descriptor (resultWires field row)) slot =
      (lastFor slot (Supply.field? field) row).or (slotContent descriptor slot) := by
  induction row generalizing descriptor with
  | nil => rfl
  | cons entry rest ih =>
    have last : lastFor slot (Supply.field? field) (entry :: rest) =
        (lastFor slot (Supply.field? field) rest).or (lastFor slot (Supply.field? field) [entry]) :=
      lastFor_append slot _ [entry] rest
    obtain ⟨own, supply⟩ := entry
    rw [last, lastFor_singleton, Option.or_assoc]
    cases supply with
    | value content =>
      simp only [Supply.field?, ite_self, Option.none_or]
      exact ih descriptor
    | result number =>
      have filled := ih (fillSlot descriptor own (field number))
      rw [slotContent_fillSlot] at filled
      exact filled

/-- What a slot holds of a call without arguments. -/
def defaultContent (kind : Kind) (slot : Slot) : Option Setting :=
  slotContent (withDefaults ⟨kind, [], none, none⟩) slot

theorem slotContent_withDefaults_or (descriptor : Descriptor) (slot : Slot) :
    slotContent (withDefaults descriptor) slot =
      (slotContent descriptor slot).or (defaultContent descriptor.kind slot) := by
  obtain ⟨kind, settings, source, target⟩ := descriptor
  cases slot with
  | source =>
    have none : defaultContent kind .source = none := by
      rw [defaultContent, slotContent, withDefaults_source]
      rfl
    rw [slotContent, slotContent, withDefaults_source, none, Option.or_none]
  | setting key =>
    cases kind with
    | custom name => exact Option.or_none.symm
    | splitString =>
      simp [withDefaults, defaultContent, slotContent, Descriptor.setting?, Fields.get?_insertNew, Fields.get?,
        Option.or_assoc]
    | _ => simp [withDefaults, defaultContent, slotContent, Descriptor.setting?, Fields.get?_insertNew, Fields.get?]

/-! ### The calls of a line -/

variable {line inner text : List Char} {levels : Nat} {tree call : Call} {position : Position}
  {operations : List Descriptor}

/-- The text stands at the place: the whole line, or the nested call of that number among the arguments of the
call above it. -/
inductive StandsAt (line : List Char) : Position → List Char → Prop where
  | line : StandsAt line [] line
  | nested {position : Position} {inner text name next : List Char} {arguments : List (List Char)} {j : Nat}
      {slot : Slot} (above : StandsAt line position inner) (holds : HoldsCall inner text)
      (isCall : IsCall text name arguments)
      (argument : (nestedArguments (Kind.ofName (String.ofList name)) 0 arguments)[j]? = some (slot, next)) :
      StandsAt line (position ++ [j]) next

/-- Among the operations of a line, which are those of its calls in post-order, this is the one of the call at
the place. -/
def Call.OperationAt (tree : Call) (operations : List Descriptor) (position : Position)
    (operation : Descriptor) : Prop :=
  ∃ i : Nat, tree.postorder[i]? = some position ∧ operations[i]? = some operation

/-- The target that the line or a call around imposes on the call at a place. -/
def imposedTarget? (tree : Call) (line : List Char) (position : Position) : Option String :=
  if position = [] then
    match Line.classify line with
    | .ok (.callAssignment target _) => some (String.ofList target)
    | _ => none
  else some (nestedField (tree.number position))

/-- The text at a place is read as the call there. -/
theorem at?_of_standsAt (read : Call.parse levels line = .ok tree) (stands : StandsAt line position inner) :
    ∃ fewer call, tree.at? position = some call ∧ Call.parse fewer inner = .ok call := by
  induction stands with
  | line => exact ⟨levels, tree, rfl, read⟩
  | @nested position inner text name next arguments j slot above holds isCall argument ih =>
    obtain ⟨fewer, call, there, read⟩ := ih
    cases fewer with
    | zero => cases read
    | succ fewer =>
      obtain ⟨draft, -, -, matched⟩ := isFrom_of_holdsCall read holds isCall
      obtain ⟨input, found, -, read⟩ := exists_getElem?_of_forall₂ matched argument
      refine ⟨fewer, input.2, ?_, read⟩
      rw [at?_append, there, Option.bind_some, Call.at?, found]
      rfl

theorem standsAt_root (stands : StandsAt line position inner) (root : position = []) : inner = line := by
  cases stands with
  | line => rfl
  | nested => simp at root

theorem operationAt_of_at? (there : tree.at? position = some call) :
    ∃ operation, tree.operationAt? nestedField position = some operation ∧
      tree.OperationAt (tree.listing nestedField) position operation := by
  have placed : position ∈ tree.postorder := mem_postorder_iff.mpr (Option.isSome_iff_exists.mpr ⟨call, there⟩)
  obtain ⟨i, found⟩ := List.mem_iff_getElem?.mp placed
  obtain ⟨operation, listed, is⟩ := exists_getElem?_of_forall₂ (operates_listing nestedField tree) found
  exact ⟨operation, is, i, found, listed⟩

theorem wires_eq_resultWires {kind : Kind} (matched : call.inputs.map Prod.fst =
    (nestedArguments kind 0 arguments).map Prod.fst) :
    tree.wires nestedField position call =
      resultWires (fun j => nestedField (tree.number (position ++ [j]))) (supplies kind 0 0 arguments) := by
  have bySlots {β : Type} (row : List (Slot × β)) (field : Nat → String) :
      row.mapIdx (fun j entry => (entry.1, field j)) = (row.map Prod.fst).mapIdx fun j slot => (slot, field j) := by
    apply List.ext_getElem?
    intro j
    rw [List.getElem?_mapIdx, List.getElem?_mapIdx, List.getElem?_map, Option.map_map]
    rfl
  rw [resultWires_supplies, Call.wires, bySlots, matched, ← bySlots]
  simp only [Nat.zero_add]

/-- The call around all others writes where the line says, or else where its arguments say. -/
theorem target_of_hasTarget {target : Option String} (tree : Call) (writes : HasTarget line target)
    (holds : HoldsCall line text) (isCall : IsCall text name arguments) :
    target = (imposedTarget? tree line []).or (argumentsTarget arguments) := by
  rw [imposedTarget?, if_pos rfl]
  cases writes with
  | assignment shape =>
    obtain holds | ⟨_, holds⟩ := holds <;> rw [shape] at holds <;> cases holds
  | callAssignment shape => rw [shape, Option.some_or]
  | call shape isCall' =>
    obtain rfl := holdsCall_unique holds (.inl shape)
    obtain ⟨-, rfl⟩ := isCall_unique isCall isCall'
    rw [shape, Option.none_or]

/-- The operation of the call at a place: the draft of its arguments with defaults, and with the fields of the
nested calls in the slots that waited for them. -/
theorem exists_operation_of_standsAt (read : Call.parse levels line = .ok tree)
    (stands : StandsAt line position inner) (holds : HoldsCall inner text) (isCall : IsCall text name arguments) :
    ∃ draft operation, draftOf name arguments = .ok draft ∧
      tree.OperationAt (tree.listing nestedField) position operation ∧
      operation =
        { fillSlots (withDefaults draft.descriptor)
            (resultWires (fun j => nestedField (tree.number (position ++ [j])))
              (supplies (Kind.ofName (String.ofList name)) 0 0 arguments)) with
          target := (imposedTarget? tree line position).or (argumentsTarget arguments) } := by
  obtain ⟨fewer, call, there, readInner⟩ := at?_of_standsAt read stands
  cases fewer with
  | zero => cases readInner
  | succ fewer =>
    obtain ⟨draft, added, ⟨own, descriptor, -⟩, matched⟩ := isFrom_of_holdsCall readInner holds isCall
    obtain ⟨operation, is, placed⟩ := operationAt_of_at? there
    refine ⟨draft, operation, added, placed, ?_⟩
    rw [Call.operationAt?, there, Option.map_some, Option.some.injEq] at is
    rw [← is, wires_eq_resultWires (InputsRead.slots matched), descriptor, fillSlots_withTarget]
    by_cases root : position = []
    · subst root
      rw [standsAt_root stands rfl] at holds
      cases there
      have target : own = (imposedTarget? tree line []).or (argumentsTarget arguments) := by
        have writes := (spells_of_parse read).2
        rw [descriptor] at writes
        exact target_of_hasTarget tree writes holds isCall
      rw [if_pos rfl, ← target]
    · rw [if_neg root, imposedTarget?, if_neg root, Option.some_or]

/-! ### Which argument prevails -/

/-- What the slots of an operation hold of the arguments of its call. -/
structure Filled (field : Nat → String) (kind : Kind) (arguments : List (List Char)) (operation : Descriptor) :
    Prop where
  /-- A nested call goes before any value and a value before the default; the last of each sort counts. -/
  content : ∀ slot, slotContent operation slot =
    (lastFor slot (Supply.field? field) (supplies kind 0 0 arguments)).or
      ((lastFor slot Supply.value? (supplies kind 0 0 arguments)).or (defaultContent kind slot))
  /-- So the last argument for a slot prevails, unless it is a value and one before it is a nested call. -/
  last : ∀ slot supply, lastFor slot some (supplies kind 0 0 arguments) = some supply →
    (∃ number, supply = .result number) ∨ (∀ number, (slot, .result number) ∉ supplies kind 0 0 arguments) →
      slotContent operation slot = some (supply.content field)

theorem content_of_draft (field : Nat → String) (target : Option String)
    (added : draftOf name arguments = .ok draft) (slot : Slot) :
    slotContent
        { fillSlots (withDefaults draft.descriptor)
            (resultWires field (supplies (Kind.ofName (String.ofList name)) 0 0 arguments)) with target } slot =
      (lastFor slot (Supply.field? field) (supplies (Kind.ofName (String.ofList name)) 0 0 arguments)).or
        ((lastFor slot Supply.value? (supplies (Kind.ofName (String.ofList name)) 0 0 arguments)).or
          (defaultContent (Kind.ofName (String.ofList name)) slot)) := by
  have kind : draft.descriptor.kind = Kind.ofName (String.ofList name) := (foldlM_add added).1
  have values : slotContent draft.descriptor slot =
      lastFor slot Supply.value? (supplies (Kind.ofName (String.ofList name)) 0 0 arguments) := by
    have empty : slotContent (Draft.ofName name).descriptor slot = none := by
      cases slot <;> rfl
    have stored := slotContent_foldlM added 0 slot
    rw [empty, Option.or_none] at stored
    exact stored
  calc
    _ = slotContent (fillSlots (withDefaults draft.descriptor)
          (resultWires field (supplies (Kind.ofName (String.ofList name)) 0 0 arguments))) slot := by
      cases slot <;> rfl
    _ = _ := by
      rw [slotContent_fillSlots_eq, slotContent_withDefaults_or, kind, values]

theorem filled_of_content {field : Nat → String} {kind : Kind} {operation : Descriptor}
    (content : ∀ slot, slotContent operation slot =
      (lastFor slot (Supply.field? field) (supplies kind 0 0 arguments)).or
        ((lastFor slot Supply.value? (supplies kind 0 0 arguments)).or (defaultContent kind slot))) :
    Filled field kind arguments operation := by
  refine ⟨content, ?_⟩
  intro slot supply last prevails
  rw [content]
  cases supply with
  | result number => rw [lastFor_of_some (Supply.field? field) last rfl, Option.some_or]; rfl
  | value value =>
    obtain ⟨_, ⟨⟩⟩ | noCall := prevails
    have noField : lastFor slot (Supply.field? field) (supplies kind 0 0 arguments) = none := by
      apply lastFor_eq_none
      intro supply member
      cases supply with
      | value => rfl
      | result number => exact absurd member (noCall number)
    rw [noField, lastFor_of_some Supply.value? last rfl, Option.none_or, Option.some_or]
    rfl

/-- What the slots of the operation of each call hold, wherever the call stands in the line. -/
theorem compileLine_slots (compiled : compileLine line = .ok operations) :
    ∃ tree, Call.parse (maxNesting + 1) line = .ok tree ∧
      ∀ position inner text name arguments, StandsAt line position inner → HoldsCall inner text →
        IsCall text name arguments → ∃ operation, tree.OperationAt operations position operation ∧
          Filled (fun j => nestedField (tree.number (position ++ [j]))) (Kind.ofName (String.ofList name)) arguments
            operation ∧
          operation.target = (imposedTarget? tree line position).or (argumentsTarget arguments) := by
  obtain ⟨tree, read, flattened⟩ := map_eq_ok_iff.mp compiled
  rw [operations_eq_listing] at flattened
  subst flattened
  refine ⟨tree, read, ?_⟩
  intro position inner text name arguments stands holds isCall
  obtain ⟨draft, operation, added, placed, same⟩ := exists_operation_of_standsAt read stands holds isCall
  refine ⟨operation, placed, ?_, ?_⟩
  · rw [same]
    exact filled_of_content (content_of_draft _ _ added)
  · rw [same]

/-- The source is given three times, the last time by a text, and the identifier twice. -/
theorem compileLine_slots_print : ∃ tree operation,
    Call.parse (maxNesting + 1) "print(source=$.b, lower($.a), id=x, source=$.c, id:7)".toList = .ok tree ∧
      tree.OperationAt [⟨.lowercaseString, [("id", .string "lowercase_string")], some "$.a", some "$.nested_output"⟩,
        ⟨.sendStdout, [("id", .integer 7)], some "$.nested_output", none⟩] [] operation ∧
      Filled (fun j => nestedField (tree.number [j])) .sendStdout ["source=$.b".toList, "lower($.a)".toList,
        "id=x".toList, "source=$.c".toList, "id:7".toList] operation ∧
      operation.target = none := by
  have compiled : compileLine "print(source=$.b, lower($.a), id=x, source=$.c, id:7)".toList = .ok
      [⟨.lowercaseString, [("id", .string "lowercase_string")], some "$.a", some "$.nested_output"⟩,
        ⟨.sendStdout, [("id", .integer 7)], some "$.nested_output", none⟩] := by
    simp only [String.reduceToList]
    rfl
  obtain ⟨tree, read, each⟩ := compileLine_slots compiled
  have isCall : IsCall "print(source=$.b, lower($.a), id=x, source=$.c, id:7)".toList "print".toList
      ["source=$.b".toList, "lower($.a)".toList, "id=x".toList, "source=$.c".toList, "id:7".toList] := by
    simp only [String.reduceToList]
    exact ⟨_, rfl, rfl⟩
  have holds : Line.classify "print(source=$.b, lower($.a), id=x, source=$.c, id:7)".toList =
      .ok (.call "print(source=$.b, lower($.a), id=x, source=$.c, id:7)".toList) := by
    simp only [String.reduceToList]
    rfl
  obtain ⟨operation, placed, filled, target⟩ := each [] _ _ _ _ .line (.inl holds) isCall
  refine ⟨tree, operation, read, placed, filled, target.trans ?_⟩
  rfl

/-- A text for the source that follows a nested call is the last word on the source, and is lost. -/
theorem source_after_nested_call : ∃ lower operation,
    compileLine "print(lower($.a), source=$.b)".toList = .ok [lower, operation] ∧
      IsCall "print(lower($.a), source=$.b)".toList "print".toList ["lower($.a)".toList, "source=$.b".toList] ∧
      lastFor .source some (supplies .sendStdout 0 0 ["lower($.a)".toList, "source=$.b".toList]) =
        some (.value (.string "$.b")) ∧
      operation.source = some "$.nested_output" ∧ operation.source ≠ some "$.b" := by
  simp only [String.reduceToList]
  exact ⟨_, _, rfl, ⟨_, rfl, rfl⟩, rfl, rfl, by decide⟩

end RecordFlow.Script
