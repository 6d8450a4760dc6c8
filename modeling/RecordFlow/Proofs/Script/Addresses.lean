import RecordFlow.Proofs.Fields
import RecordFlow.Proofs.Script.Origins

/-!
The names `source` and `target` are meant for the paths of a descriptor. What an argument gives under them
becomes a path if it is a text, and a nested call gives the source the field it writes to. A truth value or a
whole number in the older form is no text: it stays an ordinary setting, and nothing else under these names
ever is one (`addresses_of_compile`).
-/

namespace RecordFlow.Script

open Text

/-- The names of settings that stand for paths of the descriptor. -/
def addresses : List String := ["source", "target"]

/-- The truth value or whole number that an argument gives under a name. -/
def typedAt? (name : String) (argument : List Char) : Option Setting :=
  match namedValue? argument with
  | some (key, value) => if key = name ∧ value.string? = none then some value else none
  | none => none

/-- The text that an argument gives for the source: by its name, or by standing first in a call of a builtin
operation. -/
def sourceText? (kind : Kind) (argument : List Char) : Option String :=
  match namedValue? argument with
  | some (key, value) => if key = "source" then value.string? else none
  | none =>
    if kind.isBuiltin && isPositional argument && !looksLikeCall argument then some (String.ofList argument)
    else none

variable {address : String} {descriptor : Descriptor} {draft draft' : Draft} {argument name : List Char}
  {arguments : List (List Char)}

/-! ### One argument -/

theorem setting?_setNamed (known : address ∈ addresses) (descriptor : Descriptor) (key : String)
    (value : Setting) :
    (setNamed descriptor key value).setting? address =
      (if key = address ∧ value.string? = none then some value else none).or
        (descriptor.setting? address) := by
  obtain ⟨path, rfl, rfl, stored⟩ | ⟨path, rfl, rfl, stored⟩ | ⟨free, stored⟩ :=
    setNamed_cases descriptor key value
  · rw [stored]
    simp [Setting.string?, Descriptor.setting?]
  · rw [stored]
    simp [Setting.string?, Descriptor.setting?]
  · rw [stored]
    by_cases same : key = address
    · subst same
      -- a text under one of the names has become a path
      have typed : value.string? = none := by
        refine free.resolve_right ?_
        rintro ⟨notSource, notTarget⟩
        simp [addresses, notSource, notTarget] at known
      rw [if_pos ⟨rfl, typed⟩]
      exact Fields.get?_insert_self key value descriptor.settings
    · rw [if_neg (fun both => same both.1), Option.none_or]
      exact Fields.get?_insert_other value descriptor.settings same

theorem source_setNamed (descriptor : Descriptor) (key : String) (value : Setting) :
    (setNamed descriptor key value).source =
      (if key = "source" then value.string? else none).or descriptor.source := by
  obtain ⟨path, rfl, rfl, same⟩ | ⟨path, rfl, rfl, same⟩ | ⟨typed | ⟨notSource, -⟩, same⟩ :=
    setNamed_cases descriptor key value
  · rw [same]; rfl
  · rw [same]; rfl
  · rw [same, typed, ite_self, Option.none_or]
  · rw [same, if_neg notSource, Option.none_or]

theorem positionalKey_ne (known : address ∈ addresses) (index : Nat) :
    Draft.positionalKey index ≠ address := by
  intro same
  have first : (Draft.positionalKey index).toList.head? = some 'a' := by
    rw [Draft.positionalKey, String.toList_append]
    rfl
  rw [same] at first
  obtain rfl | rfl : address = "source" ∨ address = "target" := by simpa [addresses] using known
  · cases first
  · cases first

theorem namedSlot_ne {key : String} (known : address ∈ addresses) (allowed : key ≠ "target") :
    namedSlot key ≠ .setting address := by
  unfold namedSlot
  split
  · exact nofun
  · rename_i notSource
    rintro ⟨⟩
    obtain rfl | rfl : address = "source" ∨ address = "target" := by simpa [addresses] using known
    · exact notSource rfl
    · exact allowed rfl

theorem positionalSlot_ne (known : address ∈ addresses) (kind : Kind) (index : Nat) :
    positionalSlot kind index ≠ .setting address := by
  unfold positionalSlot
  split
  · exact nofun
  · intro same
    exact positionalKey_ne known index (Slot.setting.inj same)

/-- What an argument adds to a draft under the names of paths. -/
structure AddsAddresses (draft : Draft) (argument : List Char) (draft' : Draft) : Prop where
  kind : draft'.descriptor.kind = draft.descriptor.kind
  setting : ∀ address ∈ addresses, draft'.descriptor.setting? address =
    (typedAt? address argument).or (draft.descriptor.setting? address)
  source : draft'.descriptor.source =
    (sourceText? draft.descriptor.kind argument).or draft.descriptor.source
  noCall : ∀ address ∈ addresses, .setting address ∈ draft'.inputs.map Prod.fst →
    .setting address ∈ draft.inputs.map Prod.fst

theorem addsAddresses_of_step (step : draft.Step argument draft') : AddsAddresses draft argument draft' := by
  cases step with
  | @named key value is =>
    refine ⟨setNamed_kind _ _ _, ?_, ?_, fun _ _ => id⟩
    · intro address known
      simp only [typedAt?, is]
      exact setting?_setNamed known _ _ _
    · simp only [sourceText?, is]
      exact source_setNamed _ _ _
  | @namedCall key value equals callLike allowed =>
    have noValue : namedValue? argument = none := by simp [namedValue?, equals, callLike]
    have noPosition : isPositional argument = false := by simp [isPositional, equals]
    refine ⟨rfl, ?_, ?_, ?_⟩
    · intro address _
      simp only [typedAt?, noValue]
      rfl
    · simp only [sourceText?, noValue, noPosition, Bool.and_false, Bool.false_and, Bool.false_eq_true, if_false]
      rfl
    · intro address known member
      rw [Draft.addInput, List.map_append, List.mem_append] at member
      refine member.resolve_right fun last => ?_
      exact namedSlot_ne known allowed (List.mem_singleton.mp last).symm
  | call is callLike =>
    obtain ⟨equals, colon, -⟩ := of_isPositional is
    have noValue : namedValue? argument = none := by simp [namedValue?, equals, colon]
    refine ⟨rfl, ?_, ?_, ?_⟩
    · intro address _
      simp only [typedAt?, noValue]
      rfl
    · simp only [sourceText?, noValue, callLike, Bool.not_true, Bool.and_false, Bool.false_eq_true, if_false]
      rfl
    · intro address known member
      rw [Draft.addInput, List.map_append, List.mem_append] at member
      refine member.resolve_right fun last => ?_
      exact positionalSlot_ne known _ _ (List.mem_singleton.mp last).symm
  | path is plain builtin =>
    obtain ⟨equals, colon, -⟩ := of_isPositional is
    have noValue : namedValue? argument = none := by simp [namedValue?, equals, colon]
    refine ⟨rfl, ?_, ?_, fun _ _ => id⟩
    · intro address _
      simp only [typedAt?, noValue]
      rfl
    · simp only [sourceText?, noValue, builtin, is, plain]
      rfl
  | numbered is plain custom =>
    obtain ⟨equals, colon, -⟩ := of_isPositional is
    have noValue : namedValue? argument = none := by simp [namedValue?, equals, colon]
    refine ⟨rfl, ?_, ?_, fun _ _ => id⟩
    · intro address known
      simp only [typedAt?, noValue, Option.none_or]
      exact Fields.get?_insert_other _ _ (positionalKey_ne known _)
    · simp only [sourceText?, noValue, custom, Bool.false_and, Bool.false_eq_true, if_false]
      rfl

/-! ### All arguments -/

theorem addresses_foldlM (added : arguments.foldlM Draft.add draft = .ok draft') :
    (∀ address ∈ addresses, draft'.descriptor.setting? address =
        (arguments.filterMap (typedAt? address)).getLast?.or (draft.descriptor.setting? address)) ∧
      draft'.descriptor.source =
        (arguments.filterMap (sourceText? draft.descriptor.kind)).getLast?.or draft.descriptor.source ∧
      ∀ address ∈ addresses, .setting address ∈ draft'.inputs.map Prod.fst →
        .setting address ∈ draft.inputs.map Prod.fst := by
  induction arguments generalizing draft with
  | nil =>
    cases added
    exact ⟨fun _ _ => rfl, rfl, fun _ _ => id⟩
  | cons argument rest ih =>
    rw [List.foldlM_cons] at added
    obtain ⟨next, first, others⟩ := bind_eq_ok_iff.mp added
    have adds := addsAddresses_of_step (step_of_add first)
    obtain ⟨setting, source, noCall⟩ := ih others
    refine ⟨?_, ?_, ?_⟩
    · intro address known
      rw [setting address known, adds.setting address known, getLast?_filterMap_cons]
    · rw [source, adds.source, adds.kind, getLast?_filterMap_cons]
    · exact fun address known member => adds.noCall address known (noCall address known member)

/-! ### Operations -/

/-- What an operation has of the arguments of its call under the names of paths: the paths themselves, and
the values that are no texts as settings. -/
structure Addressed (inner name : List Char) (arguments : List (List Char)) (operation : Descriptor) :
    Prop where
  /-- The settings under these names are the values that are no texts. -/
  setting : ∀ address ∈ addresses,
    operation.setting? address = (arguments.filterMap (typedAt? address)).getLast?
  /-- The source is the last text given for it, or else the field of a nested call. -/
  source : .source ∉ (nestedArguments (Kind.ofName (String.ofList name)) 0 arguments).map Prod.fst →
    operation.source =
      (arguments.filterMap (sourceText? (Kind.ofName (String.ofList name)))).getLast?
  nestedSource : .source ∈ (nestedArguments (Kind.ofName (String.ofList name)) 0 arguments).map Prod.fst →
    ∃ k, operation.source = some (nestedField k)
  /-- No nested call waits for a setting under these names: for the target it is refused. -/
  noCall : ∀ address ∈ addresses,
    .setting address ∉ (nestedArguments (Kind.ofName (String.ofList name)) 0 arguments).map Prod.fst
  target : WritesTo inner operation

theorem slotContent_withDefaults {slot : Slot} (descriptor : Descriptor) (noId : slot ≠ .setting "id")
    (noSeparator : slot ≠ .setting "separator") :
    slotContent (withDefaults descriptor) slot = slotContent descriptor slot := by
  cases slot with
  | source => rw [slotContent, slotContent, withDefaults_source]
  | setting key =>
    have id : "id" ≠ key := fun same => noId (same ▸ rfl)
    have separator : "separator" ≠ key := fun same => noSeparator (same ▸ rfl)
    unfold withDefaults
    split
    · rfl
    · exact (Fields.get?_insertNew_other _ _ id).trans (Fields.get?_insertNew_other _ _ separator)
    · exact Fields.get?_insertNew_other _ _ id

theorem ne_default {address : String} (known : address ∈ addresses) :
    address ≠ "id" ∧ address ≠ "separator" := by
  obtain rfl | rfl : address = "source" ∨ address = "target" := by simpa [addresses] using known
  · decide
  · decide

theorem addressed_of_makes {inner : List Char} {operation : Descriptor}
    (added : draftOf name arguments = .ok draft) (made : draft.Makes operation)
    (target : WritesTo inner operation) : Addressed inner name arguments operation := by
  obtain ⟨-, -, pending⟩ := foldlM_add added
  obtain ⟨setting, source, noCall⟩ := addresses_foldlM added
  replace pending : draft.inputs = nestedArguments (Kind.ofName (String.ofList name)) 0 arguments := pending
  obtain ⟨wires, written, slots, fields, rfl⟩ := made
  rw [pending] at slots noCall
  have free : ∀ address ∈ addresses,
      .setting address ∉ (nestedArguments (Kind.ofName (String.ofList name)) 0 arguments).map Prod.fst :=
    fun address known member => nomatch noCall address known member
  refine ⟨?_, ?_, ?_, free, target⟩
  · intro address known
    have absent : .setting address ∉ wires.map Prod.fst := slots ▸ free address known
    obtain ⟨noId, noSeparator⟩ := ne_default known
    calc
      _ = slotContent (fillSlots (withDefaults draft.descriptor) wires) (.setting address) := rfl
      _ = slotContent draft.descriptor (.setting address) := by
        rw [slotContent_fillSlots_other _ absent, slotContent_withDefaults _ (by simpa) (by simpa)]
      _ = _ := (setting address known).trans Option.or_none
  · intro absent
    rw [← slots] at absent
    have content : slotContent (fillSlots (withDefaults draft.descriptor) wires) .source =
        slotContent draft.descriptor .source := by
      rw [slotContent_fillSlots_other _ absent, slotContent_withDefaults _ (by simp) (by simp)]
    have same : (fillSlots (withDefaults draft.descriptor) wires).source = draft.descriptor.source :=
      Option.map_injective (fun _ _ => Setting.string.inj) content
    exact same.trans (source.trans Option.or_none)
  · intro waits
    rw [← slots] at waits
    obtain ⟨field, member, content⟩ := exists_slotContent_fillSlots (withDefaults draft.descriptor) waits
    obtain ⟨k, rfl⟩ := fields _ member
    refine ⟨k, Option.map_injective (fun _ _ => Setting.string.inj) (content.trans ?_)⟩
    rfl

theorem setting?_of_isAssignment {operation : Descriptor} (assignment : IsAssignment operation)
    (known : address ∈ addresses) : operation.setting? address = none := by
  obtain ⟨source, target, rfl⟩ := assignment
  exact Fields.get?_insert_other _ [] (ne_default known).1.symm

/-- Each operation of a script that compiles is an assignment, or has of the arguments of its call what they
give under the names of paths; and each call has such an operation. So a name of a path stands among the
settings of an operation exactly if a call gives a truth value or a whole number under it. -/
theorem addresses_of_compile {script : String} {operations : List Descriptor}
    (compiled : compile script = .ok operations) :
    (∀ operation ∈ operations,
      (IsAssignment operation ∧ ∀ address ∈ addresses, operation.setting? address = none) ∨
        ∃ inner name arguments, HasCall script inner name arguments ∧
          Addressed inner name arguments operation) ∧
    (∀ inner name arguments, HasCall script inner name arguments →
      ∃ operation ∈ operations, Addressed inner name arguments operation) ∧
    ∀ address ∈ addresses,
      (∃ operation ∈ operations, (operation.setting? address).isSome) ↔
        ∃ inner name arguments, HasCall script inner name arguments ∧
          ∃ argument ∈ arguments, (typedAt? address argument).isSome := by
  have each (operation : Descriptor) (member : operation ∈ operations) :
      (IsAssignment operation ∧ ∀ address ∈ addresses, operation.setting? address = none) ∨
        ∃ inner name arguments, HasCall script inner name arguments ∧
          Addressed inner name arguments operation := by
    obtain assignment | ⟨inner, name, arguments, draft, has, added, made, writes⟩ :=
      origin_of_compile compiled member
    · exact .inl ⟨assignment, fun _ => setting?_of_isAssignment assignment⟩
    · exact .inr ⟨inner, name, arguments, has, addressed_of_makes added made writes⟩
  have all (inner name : List Char) (arguments : List (List Char))
      (has : HasCall script inner name arguments) :
      ∃ operation ∈ operations, Addressed inner name arguments operation := by
    obtain ⟨operation, member, draft, added, made, writes⟩ := exists_operation_of_hasCall compiled has
    exact ⟨operation, member, addressed_of_makes added made writes⟩
  refine ⟨each, all, ?_⟩
  intro address known
  constructor
  · rintro ⟨operation, member, held⟩
    obtain ⟨-, none⟩ | ⟨inner, name, arguments, has, addressed⟩ := each operation member
    · rw [none address known] at held
      cases held
    · obtain ⟨value, last⟩ := Option.isSome_iff_exists.mp held
      rw [addressed.setting address known] at last
      obtain ⟨argument, given, typed⟩ := List.mem_filterMap.mp (List.mem_of_getLast? last)
      exact ⟨inner, name, arguments, has, argument, given, Option.isSome_iff_exists.mpr ⟨value, typed⟩⟩
  · rintro ⟨inner, name, arguments, has, argument, given, typed⟩
    obtain ⟨operation, member, addressed⟩ := all inner name arguments has
    obtain ⟨value, typed⟩ := Option.isSome_iff_exists.mp typed
    refine ⟨operation, member, ?_⟩
    have some : arguments.filterMap (typedAt? address) ≠ [] :=
      List.ne_nil_of_mem (List.mem_filterMap.mpr ⟨argument, given, typed⟩)
    rw [addressed.setting address known, List.getLast?_eq_some_getLast some, Option.isSome_some]

/-- The whole number that `lower` is given as its source stays a setting, so a call gives one. -/
theorem addresses_of_compile_whole_number :
    compile "lower(source:5)" = .ok [⟨.lowercaseString,
        [("id", .string "lowercase_string"), ("source", .integer 5)], none, none⟩] ∧
      ∃ inner name arguments, HasCall "lower(source:5)" inner name arguments ∧
        ∃ argument ∈ arguments, (typedAt? "source" argument).isSome := by
  have compiled : compile "lower(source:5)" = .ok [⟨.lowercaseString,
      [("id", .string "lowercase_string"), ("source", .integer 5)], none, none⟩] := by
    simp only [compile, String.reduceToList]
    rfl
  obtain ⟨-, -, settings⟩ := addresses_of_compile compiled
  exact ⟨compiled, (settings "source" List.mem_cons_self).mp ⟨_, List.mem_cons_self, rfl⟩⟩

/-- As a source, a whole number in the older form is stored as a setting: the operation reads the whole
payload. -/
theorem source_of_whole_number :
    ∃ operation, compile "lower(source:5)" = .ok [operation] ∧
      operation.setting? "source" = some (.integer 5) ∧ operation.source = none := by
  simp only [compile, String.reduceToList]
  exact ⟨_, rfl, rfl, rfl⟩

end RecordFlow.Script
