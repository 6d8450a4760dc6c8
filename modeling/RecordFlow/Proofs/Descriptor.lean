import RecordFlow.Config
import RecordFlow.Proofs.Outcome
import RecordFlow.Proofs.Setting

/-!
# Descriptors in writing

A descriptor is written as an object and read back from it, alone, in a list, or in a configuration.
`Canonical` says which descriptors come back as they were (`ofNode?_toJson`); every descriptor that was
read from a tree is such, so a second writing loses nothing.
-/

namespace RecordFlow

namespace Kind

/-- A name that is no alias of a builtin kind is kept as it is. -/
theorem name_of_custom {name other : String} (custom : ofName name = .custom other) : name = other := by
  unfold ofName at custom
  split at custom <;> cases custom
  rfl

/-- Aliases are read as the kind whose name is written. -/
theorem ofName_name_ofName (name : String) : ofName (ofName name).name = ofName name := by
  cases kind : ofName name with
  | custom other =>
    have same := name_of_custom kind
    rw [Kind.name, ← same, kind, ← same]
  | _ => rfl

end Kind

namespace Descriptor

/-- The descriptor is one that its writing brings back. -/
structure Canonical (descriptor : Descriptor) : Prop where
  /-- The name of the kind is read as the kind: no custom kind has the name of a builtin one. -/
  kind : Kind.ofName descriptor.kind.name = descriptor.kind
  /-- The settings are a map. -/
  sorted : Fields.Sorted descriptor.settings
  settings : ∀ entry ∈ descriptor.settings, entry.2.Canonical

/-! ### Members of an object -/

variable {fields : List (String × Json)} {name : String}

theorem filter_ofFields (absent : name ∉ fields.map Prod.fst) :
    (Node.ofFields fields).filter (·.1 = name) = [] := by
  rw [Node.ofFields_eq_map, List.filter_eq_nil_iff, List.forall_mem_map]
  intro field member same
  exact absent (of_decide_eq_true same ▸ List.mem_map_of_mem member)

theorem member?_ofFields (once : (fields.map Prod.fst).Nodup) :
    member? name (Node.ofFields fields) = some ((Fields.get? name fields).map Node.ofJson) := by
  induction fields with
  | nil => rfl
  | cons field rest ih =>
    obtain ⟨key, value⟩ := field
    obtain ⟨absent, once⟩ := List.nodup_cons.mp once
    rw [Node.ofFields, member?, Fields.get?, List.filter_cons]
    by_cases same : key = name
    · subst same
      simp only [decide_true, if_true, filter_ofFields absent, Option.map_some]
    · simp only [same, decide_false, Bool.false_eq_true, if_false]
      exact ih once

theorem othersPass_ofFields {known : List String} (all : ∀ field ∈ fields, field.1 ∈ known) :
    othersPass known (Node.ofFields fields) = true := by
  rw [othersPass, Node.ofFields_eq_map, List.all_map, List.all_eq_true]
  intro field member
  simp only [Function.comp_apply, List.contains_iff_mem.mpr (all field member), Bool.true_or]

/-! ### Writing, then reading -/

variable {descriptor : Descriptor} {descriptors : List Descriptor}

theorem names_entries (descriptor : Descriptor) :
    (descriptor.entries.map Prod.fst).Sublist ["type", "settings", "source", "target"] := by
  obtain ⟨kind, settings, source, target⟩ := descriptor
  cases settings <;> cases source <;> cases target <;> simp [entries]

theorem names_entries_nodup (descriptor : Descriptor) : (descriptor.entries.map Prod.fst).Nodup :=
  List.Nodup.sublist (names_entries descriptor) (by decide)

theorem get?_entries (descriptor : Descriptor) :
    Fields.get? "type" descriptor.entries = some (.string descriptor.kind.name) ∧
      Fields.get? "settings" descriptor.entries =
        (if descriptor.settings.isEmpty then none
          else some (.object (Setting.toFields descriptor.settings))) ∧
      Fields.get? "source" descriptor.entries = descriptor.source.map .string ∧
      Fields.get? "target" descriptor.entries = descriptor.target.map .string := by
  obtain ⟨kind, settings, source, target⟩ := descriptor
  cases settings <;> cases source <;> cases target <;> simp [entries, Fields.get?]

theorem settingsOf?_toFields {settings : List (String × Setting)} (sorted : Fields.Sorted settings)
    (inside : ∀ entry ∈ settings, entry.2.Canonical) :
    settingsOf? (Node.ofJson (.object (Setting.toFields settings))) = some settings := by
  have back := Setting.ofMembers?_toFields fun entry member => Setting.ofNode?_toJson (inside entry member)
  rw [Node.ofJson, settingsOf?, back, Option.map_some, Fields.ofList_of_sorted sorted]

theorem optional_textOf? (text : Option String) :
    optional textOf? none ((text.map Json.string).map Node.ofJson) = some text := by
  cases text <;> rfl

theorem ofParts?_entries (canonical : descriptor.Canonical) :
    ofParts? ((Fields.get? "type" descriptor.entries).map Node.ofJson)
        ((Fields.get? "settings" descriptor.entries).map Node.ofJson)
        ((Fields.get? "source" descriptor.entries).map Node.ofJson)
        ((Fields.get? "target" descriptor.entries).map Node.ofJson) = some descriptor := by
  obtain ⟨kind, settings, source, target⟩ := get?_entries descriptor
  have read : optional settingsOf? [] ((Fields.get? "settings" descriptor.entries).map Node.ofJson) =
      some descriptor.settings := by
    rw [settings]
    split
    · rename_i empty
      rw [List.isEmpty_iff.mp empty]
      rfl
    · exact settingsOf?_toFields canonical.sorted canonical.settings
  rw [ofParts?, kind, read, source, target, optional_textOf?, optional_textOf?]
  simp only [Option.map_some, Node.ofJson, Option.bind_eq_bind, Option.bind_some, kindOf?, canonical.kind]
  rfl

/-- A descriptor comes back from its writing as it was. -/
theorem ofNode?_toJson (strict : Bool) (canonical : descriptor.Canonical) :
    ofNode? strict (Node.ofJson descriptor.toJson) = some descriptor := by
  have known : ∀ field ∈ Fields.ofList descriptor.entries,
      field.1 ∈ ["type", "settings", "source", "target"] := fun field member =>
    (names_entries descriptor).mem (List.mem_map_of_mem (Fields.mem_ofList member))
  have member (name : String) :
      member? name (Node.ofFields (Fields.ofList descriptor.entries)) =
        some ((Fields.get? name descriptor.entries).map Node.ofJson) := by
    rw [member?_ofFields (Fields.nodup_of_sorted (Fields.sorted_ofList descriptor.entries)),
      Fields.get?_ofList (names_entries_nodup descriptor)]
  rw [toJson, Node.ofJson, ofNode?]
  simp only [othersPass_ofFields known, guard_true, member, Option.bind_eq_bind, Option.bind_some,
    ofParts?_entries canonical]
  rfl

theorem listOf?_toJson (strict : Bool) (canonical : ∀ descriptor ∈ descriptors, descriptor.Canonical) :
    listOf? strict (Node.ofJson (listToJson descriptors)) = some descriptors := by
  rw [listToJson, Node.ofJson, listOf?]
  induction descriptors with
  | nil => rfl
  | cons descriptor rest ih =>
    obtain ⟨here, later⟩ := List.forall_mem_cons.mp canonical
    rw [List.map_cons, Node.ofItems, List.mapM_cons, ofNode?_toJson strict here, ih later]
    rfl

/-! ### What is read -/

/-- The node is the writing of a tree with numbers in range. -/
def InRange (node : Node) : Prop := ∃ tree : Json, tree.NumbersInRange ∧ Node.ofJson tree = node

theorem canonical_of_settingsOf? {node : Node} {settings : List (String × Setting)}
    (inRange : InRange node) (read : settingsOf? node = some settings) :
    Fields.Sorted settings ∧ ∀ entry ∈ settings, entry.2.Canonical := by
  obtain ⟨tree, inRange, rfl⟩ := inRange
  cases tree with
  | object fields =>
    rw [Node.ofJson, settingsOf?] at read
    obtain ⟨entries, inside, rfl⟩ := Option.map_eq_some_iff.mp read
    have all := Setting.canonical_of_ofMembers? (Json.throughout_object.mp inRange).2 inside
    exact ⟨Fields.sorted_ofList entries, fun entry member => all entry (Fields.mem_ofList member)⟩
  | null | bool | number | string | array => cases read

theorem canonical_of_ofParts? {kind settings source target : Option Node}
    (inRange : ∀ node ∈ settings, InRange node)
    (read : ofParts? kind settings source target = some descriptor) : descriptor.Canonical := by
  obtain ⟨node, -, read⟩ := Option.bind_eq_some_iff.mp read
  obtain ⟨name, named, read⟩ := Option.bind_eq_some_iff.mp read
  obtain ⟨entries, inside, read⟩ := Option.bind_eq_some_iff.mp read
  obtain ⟨source, -, read⟩ := Option.bind_eq_some_iff.mp read
  obtain ⟨target, -, read⟩ := Option.bind_eq_some_iff.mp read
  cases read
  have known : Kind.ofName name.name = name := by
    cases node with
    | string text =>
      cases named
      exact Kind.ofName_name_ofName text
    | invalid | refused | null | bool | number | array | object => cases named
  cases settings with
  | none =>
    cases inside
    exact ⟨known, .nil, List.forall_mem_nil _⟩
  | some node =>
    obtain ⟨sorted, canonical⟩ := canonical_of_settingsOf? (inRange node rfl) inside
    exact ⟨known, sorted, canonical⟩

theorem inRange_of_member? {node : Node} (inRange : ∀ field ∈ fields, field.2.NumbersInRange)
    (found : member? name (Node.ofFields fields) = some (some node)) : InRange node := by
  unfold member? at found
  split at found
  · cases found
  · rename_i key value filtered
    cases found
    have kept : (key, node) ∈ (Node.ofFields fields).filter (·.1 = name) := by
      rw [filtered]
      exact List.mem_cons_self
    have member := (List.mem_filter.mp kept).1
    rw [Node.ofFields_eq_map] at member
    obtain ⟨field, held, same⟩ := List.mem_map.mp member
    exact ⟨field.2, inRange field held, congrArg Prod.snd same⟩
  · cases found

theorem inRange_of_item {items : List Json} {node : Node} {i : Nat}
    (inRange : ∀ item ∈ items, item.NumbersInRange) (found : (Node.ofItems items)[i]? = some node) :
    InRange node := by
  induction items generalizing i with
  | nil => cases found
  | cons item rest ih =>
    obtain ⟨here, later⟩ := List.forall_mem_cons.mp inRange
    cases i with
    | zero => exact ⟨item, here, Option.some.inj found⟩
    | succ i => exact ih later found

/-- Reading a descriptor drops what its writing could not hold. -/
theorem canonical_of_ofNode? {strict : Bool} {tree : Json} (inRange : tree.NumbersInRange)
    (read : ofNode? strict (Node.ofJson tree) = some descriptor) : descriptor.Canonical := by
  cases tree with
  | object fields =>
    obtain ⟨-, -, read⟩ := Option.bind_eq_some_iff.mp read
    obtain ⟨kind, -, read⟩ := Option.bind_eq_some_iff.mp read
    obtain ⟨settings, found, read⟩ := Option.bind_eq_some_iff.mp read
    obtain ⟨source, -, read⟩ := Option.bind_eq_some_iff.mp read
    obtain ⟨target, -, read⟩ := Option.bind_eq_some_iff.mp read
    refine canonical_of_ofParts? ?_ read
    rintro node rfl
    exact inRange_of_member? (Json.throughout_object.mp inRange).2 found
  | array items =>
    rw [Node.ofJson, ofNode?] at read
    split at read
    · cases read
    · exact canonical_of_ofParts? (fun node found => inRange_of_item (Json.throughout_array.mp inRange).2 found)
        read
  | null | bool | number | string => cases read

theorem canonical_of_listOf? {strict : Bool} {tree : Json} (inRange : tree.NumbersInRange)
    (read : listOf? strict (Node.ofJson tree) = some descriptors) :
    ∀ descriptor ∈ descriptors, descriptor.Canonical := by
  cases tree with
  | array items =>
    rw [Node.ofJson, listOf?] at read
    replace inRange := (Json.throughout_array.mp inRange).2
    induction items generalizing descriptors with
    | nil =>
      cases read
      exact List.forall_mem_nil _
    | cons item rest ih =>
      obtain ⟨here, later⟩ := List.forall_mem_cons.mp inRange
      rw [Node.ofItems, List.mapM_cons] at read
      obtain ⟨descriptor, one, read⟩ := Option.bind_eq_some_iff.mp read
      obtain ⟨others, more, read⟩ := Option.bind_eq_some_iff.mp read
      cases read
      exact List.forall_mem_cons.mpr ⟨canonical_of_ofNode? here one, ih more later⟩
  | null | bool | number | string | object => cases read

end Descriptor

end RecordFlow
