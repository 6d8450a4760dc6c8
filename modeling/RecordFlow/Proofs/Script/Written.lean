import RecordFlow.Proofs.Descriptor
import RecordFlow.Proofs.Json.Numbers
import RecordFlow.Proofs.Script.Origins

/-!
# Compiled descriptors in writing

The descriptors of a script come back from their writing: each setting that an argument gives is a text, a
truth value or a whole number, and settings are only ever inserted. With what is known of descriptors that
were read from a tree, this says of every list of descriptors that serialization keeps it. The numbers of a
tree are taken to be in range, as those of every document are (`comesBack_of_ofText?`).
-/

namespace RecordFlow

namespace Descriptor

variable {descriptor : Descriptor} {key : String} {value : Setting}

theorem Canonical.insert (canonical : descriptor.Canonical) (inside : value.Canonical) :
    Canonical { descriptor with settings := Fields.insert key value descriptor.settings } where
  kind := canonical.kind
  sorted := Fields.sorted_insert value canonical.sorted
  settings := by
    intro entry member
    obtain rfl | old := Fields.mem_insert member
    · exact inside
    · exact canonical.settings entry old

theorem Canonical.insertNew (canonical : descriptor.Canonical) (inside : value.Canonical) :
    Canonical { descriptor with settings := Fields.insertNew key value descriptor.settings } := by
  unfold Fields.insertNew
  split
  · exact canonical
  · exact canonical.insert inside

theorem Canonical.withSource (canonical : descriptor.Canonical) (source : Option String) :
    Canonical { descriptor with source } := ⟨canonical.kind, canonical.sorted, canonical.settings⟩

theorem Canonical.withTarget (canonical : descriptor.Canonical) (target : Option String) :
    Canonical { descriptor with target } := ⟨canonical.kind, canonical.sorted, canonical.settings⟩

end Descriptor

namespace Script

open Descriptor Text

variable {descriptor : Descriptor} {draft draft' : Draft} {argument name : List Char}
  {arguments : List (List Char)} {script : String} {operations : List Descriptor}

theorem canonical_typedValue (text : List Char) : (typedValue text).Canonical := by
  unfold typedValue
  split
  · exact .bool true
  split
  · exact .bool false
  split
  · exact .integer _
  · exact .string _

theorem canonical_of_namedValue? {key : String} {value : Setting}
    (is : namedValue? argument = some (key, value)) : value.Canonical := by
  unfold namedValue? at is
  split at is
  · split at is
    · cases is
    · cases is
      exact .string _
  · obtain ⟨_, -, same⟩ := Option.map_eq_some_iff.mp is
    cases same
    exact canonical_typedValue _

theorem canonical_setNamed {key : String} {value : Setting} (canonical : descriptor.Canonical)
    (inside : value.Canonical) : (setNamed descriptor key value).Canonical := by
  unfold setNamed
  split
  · exact canonical.withSource _
  · exact canonical.withTarget _
  · exact canonical.insert inside

theorem canonical_of_step (canonical : draft.descriptor.Canonical) (step : draft.Step argument draft') :
    draft'.descriptor.Canonical := by
  cases step with
  | named is => exact canonical_setNamed canonical (canonical_of_namedValue? is)
  | namedCall | call => exact canonical
  | path => exact canonical.withSource _
  | numbered => exact canonical.insert (.string _)

theorem canonical_of_foldlM (canonical : draft.descriptor.Canonical)
    (added : arguments.foldlM Draft.add draft = .ok draft') : draft'.descriptor.Canonical := by
  induction arguments generalizing draft with
  | nil =>
    cases added
    exact canonical
  | cons argument rest ih =>
    rw [List.foldlM_cons] at added
    obtain ⟨next, first, others⟩ := bind_eq_ok_iff.mp added
    exact ih (canonical_of_step canonical (step_of_add first)) others

theorem canonical_of_draftOf (added : draftOf name arguments = .ok draft) : draft.descriptor.Canonical := by
  have start : (Draft.ofName name).descriptor.Canonical :=
    ⟨Kind.ofName_name_ofName _, .nil, List.forall_mem_nil _⟩
  exact canonical_of_foldlM start added

theorem canonical_withDefaults (canonical : descriptor.Canonical) :
    (withDefaults descriptor).Canonical := by
  unfold withDefaults
  split
  · exact canonical
  · exact (canonical.insertNew (.string _)).insertNew (.string _)
  · exact canonical.insertNew (.string _)

theorem canonical_fillSlots (canonical : descriptor.Canonical) (wires : List (Slot × String)) :
    (fillSlots descriptor wires).Canonical := by
  induction wires generalizing descriptor with
  | nil => exact canonical
  | cons wire rest ih =>
    obtain ⟨slot, field⟩ := wire
    rw [fillSlots_cons]
    refine ih ?_
    cases slot with
    | source => exact canonical.withSource _
    | setting key => exact canonical.insert (.string field)

theorem canonical_of_compile (compiled : compile script = .ok operations) :
    ∀ operation ∈ operations, operation.Canonical := by
  intro operation member
  obtain ⟨source, target, rfl⟩ | ⟨_, name, arguments, draft, -, added, made, -⟩ :=
    origin_of_compile compiled member
  · refine (canonical_withDefaults ?_).withTarget target
    exact ⟨rfl, .nil, List.forall_mem_nil _⟩
  · obtain ⟨wires, target, -, -, rfl⟩ := made
    refine Canonical.withTarget ?_ target
    exact canonical_fillSlots (canonical_withDefaults (canonical_of_draftOf added)) wires

end Script

/-! ### Lists of descriptors -/

/-- The descriptors come back from their writing as they were, and a configuration without script that
was given them describes them. -/
structure ComesBack (descriptors : List Descriptor) : Prop where
  list : Descriptor.listOfJson? (Descriptor.listToJson descriptors) = some descriptors
  described : descriptors ≠ [] → ∀ config : Config, config.script = none →
    Descriptor.listOfJson? (Descriptor.listToJson descriptors) = some config.transforms →
      config.descriptors = .ok descriptors
  /-- The configuration that holds them comes back too. -/
  config : Config.ofNode? true (Node.ofJson (Config.toJson ⟨none, descriptors⟩)) = some ⟨none, descriptors⟩

theorem comesBack_of_canonical {descriptors : List Descriptor}
    (canonical : ∀ descriptor ∈ descriptors, descriptor.Canonical) : ComesBack descriptors := by
  have read := Descriptor.listOf?_toJson true canonical
  refine ⟨read, ?_, ?_⟩
  · rintro some ⟨script, transforms⟩ rfl given
    rw [Descriptor.listOfJson?, read, Option.some.injEq] at given
    subst given
    cases descriptors with
    | nil => exact absurd rfl some
    | cons descriptor rest => rfl
  · cases descriptors with
    | nil => rfl
    | cons descriptor rest =>
      have passes : Descriptor.othersPass ["script", "transforms"]
          [("transforms", Node.ofJson (Descriptor.listToJson (descriptor :: rest)))] = true := rfl
      have script : Descriptor.member? "script"
          [("transforms", Node.ofJson (Descriptor.listToJson (descriptor :: rest)))] = some none := rfl
      have transforms : Descriptor.member? "transforms"
          [("transforms", Node.ofJson (Descriptor.listToJson (descriptor :: rest)))] =
            some (some (Node.ofJson (Descriptor.listToJson (descriptor :: rest)))) := rfl
      rw [Config.toJson]
      simp only [Option.toList_none, List.map_nil, List.nil_append, List.isEmpty_cons, Bool.false_eq_true,
        if_false, Node.ofJson, Node.ofFields, Config.ofNode?, passes, script, transforms, guard_true,
        Option.bind_eq_bind, Option.bind_some, Config.ofParts?, Descriptor.optional, read]
      rfl

theorem comesBack_of_ofText? {text : String} {tree : Json} {descriptors : List Descriptor}
    (document : Json.ofText? text = some tree) (read : Descriptor.listOfJson? tree = some descriptors) :
    ComesBack descriptors :=
  comesBack_of_canonical (Descriptor.canonical_of_listOf? (Json.numbersInRange_of_ofText? document) read)

/-- Descriptors survive serialization: those of a script, and those read from a tree. -/
theorem descriptors_come_back :
    (∀ script descriptors, Script.compile script = .ok descriptors → ComesBack descriptors) ∧
      ∀ (tree : Json) descriptors, tree.NumbersInRange →
        Descriptor.listOfJson? tree = some descriptors → ComesBack descriptors := by
  refine ⟨?_, ?_⟩
  · intro script descriptors compiled
    exact comesBack_of_canonical (Script.canonical_of_compile compiled)
  · intro tree descriptors inRange read
    exact comesBack_of_canonical (Descriptor.canonical_of_listOf? inRange read)

/-- A script with an alias and a whole number, and a tree with an alias, a number that becomes a double, and
a text that looks like a number. -/
theorem descriptors_come_back_aliases :
    ComesBack [⟨.lowercaseString, [("id", .string "lowercase_string"), ("n", .integer 7)], some "$.a", none⟩] ∧
      ComesBack [⟨.splitString, [("n", .float (.ofInt 18446744073709551615)), ("s", .string "7")], none,
        none⟩] := by
  obtain ⟨compiled, read⟩ := descriptors_come_back
  have listed : Script.compile "lower($.a, n:7)" =
      .ok [⟨.lowercaseString, [("id", .string "lowercase_string"), ("n", .integer 7)], some "$.a", none⟩] := by
    simp only [Script.compile, String.reduceToList]
    rfl
  refine ⟨compiled _ _ listed, ?_⟩
  refine read (.array [.object [("settings", .object [("n", .ofInt 18446744073709551615),
    ("s", .string "7")]), ("type", .string "split")]]) _ ?_ ?_
  · simp [Json.NumbersInRange, Json.HasNumberInRange, Json.ofInt, Json.Number.InRange, Text.minInt64,
      Text.halfWord, Text.wordSize]
  · rfl

end RecordFlow
