import RecordFlow.Operation.Builtin
import RecordFlow.Proofs.Outcome

/-!
An operation takes over the identifier of its descriptor, reads where the source of the descriptor says and
writes where the target says (`endpoints_of_ofDescriptor`).
-/

namespace RecordFlow.Operation

theorem Endpoints.eq_some_of_path? {id text : String} {path : Path} {read : Option Path}
    (reads : Path.parse text = .ok path) (made : path? id (some text) = .ok read) : read = some path := by
  rw [path?, reads] at made
  cases made
  rfl

theorem Endpoints.exists_text_of_path? {id : String} {text? : Option String} {path : Path}
    (made : path? id text? = .ok (some path)) : ∃ text, text? = some text ∧ Path.parse text = .ok path := by
  cases text? with
  | none => cases made
  | some text =>
    cases read : Path.parse text with
    | error error => simp [path?, read] at made
    | ok found =>
      have same : found = path := by simpa [path?, read] using made
      exact ⟨text, rfl, by rw [read, same]⟩

theorem Endpoints.of_ofDescriptor {descriptor : Descriptor} {endpoints : Endpoints}
    (read : ofDescriptor descriptor = .ok endpoints) : endpoints.id = descriptor.id ∧
      path? descriptor.id descriptor.source = .ok endpoints.source ∧
      path? descriptor.id descriptor.target = .ok endpoints.target := by
  obtain ⟨_, source, read⟩ := bind_eq_ok_iff.mp read
  obtain ⟨_, target, read⟩ := bind_eq_ok_iff.mp read
  cases read
  exact ⟨rfl, source, target⟩

namespace Builtin

def kind : Builtin → Kind
  | assign .. => .directAssignment
  | split .. => .splitString
  | gunzip _ => .decompressGzip
  | print _ => .sendStdout
  | decodeBase64 _ => .decodeBase64
  | lowercase _ => .lowercaseString
  | delete .. => .delete

def source? : Builtin → Option Path
  | assign _ source _ | delete _ source _ => some source
  | split endpoints _ _ | gunzip endpoints | print endpoints | decodeBase64 endpoints
  | lowercase endpoints => endpoints.source

def target? : Builtin → Option Path
  | assign _ _ target | delete _ _ target => some target
  | split endpoints _ _ | gunzip endpoints | print endpoints | decodeBase64 endpoints
  | lowercase endpoints => endpoints.target

/-- Where the operation leaves what it makes: at its target, or in the place of the payload. -/
def place (operation : Builtin) : Path := operation.target?.getD .payload

/-- The operation writes at the path, or removes what lives there. -/
def Edits (operation : Builtin) (path : Path) : Prop :=
  operation.target? = some path ∨ operation.kind = .delete ∧ operation.source? = some path

/-- Where operations of a kind write if their descriptor does not say. -/
def standingTarget? : Kind → Option Path
  | .delete => some deletedField
  | _ => none

variable {operation : Builtin} {descriptor : Descriptor} {path target : Path} {text : String}

theorem place_eq (writes : operation.target? = some target) : operation.place = target := by
  rw [place, writes]
  rfl

/-- The operation takes its endpoints over from its descriptor; a delete without a target has one of its
own. -/
theorem endpoints_of_ofDescriptor (built : ofDescriptor descriptor = .ok operation) :
    operation.kind = descriptor.kind ∧ ∃ endpoints, Endpoints.ofDescriptor descriptor = .ok endpoints ∧
      operation.id = endpoints.id ∧ operation.source? = endpoints.source ∧
      operation.target? = endpoints.target.or (standingTarget? descriptor.kind) := by
  unfold ofDescriptor at built
  cases kind : descriptor.kind with
  | directAssignment =>
    rw [kind] at built
    obtain ⟨endpoints, read, built⟩ := bind_eq_ok_iff.mp built
    split at built
    · rename_i source target
      cases built
      refine ⟨rfl, endpoints, read, rfl, source.symm, ?_⟩
      rw [target]
      rfl
    · cases built
  | splitString =>
    rw [kind] at built
    obtain ⟨endpoints, read, built⟩ := bind_eq_ok_iff.mp built
    obtain ⟨⟨first, more⟩, _, built⟩ := bind_eq_ok_iff.mp built
    cases built
    exact ⟨rfl, endpoints, read, rfl, rfl, Option.or_none.symm⟩
  | delete =>
    rw [kind] at built
    obtain ⟨endpoints, read, built⟩ := bind_eq_ok_iff.mp built
    split at built
    · rename_i source
      cases built
      refine ⟨rfl, endpoints, read, rfl, source.symm, ?_⟩
      rw [target?]
      cases endpoints.target <;> rfl
    · cases built
  | custom name =>
    rw [kind] at built
    cases built
  | decompressGzip | sendStdout | decodeBase64 | lowercaseString =>
    rw [kind] at built
    obtain ⟨endpoints, read, rfl⟩ := map_eq_ok_iff.mp built
    exact ⟨rfl, endpoints, read, rfl, rfl, Option.or_none.symm⟩

theorem id_of_ofDescriptor (built : ofDescriptor descriptor = .ok operation) :
    operation.id = descriptor.id := by
  obtain ⟨-, endpoints, made, same, -, -⟩ := endpoints_of_ofDescriptor built
  exact same.trans (Endpoints.of_ofDescriptor made).1

theorem source?_of_ofDescriptor (built : ofDescriptor descriptor = .ok operation)
    (asked : descriptor.source = some text) (reads : Path.parse text = .ok path) :
    operation.source? = some path := by
  obtain ⟨-, endpoints, made, -, source, -⟩ := endpoints_of_ofDescriptor built
  obtain ⟨-, read, -⟩ := Endpoints.of_ofDescriptor made
  rw [asked] at read
  exact source.trans (Endpoints.eq_some_of_path? reads read)

theorem target?_of_ofDescriptor (built : ofDescriptor descriptor = .ok operation)
    (asked : descriptor.target = some text) (reads : Path.parse text = .ok path) :
    operation.target? = some path := by
  obtain ⟨-, endpoints, made, -, -, target⟩ := endpoints_of_ofDescriptor built
  obtain ⟨-, -, read⟩ := Endpoints.of_ofDescriptor made
  rw [asked] at read
  rw [target, Endpoints.eq_some_of_path? reads read, Option.some_or]

end Builtin

end RecordFlow.Operation
