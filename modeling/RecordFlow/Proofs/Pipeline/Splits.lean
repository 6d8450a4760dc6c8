import RecordFlow.Proofs.Operation.Effects
import RecordFlow.Proofs.Pipeline.Batches
import RecordFlow.Proofs.Text.Separators

/-!
A split makes a record of every stretch between separators that is not empty (`forall₂_of_split`), and so loses,
repeats and moves nothing but separators. A piece has no separator left, so the record of one is split into itself.
Without a source and a target that is what a batch comes to: a split of it changes nothing more
(`split_makes_stretches`).
-/

namespace RecordFlow

open Operation

/-- The separator that a split is told, or the line feed it takes if it is told none. -/
def Descriptor.SeparatesAt (descriptor : Descriptor) (separator : String) : Prop :=
  descriptor.setting? "separator" = some (.string separator) ∨
    descriptor.setting? "separator" = none ∧ separator = "\n"

namespace Operation.Builtin

variable {endpoints : Endpoints} {first : Char} {more piece : List Char} {descriptor : Descriptor}
  {separator id : String} {payload metadata : Json} {record : Record} {batch produced : List Record}
  {stretches : List (List Char)}

/-! ### Building -/

theorem exists_split (kind : descriptor.kind = .splitString)
    (read : Endpoints.ofDescriptor descriptor = .ok endpoints) (separates : descriptor.SeparatesAt separator)
    (nonempty : separator ≠ "") :
    ∃ first more, separator.toList = first :: more ∧
      ofDescriptor descriptor = .ok (split endpoints first more) := by
  have some_char : separator.toList ≠ [] := fun none => nonempty (String.toList_eq_nil_iff.mp none)
  obtain ⟨first, more, characters⟩ := List.exists_cons_of_ne_nil some_char
  have told : Builtin.separator descriptor = .ok (first, more) := by
    unfold Builtin.separator
    obtain given | ⟨none, rfl⟩ := separates
    · simp only [given, characters]
    · rw [none]
      cases characters
      rfl
  refine ⟨first, more, characters, ?_⟩
  unfold ofDescriptor
  rw [kind]
  simp only [read, told, ok_bind]
  rfl

/-! ### The record of a piece -/

/-- The record that a piece becomes: the piece is the payload, or it is written into an empty payload, or into the
metadata beside an empty payload. -/
def HoldsPiece (target : Option Path) (metadata : Json) (piece : List Char) (record : Record) : Prop :=
  match target with
  | none => record = .data (.string (String.ofList piece)) metadata
  | some ⟨.payload, segments⟩ => ∃ payload,
    Path.write ⟨.payload, segments⟩ (.string (String.ofList piece)) (.object []) = .done payload ∧
      record = .data payload metadata
  | some ⟨.metadata, segments⟩ => ∃ changed,
    Path.write ⟨.metadata, segments⟩ (.string (String.ofList piece)) metadata = .done changed ∧
      record = .data (.object []) changed

theorem holdsPiece_of_pieceRecord (made : pieceRecord endpoints metadata piece = .ok record) :
    HoldsPiece endpoints.target metadata piece record := by
  unfold pieceRecord at made
  dsimp only at made
  cases target : endpoints.target with
  | none =>
    rw [target] at made
    cases made
    rfl
  | some path =>
    rw [target] at made
    obtain ⟨through, after⟩ := result_eq_ok_iff.mp made
    obtain ⟨root, segments⟩ := path
    cases root with
    | payload => exact ⟨_, Path.Edit.eq_done through, after.symm⟩
    | metadata => exact ⟨_, Path.Edit.eq_done through, after.symm⟩

theorem forall₂_of_split
    (through : (split endpoints first more).successors (.data payload metadata) = .ok produced) :
    List.Forall₂ (HoldsPiece endpoints.target metadata)
      (pieces first more (endpoints.read (.data payload metadata)).text) produced :=
  (mapM_eq_ok_iff.mp through).imp fun _ _ => holdsPiece_of_pieceRecord

/-! ### Splitting again -/

/-- The pieces of a text as payloads, beside the same metadata. -/
def pieceRecords (first : Char) (more : List Char) (metadata : Json) (text : String) : List Record :=
  (pieces first more text).map fun piece => .data (.string (String.ofList piece)) metadata

theorem successors_split_bare (id : String) (first : Char) (more : List Char) (payload metadata : Json) :
    (split ⟨id, none, none⟩ first more).successors (.data payload metadata) =
      .ok (pieceRecords first more metadata (Field.ofTree payload).text) := by
  refine mapM_eq_ok_iff.mpr (List.forall₂_map_right_iff.mpr (List.forall₂_same.mpr ?_))
  exact fun piece _ => rfl

theorem pieces_of_piece {text : String} (member : piece ∈ pieces first more text) :
    pieces first more (String.ofList piece) = [piece] := by
  obtain ⟨cut, solid⟩ := List.mem_filter.mp member
  have none : ¬first :: more <:+: piece :=
    (Text.between_piecesBetween first more text.toList).excludes (List.cons_ne_nil _ _) cut
  rw [pieces, String.toList_ofList, Text.between_iff.mp (.last none)]
  exact List.filter_eq_self.mpr (List.forall_mem_singleton.mpr solid)

/-- The record of a piece is split into itself. -/
theorem successors_of_pieceRecord {text : String} (member : record ∈ pieceRecords first more metadata text) :
    (split ⟨id, none, none⟩ first more).successors record = .ok [record] := by
  obtain ⟨piece, held, rfl⟩ := List.mem_map.mp member
  rw [successors_split_bare, pieceRecords]
  change Except.ok ((pieces first more (String.ofList piece)).map _) = _
  rw [pieces_of_piece held, List.map_singleton]

theorem exists_settled (id : String) (first : Char) (more : List Char) (record : Record) :
    ∃ made, (split ⟨id, none, none⟩ first more).successors record = .ok made ∧
      ∀ successor ∈ made, (split ⟨id, none, none⟩ first more).successors successor = .ok [successor] := by
  cases record with
  | control => exact ⟨[.control], rfl, List.forall_mem_singleton.mpr rfl⟩
  | data payload metadata =>
    exact ⟨_, successors_split_bare id first more payload metadata, fun _ => successors_of_pieceRecord⟩

theorem yields_self (each : ∀ record ∈ batch, (split endpoints first more).successors record = .ok [record]) :
    (split endpoints first more).Yields batch batch [] := by
  induction batch with
  | nil => exact .nothing
  | cons record rest ih =>
    obtain ⟨one, others⟩ := List.forall_mem_cons.mp each
    exact .record one (ih others)

/-- A split of a batch, and a split of what that makes. -/
theorem exists_yields_twice (id : String) (first : Char) (more : List Char) (batch : List Record) :
    ∃ produced, (split ⟨id, none, none⟩ first more).Yields batch produced [] ∧
      (split ⟨id, none, none⟩ first more).Yields produced produced [] := by
  induction batch with
  | nil => exact ⟨[], .nothing, .nothing⟩
  | cons record rest ih =>
    obtain ⟨made, successors, settled⟩ := exists_settled id first more record
    obtain ⟨others, once, again⟩ := ih
    exact ⟨made ++ others, .record successors once, (yields_self settled).append again⟩

end Operation.Builtin

namespace Pipeline

variable {τ : Type} [Output τ] {operation : Builtin} {batch produced : List Record}

theorem run_of_silent (account : operation.Yields batch produced []) (sink : τ) :
    (run sink (stagesOf [operation]) batch).result = .ok produced :=
  (run_of_makes (.stage account (.done _)) (Output.writeAll_nil sink)).1

end Pipeline

namespace Operation.Builtin

variable {τ : Type} [Output τ] {endpoints : Endpoints} {descriptor : Descriptor} {separator : String}

/-- A split can be built with every separator but the empty text. It makes a record of every stretch of the text it
reads that lies between separators and is not empty, in order. Without source and target it leaves a batch of which
the same split makes the same batch. -/
theorem split_makes_stretches (kind : descriptor.kind = .splitString)
    (read : Endpoints.ofDescriptor descriptor = .ok endpoints) (separates : descriptor.SeparatesAt separator)
    (nonempty : separator ≠ "") :
    ∃ operation, ofDescriptor descriptor = .ok operation ∧
      (∀ (sink next : τ) payload metadata produced,
        operation.apply sink (.data payload metadata) = (.ok produced, next) →
        ∃ stretches pieces,
          Text.Between separator.toList (endpoints.read (.data payload metadata)).text.toList stretches ∧
          separator.toList.intercalate stretches = (endpoints.read (.data payload metadata)).text.toList ∧
          pieces = stretches.filter (· ≠ []) ∧ pieces.flatten = stretches.flatten ∧
          (∀ piece ∈ pieces, piece ≠ [] ∧ ¬separator.toList <:+: piece) ∧
          List.Forall₂ (HoldsPiece endpoints.target metadata) pieces produced) ∧
      (endpoints.source = none → endpoints.target = none → ∀ (sink later : τ) batch, ∃ produced,
        (Pipeline.run sink (Pipeline.stagesOf [operation]) batch).result = .ok produced ∧
        (Pipeline.run later (Pipeline.stagesOf [operation]) produced).result = .ok produced) := by
  obtain ⟨first, more, characters, built⟩ := exists_split kind read separates nonempty
  refine ⟨split endpoints first more, built, ?_, ?_⟩
  · intro sink next payload metadata produced applied
    have through := (apply_eq_ok_iff.mp applied).1
    have between := Text.between_piecesBetween first more
      (endpoints.read (.data payload metadata)).text.toList
    rw [characters]
    refine ⟨_, _, between, between.intercalate, rfl, List.flatten_filter_ne_nil, ?_, forall₂_of_split through⟩
    intro piece member
    obtain ⟨cut, solid⟩ := List.mem_filter.mp member
    exact ⟨of_decide_eq_true solid, between.excludes (List.cons_ne_nil _ _) cut⟩
  · intro noSource noTarget sink later batch
    obtain ⟨id, source, target⟩ := endpoints
    cases noSource
    cases noTarget
    obtain ⟨produced, once, again⟩ := exists_yields_twice id first more batch
    exact ⟨produced, Pipeline.run_of_silent once sink, Pipeline.run_of_silent again later⟩

/-- Of two occurrences that overlap only the first one counts, and the third `a` stays. -/
theorem split_makes_stretches_overlapping :
    ∃ descriptor operation, descriptor = ⟨.splitString, [("separator", .string "aa")], none, none⟩ ∧
      ofDescriptor descriptor = .ok operation ∧
      (∀ sink next produced, operation.apply sink (.data (.string "baaac") .null) = (.ok produced, next) →
        produced = [.data (.string "b") .null, .data (.string "ac") .null]) ∧
      ∃ produced, (Pipeline.run ({} : Sink) (Pipeline.stagesOf [operation])
          [.data (.string "baaac") .null, .control]).result = .ok produced ∧
        (Pipeline.run ({} : Sink) (Pipeline.stagesOf [operation]) produced).result = .ok produced := by
  have read : Endpoints.ofDescriptor ⟨.splitString, [("separator", .string "aa")], none, none⟩ =
      .ok ⟨"split_string", none, none⟩ := rfl
  obtain ⟨operation, built, once, twice⟩ := split_makes_stretches rfl read (.inl rfl) (by decide)
  refine ⟨_, operation, rfl, built, ?_, twice rfl rfl _ _ _⟩
  intro sink next produced applied
  obtain ⟨stretches, pieces, between, -, rfl, -, -, each⟩ := once sink next _ _ _ applied
  have cut : Text.piecesBetween 'a' ['a'] ['b', 'a', 'a', 'a', 'c'] = [['b'], ['a', 'c']] := by cbv
  obtain rfl : [['b'], ['a', 'c']] = stretches := cut.symm.trans (Text.between_iff.mp between)
  obtain ⟨_, _, one, others, rfl⟩ := List.forall₂_cons_left_iff.mp each
  obtain ⟨_, _, two, none, rfl⟩ := List.forall₂_cons_left_iff.mp others
  rw [List.forall₂_nil_left_iff.mp none, one, two]

end Operation.Builtin

end RecordFlow
