import RecordFlow.Operation.Builtin
import RecordFlow.Proofs.Outcome

/-!
An operation meets the sink only through the lines it writes for a record, none or one. If the sink takes them it
goes on as if there were no sink, and if not it fails and leaves the sink as it was (`Builtin.apply_eq`). Whether a
sink with a capacity takes lines depends on their bytes alone, so neither their order nor further lines beside them
help (`Sink.exists_writeAll_of_perm`).
-/

namespace RecordFlow.Operation

namespace Output

variable {τ : Type} [Output τ] {sink final : τ} {lines : List String}

/-- Writes lines one after the other; all of them have to be taken. -/
def writeAll (sink : τ) (lines : List String) : Except String τ := lines.foldlM write sink

/-- The sink never refuses a text, whatever it has taken before. -/
def AcceptsAll (sink : τ) : Prop := ∀ lines, ∃ final, writeAll sink lines = .ok final

theorem writeAll_nil (sink : τ) : writeAll sink [] = .ok sink := rfl

theorem writeAll_append (sink : τ) (first second : List String) :
    writeAll sink (first ++ second) = (writeAll sink first >>= (writeAll · second)) := by
  rw [writeAll, List.foldlM_append]
  rfl

theorem writeAll_cons (sink : τ) (line : String) (lines : List String) :
    writeAll sink (line :: lines) = (write sink line >>= (writeAll · lines)) := by
  rw [writeAll, List.foldlM_cons]
  rfl

theorem writeAll_singleton (sink : τ) (line : String) : writeAll sink [line] = write sink line := by
  rw [writeAll_cons]
  cases write sink line <;> rfl

theorem printed_writeAll (taken : writeAll sink lines = .ok final) :
    printed final = printed sink ++ String.join lines := by
  induction lines generalizing sink with
  | nil =>
    cases taken
    simp
  | cons line rest ih =>
    rw [writeAll_cons] at taken
    obtain ⟨next, one, others⟩ := bind_eq_ok_iff.mp taken
    rw [ih others, printed_write one, String.join_cons, String.append_assoc]

end Output

namespace Sink

open Output

variable {sink next final : Sink} {text : String} {lines first second : List String}

theorem write_eq_ok_iff :
    Output.write sink text = .ok next ↔
      sink.overflows text = false ∧ next = { sink with printed := sink.printed ++ text } := by
  change sink.write text = .ok next ↔ _
  unfold Sink.write
  cases sink.overflows text <;> simp [eq_comm]

theorem overflows_written (sink : Sink) (text more : String) :
    overflows { sink with printed := sink.printed ++ text } more = sink.overflows (text ++ more) := by
  simp only [overflows, String.utf8ByteSize_append, Nat.add_assoc]

theorem overflows_of_le {shorter : String} (fits : sink.overflows text = false)
    (le : shorter.utf8ByteSize ≤ text.utf8ByteSize) : sink.overflows shorter = false := by
  rw [overflows] at fits ⊢
  cases room : sink.capacity with
  | none => rfl
  | some capacity =>
    rw [room] at fits
    simp only [Option.any_some, decide_eq_false_iff_not] at fits ⊢
    omega

/-- Lines fit if together they do. -/
theorem exists_writeAll_iff :
    (∃ final, writeAll sink lines = .ok final) ↔
      lines = [] ∨ sink.overflows (String.join lines) = false := by
  induction lines generalizing sink with
  | nil => exact ⟨fun _ => .inl rfl, fun _ => ⟨sink, rfl⟩⟩
  | cons line rest ih =>
    rw [String.join_cons, writeAll_cons]
    constructor
    · rintro ⟨final, written⟩
      obtain ⟨next, one, others⟩ := bind_eq_ok_iff.mp written
      obtain ⟨fits, rfl⟩ := write_eq_ok_iff.mp one
      refine .inr ?_
      obtain rfl | together := ih.mp ⟨final, others⟩
      · exact overflows_of_le fits (by simp)
      · rwa [overflows_written] at together
    · rintro (⟨⟨⟩⟩ | together)
      -- the first line is a part of the text that fits; the others come after it
      have fits : sink.overflows line = false := by
        refine overflows_of_le together ?_
        rw [String.utf8ByteSize_append]
        omega
      obtain ⟨final, others⟩ := ih.mpr (.inr ((overflows_written sink line _).trans together))
      exact ⟨final, bind_eq_ok_iff.mpr ⟨_, write_eq_ok_iff.mpr ⟨fits, rfl⟩, others⟩⟩

theorem acceptsAll_of_boundless (boundless : sink.capacity = none) : AcceptsAll sink := by
  intro lines
  refine exists_writeAll_iff.mpr (.inr ?_)
  rw [overflows, boundless]
  rfl

theorem utf8ByteSize_join_of_perm (perm : first.Perm second) :
    (String.join first).utf8ByteSize = (String.join second).utf8ByteSize := by
  induction perm with
  | nil => rfl
  | cons line _ ih => rw [String.join_cons, String.join_cons, String.utf8ByteSize_append,
      String.utf8ByteSize_append, ih]
  | swap line other rest =>
    simp only [String.join_cons, String.utf8ByteSize_append]
    omega
  | trans _ _ one two => rw [one, two]

/-- Some of the lines that fit do also fit without the others, in any order. -/
theorem exists_writeAll_of_perm (perm : lines.Perm (first ++ second))
    (written : writeAll sink lines = .ok final) : ∃ next, writeAll sink first = .ok next := by
  obtain none | together := exists_writeAll_iff.mp ⟨final, written⟩
  · rw [none, List.nil_perm, List.append_eq_nil_iff] at perm
    exact exists_writeAll_iff.mpr (.inl perm.1)
  · refine exists_writeAll_iff.mpr (.inr (overflows_of_le together ?_))
    rw [utf8ByteSize_join_of_perm perm, String.join_append, String.utf8ByteSize_append]
    omega

end Sink

namespace Builtin

/-- The lines the operation writes for a record. Only printing writes. -/
def lines : Builtin → Record → List String
  | print endpoints, .data payload metadata =>
    [(endpoints.read (.data payload metadata)).text ++ "\n"]
  | _, _ => []

/-- What the operation makes of a record if its lines are taken. -/
def successors (operation : Builtin) (record : Record) : Except Error (List Record) :=
  (operation.apply ({} : Sink) record).1

variable {τ : Type} [Output τ]

theorem lines_control (operation : Builtin) : operation.lines .control = [] := by
  cases operation <;> rfl

theorem apply_eq (operation : Builtin) (sink : τ) (record : Record) :
    operation.apply sink record =
      match Output.writeAll sink (operation.lines record) with
      | .ok next => (operation.successors record, next)
      | .error reason => (.error ⟨operation.id, .output reason⟩, sink) := by
  cases record with
  | control =>
    rw [lines_control]
    rfl
  | data payload metadata =>
    -- all but printing write no line and give the sink back
    cases operation with
    | print endpoints =>
      have one : lines (.print endpoints) (.data payload metadata) =
          [(endpoints.read (.data payload metadata)).text ++ "\n"] := rfl
      have passes : successors (.print endpoints) (.data payload metadata) =
          .ok [.data payload metadata] := rfl
      rw [one, Output.writeAll_singleton, passes]
      change applyData (.print endpoints) sink (.data payload metadata) = _
      dsimp only [applyData]
      cases Output.write sink ((endpoints.read (.data payload metadata)).text ++ "\n") <;> rfl
    | assign id source target =>
      change applyData (.assign id source target) sink (.data payload metadata) =
        ((applyData (.assign id source target) ({} : Sink) (.data payload metadata)).1, sink)
      dsimp only [applyData]
      split <;> rfl
    | delete id source target =>
      change applyData (.delete id source target) sink (.data payload metadata) =
        ((applyData (.delete id source target) ({} : Sink) (.data payload metadata)).1, sink)
      dsimp only [applyData]
      split <;> rfl
    | split | gunzip | decodeBase64 | lowercase => rfl

/-- What the operation makes of a record does not depend on the sink, as long as that takes the lines. -/
theorem apply_eq_ok_iff {operation : Builtin} {sink next : τ} {record : Record}
    {produced : List Record} :
    operation.apply sink record = (.ok produced, next) ↔
      operation.successors record = .ok produced ∧
        Output.writeAll sink (operation.lines record) = .ok next := by
  rw [apply_eq]
  cases Output.writeAll sink (operation.lines record) with
  | error reason => simp
  | ok after => simp

end Builtin

end RecordFlow.Operation
