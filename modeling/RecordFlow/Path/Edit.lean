import RecordFlow.Path.Basic

/-!
An edit works on a tree in place. An error ends it with the steps before the error taken, so an edit gives what
it leaves behind in any case.
-/

namespace RecordFlow.Path

structure Edit (α : Type) where
  after : α
  failure : Option Error
  deriving Repr

namespace Edit

variable {α β : Type}

def done (after : α) : Edit α := ⟨after, none⟩

def stopped (after : α) (error : Error) : Edit α := ⟨after, some error⟩

/-- The edit of a part, seen from the whole: `rebuild` puts the part back, however it came out. -/
def map (rebuild : α → β) (edit : Edit α) : Edit β := ⟨rebuild edit.after, edit.failure⟩

def result (edit : Edit α) : Except Error α :=
  match edit.failure with
  | none => .ok edit.after
  | some error => .error error

@[simp] theorem after_map (rebuild : α → β) (edit : Edit α) :
    (edit.map rebuild).after = rebuild edit.after := rfl

@[simp] theorem failure_map (rebuild : α → β) (edit : Edit α) :
    (edit.map rebuild).failure = edit.failure := rfl

@[simp] theorem after_done (after : α) : (done after).after = after := rfl

@[simp] theorem failure_done (after : α) : (done after).failure = none := rfl

@[simp] theorem map_done (rebuild : α → β) (after : α) :
    (done after).map rebuild = done (rebuild after) := rfl

@[simp] theorem map_stopped (rebuild : α → β) (after : α) (error : Error) :
    (stopped after error).map rebuild = stopped (rebuild after) error := rfl

theorem eq_done {edit : Edit α} (through : edit.failure = none) : edit = done edit.after := by
  rw [done, ← through]

theorem eq_stopped {edit : Edit α} {error : Error} (failed : edit.failure = some error) :
    edit = stopped edit.after error := by
  rw [stopped, ← failed]

end Edit

end RecordFlow.Path
