import RecordFlow.Proofs.Path.Step

/-!
A look-up of `before ++ rest` is a look-up of `before` and from there one of `rest`. A write or an erasure
whose path resolves down to some container is that edit of the container, put back in its place
(`writeFrom_append`, `eraseFrom_append`). A look-up that fails does so at one segment, below a container
that resolves (`exists_stuck`). So what an edit does is told by a single step.
-/

namespace RecordFlow.Path

variable {place : Path} {segments before rest : List String} {segment : String}
  {tree container value old : Json} {error : Error}

/-- Where a walk arrives that starts at a place. -/
def descend (place : Path) (segments : List String) : Path :=
  ⟨place.root, place.segments ++ segments⟩

@[simp] theorem descend_nil (place : Path) : place.descend [] = place := by
  simp [descend]

@[simp] theorem descend_child (place : Path) (segment : String) (rest : List String) :
    (place.child segment).descend rest = place.descend (segment :: rest) := by
  simp [descend, child]

@[simp] theorem descend_segments (path : Path) :
    (⟨path.root, []⟩ : Path).descend path.segments = path := by
  simp [descend]

/-! ### Look-ups -/

theorem resolveFrom_cons_eq_ok_iff :
    resolveFrom place (segment :: rest) tree = .ok value ↔
      ∃ slot child, slot? segment tree = some slot ∧ slot.get? tree = some child ∧
        resolveFrom (place.child segment) rest child = .ok value := by
  simp only [resolveFrom, bind_eq_ok_iff, childAt_eq_ok_iff]
  constructor
  · rintro ⟨child, ⟨slot, denoted, held⟩, found⟩
    exact ⟨slot, child, denoted, held, found⟩
  · rintro ⟨slot, child, denoted, held, found⟩
    exact ⟨child, ⟨slot, denoted, held⟩, found⟩

theorem resolveFrom_append (place : Path) (before rest : List String) (tree : Json) :
    resolveFrom place (before ++ rest) tree =
      resolveFrom place before tree >>= resolveFrom (place.descend before) rest := by
  induction before generalizing place tree with
  | nil => simp only [List.nil_append, resolveFrom, ok_bind, descend_nil]
  | cons segment before ih =>
    simp only [List.cons_append, resolveFrom]
    cases childAt place segment tree with
    | error error => rfl
    | ok child => simp only [ok_bind, ih, descend_child]

theorem throughout_of_resolveFrom {holds : Json → Prop} (all : tree.Throughout holds)
    (found : resolveFrom place segments tree = .ok value) : value.Throughout holds := by
  induction segments generalizing place tree with
  | nil => cases found; exact all
  | cons segment rest ih =>
    obtain ⟨slot, child, denoted, held, found⟩ := resolveFrom_cons_eq_ok_iff.mp found
    exact ih ((Json.throughout_iff.mp all).2 child (mem_children_of_slot held)) found

/-- A look-up fails at one segment, where a container resolves that has no child for it. -/
theorem exists_stuck (failed : resolveFrom place segments tree = .error error) :
    ∃ before segment rest container, segments = before ++ segment :: rest ∧
      resolveFrom place before tree = .ok container ∧
      Stuck (place.descend before) segment container error := by
  induction segments generalizing place tree with
  | nil => cases failed
  | cons segment rest ih =>
    rw [resolveFrom] at failed
    cases step : childAt place segment tree with
    | error stuck =>
      rw [step, error_bind] at failed
      cases failed
      exact ⟨[], segment, rest, tree, rfl, rfl, by rw [descend_nil]; exact stuck_of_childAt step⟩
    | ok child =>
      rw [step, ok_bind] at failed
      obtain ⟨before, last, after, container, rfl, found, stuck⟩ := ih failed
      refine ⟨segment :: before, last, after, container, rfl, ?_, by rwa [← descend_child]⟩
      rw [resolveFrom, step, ok_bind, found]

/-! ### Writes -/

/-- A write below a container that resolves is the write in the container, put back. -/
theorem writeFrom_append (value : Json) (rest : List String)
    (found : resolveFrom place before tree = .ok container) :
    writeFrom place value (before ++ rest) tree =
      (writeFrom (place.descend before) value rest container).map
        fun changed => (writeFrom place changed before tree).after := by
  induction before generalizing place tree with
  | nil =>
    cases found
    rw [List.nil_append, descend_nil]
    rfl
  | cons segment before ih =>
    obtain ⟨slot, child, denoted, held, found⟩ := resolveFrom_cons_eq_ok_iff.mp found
    rw [List.cons_append, writeFrom_of_get? place value _ denoted held, ih found, descend_child]
    simp only [writeFrom_of_get? place _ _ denoted held, Edit.after_map]
    rfl

/-- Whatever resolves can be written. -/
theorem writeFrom_done (value : Json) (found : resolveFrom place segments tree = .ok old) :
    (writeFrom place value segments tree).failure = none := by
  have cut := writeFrom_append value [] found
  rw [List.append_nil] at cut
  rw [cut, writeFrom]
  rfl

theorem resolveFrom_put (value : Json) (found : resolveFrom place segments tree = .ok old) :
    resolveFrom place segments (writeFrom place value segments tree).after = .ok value :=
  resolveFrom_writeFrom (writeFrom_done value found)

/-- Writing what is there changes nothing. -/
theorem after_writeFrom_of_resolveFrom (found : resolveFrom place segments tree = .ok old) :
    (writeFrom place old segments tree).after = tree := by
  induction segments generalizing place tree with
  | nil => cases found; rfl
  | cons segment rest ih =>
    obtain ⟨slot, child, denoted, held, found⟩ := resolveFrom_cons_eq_ok_iff.mp found
    rw [writeFrom_of_get? place old rest denoted held, Edit.after_map, ih found, Slot.put_get? held]

/-! ### Erasures -/

theorem eraseFrom_append (more : rest ≠ [])
    (found : resolveFrom place before tree = .ok container) :
    eraseFrom place (before ++ rest) tree =
      (eraseFrom (place.descend before) rest container).map
        fun changed => (writeFrom place changed before tree).after := by
  induction before generalizing place tree with
  | nil =>
    cases found
    rw [List.nil_append, descend_nil]
    rfl
  | cons segment before ih =>
    obtain ⟨slot, child, denoted, held, found⟩ := resolveFrom_cons_eq_ok_iff.mp found
    have further : before ++ rest ≠ [] := List.append_ne_nil_of_right_ne_nil before more
    rw [List.cons_append, eraseFrom_of_get? place further denoted held, ih found, descend_child]
    simp only [writeFrom_of_get? place _ _ denoted held, Edit.after_map]
    rfl

/-! ### Edits of a child -/

section Child

variable {path : Path}

theorem resolve_child (path : Path) (segment : String) (tree : Json) :
    (path.child segment).resolve tree = path.resolve tree >>= childAt path segment := by
  have cut := resolveFrom_append ⟨path.root, []⟩ path.segments [segment] tree
  rw [descend_segments] at cut
  rw [resolve, child, cut]
  have last : resolveFrom path [segment] = childAt path segment := by
    funext container
    rw [resolveFrom]
    cases childAt path segment container <;> rfl
  rw [last]
  rfl

theorem write_child (segment : String) (value : Json) (found : path.resolve tree = .ok container) :
    (path.child segment).write value tree =
      (writeFrom path value [segment] container).map
        fun changed => (path.write changed tree).after := by
  have cut := writeFrom_append value [segment] found
  rwa [descend_segments] at cut

theorem erase_child (segment : String) (found : path.resolve tree = .ok container) :
    (path.child segment).erase tree =
      (eraseFrom path [segment] container).map fun changed => (path.write changed tree).after := by
  have cut := eraseFrom_append (List.cons_ne_nil segment []) found
  rwa [descend_segments] at cut

theorem resolve_write (value : Json) (found : path.resolve tree = .ok container) :
    path.resolve (path.write value tree).after = .ok value :=
  resolveFrom_put value found

/-- Every path but a root leads to a child. -/
theorem exists_child (below : path.isRoot = false) : ∃ parent segment, path = child parent segment := by
  obtain ⟨root, segments⟩ := path
  have nonempty : segments ≠ [] := by
    rintro rfl
    cases below
  exact ⟨⟨root, segments.dropLast⟩, segments.getLast nonempty, by
    rw [child, List.dropLast_append_getLast nonempty]⟩

end Child

end RecordFlow.Path
