import RecordFlow.Proofs.Text.Cutting

/-!
Cutting a text and writing a cut before every piece undo each other (`flatMap_piecesAt`,
`piecesAt_append_flatMap`). A line break ends a line whatever stands after it, so the lines of two texts around
a break are those of the first, closed by the break, and those of the second (`lines_join`). `IsLine` says of a
line where it stands in the text, and `exists_isLine` finds the place of every line that `lines` gives.
-/

namespace RecordFlow.Text

variable {cut : Char} {text first second before line piece : List Char}

/-! ### Pieces -/

theorem piecesAt_ne_nil (cut : Char) (text : List Char) : piecesAt cut text ≠ [] := by
  cases text with
  | nil => exact List.cons_ne_nil [] []
  | cons c rest =>
    rw [piecesAt]
    split
    · exact List.cons_ne_nil [] _
    · cases piecesAt cut rest <;> exact List.cons_ne_nil _ _

theorem consFirst_append (c : Char) {pieces : List (List Char)} (nonempty : pieces ≠ [])
    (more : List (List Char)) : consFirst c (pieces ++ more) = consFirst c pieces ++ more := by
  cases pieces with
  | nil => exact absurd rfl nonempty
  | cons piece rest => rfl

theorem piecesAt_join (cut : Char) (first second : List Char) :
    piecesAt cut (first ++ cut :: second) = piecesAt cut first ++ piecesAt cut second := by
  induction first with
  | nil => simp only [List.nil_append, piecesAt, if_true, List.singleton_append]
  | cons c rest ih =>
    rw [List.cons_append, piecesAt, piecesAt, ih]
    split
    · rfl
    · exact consFirst_append c (piecesAt_ne_nil cut rest) _

/-- Every piece comes back with a cut before it. -/
theorem flatMap_piecesAt (cut : Char) (text : List Char) :
    (piecesAt cut text).flatMap (cut :: ·) = cut :: text := by
  induction text with
  | nil => rfl
  | cons c rest ih =>
    rw [piecesAt]
    split
    · rename_i same
      rw [List.flatMap_cons, ih, same]
      rfl
    · obtain ⟨piece, others, pieces⟩ := List.exists_cons_of_ne_nil (piecesAt_ne_nil cut rest)
      rw [pieces, List.flatMap_cons, List.cons_append, List.cons.injEq] at ih
      rw [pieces, consFirst, List.flatMap_cons, List.cons_append, List.cons_append, ih.2]

theorem notMem_of_mem_piecesAt (member : piece ∈ piecesAt cut text) : cut ∉ piece := by
  induction text generalizing piece with
  | nil =>
    rw [List.mem_singleton.mp member]
    exact List.not_mem_nil
  | cons c rest ih =>
    rw [piecesAt] at member
    split at member
    · obtain rfl | later := List.mem_cons.mp member
      · exact List.not_mem_nil
      · exact ih later
    · rename_i different
      obtain ⟨first, others, pieces⟩ := List.exists_cons_of_ne_nil (piecesAt_ne_nil cut rest)
      rw [pieces] at member ih
      obtain rfl | later := List.mem_cons.mp member
      · rw [List.mem_cons, not_or]
        exact ⟨Ne.symm different, ih List.mem_cons_self⟩
      · exact ih (List.mem_cons_of_mem first later)

/-- Pieces without cuts are found where they were joined. -/
theorem piecesAt_append_flatMap {others : List (List Char)} (absent : cut ∉ first)
    (absentLater : ∀ piece ∈ others, cut ∉ piece) :
    piecesAt cut (first ++ others.flatMap (cut :: ·)) = first :: others := by
  induction others generalizing first with
  | nil => rw [List.flatMap_nil, List.append_nil, piecesAt_of_absent absent]
  | cons second others ih =>
    obtain ⟨here, later⟩ := List.forall_mem_cons.mp absentLater
    rw [List.flatMap_cons, List.cons_append, piecesAt_join, piecesAt_of_absent absent, ih here later]
    rfl

theorem length_piecesAt (cut : Char) (text : List Char) :
    (piecesAt cut text).length = text.count cut + 1 := by
  induction text with
  | nil => rfl
  | cons c rest ih =>
    rw [piecesAt]
    split
    · rename_i same
      rw [List.length_cons, ih, same, List.count_cons_self]
    · rename_i different
      rw [List.count_cons_of_ne different, ← ih]
      obtain ⟨piece, others, pieces⟩ := List.exists_cons_of_ne_nil (piecesAt_ne_nil cut rest)
      rw [pieces]
      rfl

/-! ### Carriage returns -/

theorem withoutReturn_cases (line : List Char) :
    withoutReturn line = line ∨ line = withoutReturn line ++ ['\r'] := by
  unfold withoutReturn
  split
  · rename_i last
    obtain ⟨start, rfl⟩ := List.getLast?_eq_some_iff.mp last
    exact .inr (by rw [List.dropLast_concat])
  · exact .inl rfl

theorem trim_withoutReturn (line : List Char) : trim (withoutReturn line) = trim line := by
  obtain same | ends := withoutReturn_cases line
  · rw [same]
  · rw [ends, trim_concat_blank rfl, ← ends]

/-! ### Lines -/

/-- The lines of a text that a line break follows. -/
def closedLines (text : List Char) : List (List Char) := (piecesAt '\n' text).map withoutReturn

theorem lines_join (first second : List Char) :
    lines (first ++ '\n' :: second) = closedLines first ++ lines second := by
  have nonempty := piecesAt_ne_nil '\n' second
  have last : (piecesAt '\n' first ++ piecesAt '\n' second).getLast? = (piecesAt '\n' second).getLast? := by
    rw [List.getLast?_append, List.getLast?_eq_some_getLast nonempty, Option.some_or]
  simp only [lines, closedLines, piecesAt_join, List.dropLast_append_of_ne_nil nonempty, List.map_append,
    List.append_assoc, last]

/-- Without a break after it, an empty last line does not count and a carriage return stays. -/
theorem lines_cases (text : List Char) :
    ∃ inner last, closedLines text = inner ++ [withoutReturn last] ∧
      lines text = if last = [] then inner else inner ++ [last] := by
  obtain ⟨inner, last, pieces⟩ : ∃ inner last, piecesAt '\n' text = inner ++ [last] :=
    ⟨_, _, (List.dropLast_concat_getLast (piecesAt_ne_nil '\n' text)).symm⟩
  refine ⟨inner.map withoutReturn, last, ?_, ?_⟩
  · rw [closedLines, pieces, List.map_append, List.map_singleton]
  · simp only [lines, pieces, List.dropLast_concat, List.getLast?_concat]
    by_cases empty : last = []
    · simp [empty]
    · simp [empty]

theorem closedLines_of_noBreak (absent : '\n' ∉ text) : closedLines text = [withoutReturn text] := by
  rw [closedLines, piecesAt_of_absent absent, List.map_singleton]

theorem length_closedLines (text : List Char) : (closedLines text).length = text.count '\n' + 1 := by
  rw [closedLines, List.length_map, length_piecesAt]

/-- The line stands right after `before` and goes on to the end of the text or to a line break. -/
structure IsLine (text before line : List Char) : Prop where
  stands : ∃ rest, text = before ++ (line ++ rest) ∧
    (rest = [] ∨ ∃ later, rest = '\n' :: later ∨ rest = '\r' :: '\n' :: later)
  starts : before = [] ∨ before.getLast? = some '\n'
  noBreak : '\n' ∉ line

theorem IsLine.join (first : List Char) (isLine : IsLine second before line) :
    IsLine (first ++ '\n' :: second) (first ++ '\n' :: before) line where
  stands := by
    obtain ⟨rest, rfl, ends⟩ := isLine.stands
    exact ⟨rest, by simp, ends⟩
  starts := by
    refine .inr ?_
    rw [List.getLast?_append, List.getLast?_cons]
    obtain rfl | last := isLine.starts
    · rfl
    · rw [last]
      rfl
  noBreak := isLine.noBreak

theorem isLine_first (absent : '\n' ∉ first) (second : List Char) :
    IsLine (first ++ '\n' :: second) [] (withoutReturn first) := by
  obtain same | ends := withoutReturn_cases first
  · rw [same]
    exact ⟨⟨'\n' :: second, rfl, .inr ⟨second, .inl rfl⟩⟩, .inl rfl, absent⟩
  · have clean : '\n' ∉ withoutReturn first := fun member =>
      absent (ends ▸ List.mem_append_left ['\r'] member)
    refine ⟨⟨'\r' :: '\n' :: second, ?_, .inr ⟨second, .inr rfl⟩⟩, .inl rfl, clean⟩
    calc first ++ '\n' :: second
        = (withoutReturn first ++ ['\r']) ++ '\n' :: second := by rw [← ends]
      _ = [] ++ (withoutReturn first ++ '\r' :: '\n' :: second) := by simp

theorem isLine_last (absent : '\n' ∉ text) : IsLine text [] text :=
  ⟨⟨[], by simp, .inl rfl⟩, .inl rfl, absent⟩

/-- A line of a text stands after the lines before it, of which each ends in a break. -/
theorem exists_isLine {earlier later : List (List Char)} (listed : lines text = earlier ++ line :: later) :
    ∃ before, IsLine text before line ∧ lines before = earlier ∧ before.count '\n' = earlier.length := by
  -- each of the lines before it takes the text up to its first break
  induction earlier generalizing text with
  | nil =>
    refine ⟨[], ?_, rfl, rfl⟩
    by_cases broken : '\n' ∈ text
    · obtain ⟨first, second, rfl, absent⟩ := List.eq_append_cons_of_mem broken
      rw [lines_join, closedLines_of_noBreak absent] at listed
      rw [← (List.cons.inj listed).1]
      exact isLine_first absent second
    · have nonempty : text ≠ [] := by
        rintro rfl
        cases listed
      rw [lines_of_noBreak broken nonempty] at listed
      rw [← (List.cons.inj listed).1]
      exact isLine_last broken
  | cons head earlier ih =>
    by_cases broken : '\n' ∈ text
    · obtain ⟨first, second, rfl, absent⟩ := List.eq_append_cons_of_mem broken
      rw [lines_join, closedLines_of_noBreak absent] at listed
      obtain ⟨rfl, others⟩ := List.cons.inj listed
      obtain ⟨before, isLine, before_lines, number⟩ := ih others
      refine ⟨first ++ '\n' :: before, isLine.join first, ?_, ?_⟩
      · rw [lines_join, closedLines_of_noBreak absent, before_lines]
        rfl
      · rw [List.count_append, List.count_cons_self, List.count_eq_zero_of_not_mem absent, number]
        simp
    · exfalso
      by_cases empty : text = []
      · subst empty
        cases listed
      · rw [lines_of_noBreak broken empty] at listed
        cases earlier <;> cases listed

end RecordFlow.Text
