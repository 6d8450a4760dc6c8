import RecordFlow.Proofs.Script.Grammar

/-!
# Splitting arguments

A text that reads as a row of parts splits at the commas among them, and any other text is refused for what
ends its reading: `splitArguments_reads`. Trimming an argument takes parts off its ends, so the arguments joined
by commas are again such a row, and split into themselves.
-/

namespace RecordFlow.Script

open Text

variable {text tail : List Char} {stretch : List Part} {rows : List (List Part)}

/-- What stands between the commas, trimmed, without what is empty then. -/
def argumentsOf (parts : List Part) : List (List Char) :=
  ((parts.splitOn Part.comma).map fun stretch => trim (spell stretch)).filter (· ≠ [])

/-! ### The stretches between commas -/

theorem noComma_text {part : Part} (other : part ≠ Part.comma) :
    Scan.start.splitFirst? .plain (· == ',') part.text = none := by
  rw [Scan.splitFirst?_eq_none_iff]
  rintro ⟨c, mark⟩ member ⟨plain, sign⟩
  have same : mark = part.mark := (runs_part part).marks_eq mark (List.of_mem_zip member).2
  change mark = .plain at plain
  rw [plain] at same
  cases part with
  | plain d inert =>
    have here : c ∈ [d] := Scan.mem_of_mem_entries member
    rw [List.mem_singleton] at here
    subst here
    rw [beq_iff_eq] at sign
    subst sign
    exact other rfl
  | quoted => cases same
  | group => cases same

theorem stretches_spell (parts : List Part) :
    Scan.start.stretches (spell parts) = (parts.splitOn Part.comma).map spell := by
  induction parts with
  | nil => rfl
  | cons part rest ih =>
    rw [spell_cons, List.splitOn_cons_eq_if_modifyHead]
    by_cases comma : part = Part.comma
    · subst comma
      have cut : Scan.start.stretches (Part.comma.text ++ spell rest) =
          [] :: Scan.start.stretches (spell rest) := rfl
      rw [cut, ih]
      simp [spell]
    · rw [Scan.stretches_append (noComma_text comma), (runs_part part).after_eq, ih]
      obtain ⟨first, more, found⟩ := List.exists_cons_of_ne_nil (List.splitOn_ne_nil Part.comma rest)
      simp [comma, found, spell_cons]

theorem splitArguments_spell (parts : List Part) : splitArguments (spell parts) = .ok (argumentsOf parts) := by
  rw [splitArguments_eq_ok_iff, stretches_spell, List.map_map]
  exact ⟨enclosed_spell parts, rfl⟩

/-! ### Refusals -/

theorem splitArguments_of_runs (parts : List Part) {mark : Mark} {next : Scan} {fault : Fault}
    (runs : Scan.Runs mark Scan.start tail next) (other : mark ≠ .close)
    (unfinished : Scan.finish (spell parts ++ tail) next = .error fault) :
    splitArguments (spell parts ++ tail) = .error fault := by
  have noClose : .close ∉ Scan.start.marks (spell parts ++ tail) := by
    rw [Scan.marks_append, after_spell, List.mem_append, not_or]
    exact ⟨noClose_spell parts, runs.noClose other⟩
  have ends : Scan.start.after (spell parts ++ tail) = next := by
    rw [Scan.after_append, after_spell, runs.after_eq]
  rw [splitArguments, if_neg noClose, ends, unfinished]
  rfl

theorem splitArguments_of_refused {fault : Fault} (refused : Refused text fault) :
    splitArguments text = .error fault := by
  cases refused with
  | close parts same =>
    have close : .close ∈ Scan.start.marks text := by
      rw [same, Scan.marks_append, after_spell, List.mem_append]
      exact .inr List.mem_cons_self
    rw [splitArguments, if_pos close]
    rfl
  | quote parts same opens endless =>
    subst same
    obtain ⟨pending, runs⟩ := runs_of_neverEnds false endless
    exact splitArguments_of_runs parts (.cons (step_of_isQuote opens) runs) (by decide) rfl
  | group parts same endless =>
    subst same
    obtain ⟨deeper, runs⟩ := runs_of_neverCloses endless 0
    exact splitArguments_of_runs parts (.cons rfl runs) (by decide) rfl

/-! ### Trimming parts -/

def Part.isBlank : Part → Bool
  | plain c _ => Text.isBlank c
  | _ => false

def trimParts (parts : List Part) : List Part :=
  ((parts.dropWhile Part.isBlank).reverse.dropWhile Part.isBlank).reverse

/-- However parts are written out, as long as a blank part is written as a blank alone and any other part
begins with something else, dropping blanks drops parts. -/
theorem dropWhile_flatMap {write : Part → List Char}
    (begins : ∀ part, ∃ c rest, write part = c :: rest ∧ Text.isBlank c = part.isBlank ∧
      (part.isBlank = false ∨ rest = []))
    (parts : List Part) :
    (parts.flatMap write).dropWhile Text.isBlank = (parts.dropWhile Part.isBlank).flatMap write := by
  induction parts with
  | nil => rfl
  | cons part rest ih =>
    obtain ⟨c, more, written, first, alone⟩ := begins part
    rw [List.flatMap_cons, written, List.cons_append]
    cases drops : part.isBlank with
    | true =>
      rw [drops] at first alone
      obtain rfl : more = [] := alone.resolve_left (by decide)
      rw [List.nil_append, List.dropWhile_cons_of_pos first, List.dropWhile_cons_of_pos drops, ih]
    | false =>
      rw [drops] at first
      rw [List.dropWhile_cons_of_neg (by simp [first]), List.dropWhile_cons_of_neg (by simp [drops]),
        List.flatMap_cons, written, List.cons_append]

theorem isBlank_of_isQuote {quote : Char} (opens : isQuote quote = true) : Text.isBlank quote = false := by
  simp only [isQuote, Bool.or_eq_true, beq_iff_eq] at opens
  rcases opens with rfl | rfl <;> rfl

theorem dropWhile_spell (parts : List Part) :
    (spell parts).dropWhile Text.isBlank = spell (parts.dropWhile Part.isBlank) := by
  apply dropWhile_flatMap
  intro part
  cases part with
  | plain c => exact ⟨c, [], rfl, rfl, .inr rfl⟩
  | quoted quote body opens => exact ⟨quote, body ++ [quote], rfl, isBlank_of_isQuote opens, .inl rfl⟩
  | group body => exact ⟨'(', body ++ [')'], rfl, rfl, .inl rfl⟩

theorem reverse_spell (parts : List Part) :
    (spell parts).reverse = parts.reverse.flatMap fun part => part.text.reverse := by
  rw [spell, List.reverse_flatMap]
  rfl

theorem dropWhile_reverse_spell (parts : List Part) :
    (spell parts).reverse.dropWhile Text.isBlank =
      (spell (parts.reverse.dropWhile Part.isBlank).reverse).reverse := by
  rw [reverse_spell, reverse_spell, List.reverse_reverse]
  apply dropWhile_flatMap
  intro part
  cases part with
  | plain c => exact ⟨c, [], rfl, rfl, .inr rfl⟩
  | quoted quote body opens =>
    exact ⟨quote, body.reverse ++ [quote], by simp [Part.text], isBlank_of_isQuote opens, .inl rfl⟩
  | group body => exact ⟨')', body.reverse ++ ['('], by simp [Part.text], rfl, .inl rfl⟩

theorem trim_spell (parts : List Part) : trim (spell parts) = spell (trimParts parts) := by
  rw [trim, trimStart, dropWhile_spell, trimEnd, dropWhile_reverse_spell, List.reverse_reverse, trimParts]

theorem comma_notMem_trimParts (absent : Part.comma ∉ stretch) : Part.comma ∉ trimParts stretch := by
  intro member
  rw [trimParts, List.mem_reverse] at member
  have early := (List.dropWhile_sublist _).subset member
  rw [List.mem_reverse] at early
  exact absent ((List.dropWhile_sublist _).subset early)

theorem comma_notMem_of_splitOn {parts : List Part} (member : stretch ∈ parts.splitOn Part.comma) :
    Part.comma ∉ stretch := by
  induction parts generalizing stretch with
  | nil =>
    rw [List.splitOn_nil, List.mem_singleton] at member
    simp [member]
  | cons part rest ih =>
    obtain ⟨first, more, found⟩ := List.exists_cons_of_ne_nil (List.splitOn_ne_nil Part.comma rest)
    rw [found, List.forall_mem_cons] at ih
    rw [List.splitOn_cons_eq_if_modifyHead, found] at member
    split at member
    · rcases List.mem_cons.mp member with rfl | later
      · exact List.not_mem_nil
      · rcases List.mem_cons.mp later with rfl | later
        · exact ih.1
        · exact ih.2 _ later
    · rename_i other
      rw [beq_iff_eq] at other
      rw [List.modifyHead_cons, List.mem_cons] at member
      rcases member with rfl | later
      · rw [List.mem_cons, not_or]
        exact ⟨Ne.symm other, ih.1⟩
      · exact ih.2 _ later

/-! ### Joining arguments -/

theorem spell_intercalate (rows : List (List Part)) :
    spell ([Part.comma].intercalate rows) = [','].intercalate (rows.map spell) := by
  induction rows with
  | nil => rfl
  | cons row rest ih =>
    cases rest with
    | nil => simp
    | cons next rest =>
      rw [List.intercalate_cons_cons, spell_append, spell_append, ih]
      simp [spell, Part.text, Part.comma]

/-- A row of parts that is one argument, and the same when trimmed. -/
structure Single (row : List Part) : Prop where
  noComma : Part.comma ∉ row
  trimmed : trim (spell row) = spell row
  nonempty : spell row ≠ []

theorem argumentsOf_intercalate (single : ∀ row ∈ rows, Single row) :
    argumentsOf ([Part.comma].intercalate rows) = rows.map spell := by
  cases rows with
  | nil => rfl
  | cons row rest =>
    have cut := List.splitOn_intercalate Part.comma (fun row member => (single row member).noComma)
      (List.cons_ne_nil row rest)
    have same : ((row :: rest).map fun stretch => trim (spell stretch)) = (row :: rest).map spell :=
      List.map_congr_left fun row member => (single row member).trimmed
    rw [argumentsOf, cut, same, List.filter_eq_self]
    intro argument member
    obtain ⟨row, isRow, rfl⟩ := List.mem_map.mp member
    simpa using (single row isRow).nonempty

theorem exists_single (parts : List Part) :
    ∃ rows : List (List Part), (∀ row ∈ rows, Single row) ∧ rows.map spell = argumentsOf parts := by
  refine ⟨((parts.splitOn Part.comma).map trimParts).filter fun row => spell row ≠ [], ?_, ?_⟩
  · intro row member
    obtain ⟨member, nonempty⟩ := List.mem_filter.mp member
    obtain ⟨stretch, cut, rfl⟩ := List.mem_map.mp member
    refine ⟨comma_notMem_trimParts (comma_notMem_of_splitOn cut), ?_, by simpa using nonempty⟩
    rw [← trim_spell]
    exact trim_eq_self (trimmed_trim _)
  · have same : (fun stretch => trim (spell stretch)) = spell ∘ trimParts := funext trim_spell
    rw [argumentsOf, same, ← List.map_map, List.filter_map (f := spell)]
    rfl

/-- Every argument of a text that splits is a row of parts. -/
theorem exists_row_of_mem {arguments : List (List Char)} {argument : List Char}
    (split : splitArguments text = .ok arguments) (member : argument ∈ arguments) :
    ∃ row, Single row ∧ spell row = argument := by
  rcases spelled_or_refused text with ⟨parts, rfl⟩ | ⟨fault, refused⟩
  · rw [splitArguments_spell, Except.ok.injEq] at split
    obtain ⟨rows, single, same⟩ := exists_single parts
    rw [← split, ← same] at member
    obtain ⟨row, isRow, spelled⟩ := List.mem_map.mp member
    exact ⟨row, single row isRow, spelled⟩
  · rw [splitArguments_of_refused refused] at split
    cases split

theorem splitArguments_join (parts : List Part) :
    splitArguments ([','].intercalate (argumentsOf parts)) = .ok (argumentsOf parts) := by
  obtain ⟨rows, single, same⟩ := exists_single parts
  rw [← same, ← spell_intercalate, splitArguments_spell, argumentsOf_intercalate single]

/-- A text splits exactly if it reads as a row of parts, and then at the commas among them; any other text is
refused for what ends its reading. Joined by commas, the arguments split into themselves. -/
theorem splitArguments_reads (text : List Char) :
    (∀ arguments, splitArguments text = .ok arguments ↔
      ∃ parts, spell parts = text ∧ argumentsOf parts = arguments) ∧
    (∀ fault, splitArguments text = .error fault ↔ Refused text fault) ∧
    (∀ arguments, splitArguments text = .ok arguments →
      splitArguments ([','].intercalate arguments) = .ok arguments) := by
  have reading := spelled_or_refused text
  refine ⟨?_, ?_, ?_⟩
  · intro arguments
    constructor
    · intro split
      rcases reading with ⟨parts, rfl⟩ | ⟨fault, refused⟩
      · rw [splitArguments_spell, Except.ok.injEq] at split
        exact ⟨parts, rfl, split⟩
      · rw [splitArguments_of_refused refused] at split
        cases split
    · rintro ⟨parts, rfl, rfl⟩
      exact splitArguments_spell parts
  · intro fault
    constructor
    · intro failed
      rcases reading with ⟨parts, rfl⟩ | ⟨other, refused⟩
      · rw [splitArguments_spell] at failed
        cases failed
      · rw [splitArguments_of_refused refused, Except.error.injEq] at failed
        rwa [← failed]
    · exact splitArguments_of_refused
  · intro arguments split
    rcases reading with ⟨parts, rfl⟩ | ⟨fault, refused⟩
    · rw [splitArguments_spell, Except.ok.injEq] at split
      rw [← split]
      exact splitArguments_join parts
    · rw [splitArguments_of_refused refused] at split
      cases split

/-- A quote escaped in quotes, a parenthesis and a comma in quotes, a quote in a group. -/
theorem splitArguments_reads_quotes :
    splitArguments "a='it\\'s, (', f((\", g)) ,, \"b\" ".toList =
        .ok ["a='it\\'s, ('".toList, "f((\", g))".toList, "\"b\"".toList] ∧
      splitArguments ([','].intercalate ["a='it\\'s, ('".toList, "f((\", g))".toList, "\"b\"".toList]) =
        .ok ["a='it\\'s, ('".toList, "f((\", g))".toList, "\"b\"".toList] := by
  have split : splitArguments "a='it\\'s, (', f((\", g)) ,, \"b\" ".toList =
      .ok ["a='it\\'s, ('".toList, "f((\", g))".toList, "\"b\"".toList] := by decide +kernel
  exact ⟨split, (splitArguments_reads _).2.2 _ split⟩

end RecordFlow.Script
