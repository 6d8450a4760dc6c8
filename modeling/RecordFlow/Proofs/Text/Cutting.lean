import Mathlib.Data.List.TakeWhile
import RecordFlow.Text.Pieces

/-!
# Trimming and cutting

When trimming a text changes nothing, and what the first cut or the pieces of a text are.
-/

namespace RecordFlow.Text

/-! ### Trimming -/

/-- No blank stands at the ends of the text. -/
structure Trimmed (text : List Char) : Prop where
  first : ∀ c, text.head? = some c → isBlank c = false
  last : ∀ c, text.getLast? = some c → isBlank c = false

theorem trimStart_of_first {text : List Char}
    (first : ∀ c, text.head? = some c → isBlank c = false) : trimStart text = text := by
  cases text with
  | nil => rfl
  | cons c rest => exact List.dropWhile_cons_of_neg (by simp [first c rfl])

theorem trimEnd_of_last {text : List Char}
    (last : ∀ c, text.getLast? = some c → isBlank c = false) : trimEnd text = text := by
  have start : trimStart text.reverse = text.reverse :=
    trimStart_of_first fun c found => last c (by rwa [List.head?_reverse] at found)
  rw [trimEnd, ← trimStart, start, List.reverse_reverse]

theorem trim_eq_self {text : List Char} (trimmed : Trimmed text) : trim text = text := by
  rw [trim, trimStart_of_first trimmed.first, trimEnd_of_last trimmed.last]

theorem head_dropWhile (text : List Char) {c : Char}
    (found : (text.dropWhile isBlank).head? = some c) : isBlank c = false := by
  have stop := List.head?_dropWhile_not isBlank text
  rwa [found] at stop

theorem trimStart_append (text : List Char) :
    ∃ blanks, text = blanks ++ trimStart text ∧ ∀ c ∈ blanks, isBlank c = true :=
  ⟨text.takeWhile isBlank, List.takeWhile_append_dropWhile.symm, fun _ => List.mem_takeWhile_imp⟩

theorem trimEnd_append (text : List Char) :
    ∃ blanks, text = trimEnd text ++ blanks ∧ ∀ c ∈ blanks, isBlank c = true := by
  refine ⟨(text.reverse.takeWhile isBlank).reverse, ?_, ?_⟩
  · rw [trimEnd, ← List.reverse_append, List.takeWhile_append_dropWhile, List.reverse_reverse]
  · intro c member
    rw [List.mem_reverse] at member
    exact List.mem_takeWhile_imp member

theorem trim_append (text : List Char) :
    ∃ before after, text = before ++ (trim text ++ after) ∧ (∀ c ∈ before, isBlank c = true) ∧
      ∀ c ∈ after, isBlank c = true := by
  obtain ⟨before, start, blankBefore⟩ := trimStart_append text
  obtain ⟨after, finish, blankAfter⟩ := trimEnd_append (trimStart text)
  exact ⟨before, after, by rw [trim, ← finish, ← start], blankBefore, blankAfter⟩

theorem infix_trim (text : List Char) : trim text <:+: text := by
  obtain ⟨before, after, same, -, -⟩ := trim_append text
  exact ⟨before, after, by rw [List.append_assoc, ← same]⟩

theorem trimmed_trim (text : List Char) : Trimmed (trim text) := by
  have last (text : List Char) : ∀ c, (trimEnd text).getLast? = some c → isBlank c = false := by
    intro c found
    rw [trimEnd, List.getLast?_reverse] at found
    exact head_dropWhile _ found
  refine ⟨?_, last _⟩
  intro c found
  -- the first character stands in the start-trimmed text, of which a beginning is kept
  obtain ⟨blanks, same, _⟩ := trimEnd_append (trimStart text)
  have first : (trimStart text).head? = some c := by
    rw [same, List.head?_append, ← trim, found, Option.some_or]
  exact head_dropWhile text first

theorem trimmed_iff {text : List Char} : Trimmed text ↔ trim text = text :=
  ⟨trim_eq_self, fun same => same ▸ trimmed_trim text⟩

theorem trim_cons_blank {c : Char} (blank : isBlank c = true) (text : List Char) :
    trim (c :: text) = trim text := by
  rw [trim, trimStart, List.dropWhile_cons_of_pos blank, ← trimStart, ← trim]

theorem trimmed_of_noBlank {text : List Char} (clean : ∀ c ∈ text, isBlank c = false) :
    Trimmed text :=
  ⟨fun c found => clean c (List.mem_of_head? found),
    fun c found => clean c (List.mem_of_getLast? found)⟩

theorem trimmed_between {first last : Char} (middle : List Char)
    (hf : isBlank first = false) (hl : isBlank last = false) :
    Trimmed (first :: (middle ++ [last])) := by
  constructor
  · intro c found
    rw [List.head?_cons, Option.some.injEq] at found
    rwa [← found]
  · intro c found
    rw [← List.cons_append, List.getLast?_concat, Option.some.injEq] at found
    rwa [← found]

theorem notMem_blanks {c : Char} {blanks : List Char} (blank : ∀ c ∈ blanks, isBlank c = true)
    (solid : isBlank c = false) : c ∉ blanks := by
  intro member
  rw [blank c member] at solid
  cases solid

theorem trim_blanks_append {blanks : List Char} (blank : ∀ c ∈ blanks, isBlank c = true) (text : List Char) :
    trim (blanks ++ text) = trim text := by
  rw [trim, trimStart, List.dropWhile_append_of_pos blank, ← trimStart, ← trim]

theorem trimEnd_append_blanks {blanks : List Char} (blank : ∀ c ∈ blanks, isBlank c = true)
    (text : List Char) : trimEnd (text ++ blanks) = trimEnd text := by
  have reversed : ∀ c ∈ blanks.reverse, isBlank c = true := fun c member =>
    blank c (List.mem_reverse.mp member)
  rw [trimEnd, List.reverse_append, List.dropWhile_append_of_pos reversed, ← trimEnd]

theorem trim_append_blanks {blanks : List Char} (blank : ∀ c ∈ blanks, isBlank c = true)
    (text : List Char) : trim (text ++ blanks) = trim text := by
  rw [trim, trimStart, List.dropWhile_append]
  split
  · rename_i gone
    rw [List.dropWhile_eq_nil_iff.mpr blank, trim, trimStart, List.isEmpty_iff.mp gone]
  · exact trimEnd_append_blanks blank _

theorem trim_concat_blank {c : Char} (blank : isBlank c = true) (text : List Char) :
    trim (text ++ [c]) = trim text :=
  trim_append_blanks (by simpa using blank) text

theorem blank_of_trim_eq_nil {text : List Char} (empty : trim text = []) :
    ∀ c ∈ text, isBlank c = true := by
  cases kept : trimStart text with
  | nil => exact List.dropWhile_eq_nil_iff.mp kept
  | cons first rest =>
    have solid : isBlank first = false := head_dropWhile text (by
      rw [← trimStart, kept, List.head?_cons])
    rw [trim, trimEnd, List.reverse_eq_nil_iff, List.dropWhile_eq_nil_iff] at empty
    rw [empty first (by rw [kept]; simp)] at solid
    cases solid

theorem mem_trim {text : List Char} {c : Char} (member : c ∈ text) (solid : isBlank c = false) :
    c ∈ trim text := by
  have kept (text : List Char) (member : c ∈ text) : c ∈ text.dropWhile isBlank := by
    rw [← List.takeWhile_append_dropWhile (p := isBlank) (l := text), List.mem_append] at member
    rcases member with dropped | kept
    · rw [List.mem_takeWhile_imp dropped] at solid
      cases solid
    · exact kept
  rw [trim, trimEnd, List.mem_reverse]
  exact kept _ (List.mem_reverse.mpr (kept text member))

/-- Up to a character that is not blank, trimming changes nothing of a text that starts with none. -/
theorem trim_append_cons {c : Char} {before : List Char}
    (first : ∀ d, before.head? = some d → isBlank d = false) (solid : isBlank c = false)
    (after : List Char) : trim (before ++ c :: after) = before ++ c :: trimEnd after := by
  have start : trimStart (before ++ c :: after) = before ++ c :: after := by
    apply trimStart_of_first
    intro d found
    cases before with
    | nil =>
      rw [List.nil_append, List.head?_cons, Option.some.injEq] at found
      rwa [← found]
    | cons e rest => exact first d found
  rw [trim, start, trimEnd, trimEnd, List.reverse_append, List.reverse_cons, List.append_assoc,
    List.dropWhile_append]
  split
  · rename_i gone
    rw [List.isEmpty_iff] at gone
    rw [gone, List.singleton_append, List.dropWhile_cons_of_neg (by simp [solid])]
    simp
  · simp

/-- Blanks at the end of a trimmed text can only be missing. -/
theorem eq_nil_of_trimmed (before : List Char) {after : List Char} (trimmed : Trimmed (before ++ after))
    (empty : trim after = []) : after = [] := by
  cases last : after.getLast? with
  | none => exact List.getLast?_eq_none_iff.mp last
  | some c =>
    have blank := blank_of_trim_eq_nil empty c (List.mem_of_getLast? last)
    rw [trimmed.last c (by rw [List.getLast?_append, last, Option.some_or])] at blank
    cases blank

/-! ### Cutting at a character -/

theorem splitFirst?_append {cut : Char} {before : List Char} (absent : cut ∉ before)
    (after : List Char) : splitFirst? cut (before ++ cut :: after) = some (before, after) := by
  induction before with
  | nil => rw [List.nil_append, splitFirst?, if_pos rfl]
  | cons c rest ih =>
    rw [List.mem_cons, not_or] at absent
    rw [List.cons_append, splitFirst?, if_neg (Ne.symm absent.1), ih absent.2, Option.map_some]

theorem splitFirst?_some {cut : Char} {text before after : List Char}
    (found : splitFirst? cut text = some (before, after)) :
    text = before ++ cut :: after ∧ cut ∉ before := by
  induction text generalizing before with
  | nil => cases found
  | cons c rest ih =>
    rw [splitFirst?] at found
    split at found
    · rename_i same
      cases found
      exact ⟨by rw [same, List.nil_append], List.not_mem_nil⟩
    · rename_i different
      obtain ⟨⟨before', after'⟩, inner, same⟩ := Option.map_eq_some_iff.mp found
      cases same
      obtain ⟨rfl, absent⟩ := ih inner
      exact ⟨rfl, by rw [List.mem_cons, not_or]; exact ⟨Ne.symm different, absent⟩⟩

/-- A cut that does not stand before the first `first` stands after it. -/
theorem eq_append_of_cut {first cut : Char} {before rest left right : List Char}
    (same : before ++ first :: rest = left ++ cut :: right) (absent : cut ∉ before)
    (different : cut ≠ first) :
    ∃ more, left = before ++ first :: more ∧ rest = more ++ cut :: right := by
  induction before generalizing left with
  | nil =>
    cases left with
    | nil => exact absurd (List.cons.inj same).1.symm different
    | cons c more =>
      obtain ⟨rfl, inner⟩ := List.cons.inj same
      exact ⟨more, rfl, inner⟩
  | cons c before ih =>
    rw [List.mem_cons, not_or] at absent
    cases left with
    | nil => exact absurd (List.cons.inj same).1.symm absent.1
    | cons d left =>
      obtain ⟨rfl, inner⟩ := List.cons.inj same
      obtain ⟨more, rfl, after⟩ := ih inner absent.2
      exact ⟨more, rfl, after⟩

theorem piecesAt_of_absent {cut : Char} {text : List Char} (absent : cut ∉ text) :
    piecesAt cut text = [text] := by
  induction text with
  | nil => rfl
  | cons c rest ih =>
    rw [List.mem_cons, not_or] at absent
    rw [piecesAt, if_neg (Ne.symm absent.1), ih absent.2, consFirst]

theorem lines_of_noBreak {text : List Char} (absent : '\n' ∉ text) (nonempty : text ≠ []) :
    lines text = [text] := by
  simp [lines, piecesAt_of_absent absent, nonempty]

end RecordFlow.Text
