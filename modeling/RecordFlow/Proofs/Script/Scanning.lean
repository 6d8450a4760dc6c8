import RecordFlow.Script.Argument
import RecordFlow.Proofs.Text.Cutting

/-!
# Scanning, piece by piece

The scan of a text is the scan of its beginning followed by the scan of its end, a cut is found where
its mark stands first, and characters other than quotes and parentheses leave the scan where it is.
-/

namespace RecordFlow.Script

open Text

namespace Scan

variable {scan : Scan} {mark : Mark} {p : Char → Bool} {text before after : List Char}

/-! ### Scanning a text in two parts -/

theorem after_append (scan : Scan) (first second : List Char) :
    scan.after (first ++ second) = (scan.after first).after second := by
  induction first generalizing scan with
  | nil => rfl
  | cons c rest ih => exact ih _

theorem marks_append (scan : Scan) (first second : List Char) :
    scan.marks (first ++ second) = scan.marks first ++ (scan.after first).marks second := by
  induction first generalizing scan with
  | nil => rfl
  | cons c rest ih =>
    rw [List.cons_append, marks, ih]
    rfl

theorem length_marks (scan : Scan) (text : List Char) : (scan.marks text).length = text.length := by
  induction text generalizing scan with
  | nil => rfl
  | cons c rest ih => rw [marks, List.length_cons, List.length_cons, ih]

/-- The characters of a text with their marks. -/
def entries (scan : Scan) (text : List Char) : List (Char × Mark) := text.zip (scan.marks text)

theorem entries_cons (scan : Scan) (c : Char) (rest : List Char) :
    scan.entries (c :: rest) = (c, (scan.step c).1) :: (scan.step c).2.entries rest := rfl

theorem entries_append (scan : Scan) (first second : List Char) :
    scan.entries (first ++ second) = scan.entries first ++ (scan.after first).entries second := by
  rw [entries, marks_append, List.zip_append (length_marks scan first).symm]
  rfl

theorem mem_of_mem_entries {entry : Char × Mark} (member : entry ∈ scan.entries text) :
    entry.1 ∈ text :=
  (List.of_mem_zip member).1

/-! ### Cutting where a mark stands -/

theorem splitFirst?_eq_none_iff :
    splitFirst? mark p scan text = none ↔
      ∀ entry ∈ scan.entries text, ¬(entry.2 = mark ∧ p entry.1 = true) := by
  induction text generalizing scan with
  | nil => simp [splitFirst?, entries]
  | cons c rest ih =>
    rw [splitFirst?, entries_cons, List.forall_mem_cons]
    by_cases here : (scan.step c).1 = mark ∧ p c = true
    · simp [here]
    · simp [here, ih]

theorem splitFirst?_append_eq_none_iff {first second : List Char} :
    splitFirst? mark p scan (first ++ second) = none ↔
      splitFirst? mark p scan first = none ∧ splitFirst? mark p (scan.after first) second = none := by
  simp only [splitFirst?_eq_none_iff, entries_append, List.forall_mem_append]

theorem splitFirst?_eq_some (found : splitFirst? mark p scan text = some (before, after)) :
    ∃ c, text = before ++ c :: after ∧ ((scan.after before).step c).1 = mark ∧ p c = true ∧
      splitFirst? mark p scan before = none := by
  induction text generalizing scan before with
  | nil => cases found
  | cons c rest ih =>
    rw [splitFirst?] at found
    split at found
    · rename_i here
      cases found
      exact ⟨c, rfl, here.1, here.2, rfl⟩
    · rename_i elsewhere
      obtain ⟨⟨before', after'⟩, inner, same⟩ := Option.map_eq_some_iff.mp found
      cases same
      obtain ⟨d, rfl, stands, holds, clean⟩ := ih inner
      refine ⟨d, rfl, stands, holds, ?_⟩
      rw [splitFirst?, if_neg elsewhere, clean, Option.map_none]

theorem splitFirst?_append (clean : splitFirst? mark p scan before = none) (c : Char)
    (here : ((scan.after before).step c).1 = mark ∧ p c = true) (after : List Char) :
    splitFirst? mark p scan (before ++ c :: after) = some (before, after) := by
  induction before generalizing scan with
  | nil => exact if_pos here
  | cons d rest ih =>
    rw [splitFirst?] at clean
    split at clean
    · cases clean
    · rename_i elsewhere
      rw [List.cons_append, splitFirst?, if_neg elsewhere,
        ih (Option.map_eq_none_iff.mp clean) here, Option.map_some]

theorem stretches_ne_nil (scan : Scan) (text : List Char) : scan.stretches text ≠ [] := by
  cases text with
  | nil => simp [stretches]
  | cons c rest =>
    rw [stretches]
    dsimp only
    split
    · simp
    · cases (scan.step c).2.stretches rest <;> simp [consFirst]

/-- A beginning without a comma to cut at belongs to the first stretch. -/
theorem stretches_append (clean : splitFirst? .plain (· == ',') scan before = none) (after : List Char) :
    scan.stretches (before ++ after) = ((scan.after before).stretches after).modifyHead (before ++ ·) := by
  induction before generalizing scan with
  | nil =>
    have same : (fun stretch : List Char => [] ++ stretch) = id := rfl
    rw [same, List.modifyHead_id]
    rfl
  | cons c rest ih =>
    rw [splitFirst?] at clean
    split at clean
    · cases clean
    · rename_i elsewhere
      have sign : ¬((scan.step c).1 = .plain ∧ c = ',') := by simpa using elsewhere
      have later := ih (Option.map_eq_none_iff.mp clean)
      obtain ⟨first, more, found⟩ := List.exists_cons_of_ne_nil
        (stretches_ne_nil ((scan.step c).2.after rest) after)
      rw [List.cons_append, stretches, Scan.after]
      simp only [if_neg sign, later, found, List.modifyHead_cons, consFirst, List.cons_append]

theorem stretches_eq_singleton (clean : splitFirst? .plain (· == ',') scan text = none) :
    scan.stretches text = [text] := by
  have whole := stretches_append clean []
  simpa [stretches] using whole

theorem stretches_eq_cons (found : splitFirst? .plain (· == ',') scan text = some (before, after)) :
    scan.stretches text = before :: (scan.after (before ++ [','])).stretches after := by
  obtain ⟨c, rfl, plain, sign, clean⟩ := splitFirst?_eq_some found
  obtain rfl : c = ',' := by simpa using sign
  rw [stretches_append clean, after_append, stretches]
  simp [plain, Scan.after]

theorem infix_of_mem_stretches {scan : Scan} {stretch : List Char} (member : stretch ∈ scan.stretches text) :
    stretch <:+: text := by
  induction size : text.length using Nat.strong_induction_on generalizing scan text with
  | _ n ih =>
    cases found : splitFirst? .plain (· == ',') scan text with
    | none =>
      rw [stretches_eq_singleton found, List.mem_singleton] at member
      exact member ▸ List.infix_rfl
    | some parts =>
      obtain ⟨before, after⟩ := parts
      obtain ⟨c, spelled, -⟩ := splitFirst?_eq_some found
      rw [stretches_eq_cons found, List.mem_cons] at member
      rcases member with rfl | later
      · exact ⟨[], c :: after, by rw [spelled, List.nil_append]⟩
      · have shorter : after.length < n := by
          rw [← size, spelled, List.length_append, List.length_cons]
          omega
        have inside : after <:+: text := ⟨before ++ [c], [], by simp [spelled]⟩
        exact (ih after.length shorter later rfl).trans inside

/-! ### Texts without quotes and parentheses -/

/-- A character that no scan outside quotes takes for more than itself. -/
def isInert (c : Char) : Bool := !isQuote c && c != '(' && c != ')'

theorem step_inert {c : Char} (inert : isInert c = true) (depth : Nat) :
    (outside depth).step c = (if depth = 0 then .plain else .nested, outside depth) := by
  simp only [isInert, Bool.and_eq_true, Bool.not_eq_true', bne_iff_ne, ne_eq] at inert
  obtain ⟨⟨quote, opens⟩, closes⟩ := inert
  cases depth <;> simp [step, quote, opens, closes]

theorem after_inert (inert : ∀ c ∈ text, isInert c = true) (depth : Nat) :
    (outside depth).after text = outside depth := by
  induction text with
  | nil => rfl
  | cons c rest ih =>
    rw [after, step_inert (inert c List.mem_cons_self)]
    exact ih fun d member => inert d (List.mem_cons_of_mem c member)

theorem entries_inert (inert : ∀ c ∈ text, isInert c = true) (depth : Nat) :
    ∀ entry ∈ (outside depth).entries text,
      entry.2 = if depth = 0 then .plain else .nested := by
  induction text with
  | nil => intro entry member; cases member
  | cons c rest ih =>
    rw [entries_cons, step_inert (inert c List.mem_cons_self), List.forall_mem_cons]
    exact ⟨rfl, ih fun d member => inert d (List.mem_cons_of_mem c member)⟩

theorem step_noQuote {c : Char} (noQuote : isQuote c = false) (depth : Nat) :
    ∃ depth' mark, (outside depth).step c = (mark, outside depth') ∧ mark ≠ .quoted := by
  cases depth with
  | zero =>
    rw [step, if_neg (by simp [noQuote])]
    repeat' split
    all_goals exact ⟨_, _, rfl, by decide⟩
  | succ depth =>
    rw [step]
    repeat' split
    all_goals exact ⟨_, _, rfl, by decide⟩

theorem entries_noQuote (noQuote : ∀ c ∈ text, isQuote c = false) (depth : Nat) :
    ∀ entry ∈ (outside depth).entries text, entry.2 ≠ .quoted := by
  induction text generalizing depth with
  | nil => intro entry member; cases member
  | cons c rest ih =>
    rw [List.forall_mem_cons] at noQuote
    obtain ⟨depth', mark, stepped, other⟩ := step_noQuote noQuote.1 depth
    rw [entries_cons, stepped, List.forall_mem_cons]
    exact ⟨other, ih noQuote.2 depth'⟩

theorem step_eq_close_iff {c : Char} :
    (scan.step c).1 = .close ↔ scan = start ∧ c = ')' := by
  constructor
  · intro close
    match scan with
    | inside _ true => cases close
    | inside _ false =>
      rw [step] at close
      repeat' split at close
      all_goals cases close
    | outside 0 =>
      rw [step] at close
      repeat' split at close
      · cases close
      · cases close
      · exact ⟨rfl, ‹_›⟩
      · cases close
    | outside (_ + 1) =>
      rw [step] at close
      repeat' split at close
      all_goals cases close
  · rintro ⟨rfl, rfl⟩
    rfl

end Scan

/-! ### Names and keys -/

theorem keyChar_toNat {c : Char} (keyChar : isKeyChar c = true) :
    (48 ≤ c.toNat ∧ c.toNat ≤ 57) ∨ (65 ≤ c.toNat ∧ c.toNat ≤ 90) ∨
      (97 ≤ c.toNat ∧ c.toNat ≤ 122) ∨ c.toNat = 95 ∨ c.toNat = 45 := by
  have range (low high : Char) (within : low.val ≤ c.val ∧ c.val ≤ high.val) :
      low.toNat ≤ c.toNat ∧ c.toNat ≤ high.toNat := within
  simp only [isKeyChar, Bool.or_eq_true, beq_iff_eq] at keyChar
  rcases keyChar with (letterOrDigit | rfl) | rfl
  · have spelled : (decide ('A'.val ≤ c.val ∧ c.val ≤ 'Z'.val) ||
        (decide ('a'.val ≤ c.val) && decide (c.val ≤ 'z'.val)) ||
        (decide ('0'.val ≤ c.val) && decide (c.val ≤ '9'.val))) = true := letterOrDigit
    simp only [Bool.or_eq_true, Bool.and_eq_true, decide_eq_true_eq] at spelled
    rcases spelled with (upper | lower) | digit
    · exact .inr (.inl (range 'A' 'Z' upper))
    · exact .inr (.inr (.inl (range 'a' 'z' lower)))
    · exact .inl (range '0' '9' digit)
  · decide
  · decide

theorem isBlank_of_keyChar {c : Char} (keyChar : isKeyChar c = true) : isBlank c = false := by
  have range := keyChar_toNat keyChar
  simp only [isBlank, Bool.or_eq_false_iff, Bool.and_eq_false_iff, decide_eq_false_iff_not,
    beq_eq_false_iff_ne]
  omega

theorem ne_of_keyChar {c d : Char} (keyChar : isKeyChar c = true) (other : isKeyChar d = false) :
    c ≠ d := by
  rintro rfl
  rw [keyChar] at other
  cases other

theorem isInert_of_keyChar {c : Char} (keyChar : isKeyChar c = true) : Scan.isInert c = true := by
  have double : c ≠ '"' := ne_of_keyChar keyChar rfl
  have single : c ≠ '\'' := ne_of_keyChar keyChar rfl
  have opens : c ≠ '(' := ne_of_keyChar keyChar rfl
  have closes : c ≠ ')' := ne_of_keyChar keyChar rfl
  simp [Scan.isInert, isQuote, double, single, opens, closes]

theorem keyChar_of_isIdentifier {name : List Char} (identifier : isIdentifier name = true) :
    ∀ c ∈ name, isKeyChar c = true := by
  cases name with
  | nil => intro c member; cases member
  | cons first rest =>
    simp only [isIdentifier, Bool.and_eq_true, Bool.or_eq_true, beq_iff_eq, List.all_eq_true] at identifier
    obtain ⟨firstChar, others⟩ := identifier
    rw [List.forall_mem_cons]
    constructor
    · rcases firstChar with letter | rfl
      · have word : first.isAlphanum = true := Bool.or_eq_true_iff.mpr (.inl letter)
        simp [isKeyChar, word]
      · rfl
    · intro c member
      rcases others c member with word | rfl
      · simp [isKeyChar, word]
      · rfl

theorem trim_of_isIdentifier {name : List Char} (identifier : isIdentifier name = true) :
    trim name = name :=
  trim_eq_self (trimmed_of_noBlank fun c member =>
    isBlank_of_keyChar (keyChar_of_isIdentifier identifier c member))

end RecordFlow.Script
