import RecordFlow.Proofs.Script.CallText

/-!
# The grammar of arguments

The text of arguments is a row of parts: plain characters, quoted strings, and groups in parentheses, inside which
a quote is a character like any other. Every text either is such a row or is refused, for a parenthesis that
closes nothing or for a string or a group that nothing closes (`spelled_or_refused`). The scan is back at its start
after each part, and all characters of a part stand alike (`runs_part`).
-/

namespace RecordFlow.Script

open Text

/-- The inside of a quoted string. A backslash takes the character after it along, even a quote. -/
inductive Quoted (quote : Char) : List Char → Prop where
  | nil : Quoted quote []
  | char {c : Char} {rest : List Char} (other : c ≠ quote) (noEscape : c ≠ '\\')
      (later : Quoted quote rest) : Quoted quote (c :: rest)
  | escape (c : Char) {rest : List Char} (later : Quoted quote rest) : Quoted quote ('\\' :: c :: rest)

/-- A text in which every parenthesis has its partner. -/
inductive Balanced : List Char → Prop where
  | nil : Balanced []
  | char {c : Char} {rest : List Char} (noOpen : c ≠ '(') (noClose : c ≠ ')') (later : Balanced rest) :
      Balanced (c :: rest)
  | group {inner rest : List Char} (inside : Balanced inner) (later : Balanced rest) :
      Balanced ('(' :: (inner ++ ')' :: rest))

inductive Part where
  | plain (c : Char) (inert : Scan.isInert c = true)
  | quoted (quote : Char) (body : List Char) (opens : isQuote quote = true) (inside : Quoted quote body)
  | group (body : List Char) (inside : Balanced body)
  deriving DecidableEq

namespace Part

def text : Part → List Char
  | plain c _ => [c]
  | quoted quote body _ _ => quote :: (body ++ [quote])
  | group body _ => '(' :: (body ++ [')'])

/-- How the characters of the part stand. -/
def mark : Part → Mark
  | plain .. => .plain
  | quoted .. => .quoted
  | group .. => .nested

def comma : Part := plain ',' rfl

end Part

def spell (parts : List Part) : List Char := parts.flatMap Part.text

/-- The quoted string that begins before the text does not end in it. -/
def NeverEnds (quote : Char) (text : List Char) : Prop :=
  ∀ body rest, text = body ++ quote :: rest → ¬Quoted quote body

/-- The group that begins before the text does not end in it. -/
def NeverCloses (text : List Char) : Prop :=
  ∀ body rest, text = body ++ ')' :: rest → ¬Balanced body

/-- What stands after a row of parts is the beginning of none, and the text is refused for it. -/
inductive Refused (text : List Char) : Fault → Prop where
  | close (parts : List Part) {rest : List Char} (same : text = spell parts ++ ')' :: rest) :
      Refused text (.unbalancedParens (String.ofList text))
  | quote (parts : List Part) {quote : Char} {rest : List Char} (same : text = spell parts ++ quote :: rest)
      (opens : isQuote quote = true) (endless : NeverEnds quote rest) :
      Refused text (.unterminatedQuote quote (String.ofList text))
  | group (parts : List Part) {rest : List Char} (same : text = spell parts ++ '(' :: rest)
      (endless : NeverCloses rest) : Refused text (.unbalancedParens (String.ofList text))

theorem spell_nil : spell [] = [] := rfl

theorem spell_cons (part : Part) (parts : List Part) : spell (part :: parts) = part.text ++ spell parts :=
  List.flatMap_cons

theorem spell_singleton (part : Part) : spell [part] = part.text := List.flatMap_singleton ..

theorem Part.text_ne_nil (part : Part) : part.text ≠ [] := by
  cases part <;> exact List.cons_ne_nil _ _

theorem spell_ne_nil {parts : List Part} (some : parts ≠ []) : spell parts ≠ [] := by
  obtain ⟨part, rest, rfl⟩ := List.exists_cons_of_ne_nil some
  rw [spell_cons]
  exact List.append_ne_nil_of_left_ne_nil part.text_ne_nil _

theorem spell_append (first second : List Part) : spell (first ++ second) = spell first ++ spell second :=
  List.flatMap_append

/-! ### Scanning a part -/

/-- The scan goes on through the text, of which all characters stand alike. -/
inductive Scan.Runs (mark : Mark) : Scan → List Char → Scan → Prop where
  | nil {scan : Scan} : Runs mark scan [] scan
  | cons {scan middle next : Scan} {c : Char} {rest : List Char} (one : scan.step c = (mark, middle))
      (later : Runs mark middle rest next) : Runs mark scan (c :: rest) next

namespace Scan.Runs

variable {mark : Mark} {scan middle next : Scan} {first second text : List Char}

theorem append (early : Runs mark scan first middle) (late : Runs mark middle second next) :
    Runs mark scan (first ++ second) next := by
  induction early with
  | nil => exact late
  | cons one _ ih => exact .cons one (ih late)

theorem after_eq (runs : Runs mark scan text next) : scan.after text = next := by
  induction runs with
  | nil => rfl
  | cons one _ ih => rw [after, one, ih]

theorem marks_eq (runs : Runs mark scan text next) : ∀ other ∈ scan.marks text, other = mark := by
  induction runs with
  | nil => simp [marks]
  | cons one _ ih =>
    rw [marks, one, List.forall_mem_cons]
    exact ⟨rfl, ih⟩

theorem noClose (runs : Runs mark scan text next) (other : mark ≠ .close) : .close ∉ scan.marks text :=
  fun close => other (runs.marks_eq .close close).symm

end Scan.Runs

open Scan (Runs)

theorem ne_backslash_of_isQuote {quote : Char} (opens : isQuote quote = true) : quote ≠ '\\' := by
  rintro rfl
  cases opens

theorem runs_quoted {quote : Char} {body : List Char} (inside : Quoted quote body) :
    Runs .quoted (.inside quote false) body (.inside quote false) := by
  induction inside with
  | nil => exact .nil
  | char other noEscape _ ih => exact .cons (by simp [Scan.step, other, noEscape]) ih
  | escape c _ ih => exact .cons rfl (.cons rfl ih)

theorem runs_balanced {body : List Char} (inside : Balanced body) (depth : Nat) :
    Runs .nested (.outside (depth + 1)) body (.outside (depth + 1)) := by
  induction inside generalizing depth with
  | nil => exact .nil
  | char noOpen noClose _ ih => exact .cons (by simp [Scan.step, noOpen, noClose]) (ih depth)
  | group _ _ inner later => exact .cons rfl ((inner (depth + 1)).append (.cons rfl (later depth)))

theorem step_of_isQuote {quote : Char} (opens : isQuote quote = true) :
    Scan.start.step quote = (.quoted, .inside quote false) := by
  simp [Scan.start, Scan.step, opens]

theorem runs_part (part : Part) : Runs part.mark Scan.start part.text Scan.start := by
  cases part with
  | plain c inert =>
    have stepped : Scan.start.step c = (.plain, Scan.start) := Scan.step_inert inert 0
    exact .cons stepped .nil
  | quoted quote body opens inside =>
    have ends : (Scan.inside quote false).step quote = (.quoted, Scan.start) := by
      simp [Scan.start, Scan.step, ne_backslash_of_isQuote opens]
    exact .cons (step_of_isQuote opens) ((runs_quoted inside).append (.cons ends .nil))
  | group body inside => exact .cons rfl ((runs_balanced inside 0).append (.cons rfl .nil))

theorem after_spell (parts : List Part) : Scan.start.after (spell parts) = Scan.start := by
  induction parts with
  | nil => rfl
  | cons part rest ih => rw [spell_cons, Scan.after_append, (runs_part part).after_eq, ih]

theorem noClose_spell (parts : List Part) : .close ∉ Scan.start.marks (spell parts) := by
  induction parts with
  | nil => simp [spell, Scan.marks]
  | cons part rest ih =>
    have other : part.mark ≠ .close := by cases part <;> simp [Part.mark]
    rw [spell_cons, Scan.marks_append, (runs_part part).after_eq, List.mem_append, not_or]
    exact ⟨(runs_part part).noClose other, ih⟩

theorem enclosed_spell (parts : List Part) : Enclosed (spell parts) :=
  ⟨splitFirst?_close_eq_none_iff.mpr (noClose_spell parts), after_spell parts⟩

/-! ### Scanning what never ends -/

/-- The scan may have taken a backslash already, which then belongs to the inside of the string. -/
theorem runs_of_neverEnds {quote : Char} {text : List Char} (escaped : Bool)
    (endless : ∀ body rest, text = body ++ quote :: rest →
      ¬Quoted quote (if escaped then '\\' :: body else body)) :
    ∃ pending, Runs .quoted (.inside quote escaped) text (.inside quote pending) := by
  induction text generalizing escaped with
  | nil => exact ⟨escaped, .nil⟩
  | cons c rest ih =>
    cases escaped with
    | true =>
      obtain ⟨pending, runs⟩ := ih false fun body after same inside =>
        endless (c :: body) after (by rw [same]; rfl) (.escape c inside)
      exact ⟨pending, .cons rfl runs⟩
    | false =>
      by_cases backslash : c = '\\'
      · subst backslash
        obtain ⟨pending, runs⟩ := ih true fun body after same =>
          endless ('\\' :: body) after (by rw [same]; rfl)
        exact ⟨pending, .cons rfl runs⟩
      · have other : c ≠ quote := by
          rintro rfl
          exact endless [] rest rfl .nil
        obtain ⟨pending, runs⟩ := ih false fun body after same inside =>
          endless (c :: body) after (by rw [same]; rfl) (.char other backslash inside)
        exact ⟨pending, .cons (by simp [Scan.step, other, backslash]) runs⟩

theorem runs_of_neverCloses {text : List Char} (endless : NeverCloses text) (depth : Nat) :
    ∃ deeper, Runs .nested (.outside (depth + 1)) text (.outside (deeper + 1)) := by
  induction length : text.length using Nat.strong_induction_on generalizing text depth with
  | _ n ih =>
    subst length
    cases text with
    | nil => exact ⟨depth, .nil⟩
    | cons c rest =>
      have noClose : c ≠ ')' := by
        rintro rfl
        exact endless [] rest rfl .nil
      by_cases opens : c = '('
      · subst opens
        by_cases closes : ∃ inner later, rest = inner ++ ')' :: later ∧ Balanced inner
        · obtain ⟨inner, later, rfl, inside⟩ := closes
          have endlessLater : NeverCloses later := by
            rintro body after rfl balanced
            exact endless ('(' :: (inner ++ ')' :: body)) after (by simp) (.group inside balanced)
          obtain ⟨deeper, runs⟩ := ih _ (by simp; omega) endlessLater depth rfl
          exact ⟨deeper, .cons rfl ((runs_balanced inside (depth + 1)).append (.cons rfl runs))⟩
        · have endlessRest : NeverCloses rest := fun body after same balanced =>
            closes ⟨body, after, same, balanced⟩
          obtain ⟨deeper, runs⟩ := ih _ (by simp) endlessRest (depth + 1) rfl
          exact ⟨deeper, .cons rfl runs⟩
      · have endlessRest : NeverCloses rest := by
          rintro body after rfl balanced
          exact endless (c :: body) after rfl (.char opens noClose balanced)
        obtain ⟨deeper, runs⟩ := ih _ (by simp) endlessRest depth rfl
        exact ⟨deeper, .cons (by simp [Scan.step, opens, noClose]) runs⟩

/-! ### Reading a text part by part -/

theorem spelled_or_refused_part (part : Part) {rest : List Char}
    (read : (∃ parts, spell parts = rest) ∨ ∃ fault, Refused rest fault) :
    (∃ parts, spell parts = part.text ++ rest) ∨ ∃ fault, Refused (part.text ++ rest) fault := by
  have after (parts : List Part) (text : List Char) :
      part.text ++ (spell parts ++ text) = spell (part :: parts) ++ text := by
    rw [spell_cons, List.append_assoc]
  rcases read with ⟨parts, rfl⟩ | ⟨fault, refused⟩
  · exact .inl ⟨part :: parts, spell_cons part parts⟩
  · cases refused with
    | close parts same =>
      subst same
      exact .inr ⟨_, .close (part :: parts) (after parts _)⟩
    | quote parts same opens endless =>
      subst same
      exact .inr ⟨_, .quote (part :: parts) (after parts _) opens endless⟩
    | group parts same endless =>
      subst same
      exact .inr ⟨_, .group (part :: parts) (after parts _) endless⟩

theorem spelled_or_refused (text : List Char) :
    (∃ parts, spell parts = text) ∨ ∃ fault, Refused text fault := by
  induction length : text.length using Nat.strong_induction_on generalizing text with
  | _ n ih =>
    subst length
    cases text with
    | nil => exact .inl ⟨[], rfl⟩
    | cons c rest =>
      by_cases opens : isQuote c = true
      · by_cases ends : ∃ body later, rest = body ++ c :: later ∧ Quoted c body
        · obtain ⟨body, later, rfl, inside⟩ := ends
          have read := spelled_or_refused_part (.quoted c body opens inside)
            (ih _ (by simp; omega) later rfl)
          simpa [Part.text] using read
        · have endless : NeverEnds c rest := fun body after same inside => ends ⟨body, after, same, inside⟩
          exact .inr ⟨_, .quote [] rfl opens endless⟩
      · by_cases group : c = '('
        · subst group
          by_cases closes : ∃ body later, rest = body ++ ')' :: later ∧ Balanced body
          · obtain ⟨body, later, rfl, inside⟩ := closes
            have read := spelled_or_refused_part (.group body inside) (ih _ (by simp; omega) later rfl)
            simpa [Part.text] using read
          · have endless : NeverCloses rest := fun body after same inside =>
              closes ⟨body, after, same, inside⟩
            exact .inr ⟨_, .group [] rfl endless⟩
        · by_cases close : c = ')'
          · subst close
            exact .inr ⟨_, .close [] rfl⟩
          · have inert : Scan.isInert c = true := by simp [Scan.isInert, opens, group, close]
            exact spelled_or_refused_part (.plain c inert) (ih _ (by simp) rest rfl)

end RecordFlow.Script
