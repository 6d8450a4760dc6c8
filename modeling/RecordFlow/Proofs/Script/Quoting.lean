import RecordFlow.Proofs.Script.Splitting
import RecordFlow.Proofs.Script.Wrapping

/-!
# Quoted strings

Every text can be written between double quotes so that it reads back: by itself, as the argument of a call, and
under a key (`inQuotes_reads_back`). The other way round, `unquote` looks at the two ends of an argument only.
That is enough to tell a quoted string from anything else but a row of parts that begins and ends with strings in
the same quotes (`unquote_argument`): such a row loses its first and its last quote (`unquote_two_strings`).
-/

namespace RecordFlow.Script

open Text

variable {quote sign : Char} {body rest text key argument : List Char} {arguments : List (List Char)}

/-! ### Writing a text in quotes -/

/-- A character as it stands between double quotes. -/
def writtenChar (c : Char) : List Char :=
  match c with
  | '\\' => ['\\', '\\']
  | '"' => ['\\', '"']
  | '\n' => ['\\', 'n']
  | '\r' => ['\\', 'r']
  | other => [other]

def inQuotes (text : List Char) : List Char := '"' :: (text.flatMap writtenChar ++ ['"'])

theorem writtenChar_cases (c : Char) :
    (∃ d, writtenChar c = ['\\', d] ∧ escaped d = [c] ∧ d ≠ '\n') ∨
      writtenChar c = [c] ∧ c ≠ '"' ∧ c ≠ '\\' ∧ c ≠ '\n' := by
  unfold writtenChar
  split
  · exact .inl ⟨'\\', rfl, rfl, by decide⟩
  · exact .inl ⟨'"', rfl, rfl, by decide⟩
  · exact .inl ⟨'n', rfl, rfl, by decide⟩
  · exact .inl ⟨'r', rfl, rfl, by decide⟩
  · rename_i backslash double feed _
    exact .inr ⟨rfl, double, backslash, feed⟩

theorem unescape_cons {c : Char} (noEscape : c ≠ '\\') (rest : List Char) :
    unescape (c :: rest) = c :: unescape rest := by
  conv_lhs => unfold unescape
  split <;> simp_all

theorem unescape_written (text : List Char) : unescape (text.flatMap writtenChar) = text := by
  induction text with
  | nil => rfl
  | cons c rest ih =>
    rw [List.flatMap_cons]
    rcases writtenChar_cases c with ⟨d, written, same, _⟩ | ⟨written, _, noEscape, _⟩
    · rw [written, List.cons_append, List.singleton_append, unescape, same, ih]
      rfl
    · rw [written, List.singleton_append, unescape_cons noEscape, ih]

theorem quoted_written (text : List Char) : Quoted '"' (text.flatMap writtenChar) := by
  induction text with
  | nil => exact .nil
  | cons c rest ih =>
    rw [List.flatMap_cons]
    rcases writtenChar_cases c with ⟨d, written, _⟩ | ⟨written, other, noEscape, _⟩
    · rw [written]
      exact .escape d ih
    · rw [written]
      exact .char other noEscape ih

theorem noBreak_inQuotes (text : List Char) : '\n' ∉ inQuotes text := by
  have noBreak : '\n' ∉ text.flatMap writtenChar := by
    intro member
    obtain ⟨c, _, here⟩ := List.mem_flatMap.mp member
    rcases writtenChar_cases c with ⟨d, written, _, other⟩ | ⟨written, _, _, other⟩
    · rw [written] at here
      simp [Ne.symm other] at here
    · rw [written, List.mem_singleton] at here
      exact other here.symm
  simp [inQuotes, noBreak]

theorem unquote_of_ends (opens : isQuote quote = true) (inner : List Char) :
    unquote (quote :: (inner ++ [quote])) = unescape inner := by
  simp [unquote, opens]

theorem unquote_inQuotes (text : List Char) : unquote (inQuotes text) = text := by
  rw [inQuotes, unquote_of_ends rfl, unescape_written]

/-! ### Quoted strings as arguments -/

theorem Part.splitAtSign? (part : Part) (noPlain : part.mark ≠ .plain) (sign : Char) :
    splitAtSign? sign part.text = none := by
  refine Scan.splitFirst?_eq_none_iff.mpr ?_
  rintro ⟨c, mark⟩ member ⟨plain, _⟩
  have same := (runs_part part).marks_eq mark (List.of_mem_zip member).2
  exact noPlain (same.symm.trans plain)

theorem Part.standsWhole (part : Part) (noPlain : part.mark ≠ .plain) : StandsWhole part.text := by
  have enclosed := enclosed_spell [part]
  rw [spell_singleton] at enclosed
  exact ⟨enclosed, part.splitAtSign? noPlain ',', part.splitAtSign? noPlain '=', part.splitAtSign? noPlain ':'⟩

def stringPart (text : List Char) : Part := .quoted '"' (text.flatMap writtenChar) rfl (quoted_written text)

theorem standsWhole_inQuotes (text : List Char) : StandsWhole (inQuotes text) :=
  (stringPart text).standsWhole nofun

theorem trimmed_inQuotes (text : List Char) : Trimmed (inQuotes text) := trimmed_between _ rfl rfl

theorem noCall_inQuotes (text : List Char) : looksLikeCall (inQuotes text) = false := rfl

theorem ofText_named (nonempty : key ≠ []) (keyChars : ∀ c ∈ key, isKeyChar c = true) (text : List Char) :
    Argument.ofText (key ++ '=' :: inQuotes text) =
      .ok (.literal (String.ofList key) (.string (String.ofList text))) := by
  have inert : ∀ c ∈ key, Scan.isInert c = true := fun c member => isInert_of_keyChar (keyChars c member)
  have noSign : '=' ∉ key := fun member => ne_of_keyChar (keyChars '=' member) rfl rfl
  have split : splitAtSign? '=' (key ++ '=' :: inQuotes text) = some (key, inQuotes text) := by
    refine Scan.splitFirst?_append (splitAtSign?_of_notMem noSign) '=' ?_ _
    rw [Scan.start, Scan.after_inert inert]
    exact ⟨rfl, rfl⟩
  have trimmedKey : trim key = key :=
    trim_eq_self (trimmed_of_noBlank fun c member => isBlank_of_keyChar (keyChars c member))
  have parts : namedParts (key ++ '=' :: inQuotes text) key (inQuotes text) =
      .ok (String.ofList key, inQuotes text) := by
    have all : key.all isKeyChar = true := List.all_eq_true.mpr keyChars
    simp [namedParts, trimmedKey, nonempty, all, trim_eq_self (trimmed_inQuotes text)]
  simp only [Argument.ofText, split, parts, ok_bind, noCall_inQuotes, unquote_inQuotes]
  rfl

/-! ### Scripts -/

theorem compile_quoted_positional {name : String} (identifier : isIdentifier name.toList = true)
    (custom : Kind.ofName name = .custom name) (text : String) :
    compile (name ++ "(" ++ String.ofList (inQuotes text.toList) ++ ")") =
      .ok [⟨.custom name, [("arg0", .string text)], none, none⟩] := by
  have read : Call.ofText (Call.parse maxNesting) (name.toList ++ '(' :: (inQuotes text.toList ++ [')'])) =
      .ok (.node ⟨.custom name, [("arg0", .string text)], none, none⟩ []) := by
    rw [Call.ofText_single _ identifier (standsWhole_inQuotes _) (trimmed_inQuotes _) (List.cons_ne_nil _ _)
      (noCall_inQuotes _)]
    · rw [String.ofList_toList, custom, Kind.isBuiltin, unquote_inQuotes, if_neg (by decide), String.ofList_toList]
      rfl
    · rw [String.ofList_toList, custom]
      exact nofun
  apply compile_call identifier (noBreak_inQuotes text.toList)
  · simp [String.toList_append]
  · rw [compileLine, parse_wrap identifier, read]
    rfl

/-- The arguments of a split with a separator in quotes. -/
def splitBody (separator : List Char) : List Char :=
  "$.data".toList ++ ',' :: ' ' :: ("separator".toList ++ '=' :: inQuotes separator)

theorem splitArguments_splitBody (separator : List Char) :
    splitArguments (splitBody separator) =
      .ok ["$.data".toList, "separator".toList ++ '=' :: inQuotes separator] := by
  have apart : splitBody separator = "$.data, separator=".toList ++ inQuotes separator := rfl
  have enclosed : Enclosed (splitBody separator) := by
    rw [apart]
    exact (enclosed_of_inert (by simp [Scan.isInert, isQuote])).append (standsWhole_inQuotes separator).enclosed
  have noComma : Scan.start.splitFirst? .plain (· == ',')
      (" separator=".toList ++ inQuotes separator) = none :=
    Scan.splitFirst?_append_eq_none_iff.mpr ⟨rfl, (standsWhole_inQuotes separator).comma⟩
  have cut : Scan.start.stretches (splitBody separator) =
      ["$.data".toList, " separator=".toList ++ inQuotes separator] := by
    have first : Scan.start.stretches (',' :: (" separator=".toList ++ inQuotes separator)) =
        [] :: Scan.start.stretches (" separator=".toList ++ inQuotes separator) := rfl
    have clean : Scan.start.splitFirst? .plain (· == ',') "$.data".toList = none := rfl
    have joined := Scan.stretches_append clean (',' :: (" separator=".toList ++ inQuotes separator))
    rw [Scan.start, Scan.after_inert (by simp [Scan.isInert, isQuote]), ← Scan.start, first,
      Scan.stretches_eq_singleton noComma] at joined
    exact joined
  have last : trim (" separator=".toList ++ inQuotes separator) =
      "separator".toList ++ '=' :: inQuotes separator := by
    have trimmed : Trimmed ('s' :: ("eparator=\"".toList ++ separator.flatMap writtenChar ++ ['"'])) :=
      trimmed_between _ rfl rfl
    exact (trim_cons_blank rfl _).trans (trim_eq_self trimmed)
  rw [splitArguments_eq_ok_iff, cut]
  refine ⟨enclosed, ?_⟩
  rw [List.map_cons, List.map_cons, List.map_nil, last]
  rfl

theorem compile_quoted_separator (text : String) :
    compile ("split($.data, separator=" ++ String.ofList (inQuotes text.toList) ++ ")") =
      .ok [⟨.splitString, [("id", .string "split_string"), ("separator", .string text)], some "$.data",
        none⟩] := by
  have identifier : isIdentifier "split".toList = true := rfl
  have noBreak : '\n' ∉ splitBody text.toList := by
    have apart : splitBody text.toList = "$.data, separator=".toList ++ inQuotes text.toList := rfl
    rw [apart, List.mem_append, not_or]
    exact ⟨by decide, noBreak_inQuotes _⟩
  have split : splitCall ("split".toList ++ '(' :: (splitBody text.toList ++ [')'])) =
      .ok ("split".toList, splitBody text.toList) := by
    refine (splitCall_eq_ok_iff (trimmed_wrap identifier _)).mpr ⟨_, rfl, by decide, rfl, identifier, ?_⟩
    exact (splitArguments_eq_ok_iff.mp (splitArguments_splitBody _)).1
  have path : Draft.add (Draft.ofName "split".toList) "$.data".toList =
      .ok ⟨⟨.splitString, [], some "$.data", none⟩, [], 1⟩ := rfl
  have separator : Draft.add ⟨⟨.splitString, [], some "$.data", none⟩, [], 1⟩
      ("separator".toList ++ '=' :: inQuotes text.toList) =
        .ok ⟨⟨.splitString, [("separator", .string text)], some "$.data", none⟩, [], 1⟩ := by
    rw [Draft.add, ofText_named (by decide) (by simp [isKeyChar]), String.ofList_toList, String.ofList_toList]
    rfl
  apply compile_call identifier noBreak
  · rw [String.toList_append, String.toList_append]
    simp only [String.toList_ofList]
    rfl
  · rw [compileLine, parse_wrap identifier, ofText_eq, split, ok_bind]
    dsimp only
    rw [splitArguments_splitBody, ok_bind, List.foldlM_cons, path, ok_bind, List.foldlM_cons, separator]
    rfl

/-- A text in quotes reads back as the text: by itself, as the only argument of a custom call, and as a separator
beside a path. -/
theorem inQuotes_reads_back (text : String) :
    unquote (inQuotes text.toList) = text.toList ∧
    (∀ name : String, isIdentifier name.toList = true → Kind.ofName name = .custom name →
      compile (name ++ "(" ++ String.ofList (inQuotes text.toList) ++ ")") =
        .ok [⟨.custom name, [("arg0", .string text)], none, none⟩]) ∧
    compile ("split($.data, separator=" ++ String.ofList (inQuotes text.toList) ++ ")") =
      .ok [⟨.splitString, [("id", .string "split_string"), ("separator", .string text)], some "$.data",
        none⟩] :=
  ⟨unquote_inQuotes _, fun _ identifier custom => compile_quoted_positional identifier custom text,
    compile_quoted_separator text⟩

/-- A comma, a parenthesis, a comment sign, a line break, quotes, and a backslash before a quote and at the end. -/
theorem inQuotes_reads_back_signs :
    isIdentifier "note".toList = true ∧ Kind.ofName "note" = .custom "note" ∧
      compile "note(\"# a, (b=\\\\\\\"\\n':\\\\\")" =
        .ok [⟨.custom "note", [("arg0", .string "# a, (b=\\\"\n':\\")], none, none⟩] := by
  obtain ⟨-, positional, -⟩ := inQuotes_reads_back "# a, (b=\\\"\n':\\"
  exact ⟨rfl, rfl, positional "note" rfl rfl⟩

/-! ### One string or several -/

/-- After its first character the text is outside all quotes and parentheses at its end only: what the first
character opens, the last one closes. -/
def ClosedByLast (text : List Char) : Prop :=
  Scan.start.after text = Scan.start ∧
    ∀ before after, text = before ++ after → before ≠ [] → after ≠ [] → Scan.start.after before ≠ Scan.start

theorem after_beginning (inside : Quoted quote body) {before : List Char} (beginning : before <+: body) :
    ∃ escaped, (Scan.inside quote false).after before = .inside quote escaped := by
  induction inside generalizing before with
  | nil =>
    rw [List.prefix_nil.mp beginning]
    exact ⟨false, rfl⟩
  | @char c rest other noEscape _ ih =>
    obtain rfl | ⟨early, rfl, within⟩ := List.prefix_cons_iff.mp beginning
    · exact ⟨false, rfl⟩
    · have stepped : (Scan.inside quote false).step c = (.quoted, .inside quote false) := by
        simp [Scan.step, other, noEscape]
      rw [Scan.after, stepped]
      exact ih within
  | escape c _ ih =>
    obtain rfl | ⟨early, rfl, within⟩ := List.prefix_cons_iff.mp beginning
    · exact ⟨false, rfl⟩
    · obtain rfl | ⟨later, rfl, deeper⟩ := List.prefix_cons_iff.mp within
      · exact ⟨true, rfl⟩
      · obtain ⟨escaped, ends⟩ := ih deeper
        exact ⟨escaped, ends⟩

theorem closedByLast_string (opens : isQuote quote = true) (inside : Quoted quote body) :
    ClosedByLast (quote :: (body ++ [quote])) := by
  refine ⟨(runs_part (.quoted quote body opens inside)).after_eq, ?_⟩
  intro before after same begun unfinished back
  obtain ⟨first, early, rfl⟩ := List.exists_cons_of_ne_nil begun
  obtain ⟨rfl, rest⟩ := List.cons.inj same
  have beginning : early <+: body := by
    have whole : early <+: body ++ [quote] := ⟨after, rest.symm⟩
    refine (List.prefix_concat_iff.mp whole).resolve_left ?_
    rintro rfl
    exact unfinished (List.append_right_eq_self.mp rest.symm)
  obtain ⟨escaped, ends⟩ := after_beginning inside beginning
  rw [Scan.after, step_of_isQuote opens, ends] at back
  cases back

theorem closedByLast_spell_iff {first : Part} {parts : List Part} (string : first.mark = .quoted) :
    ClosedByLast (spell (first :: parts)) ↔ parts = [] := by
  constructor
  · rintro ⟨_, never⟩
    by_contra more
    exact never first.text (spell parts) (spell_cons _ _) first.text_ne_nil (spell_ne_nil more)
      (runs_part first).after_eq
  · rintro rfl
    cases first with
    | quoted quote body opens inside =>
      rw [spell_singleton]
      exact closedByLast_string opens inside
    | plain | group => cases string

theorem exists_first_string {row : List Part} (begins : (spell row).head? = some quote)
    (opens : isQuote quote = true) :
    ∃ body inside parts, row = .quoted quote body opens inside :: parts := by
  cases row with
  | nil => cases begins
  | cons part parts =>
    cases part with
    | plain c inert =>
      obtain rfl : c = quote := Option.some.inj begins
      simp [Scan.isInert, opens] at inert
    | quoted other body _ inside =>
      obtain rfl : other = quote := Option.some.inj begins
      exact ⟨body, inside, parts, rfl⟩
    | group body inside =>
      obtain rfl : '(' = quote := Option.some.inj begins
      cases opens

theorem exists_last_string {parts : List Part} (more : parts ≠ [])
    (ends : (spell parts).getLast? = some quote) (opens : isQuote quote = true) :
    ∃ early body inside, parts = early ++ [.quoted quote body opens inside] := by
  obtain ⟨early, last, rfl⟩ := (List.eq_nil_or_concat parts).resolve_left more
  rw [List.concat_eq_append, spell_append, spell_singleton, List.getLast?_append] at ends
  cases last with
  | plain c inert =>
    obtain rfl : c = quote := Option.some.inj ends
    simp [Scan.isInert, opens] at inert
  | quoted other body _ inside =>
    have closes : (Part.quoted other body ‹_› inside).text.getLast? = some other := by
      rw [Part.text, ← List.cons_append, List.getLast?_concat]
    rw [closes] at ends
    obtain rfl : other = quote := Option.some.inj ends
    exact ⟨early, body, inside, List.concat_eq_append⟩
  | group body inside =>
    have closes : (Part.group body inside).text.getLast? = some ')' := by
      rw [Part.text, ← List.cons_append, List.getLast?_concat]
    rw [closes] at ends
    obtain rfl : ')' = quote := Option.some.inj ends
    cases opens

theorem unquote_of_other_end (begins : text.head? = some quote) (other : text.getLast? ≠ some quote) :
    unquote text = text := by
  cases text with
  | nil => cases begins
  | cons c rest =>
    obtain rfl : c = quote := Option.some.inj begins
    have noEnd : rest.getLast? ≠ some c := by
      intro last
      rw [List.getLast?_cons, last] at other
      exact other rfl
    rw [unquote, if_neg fun both => noEnd both.2]

/-- What an argument that begins with a quote stands for. It is the inside of the string if the last character
closes what the first one opens. Otherwise the argument has several parts, and is left as it is unless it begins
and ends with strings in the same quotes: then its first and its last character are taken for the quotes of one
string, and the two quotes in between stay. -/
theorem unquote_argument (split : splitArguments text = .ok arguments) (member : argument ∈ arguments)
    (begins : argument.head? = some quote) (opens : isQuote quote = true) :
    (ClosedByLast argument → ∃ body, Quoted quote body ∧ argument = quote :: (body ++ [quote]) ∧
      unquote argument = unescape body) ∧
    (¬ClosedByLast argument → argument.getLast? ≠ some quote → unquote argument = argument) ∧
    (¬ClosedByLast argument → argument.getLast? = some quote → ∃ first parts last,
      Quoted quote first ∧ Quoted quote last ∧
      argument = quote :: (first ++ quote :: (spell parts ++ quote :: last) ++ [quote]) ∧
      unquote argument = unescape (first ++ quote :: (spell parts ++ quote :: last))) := by
  obtain ⟨row, -, rfl⟩ := exists_row_of_mem split member
  obtain ⟨body, inside, parts, rfl⟩ := exists_first_string begins opens
  have several : ClosedByLast (spell (.quoted quote body opens inside :: parts)) ↔ parts = [] :=
    closedByLast_spell_iff rfl
  refine ⟨?_, fun _ => unquote_of_other_end begins, ?_⟩
  · intro one
    obtain rfl := several.mp one
    rw [spell_singleton, Part.text]
    exact ⟨body, inside, rfl, unquote_of_ends opens body⟩
  · intro notOne ends
    have more : parts ≠ [] := fun none => notOne (several.mpr none)
    have endsLater : (spell parts).getLast? = some quote := by
      rwa [spell_cons, List.getLast?_append_of_ne_nil _ (spell_ne_nil more)] at ends
    obtain ⟨early, last, insideLast, rfl⟩ := exists_last_string more endsLater opens
    have whole : spell (.quoted quote body opens inside :: (early ++ [.quoted quote last opens insideLast])) =
        quote :: (body ++ quote :: (spell early ++ quote :: last) ++ [quote]) := by
      simp [spell_cons, spell_append, spell_nil, Part.text]
    rw [whole]
    exact ⟨body, early, last, inside, insideLast, rfl, unquote_of_ends opens _⟩

theorem unquote_argument_two_parts :
    splitArguments "x, 'a' \"b\"".toList = .ok ["x".toList, "'a' \"b\"".toList] ∧
      "'a' \"b\"".toList.head? = some '\'' ∧ ¬ClosedByLast "'a' \"b\"".toList ∧
      unquote "'a' \"b\"".toList = "'a' \"b\"".toList := by
  have split : splitArguments "x, 'a' \"b\"".toList = .ok ["x".toList, "'a' \"b\"".toList] := by
    decide +kernel
  have early : ¬ClosedByLast "'a' \"b\"".toList := fun closed =>
    closed.2 "'a'".toList " \"b\"".toList rfl (by decide) (by decide) rfl
  have member : "'a' \"b\"".toList ∈ ["x".toList, "'a' \"b\"".toList] := by simp
  exact ⟨split, rfl, early, (unquote_argument split member rfl rfl).2.1 early (by decide)⟩

/-- The quote that begins the argument is closed after the first letter, and still the argument loses it. -/
theorem unquote_two_strings :
    splitArguments "\"a\" \"b\"".toList = .ok ["\"a\" \"b\"".toList] ∧
      ¬ClosedByLast "\"a\" \"b\"".toList ∧ unquote "\"a\" \"b\"".toList = "a\" \"b".toList :=
  ⟨by decide +kernel, fun closed => closed.2 "\"a\"".toList " \"b\"".toList rfl (by decide) (by decide) rfl, rfl⟩

end RecordFlow.Script
