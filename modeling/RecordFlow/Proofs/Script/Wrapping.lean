import RecordFlow.Proofs.Script.Reading
import RecordFlow.Script.Compile

/-!
# A call around a text

What a call makes of a text that stands whole as its argument: a call is read and the result wired to
the outer call (`Call.ofText_call`), any other text is stored (`Call.ofText_single`), as the source of a
builtin. A call stands whole if no parenthesis is in one of its own quoted strings
(`standsWhole_of_quoted`): one parenthesis deeper, where no quote opens, the scan takes the same turns but
for those.
-/

namespace RecordFlow.Script

open Text

variable {name before body inner text : List Char}

/-! ### The outer call -/

/-- A text that has a parenthesis before any `=` and ends in one is a call. -/
theorem classify_of_opens {rest : List Char} (absent : '=' ∉ before)
    (closes : (trimEnd (before ++ '(' :: rest)).getLast? = some ')') :
    Line.classify (before ++ '(' :: rest) = .ok (.call (trim (before ++ '(' :: rest))) := by
  have opens : '(' ∈ before ++ '(' :: rest := by simp
  have call : Line.ofCallText (before ++ '(' :: rest) = .ok (.call (trim (before ++ '(' :: rest))) := by
    rw [Line.ofCallText, if_pos closes]
  unfold Line.classify
  cases found : splitFirst? '=' (before ++ '(' :: rest) with
  | none => simp only [opens, if_true, call]
  | some parts =>
    obtain ⟨left, right⟩ := parts
    obtain ⟨same, _⟩ := splitFirst?_some found
    obtain ⟨more, rfl, _⟩ := eq_append_of_cut same absent (by decide)
    simp [call]

theorem classify_of_opened (trimmed : Trimmed (before ++ '(' :: (body ++ [')'])))
    (absent : '=' ∉ before) :
    Line.classify (before ++ '(' :: (body ++ [')'])) =
      .ok (.call (before ++ '(' :: (body ++ [')']))) := by
  have closes : (trimEnd (before ++ '(' :: (body ++ [')']))).getLast? = some ')' := by
    rw [trimEnd_of_last trimmed.last, getLast?_opened]
  rw [classify_of_opens absent closes, trim_eq_self trimmed]

theorem notMem_of_identifier {c : Char} (identifier : isIdentifier (trim before) = true)
    (solid : isBlank c = false) (other : isKeyChar c = false) : c ∉ before := by
  intro member
  have keyChar := keyChar_of_isIdentifier identifier c (mem_trim member solid)
  rw [other] at keyChar
  cases keyChar

theorem looksLikeCall_of_identifier (identifier : isIdentifier (trim before) = true)
    (body : List Char) : looksLikeCall (before ++ '(' :: (body ++ [')'])) = true := by
  have double : '"' ∉ before := notMem_of_identifier identifier rfl rfl
  have single : '\'' ∉ before := notMem_of_identifier identifier rfl rfl
  cases before with
  | nil => cases identifier
  | cons c rest =>
    rw [List.mem_cons, not_or] at double single
    have first : isQuote c = false := by simp [isQuote, Ne.symm double.1, Ne.symm single.1]
    rw [looksLikeCall, getLast?_opened]
    simp [first]

theorem trimmed_wrap (identifier : isIdentifier name = true) (inner : List Char) :
    Trimmed (name ++ '(' :: (inner ++ [')'])) := by
  refine trimmed_of_splitCall (by rwa [trim_of_isIdentifier identifier]) ?_ inner
  intro c found
  exact isBlank_of_keyChar (keyChar_of_isIdentifier identifier c (List.mem_of_head? found))

theorem notMem_identifier {c : Char} (identifier : isIdentifier name = true)
    (other : isKeyChar c = false) : c ∉ name := by
  intro member
  exact ne_of_keyChar (keyChar_of_isIdentifier identifier c member) other rfl

theorem parse_wrap (identifier : isIdentifier name = true) (levels : Nat) (inner : List Char) :
    Call.parse (levels + 1) (name ++ '(' :: (inner ++ [')'])) =
      Call.ofText (Call.parse levels) (name ++ '(' :: (inner ++ [')'])) := by
  rw [Call.parse, classify_of_opened (trimmed_wrap identifier inner) (notMem_identifier identifier rfl),
    ok_bind]

theorem Call.ofText_whole (nested : List Char → Except Fault Call)
    (identifier : isIdentifier name = true) (whole : StandsWhole inner) (trimmed : Trimmed inner)
    (nonempty : inner ≠ []) {draft : Draft}
    (added : (Draft.ofName name).addPositional inner = .ok draft) :
    Call.ofText nested (name ++ '(' :: (inner ++ [')'])) = do
      let inputs ← draft.inputs.mapM (Call.ofArgument nested)
      return .node (withDefaults draft.descriptor) inputs := by
  have split : splitCall (name ++ '(' :: (inner ++ [')'])) = .ok (name, inner) :=
    (splitCall_eq_ok_iff (trimmed_wrap identifier inner)).mpr
      ⟨name, rfl, notMem_identifier identifier rfl, trim_of_isIdentifier identifier, identifier,
        whole.enclosed⟩
  have folded : [inner].foldlM Draft.add (Draft.ofName name) = .ok draft := by
    rw [List.foldlM_cons, Draft.add, whole.ofText, ok_bind]
    simp only [added, ok_bind, List.foldlM_nil, pure_eq_ok]
  rw [ofText_eq, split, ok_bind]
  simp only [whole.splitArguments trimmed nonempty, folded, ok_bind]

/-- A call that stands as the only argument waits in the slot of a first positional argument. -/
theorem Call.ofText_call (nested : List Char → Except Fault Call) (identifier : isIdentifier name = true)
    (whole : StandsWhole inner) (trimmed : Trimmed inner) (callLike : looksLikeCall inner = true) :
    Call.ofText nested (name ++ '(' :: (inner ++ [')'])) =
      match nested inner with
      | .ok tree =>
        .ok (.node (withDefaults ⟨Kind.ofName (String.ofList name), [], none, none⟩)
          [(positionalSlot (Kind.ofName (String.ofList name)) 0, tree)])
      | .error fault => .error (fault.inNestedCall inner) := by
  have nonempty : inner ≠ [] := by
    rintro rfl
    cases callLike
  have added : (Draft.ofName name).addPositional inner =
      .ok { Draft.ofName name with
        inputs := [(positionalSlot (Kind.ofName (String.ofList name)) 0, inner)], positional := 1 } := by
    cases builtin : (Kind.ofName (String.ofList name)).isBuiltin <;>
      simp [Draft.addPositional, Draft.ofName, positionalSlot, builtin, callLike, Draft.addInput]
  rw [Call.ofText_whole nested identifier whole trimmed nonempty added]
  simp only [List.mapM_cons, List.mapM_nil, Call.ofArgument]
  cases nested inner with
  | ok tree => rfl
  | error fault => rfl

theorem Call.ofText_wrap (nested : List Char → Except Fault Call) (identifier : isIdentifier name = true)
    (builtin : (Kind.ofName (String.ofList name)).isBuiltin = true) (whole : StandsWhole inner)
    (trimmed : Trimmed inner) (callLike : looksLikeCall inner = true) :
    Call.ofText nested (name ++ '(' :: (inner ++ [')'])) =
      match nested inner with
      | .ok tree =>
        .ok (.node (withDefaults ⟨Kind.ofName (String.ofList name), [], none, none⟩)
          [(.source, tree)])
      | .error fault => .error (fault.inNestedCall inner) := by
  rw [Call.ofText_call nested identifier whole trimmed callLike, positionalSlot, if_pos builtin]

/-- Any other text that stands as the only argument goes to that slot itself, without its quotes if the
call is not one of a builtin. -/
theorem Call.ofText_single (nested : List Char → Except Fault Call) (identifier : isIdentifier name = true)
    (whole : StandsWhole inner) (trimmed : Trimmed inner) (nonempty : inner ≠ [])
    (noCall : looksLikeCall inner = false)
    (onPayload : (Kind.ofName (String.ofList name)).isBuiltin = true → Path.looksLikePayload inner = true) :
    Call.ofText nested (name ++ '(' :: (inner ++ [')'])) =
      .ok (.node (withDefaults (fillSlot ⟨Kind.ofName (String.ofList name), [], none, none⟩
        (positionalSlot (Kind.ofName (String.ofList name)) 0)
        (String.ofList
          (if (Kind.ofName (String.ofList name)).isBuiltin then inner else unquote inner)))) []) := by
  have added : (Draft.ofName name).addPositional inner =
      .ok ⟨fillSlot ⟨Kind.ofName (String.ofList name), [], none, none⟩
        (positionalSlot (Kind.ofName (String.ofList name)) 0)
        (String.ofList (if (Kind.ofName (String.ofList name)).isBuiltin then inner else unquote inner)),
        [], 1⟩ := by
    cases builtin : (Kind.ofName (String.ofList name)).isBuiltin with
    | true => simp [Draft.addPositional, Draft.ofName, positionalSlot, fillSlot, builtin, noCall, onPayload builtin]
    | false => simp [Draft.addPositional, Draft.ofName, positionalSlot, fillSlot, builtin, noCall]
  rw [Call.ofText_whole nested identifier whole trimmed nonempty added]
  rfl

/-! ### One parenthesis deeper -/

def Scan.depth : Scan → Nat
  | outside depth => depth
  | inside _ _ => 0

/-- One parenthesis deeper the scan takes the same turns, but for parentheses in quoted strings and a
parenthesis that closes the text. -/
theorem Scan.step_deeper {scan : Scan} {c : Char} (noClose : (scan.step c).1 ≠ .close)
    (quoted : (scan.step c).1 = .quoted → c ≠ '(' ∧ c ≠ ')') :
    (outside (scan.depth + 1)).step c = (.nested, outside ((scan.step c).2.depth + 1)) := by
  have literal (mark : (scan.step c).1 = .quoted) (flat : scan.depth = 0)
      (stays : (scan.step c).2.depth = 0) :
      (outside (scan.depth + 1)).step c = (.nested, outside ((scan.step c).2.depth + 1)) := by
    obtain ⟨opens, closes⟩ := quoted mark
    rw [flat, stays, step, if_neg opens, if_neg closes]
  cases scan with
  | inside quote escaped =>
    cases escaped with
    | true => exact literal rfl rfl rfl
    | false =>
      apply literal
      · rw [step]
        repeat' split
        all_goals rfl
      · rfl
      · rw [step]
        repeat' split
        all_goals rfl
  | outside depth =>
    cases depth with
    | zero =>
      by_cases quote : isQuote c = true
      · have opened : (outside 0).step c = (.quoted, inside c false) := by rw [step, if_pos quote]
        exact literal (by rw [opened]) rfl (by rw [opened]; rfl)
      · rw [step, if_neg quote] at noClose ⊢
        rw [Scan.depth, step]
        split
        · rfl
        · split
          · rename_i closes
            rw [if_neg (by simp [closes]), if_pos closes] at noClose
            exact absurd rfl noClose
          · rfl
    | succ depth =>
      rw [Scan.depth, step, step]
      repeat' split
      all_goals rfl

theorem Scan.entries_deeper {scan : Scan}
    (closes : ∀ entry ∈ scan.entries text, entry.2 ≠ .close)
    (quoted : ∀ entry ∈ scan.entries text, entry.2 = .quoted → entry.1 ≠ '(' ∧ entry.1 ≠ ')') :
    (∀ entry ∈ (outside (scan.depth + 1)).entries text, entry.2 = .nested) ∧
      (outside (scan.depth + 1)).after text = outside ((scan.after text).depth + 1) := by
  induction text generalizing scan with
  | nil =>
    constructor
    · intro entry member
      cases member
    · rfl
  | cons c rest ih =>
    rw [entries_cons, List.forall_mem_cons] at closes quoted
    have here := step_deeper closes.1 quoted.1
    obtain ⟨nested, ends⟩ := ih closes.2 quoted.2
    rw [entries_cons, List.forall_mem_cons, after, after, here]
    exact ⟨⟨rfl, nested⟩, ends⟩

/-- A call whose own quoted strings hold no parentheses stands whole. -/
theorem standsWhole_of_quoted (identifier : isIdentifier (trim before) = true) (enclosed : Enclosed body)
    (quoted : ∀ entry ∈ Scan.start.entries body, entry.2 = .quoted → entry.1 ≠ '(' ∧ entry.1 ≠ ')') :
    StandsWhole (before ++ '(' :: (body ++ [')'])) := by
  have inert : ∀ c ∈ before, Scan.isInert c = true := by
    have absent {c : Char} (solid : isBlank c = false) (other : isKeyChar c = false) : c ∉ before :=
      notMem_of_identifier identifier solid other
    intro c member
    have double : c ≠ '"' := fun same => absent (c := '"') rfl rfl (same ▸ member)
    have single : c ≠ '\'' := fun same => absent (c := '\'') rfl rfl (same ▸ member)
    have opens : c ≠ '(' := fun same => absent (c := '(') rfl rfl (same ▸ member)
    have closes : c ≠ ')' := fun same => absent (c := ')') rfl rfl (same ▸ member)
    simp [Scan.isInert, isQuote, double, single, opens, closes]
  have noClose : ∀ entry ∈ Scan.start.entries body, entry.2 ≠ .close := by
    intro entry member close
    exact Scan.splitFirst?_eq_none_iff.mp enclosed.noClose entry member ⟨close, rfl⟩
  obtain ⟨nested, ends⟩ := Scan.entries_deeper noClose quoted
  rw [enclosed.balanced] at ends
  have opened : (Scan.outside 0).after before = .outside 0 := Scan.after_inert inert 0
  have marks : ∀ entry ∈ Scan.start.entries (before ++ '(' :: (body ++ [')'])),
      (entry.2 = .plain ∧ entry.1 ∈ before) ∨ entry.2 = .nested := by
    intro entry member
    rw [Scan.start, Scan.entries_append, opened, Scan.entries_cons, List.mem_append, List.mem_cons]
      at member
    rcases member with early | rfl | late
    · exact .inl ⟨Scan.entries_inert inert 0 entry early, Scan.mem_of_mem_entries early⟩
    · exact .inr rfl
    · change entry ∈ (Scan.outside 1).entries (body ++ [')']) at late
      have reached : (Scan.outside 1).after body = .outside 1 := ends
      rw [Scan.entries_append, reached, List.mem_append] at late
      rcases late with inner | last
      · exact .inr (nested entry inner)
      · rw [List.mem_singleton.mp last]
        exact .inr rfl
  have plain {sign : Char} (solid : isBlank sign = false) (other : isKeyChar sign = false) :
      splitAtSign? sign (before ++ '(' :: (body ++ [')'])) = none := by
    rw [splitAtSign?, Scan.splitFirst?_eq_none_iff]
    rintro entry member ⟨isPlain, isSign⟩
    rw [beq_iff_eq] at isSign
    rcases marks entry member with ⟨_, early⟩ | within
    · exact notMem_of_identifier identifier solid other (isSign ▸ early)
    · rw [isPlain] at within
      cases within
  refine ⟨⟨?_, ?_⟩, plain rfl rfl, plain rfl rfl, plain rfl rfl⟩
  · rw [Scan.splitFirst?_eq_none_iff]
    rintro entry member ⟨close, _⟩
    rcases marks entry member with ⟨isPlain, _⟩ | within
    · rw [close] at isPlain
      cases isPlain
    · rw [close] at within
      cases within
  · have reached : (Scan.outside 1).after body = .outside 1 := ends
    rw [Scan.start, Scan.after_append, opened, Scan.after]
    change (Scan.outside 1).after (body ++ [')']) = Scan.outside 0
    rw [Scan.after_append, reached]
    rfl

/-! ### A script of one line -/

theorem compile_statement {script : String} {operations : List Descriptor}
    (trimmed : Trimmed script.toList) (noBreak : '\n' ∉ script.toList)
    (statement : isComment script.toList = false) (compiled : compileLine script.toList = .ok operations) :
    compile script = .ok operations := by
  have nonempty : script.toList ≠ [] := by
    intro empty
    rw [empty] at statement
    cases statement
  rw [compile, lines_of_noBreak noBreak nonempty, compileLines, compileRaw, trim_eq_self trimmed,
    if_neg (by rw [statement]; decide), compiled]
  simp only [Except.mapError, ok_bind, compileLines, List.append_nil, pure_eq_ok]

theorem isComment_wrap (identifier : isIdentifier name = true) (inner : List Char) :
    isComment (name ++ '(' :: inner) = false := by
  cases name with
  | nil => cases identifier
  | cons c rest =>
    have noHash : c ≠ '#' := ne_of_keyChar (keyChar_of_isIdentifier identifier c List.mem_cons_self) rfl
    simp [isComment, noHash]

theorem compile_call {script : String} {operations : List Descriptor} (identifier : isIdentifier name = true)
    (noBreak : '\n' ∉ inner) (spelled : script.toList = name ++ '(' :: (inner ++ [')']))
    (compiled : compileLine (name ++ '(' :: (inner ++ [')'])) = .ok operations) :
    compile script = .ok operations := by
  have noBreakName : '\n' ∉ name := notMem_identifier identifier rfl
  apply compile_statement
  · rw [spelled]
    exact trimmed_wrap identifier inner
  · rw [spelled]
    simp [noBreakName, noBreak]
  · rw [spelled]
    exact isComment_wrap identifier _
  · rw [spelled, compiled]

end RecordFlow.Script
