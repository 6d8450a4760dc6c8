import RecordFlow.Proofs.Script.Wiring
import RecordFlow.Proofs.Script.Wrapping

/-!
# Calls as arguments

When the text of a call may be the argument of another: `compileLine_print`. It may if it stands whole,
and `standsWhole_of_ofText` says that it must.
-/

namespace RecordFlow.Script

open Text

variable {nested : List Char → Except Fault Call} {name before body text : List Char}

/-! ### Levels -/

theorem inputsLevels_le_iff {inputs : List (Slot × Call)} {n : Nat} :
    inputsLevels inputs ≤ n ↔ ∀ input ∈ inputs, input.2.levels ≤ n := by
  induction inputs with
  | nil => simp [inputsLevels]
  | cons input rest ih => rw [inputsLevels, Nat.max_le, ih, List.forall_mem_cons]

theorem levels_withTarget (target : String) (tree : Call) :
    (tree.withTarget target).levels = tree.levels := by
  cases tree with
  | node descriptor inputs => rfl

/-- What may be read as inputs may be read so by any other reading that agrees on them. -/
theorem ofText_congr {other : List Char → Except Fault Call} {tree : Call}
    (read : Call.ofText nested text = .ok tree)
    (agree : ∀ input ∈ tree.inputs, ∀ call, nested call = .ok input.2 → other call = .ok input.2) :
    Call.ofText other text = .ok tree := by
  obtain ⟨name, arguments, draft, inputs, isCall, added, matched, rfl⟩ := ofText_eq_ok_iff.mp read
  refine ofText_eq_ok_iff.mpr ⟨name, arguments, draft, inputs, isCall, added, ?_, rfl⟩
  rw [Call.inputs] at agree
  clear read added
  generalize draft.inputs = pending at matched
  induction matched with
  | nil => exact .nil
  | cons one _ ih =>
    obtain ⟨here, later⟩ := List.forall_mem_cons.mp agree
    exact .cons ⟨one.1, here _ one.2⟩ (ih later)

theorem parse_of_levels {n m : Nat} {line : List Char} {tree : Call}
    (read : Call.parse n line = .ok tree) (levels : tree.levels ≤ m) :
    Call.parse m line = .ok tree := by
  induction n generalizing m line tree with
  | zero => cases read
  | succ n ih =>
    cases m with
    | zero =>
      cases tree with
      | node descriptor inputs => exact absurd levels (Nat.not_succ_le_zero _)
    | succ m =>
      have again {text : List Char} {tree : Call} (read : Call.ofText (Call.parse n) text = .ok tree)
          (levels : tree.levels ≤ m + 1) : Call.ofText (Call.parse m) text = .ok tree := by
        refine ofText_congr read fun input member call inner => ih inner ?_
        cases tree with
        | node descriptor inputs =>
          exact inputsLevels_le_iff.mp (Nat.le_of_succ_le_succ levels) input member
      obtain ⟨shape, classified, read⟩ := bind_eq_ok_iff.mp read
      refine bind_eq_ok_iff.mpr ⟨shape, classified, ?_⟩
      cases shape with
      | directAssignment target source => exact read
      | callAssignment target text =>
        obtain ⟨inner, isTree, same⟩ := bind_eq_ok_iff.mp read
        cases same
        rw [levels_withTarget] at levels
        exact bind_eq_ok_iff.mpr ⟨inner, again isTree levels, rfl⟩
      | call text => exact again read levels

/-! ### What the outer call demands -/

theorem splitAtSign?_eq_some {sign : Char} {left right : List Char}
    (found : splitAtSign? sign text = some (left, right)) : text = left ++ sign :: right := by
  obtain ⟨c, same, _, isSign, _⟩ := Scan.splitFirst?_eq_some found
  rw [beq_iff_eq] at isSign
  rw [same, isSign]

theorem namedParts_of_opened {argument left : List Char} (opened : '(' ∈ left)
    (right : List Char) :
    namedParts argument left right = .error (.invalidNamedArgument (String.ofList argument)) := by
  have unusable : (trim left).all isKeyChar = false := by
    rw [List.all_eq_false]
    exact ⟨'(', mem_trim opened rfl, by decide⟩
  simp [namedParts, unusable]

/-- An argument that opens a parenthesis before any sign is positional or refused. -/
theorem signs_of_opened {rest : List Char} {form : Argument} (equals : '=' ∉ before)
    (colon : ':' ∉ before) (read : Argument.ofText (before ++ '(' :: rest) = .ok form) :
    splitAtSign? '=' (before ++ '(' :: rest) = none ∧
      splitAtSign? ':' (before ++ '(' :: rest) = none := by
  have refused {sign : Char} {left right : List Char} (absent : sign ∉ before)
      (different : sign ≠ '(') (found : splitAtSign? sign (before ++ '(' :: rest) = some (left, right)) :
      '(' ∈ left := by
    obtain ⟨more, rfl, _⟩ := eq_append_of_cut (splitAtSign?_eq_some found) absent different
    simp
  unfold Argument.ofText at read
  cases foundEquals : splitAtSign? '=' (before ++ '(' :: rest) with
  | some parts =>
    obtain ⟨left, right⟩ := parts
    rw [foundEquals] at read
    simp only [namedParts_of_opened (refused equals (by decide) foundEquals), error_bind] at read
    cases read
  | none =>
    cases foundColon : splitAtSign? ':' (before ++ '(' :: rest) with
    | some parts =>
      obtain ⟨left, right⟩ := parts
      simp only [foundEquals, foundColon,
        namedParts_of_opened (refused colon (by decide) foundColon), error_bind] at read
      cases read
    | none => exact ⟨rfl, rfl⟩

theorem splitCall_of_parse {levels : Nat} {tree : Call} (shape : Line.classify text = .ok (.call text))
    (read : Call.parse levels text = .ok tree) : ∃ name body, splitCall text = .ok (name, body) := by
  cases levels with
  | zero => cases read
  | succ levels =>
    obtain ⟨shape', classified, read⟩ := bind_eq_ok_iff.mp read
    rw [shape, Except.ok.injEq] at classified
    subst classified
    obtain ⟨name, _, _, _, ⟨body, split, _⟩, _⟩ := ofText_eq_ok_iff.mp read
    exact ⟨name, body, split⟩

theorem opened_unique {before' rest rest' : List Char}
    (same : before ++ '(' :: rest = before' ++ '(' :: rest') (absent : '(' ∉ before)
    (absent' : '(' ∉ before') : before = before' ∧ rest = rest' := by
  have cut := splitFirst?_append absent rest
  rw [same, splitFirst?_append absent' rest', Option.some.injEq, Prod.mk.injEq] at cut
  exact ⟨cut.1.symm, cut.2.symm⟩

/-- A first argument that opens a parenthesis before any sign, given to a builtin, is a call. -/
theorem nested_of_opened {rest : List Char} {arguments : List (List Char)} {draft : Draft}
    (identifier : isIdentifier (trim before) = true)
    (builtin : (Kind.ofName (String.ofList name)).isBuiltin = true)
    (added : ((before ++ '(' :: rest) :: arguments).foldlM Draft.add (Draft.ofName name) = .ok draft) :
    splitAtSign? '=' (before ++ '(' :: rest) = none ∧
      splitAtSign? ':' (before ++ '(' :: rest) = none ∧
      looksLikeCall (before ++ '(' :: rest) = true ∧
      ∃ others, draft.inputs = (.source, before ++ '(' :: rest) :: others := by
  obtain ⟨_, _, pending⟩ := foldlM_add added
  rw [List.foldlM_cons] at added
  obtain ⟨first, added, _⟩ := bind_eq_ok_iff.mp added
  obtain ⟨form, read, added⟩ := bind_eq_ok_iff.mp added
  obtain ⟨equals, colon⟩ := signs_of_opened (notMem_of_identifier identifier rfl rfl)
    (notMem_of_identifier identifier rfl rfl) read
  have positional : isPositional (before ++ '(' :: rest) = true := by
    simp [isPositional, equals, colon]
  simp only [Argument.ofText, equals, colon, Except.ok.injEq] at read
  subst read
  have noPayload : Path.looksLikePayload (before ++ '(' :: rest) = false := by
    have dollar : '$' ∉ before := notMem_of_identifier identifier rfl rfl
    cases before with
    | nil => cases identifier
    | cons c more =>
      rw [List.mem_cons, not_or] at dollar
      unfold Path.looksLikePayload
      split <;> simp_all
  have callLike : looksLikeCall (before ++ '(' :: rest) = true := by
    cases like : looksLikeCall (before ++ '(' :: rest) with
    | true => rfl
    | false =>
      simp [Draft.addPositional, Draft.ofName, builtin, like, noPayload] at added
  refine ⟨equals, colon, callLike, ?_⟩
  rw [pending, nestedArguments, nestedArgument?, equals]
  simp only [positional, callLike, positionalSlot, Draft.ofName, builtin]
  exact ⟨_, rfl⟩

/-- No call ends before a comma between the parentheses of a call, if it starts where that one does:
it would close a parenthesis that is not closed there. -/
theorem parse_ne_ok_of_comma {levels : Nat} {tree : Call} {more right : List Char}
    (identifier : isIdentifier (trim before) = true) (enclosed : Enclosed body)
    (comma : body ++ [')'] = more ++ ',' :: right) (trimmed : Trimmed (before ++ '(' :: trimEnd more))
    (callLike : looksLikeCall (before ++ '(' :: trimEnd more) = true) :
    Call.parse levels (before ++ '(' :: trimEnd more) ≠ .ok tree := by
  intro parsed
  have opens : '(' ∉ before := notMem_of_identifier identifier rfl rfl
  have equals : '=' ∉ before := notMem_of_identifier identifier rfl rfl
  obtain ⟨blanks, untrimmed, _⟩ := trimEnd_append more
  obtain ⟨inside, closes⟩ : ∃ inside, trimEnd more = inside ++ [')'] := by
    simp only [looksLikeCall, Bool.and_eq_true, beq_iff_eq] at callLike
    have last := callLike.2
    rw [List.getLast?_append, List.getLast?_cons, Option.some_or, Option.some.injEq] at last
    cases ends : (trimEnd more).getLast? with
    | none => rw [ends] at last; cases last
    | some c =>
      rw [ends, Option.getD_some] at last
      subst last
      exact List.getLast?_eq_some_iff.mp ends
  rw [closes] at trimmed parsed
  obtain ⟨name, body', split⟩ := splitCall_of_parse (classify_of_opened trimmed equals) parsed
  obtain ⟨before', same, absent', _, _, enclosed'⟩ := (splitCall_eq_ok_iff trimmed).mp split
  obtain ⟨rfl, sameInside⟩ := opened_unique same opens absent'
  have isInside := List.append_cancel_right sameInside
  subst isInside
  -- both texts close where the scan first closes
  have first := enclosed.splitFirst? []
  rw [comma, untrimmed, closes, List.append_assoc, List.append_assoc, List.singleton_append,
    enclosed'.splitFirst?] at first
  simp at first

/-- What a builtin reads as its only argument stands whole: a plain comma would make the text before it
the first argument. -/
theorem standsWhole_of_ofText {levels : Nat} {tree : Call} (identifier : isIdentifier name = true)
    (builtin : (Kind.ofName (String.ofList name)).isBuiltin = true)
    (innerIdentifier : isIdentifier (trim before) = true)
    (trimmed : Trimmed (before ++ '(' :: (body ++ [')']))) (enclosed : Enclosed body)
    (read : Call.ofText (Call.parse levels)
      (name ++ '(' :: (before ++ '(' :: (body ++ [')']) ++ [')'])) = .ok tree) :
    StandsWhole (before ++ '(' :: (body ++ [')'])) := by
  obtain ⟨name', arguments, draft, inputs, ⟨body', split, splitBody⟩, added, matched, _⟩ :=
    ofText_eq_ok_iff.mp read
  obtain ⟨before', same, absent', rfl, _, outer⟩ :=
    (splitCall_eq_ok_iff (trimmed_wrap identifier _)).mp split
  obtain ⟨rfl, sameBody⟩ := opened_unique same (notMem_identifier identifier rfl) absent'
  have isBody := List.append_cancel_right sameBody
  subst isBody
  rw [trim_of_isIdentifier identifier] at added
  obtain ⟨_, areArguments⟩ := splitArguments_eq_ok_iff.mp splitBody
  cases comma : splitAtSign? ',' (before ++ '(' :: (body ++ [')'])) with
  | none =>
    rw [Scan.stretches_eq_singleton comma, List.map_singleton, trim_eq_self trimmed,
      List.filter_cons_of_pos (by simp), List.filter_nil] at areArguments
    subst areArguments
    obtain ⟨equals, colon, _⟩ := nested_of_opened innerIdentifier builtin added
    exact ⟨outer, comma, equals, colon⟩
  | some parts =>
    exfalso
    obtain ⟨left, right⟩ := parts
    obtain ⟨more, rfl, rest⟩ := eq_append_of_cut (splitAtSign?_eq_some comma)
      (notMem_of_identifier innerIdentifier rfl rfl) (by decide)
    have first : trim (before ++ '(' :: more) = before ++ '(' :: trimEnd more := by
      refine trim_append_cons (fun c found => trimmed.first c ?_) rfl more
      rw [List.head?_append, found, Option.some_or]
    rw [Scan.stretches_eq_cons comma, List.map_cons, first, List.filter_cons_of_pos (by simp)]
      at areArguments
    subst areArguments
    obtain ⟨_, _, callLike, others, pending⟩ := nested_of_opened innerIdentifier builtin added
    rw [pending] at matched
    obtain ⟨_, _, ⟨_, parsed⟩, _, _⟩ := List.forall₂_cons_left_iff.mp matched
    exact parse_ne_ok_of_comma innerIdentifier enclosed rest (first ▸ trimmed_trim _) callLike parsed

/-! ### A call in a call -/

theorem listing_wrap (descriptor : Descriptor) (tree : Call) :
    ((Call.node descriptor [(.source, tree)]).flatten 0).operations =
      retargetLast (nestedField 0) (tree.listing fun k => nestedField (k + 1)) ++
        [{ descriptor with source := some (nestedField 0) }] := by
  have inner := (operations_flatten tree 1).1
  simp only [Nat.add_comm 1] at inner
  rw [← inner, Flat.operations, Flat.operations, retargetLast_concat, Call.flatten, flattenInputs]
  simp only [flattenInputs, List.append_assoc, List.singleton_append]
  rfl

/-- Printing the result of a call: the text of the call may be the argument of `print` exactly if it
stands whole, and does if no parenthesis is in one of its own quoted strings. Then its operations come
first, on fields numbered one higher and with the last one writing to the first field. -/
theorem compileLine_print {text : List Char} {operations : List Descriptor} (trimmed : Trimmed text)
    (shape : Line.classify text = .ok (.call text)) (compiled : compileLine text = .ok operations) :
    ∃ tree, Call.parse (maxNesting + 1) text = .ok tree ∧ tree.Spells text ∧
      operations = tree.listing nestedField ∧
      (tree.levels ≤ maxNesting →
        (StandsWhole text → compileLine ("print(".toList ++ text ++ ")".toList) =
          .ok (retargetLast "$.nested_output" (tree.listing fun k => nestedField (k + 1)) ++
            [⟨.sendStdout, [("id", .string "send_stdout")], some "$.nested_output", none⟩])) ∧
        (¬StandsWhole text →
          ∃ fault, compileLine ("print(".toList ++ text ++ ")".toList) = .error fault) ∧
        ∀ name body, splitCall text = .ok (name, body) →
          (∀ entry ∈ Scan.start.entries body, entry.2 = .quoted → entry.1 ≠ '(' ∧ entry.1 ≠ ')') →
            StandsWhole text) := by
  obtain ⟨tree, read, flattened⟩ := map_eq_ok_iff.mp compiled
  obtain ⟨name, body, split⟩ := splitCall_of_parse shape read
  obtain ⟨before, same, _, isName, identifier, enclosed⟩ := (splitCall_eq_ok_iff trimmed).mp split
  subst same isName
  have printed : "print(".toList ++ (before ++ '(' :: (body ++ [')'])) ++ ")".toList =
      "print".toList ++ '(' :: (before ++ '(' :: (body ++ [')']) ++ [')']) := by
    rw [show "print(".toList = "print".toList ++ ['('] from rfl, show ")".toList = [')'] from rfl]
    simp only [List.append_assoc, List.cons_append, List.nil_append]
  have identified : isIdentifier "print".toList = true := rfl
  rw [operations_eq_listing] at flattened
  refine ⟨tree, read, (spells_of_parse read).1, flattened.symm, fun levels => ⟨?_, ?_, ?_⟩⟩
  · intro whole
    have wrapped := Call.ofText_wrap (Call.parse maxNesting) identified rfl whole trimmed
      (looksLikeCall_of_identifier identifier body)
    rw [parse_of_levels read levels] at wrapped
    rw [printed, compileLine, parse_wrap identified, wrapped]
    exact congrArg Except.ok (listing_wrap _ tree)
  · intro notWhole
    rw [printed, compileLine, parse_wrap identified]
    cases outer : Call.ofText (Call.parse maxNesting)
        ("print".toList ++ '(' :: (before ++ '(' :: (body ++ [')']) ++ [')'])) with
    | error fault => exact ⟨fault, rfl⟩
    | ok outerTree =>
      exact absurd (standsWhole_of_ofText identified rfl identifier trimmed enclosed outer) notWhole
  · intro name' body' split' quoted
    rw [split, Except.ok.injEq, Prod.mk.injEq] at split'
    obtain ⟨_, rfl⟩ := split'
    exact standsWhole_of_quoted identifier enclosed quoted

theorem compileLine_print_quoted_comma : ∃ tree,
    Call.parse (maxNesting + 1) "split($.a, separator=\",\")".toList = .ok tree ∧
      compileLine ("print(".toList ++ "split($.a, separator=\",\")".toList ++ ")".toList) =
        .ok (retargetLast "$.nested_output" (tree.listing fun k => nestedField (k + 1)) ++
          [⟨.sendStdout, [("id", .string "send_stdout")], some "$.nested_output", none⟩]) := by
  have trimmed : Trimmed "split($.a, separator=\",\")".toList := trimmed_iff.mpr (by decide)
  have isTree : Call.parse (maxNesting + 1) "split($.a, separator=\",\")".toList =
      .ok (.node ⟨.splitString, [("id", .string "split_string"), ("separator", .string ",")],
        some "$.a", none⟩ []) := by
    simp only [String.reduceToList]
    rfl
  have split : splitCall "split($.a, separator=\",\")".toList =
      .ok ("split".toList, "$.a, separator=\",\"".toList) := by
    simp only [String.reduceToList]
    rfl
  have isCall : Line.classify "split($.a, separator=\",\")".toList =
      .ok (.call "split($.a, separator=\",\")".toList) := by
    simp only [String.reduceToList]
    rfl
  obtain ⟨tree, read, _, _, printed⟩ :=
    compileLine_print trimmed isCall (show compileLine _ = .ok _ by rw [compileLine, isTree]; rfl)
  rw [isTree, Except.ok.injEq] at read
  subst read
  obtain ⟨result, _, whole⟩ := printed (by decide)
  exact ⟨_, isTree, result (whole _ _ split (by decide))⟩

/-- A parenthesis in a quoted string of a call closes a parenthesis when the call is an argument, for
no quote opens there. -/
theorem compileLine_print_quoted_parenthesis :
    Trimmed "split($.a, separator=\")\")".toList ∧
      Line.classify "split($.a, separator=\")\")".toList =
        .ok (.call "split($.a, separator=\")\")".toList) ∧
      (∃ tree, Call.parse maxNesting "split($.a, separator=\")\")".toList = .ok tree) ∧
      compileLine "split($.a, separator=\")\")".toList = .ok
        [⟨.splitString, [("id", .string "split_string"), ("separator", .string ")")], some "$.a",
          none⟩] ∧
      compileLine ("print(".toList ++ "split($.a, separator=\")\")".toList ++ ")".toList) =
        .error (.unterminatedQuote '"' "print(split($.a, separator=\")\"))") := by
  refine ⟨trimmed_iff.mpr (by decide), ?_⟩
  simp only [String.reduceToList]
  exact ⟨rfl, ⟨_, rfl⟩, rfl, rfl⟩

end RecordFlow.Script
