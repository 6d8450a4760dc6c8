import Mathlib.Data.List.Induction
import RecordFlow.Proofs.Script.Origins

/-!
# The rules for the arguments of builtin operations

A builtin call is read exactly if its arguments obey four rules and the calls among them can be read by themselves
(`builtin_arguments`). The rules are checked argument by argument, before any call among them is looked at: where
they are broken, the first argument that breaks one is to blame, whatever is wrong with the nested calls.
-/

namespace RecordFlow.Script

open Text

variable {argument before after name text line : List Char} {arguments earlier later : List (List Char)}
  {draft draft' : Draft} {fault : Fault}

/-! ### The rules -/

/-- But for blanks around it, a key of letters, digits, underscores and hyphens. -/
def IsKey (text : List Char) : Prop := trim text ≠ [] ∧ ∀ c ∈ trim text, isKeyChar c = true

/-- Where a builtin operation may read: a call, the payload or a field of it. -/
def IsInput (argument : List Char) : Prop :=
  looksLikeCall argument = true ∨ argument = "$".toList ∨ "$.".toList <+: argument

structure ObeysRules (arguments : List (List Char)) : Prop where
  keys : ∀ argument ∈ arguments, ∀ before after, namedTexts? argument = some (before, after) → IsKey before
  /-- The target is no call. -/
  target : ∀ argument ∈ arguments, ∀ before after, splitAtSign? '=' argument = some (before, after) →
    trim before = "target".toList → looksLikeCall (trim after) = false
  single : arguments.countP isPositional ≤ 1
  input : ∀ argument ∈ arguments, isPositional argument = true → IsInput argument

/-- What is wrong with an argument that comes after the arguments `earlier`. -/
inductive Offends (earlier : List (List Char)) (argument : List Char) : Fault → Prop where
  | key {before after : List Char} (named : namedTexts? argument = some (before, after)) (unusable : ¬IsKey before) :
      Offends earlier argument (.invalidNamedArgument (String.ofList argument))
  | target {before after : List Char} (equals : splitAtSign? '=' argument = some (before, after))
      (key : trim before = "target".toList) (callLike : looksLikeCall (trim after) = true) :
      Offends earlier argument (.nestedCallNotAllowed "target")
  | second {other : List Char} (position : isPositional argument = true) (member : other ∈ earlier)
      (first : isPositional other = true) : Offends earlier argument (.positionalNotAllowed (String.ofList argument))
  | input (position : isPositional argument = true) (first : ∀ other ∈ earlier, isPositional other = false)
      (noInput : ¬IsInput argument) : Offends earlier argument (.invalidFirstPositional (String.ofList argument))

theorem isPositional_of_named (named : namedTexts? argument = some (before, after)) :
    isPositional argument = false := by
  rw [← Bool.not_eq_true, ← namedTexts?_eq_none_iff, named]
  exact nofun

theorem looksLikePayload_iff :
    Path.looksLikePayload argument = true ↔ argument = "$".toList ∨ "$.".toList <+: argument := by
  constructor
  · intro payload
    unfold Path.looksLikePayload at payload
    split at payload
    · exact .inl rfl
    · rename_i rest
      exact .inr ⟨rest, rfl⟩
    · cases payload
  · rintro (rfl | ⟨rest, rfl⟩) <;> rfl

/-! ### One argument -/

theorem namedParts_of_isKey (argument after : List Char) (isKey : IsKey before) :
    namedParts argument before after = .ok (String.ofList (trim before), trim after) := by
  obtain ⟨notEmpty, keyChars⟩ := isKey
  have usable : ((trim before).all isKeyChar) = true := List.all_eq_true.mpr keyChars
  simp [namedParts, notEmpty, usable]

theorem namedParts_of_not_isKey (argument after : List Char) (unusable : ¬IsKey before) :
    namedParts argument before after = .error (.invalidNamedArgument (String.ofList argument)) := by
  refine if_pos ?_
  by_contra usable
  rw [not_or, Bool.not_eq_true', Bool.not_eq_false, List.all_eq_true] at usable
  exact unusable usable

theorem not_offends_of_named (named : namedTexts? argument = some (before, after)) (isKey : IsKey before)
    (target : ∀ before after, splitAtSign? '=' argument = some (before, after) → trim before = "target".toList →
      looksLikeCall (trim after) = false) (fault : Fault) : ¬Offends earlier argument fault := by
  intro offends
  cases offends with
  | key named' unusable =>
    rw [named, Option.some.injEq, Prod.mk.injEq] at named'
    exact unusable (named'.1 ▸ isKey)
  | target equals key callLike =>
    rw [target _ _ equals key] at callLike
    cases callLike
  | second position => exact absurd position (by simp [isPositional_of_named named])
  | input position => exact absurd position (by simp [isPositional_of_named named])

theorem not_offends_of_first (position : isPositional argument = true)
    (first : ∀ other ∈ earlier, isPositional other = false) (isInput : IsInput argument) (fault : Fault) :
    ¬Offends earlier argument fault := by
  intro offends
  cases offends with
  | key named => rw [namedTexts?_eq_none_iff.mpr position] at named; cases named
  | target equals => rw [(of_isPositional position).1] at equals; cases equals
  | second _ member another => rw [first _ member] at another; cases another
  | input _ _ noInput => exact noInput isInput

/-- What adding an argument to the draft of the arguments before it gives: it is refused as offending, or it
does not offend. -/
inductive Judged (earlier : List (List Char)) (argument : List Char) : Except Fault Draft → Prop where
  | refused {fault : Fault} (offends : Offends earlier argument fault) : Judged earlier argument (.error fault)
  | taken (draft : Draft) (obeys : ∀ fault, ¬Offends earlier argument fault) : Judged earlier argument (.ok draft)

theorem judged_equals (draft : Draft) (equals : splitAtSign? '=' argument = some (before, after)) :
    Judged earlier argument (draft.add argument) := by
  have named : namedTexts? argument = some (before, after) := by rw [namedTexts?, equals, Option.some_or]
  have same (before' after' : List Char) (other : splitAtSign? '=' argument = some (before', after')) :
      before' = before ∧ after' = after := by
    rw [equals, Option.some.injEq, Prod.mk.injEq] at other
    exact ⟨other.1.symm, other.2.symm⟩
  unfold Draft.add Argument.ofText
  rw [equals]
  dsimp only
  by_cases isKey : IsKey before
  · rw [namedParts_of_isKey argument after isKey, ok_bind]
    dsimp only
    split
    · rename_i callLike
      by_cases isTarget : trim before = "target".toList
      · rw [isTarget]
        exact .refused (.target equals isTarget callLike)
      · have notTarget : String.ofList (trim before) ≠ "target" := fun same =>
          isTarget (by rw [← same, String.toList_ofList])
        have obeys : ∀ fault, ¬Offends earlier argument fault := by
          refine not_offends_of_named named isKey ?_
          intro before' after' other key
          obtain ⟨rfl, rfl⟩ := same _ _ other
          exact absurd key isTarget
        rw [if_neg notTarget]
        split <;> exact .taken _ obeys
    · rename_i plain
      refine .taken _ (not_offends_of_named named isKey ?_)
      intro before' after' other _
      obtain ⟨rfl, rfl⟩ := same _ _ other
      exact Bool.not_eq_true _ ▸ plain
  · rw [namedParts_of_not_isKey argument after isKey, error_bind]
    exact .refused (.key named isKey)

theorem judged_colon (draft : Draft) (noEquals : splitAtSign? '=' argument = none)
    (colon : splitAtSign? ':' argument = some (before, after)) : Judged earlier argument (draft.add argument) := by
  have named : namedTexts? argument = some (before, after) := by rw [namedTexts?, noEquals, Option.none_or, colon]
  unfold Draft.add Argument.ofText
  rw [noEquals]
  dsimp only
  rw [colon]
  dsimp only
  by_cases isKey : IsKey before
  · rw [namedParts_of_isKey argument after isKey]
    refine .taken _ (not_offends_of_named named isKey ?_)
    intro before' after' other
    rw [noEquals] at other
    cases other
  · rw [namedParts_of_not_isKey argument after isKey]
    exact .refused (.key named isKey)

theorem judged_positional (builtin : draft.descriptor.kind.isBuiltin = true)
    (counted : draft.positional = earlier.countP isPositional) (position : isPositional argument = true) :
    Judged earlier argument (draft.add argument) := by
  obtain ⟨noEquals, noColon, -⟩ := of_isPositional position
  have added : draft.add argument = draft.addPositional argument := by
    simp only [Draft.add, Argument.ofText, noEquals, noColon, ok_bind]
  rw [added]
  unfold Draft.addPositional
  dsimp only
  rw [if_pos builtin, counted]
  split
  · rename_i notFirst
    obtain ⟨other, member, another⟩ := List.countP_pos_iff.mp notFirst
    exact .refused (.second position member another)
  · rename_i noOther
    have first (other : List Char) (member : other ∈ earlier) : isPositional other = false := by
      rw [Nat.not_lt, Nat.le_zero, List.countP_eq_zero] at noOther
      exact Bool.not_eq_true _ ▸ noOther other member
    split
    · rename_i callLike
      exact .taken _ (not_offends_of_first position first (.inl callLike))
    · rename_i plain
      split
      · rename_i payload
        exact .taken _ (not_offends_of_first position first (.inr (looksLikePayload_iff.mp payload)))
      · rename_i noPayload
        refine .refused (.input position first ?_)
        rintro (callLike | payload)
        · exact plain callLike
        · exact noPayload (looksLikePayload_iff.mpr payload)

theorem judged_add (builtin : draft.descriptor.kind.isBuiltin = true)
    (counted : draft.positional = earlier.countP isPositional) :
    Judged earlier argument (draft.add argument) := by
  cases equals : splitAtSign? '=' argument with
  | some parts => exact judged_equals draft equals
  | none =>
    cases colon : splitAtSign? ':' argument with
    | some parts => exact judged_colon draft equals colon
    | none => exact judged_positional builtin counted (by simp [isPositional, equals, colon])

/-! ### All arguments -/

theorem obeysRules_nil : ObeysRules [] where
  keys := List.forall_mem_nil _
  target := List.forall_mem_nil _
  single := Nat.zero_le 1
  input := List.forall_mem_nil _

/-- The rules may be checked from left to right. -/
theorem obeysRules_concat :
    ObeysRules (earlier ++ [argument]) ↔ ObeysRules earlier ∧ ∀ fault, ¬Offends earlier argument fault := by
  constructor
  · intro rules
    have last : argument ∈ earlier ++ [argument] := List.mem_append_right _ List.mem_cons_self
    have single := rules.single
    rw [List.countP_append] at single
    refine ⟨⟨fun other member => rules.keys other (List.mem_append_left _ member),
      fun other member => rules.target other (List.mem_append_left _ member), Nat.le_of_add_right_le single,
      fun other member => rules.input other (List.mem_append_left _ member)⟩, ?_⟩
    intro fault offends
    cases offends with
    | key named unusable => exact unusable (rules.keys _ last _ _ named)
    | target equals key callLike =>
      rw [rules.target _ last _ _ equals key] at callLike
      cases callLike
    | second position member first =>
      have another : 0 < earlier.countP isPositional := List.countP_pos_iff.mpr ⟨_, member, first⟩
      rw [List.countP_singleton, if_pos position] at single
      omega
    | input position _ noInput => exact noInput (rules.input _ last position)
  · rintro ⟨rules, obeys⟩
    have first (position : isPositional argument = true) : ∀ other ∈ earlier, isPositional other = false := by
      intro other member
      by_contra another
      exact obeys _ (.second position member (Bool.not_eq_false _ ▸ another))
    refine ⟨List.forall_mem_append.mpr ⟨rules.keys, List.forall_mem_singleton.mpr ?_⟩,
      List.forall_mem_append.mpr ⟨rules.target, List.forall_mem_singleton.mpr ?_⟩, ?_,
      List.forall_mem_append.mpr ⟨rules.input, List.forall_mem_singleton.mpr ?_⟩⟩
    · intro before after named
      by_contra unusable
      exact obeys _ (.key named unusable)
    · intro before after equals key
      by_contra callLike
      exact obeys _ (.target equals key (Bool.not_eq_false _ ▸ callLike))
    · rw [List.countP_append, List.countP_singleton]
      split
      · rename_i position
        rw [List.countP_eq_zero.mpr fun other member => by simp [first position other member]]
      · exact rules.single
    · intro position
      by_contra noInput
      exact obeys _ (.input position (first position) noInput)

theorem ObeysRules.of_append (rules : ObeysRules (earlier ++ later)) : ObeysRules earlier := by
  induction later using List.reverseRecOn with
  | nil => rwa [List.append_nil] at rules
  | append_singleton later argument ih =>
    rw [← List.append_assoc] at rules
    exact ih (obeysRules_concat.mp rules).1

/-- The first of the arguments to offend, and what is wrong with it. -/
def FirstOffence (arguments : List (List Char)) (fault : Fault) : Prop :=
  ∃ earlier argument later, arguments = earlier ++ argument :: later ∧ ObeysRules earlier ∧
    Offends earlier argument fault

theorem FirstOffence.not_obeysRules (offence : FirstOffence arguments fault) : ¬ObeysRules arguments := by
  obtain ⟨earlier, argument, later, rfl, -, offends⟩ := offence
  intro rules
  rw [List.append_cons] at rules
  exact (obeysRules_concat.mp rules.of_append).2 fault offends

/-- Builtin arguments are taken one after another, as long as they obey the rules. -/
theorem foldlM_add_cases (earlier arguments : List (List Char)) (builtin : draft.descriptor.kind.isBuiltin = true)
    (counted : draft.positional = earlier.countP isPositional) (rules : ObeysRules earlier) :
    (∃ fault, arguments.foldlM Draft.add draft = .error fault ∧ FirstOffence (earlier ++ arguments) fault) ∨
      (∃ draft', arguments.foldlM Draft.add draft = .ok draft') ∧ ObeysRules (earlier ++ arguments) := by
  induction arguments generalizing draft earlier with
  | nil => exact .inr ⟨⟨draft, rfl⟩, by rwa [List.append_nil]⟩
  | cons argument rest ih =>
    have judged : Judged earlier argument (draft.add argument) := judged_add builtin counted
    rw [List.foldlM_cons]
    cases added : draft.add argument with
    | error fault =>
      rw [added] at judged
      cases judged with
      | refused offends => exact .inl ⟨fault, rfl, earlier, argument, rest, rfl, rules, offends⟩
    | ok next =>
      rw [added] at judged
      cases judged with
      | taken _ obeys =>
        have adds := adds_of_add added
        rw [ok_bind, List.append_cons]
        refine ih _ (adds.kind ▸ builtin) ?_ (obeysRules_concat.mpr ⟨rules, obeys⟩)
        rw [adds.positional, counted, List.countP_append, List.countP_singleton]
        split <;> rfl

theorem draftOf_cases (builtin : (Kind.ofName (String.ofList name)).isBuiltin = true)
    (arguments : List (List Char)) :
    (∃ fault, draftOf name arguments = .error fault ∧ FirstOffence arguments fault) ∨
      (∃ draft, draftOf name arguments = .ok draft) ∧ ObeysRules arguments :=
  foldlM_add_cases [] arguments builtin rfl obeysRules_nil

/-! ### Calls -/

theorem pending_of_draftOf (drafted : draftOf name arguments = .ok draft) :
    draft.inputs.map Prod.snd = arguments.filterMap callText? := by
  obtain ⟨-, -, pending⟩ := foldlM_add drafted
  rw [pending]
  exact map_nestedArguments _ 0 arguments

variable {read : List Char → Except Fault Call} {levels depth : Nat}

theorem exists_ofText_iff (isCall : IsCall text name arguments) :
    (∃ tree, Call.ofText read text = .ok tree) ↔
      (∃ draft, draftOf name arguments = .ok draft) ∧
        ∀ call ∈ arguments.filterMap callText?, ∃ tree, read call = .ok tree := by
  constructor
  · rintro ⟨tree, isTree⟩
    obtain ⟨_, _, draft, inputs, isCall', drafted, matched, -⟩ := ofText_eq_ok_iff.mp isTree
    obtain ⟨rfl, rfl⟩ := isCall_unique isCall isCall'
    refine ⟨⟨draft, drafted⟩, ?_⟩
    intro call member
    rw [← pending_of_draftOf drafted] at member
    obtain ⟨pending, waits, rfl⟩ := List.mem_map.mp member
    obtain ⟨input, -, -, inner⟩ := exists_of_forall₂_left matched waits
    exact ⟨input.2, inner⟩
  · rintro ⟨⟨draft, drafted⟩, inner⟩
    rw [← pending_of_draftOf drafted] at inner
    have each : ∀ pending ∈ draft.inputs, ∃ input : Slot × Call,
        pending.1 = input.1 ∧ read pending.2 = .ok input.2 := by
      intro pending waits
      obtain ⟨tree, isTree⟩ := inner _ (List.mem_map_of_mem waits)
      exact ⟨(pending.1, tree), rfl, isTree⟩
    obtain ⟨inputs, matched⟩ := exists_forall₂_iff.mpr each
    exact ⟨_, ofText_eq_ok_iff.mpr ⟨name, arguments, draft, inputs, isCall, drafted, matched, rfl⟩⟩

/-- A fault of the arguments is found before any call among them is read. -/
theorem ofText_eq_error (isCall : IsCall text name arguments) (refused : draftOf name arguments = .error fault) :
    Call.ofText read text = .error fault := by
  obtain ⟨body, split, cut⟩ := isCall
  rw [ofText_eq, bind_eq_error_iff]
  refine .inr ⟨(name, body), split, bind_eq_error_iff.mpr (.inr ⟨arguments, cut, ?_⟩)⟩
  exact bind_eq_error_iff.mpr (.inl refused)

theorem parse_of_holdsCall (levels : Nat) (holds : HoldsCall line text) :
    ∃ finish : Call → Call, Call.parse (levels + 1) line = (Call.ofText (Call.parse levels) text).map finish := by
  obtain classified | ⟨target, classified⟩ := holds
  · refine ⟨id, ?_⟩
    rw [Call.parse, classified, ok_bind]
    dsimp only
    cases Call.ofText (Call.parse levels) text <;> rfl
  · refine ⟨Call.withTarget (String.ofList target), ?_⟩
    rw [Call.parse, classified, ok_bind]
    dsimp only
    cases Call.ofText (Call.parse levels) text <;> rfl

/-- The line compiles where it stands, at the given depth of nested calls. -/
def CompilesAt (depth : Nat) (line : List Char) : Prop :=
  ∃ tree, Call.parse (maxNesting + 1 - depth) line = .ok tree

theorem compilesAt_zero_iff : CompilesAt 0 line ↔ ∃ operations, compileLine line = .ok operations := by
  constructor
  · rintro ⟨tree, read⟩
    exact ⟨_, map_eq_ok_iff.mpr ⟨tree, read, rfl⟩⟩
  · rintro ⟨operations, compiled⟩
    obtain ⟨tree, read, -⟩ := map_eq_ok_iff.mp compiled
    exact ⟨tree, read⟩

/-- A builtin call, as deep as calls may nest, compiles exactly if its arguments obey the rules and the calls among
them compile one level further down. Where the rules are broken, the fault is that of the first argument to break
one. -/
theorem builtin_arguments (within : depth ≤ maxNesting) (holds : HoldsCall line text)
    (isCall : IsCall text name arguments) (builtin : (Kind.ofName (String.ofList name)).isBuiltin = true) :
    (CompilesAt depth line ↔
      ObeysRules arguments ∧ ∀ call ∈ arguments.filterMap callText?, CompilesAt (depth + 1) call) ∧
    (¬ObeysRules arguments →
      ∃ fault, FirstOffence arguments fault ∧ Call.parse (maxNesting + 1 - depth) line = .error fault) := by
  have levels : maxNesting + 1 - depth = maxNesting + 1 - (depth + 1) + 1 := by omega
  obtain ⟨finish, parsed⟩ := parse_of_holdsCall (maxNesting + 1 - (depth + 1)) holds
  rw [← levels] at parsed
  have compiles : CompilesAt depth line ↔
      ∃ tree, Call.ofText (Call.parse (maxNesting + 1 - (depth + 1))) text = .ok tree := by
    rw [CompilesAt, parsed]
    constructor
    · rintro ⟨_, finished⟩
      obtain ⟨tree, isTree, -⟩ := map_eq_ok_iff.mp finished
      exact ⟨tree, isTree⟩
    · rintro ⟨tree, isTree⟩
      exact ⟨_, map_eq_ok_iff.mpr ⟨tree, isTree, rfl⟩⟩
  rw [compiles, exists_ofText_iff isCall]
  obtain ⟨fault, refused, offence⟩ | ⟨drafted, rules⟩ := draftOf_cases builtin arguments
  · refine ⟨⟨?_, ?_⟩, ?_⟩
    · rintro ⟨⟨draft, drafted⟩, -⟩
      rw [refused] at drafted
      cases drafted
    · rintro ⟨rules, -⟩
      exact absurd rules offence.not_obeysRules
    · intro _
      exact ⟨fault, offence, parsed.trans (map_eq_error_iff.mpr (ofText_eq_error isCall refused))⟩
  · exact ⟨⟨fun inner => ⟨rules, inner.2⟩, fun inner => ⟨drafted, inner.2⟩⟩, fun broken => absurd rules broken⟩

/-- The nested call has a positional argument too many as well, but only that of the call around it is reported. The
colon within quotes does not count. -/
theorem builtin_arguments_second :
    FirstOffence ["lower($.a, $.b)".toList, "id=\"x:y\"".toList, "$.c".toList] (.positionalNotAllowed "$.c") ∧
      ¬∃ operations, compileLine "print(lower($.a, $.b), id=\"x:y\", $.c)".toList = .ok operations := by
  have holds : HoldsCall "print(lower($.a, $.b), id=\"x:y\", $.c)".toList
      "print(lower($.a, $.b), id=\"x:y\", $.c)".toList := .inl (by decide +kernel)
  have isCall : IsCall "print(lower($.a, $.b), id=\"x:y\", $.c)".toList "print".toList
      ["lower($.a, $.b)".toList, "id=\"x:y\"".toList, "$.c".toList] :=
    ⟨"lower($.a, $.b), id=\"x:y\", $.c".toList, by decide +kernel, by decide +kernel⟩
  have broken : ¬ObeysRules ["lower($.a, $.b)".toList, "id=\"x:y\"".toList, "$.c".toList] := by
    intro rules
    exact absurd rules.single (by decide +kernel)
  have failed : Call.parse (maxNesting + 1) "print(lower($.a, $.b), id=\"x:y\", $.c)".toList =
      .error (.positionalNotAllowed "$.c") := by
    simp only [String.reduceToList]
    rfl
  obtain ⟨compiles, blamed⟩ := builtin_arguments (Nat.zero_le maxNesting) holds isCall (by decide)
  obtain ⟨fault, offence, failed'⟩ := blamed broken
  rw [Nat.sub_zero, failed] at failed'
  cases failed'
  rw [← compilesAt_zero_iff]
  exact ⟨offence, fun compiled => broken (compiles.mp compiled).1⟩

end RecordFlow.Script
