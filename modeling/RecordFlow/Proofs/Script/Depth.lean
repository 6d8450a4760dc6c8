import RecordFlow.Proofs.Script.Wrapping

/-!
In the chain `f(g(...(x)...))` every call but the last is the only argument of another. Whatever the kinds of the
calls are, the chain compiles exactly if it has at most 33 of them (`compileLine_chain`): the text between the
parentheses of a call is read with one level less, and when no level is left the whole line is refused.
-/

namespace RecordFlow.Script

open Text

variable {source first : List Char} {names rest : List (List Char)}

/-! ### The line -/

/-- The calls with these names, each in the parentheses of the one before it, around a text. -/
def chainText (source : List Char) : List (List Char) → List Char
  | [] => source
  | name :: rest => name ++ '(' :: (chainText source rest ++ [')'])

/-- A text that a call of any kind takes as it is: a payload path without blanks, quotes and signs. -/
structure Innermost (source : List Char) : Prop where
  solid : ∀ c ∈ source, isBlank c = false ∧ isQuote c = false
  whole : StandsWhole source
  noCall : looksLikeCall source = false
  onPayload : Path.looksLikePayload source = true

theorem solid_chainText (solid : ∀ c ∈ source, isBlank c = false ∧ isQuote c = false)
    (identifiers : ∀ name ∈ names, isIdentifier name = true) :
    ∀ c ∈ chainText source names, isBlank c = false ∧ isQuote c = false := by
  induction names with
  | nil => exact solid
  | cons name rest ih =>
    obtain ⟨identifier, later⟩ := List.forall_mem_cons.mp identifiers
    intro c member
    rw [chainText, List.mem_append, List.mem_cons, List.mem_append, List.mem_singleton] at member
    rcases member with inName | rfl | inner | rfl
    · have keyChar := keyChar_of_isIdentifier identifier c inName
      have inert := isInert_of_keyChar keyChar
      simp only [Scan.isInert, Bool.and_eq_true, Bool.not_eq_true'] at inert
      exact ⟨isBlank_of_keyChar keyChar, inert.1.1⟩
    · exact ⟨rfl, rfl⟩
    · exact ih later c inner
    · exact ⟨rfl, rfl⟩

theorem trimmed_chainText (solid : ∀ c ∈ source, isBlank c = false ∧ isQuote c = false)
    (identifiers : ∀ name ∈ names, isIdentifier name = true) : Trimmed (chainText source names) :=
  trimmed_of_noBlank fun c member => (solid_chainText solid identifiers c member).1

theorem standsWhole_chainText (solid : ∀ c ∈ source, isBlank c = false ∧ isQuote c = false)
    (whole : StandsWhole source) (identifiers : ∀ name ∈ names, isIdentifier name = true) :
    StandsWhole (chainText source names) := by
  induction names with
  | nil => exact whole
  | cons name rest ih =>
    obtain ⟨identifier, later⟩ := List.forall_mem_cons.mp identifiers
    refine standsWhole_of_quoted (by rwa [trim_of_isIdentifier identifier]) (ih later).enclosed ?_
    intro entry member quoted
    have noQuote : ∀ c ∈ chainText source rest, isQuote c = false := fun c member =>
      (solid_chainText solid later c member).2
    exact absurd quoted (Scan.entries_noQuote noQuote 0 entry member)

theorem unquote_of_noQuote (noQuote : ∀ c ∈ source, isQuote c = false) : unquote source = source := by
  cases source with
  | nil => rfl
  | cons c rest =>
    have plain := noQuote c List.mem_cons_self
    simp [unquote, plain]

/-! ### The call tree -/

/-- The operation of a call whose only argument is the text, or a call whose result comes through that field. -/
def callOperation (kind : Kind) (input : String) (target : Option String) : Descriptor :=
  { fillSlot (withDefaults ⟨kind, [], none, none⟩) (positionalSlot kind 0) input with target }

theorem callOperation_kind (kind : Kind) (input : String) (target : Option String) :
    (callOperation kind input target).kind = kind := by
  cases kind <;> rfl

theorem withDefaults_fillSlot (kind : Kind) (input : String) :
    withDefaults (fillSlot ⟨kind, [], none, none⟩ (positionalSlot kind 0) input) =
      callOperation kind input none := by
  cases kind <;> rfl

/-- The call tree of a chain of calls of these kinds around the text. -/
def chainCall (source : String) : Kind → List Kind → Call
  | kind, [] => .node (callOperation kind source none) []
  | kind, next :: rest =>
    .node (withDefaults ⟨kind, [], none, none⟩) [(positionalSlot kind 0, chainCall source next rest)]

def kindOf (name : List Char) : Kind := Kind.ofName (String.ofList name)

/-- A chain is read exactly if there is a level for each of its calls. -/
theorem parse_chainText (innermost : Innermost source)
    (identifiers : ∀ name ∈ first :: rest, isIdentifier name = true) (levels : Nat) :
    Call.parse levels (chainText source (first :: rest)) =
      if rest.length < levels then
        .ok (chainCall (String.ofList source) (kindOf first) (rest.map kindOf))
      else .error (.nestingTooDeep maxNesting) := by
  induction rest generalizing first levels with
  | nil =>
    obtain ⟨identifier, -⟩ := List.forall_mem_cons.mp identifiers
    cases levels with
    | zero => rfl
    | succ levels =>
      have nonempty : source ≠ [] := by
        rintro rfl
        cases innermost.onPayload
      have same : unquote source = source := unquote_of_noQuote fun c member => (innermost.solid c member).2
      rw [chainText, chainText, parse_wrap identifier, Call.ofText_single _ identifier innermost.whole
        (trimmed_of_noBlank fun c member => (innermost.solid c member).1) nonempty innermost.noCall
        fun _ => innermost.onPayload, same, ite_self, withDefaults_fillSlot]
      exact (if_pos (Nat.succ_pos levels)).symm
  | cons second rest ih =>
    obtain ⟨identifier, later⟩ := List.forall_mem_cons.mp identifiers
    obtain ⟨secondIdentifier, -⟩ := List.forall_mem_cons.mp later
    cases levels with
    | zero => rfl
    | succ levels =>
      have callLike : looksLikeCall (chainText source (second :: rest)) = true :=
        looksLikeCall_of_identifier (by rwa [trim_of_isIdentifier secondIdentifier]) _
      rw [chainText, parse_wrap identifier, Call.ofText_call _ identifier
        (standsWhole_chainText innermost.solid innermost.whole later)
        (trimmed_chainText innermost.solid later) callLike, ih later levels]
      by_cases deep : rest.length < levels
      · rw [if_pos deep]
        exact (if_pos (Nat.succ_lt_succ deep)).symm
      · rw [if_neg deep]
        exact (if_neg fun below => deep (Nat.lt_of_succ_lt_succ below)).symm

/-! ### The operations -/

/-- The operations of a chain, the outermost first. The result of the second call goes through field `k`. -/
def chainDescriptors (source : String) (k : Nat) (target : Option String) : Kind → List Kind → List Descriptor
  | kind, [] => [callOperation kind source target]
  | kind, next :: rest =>
    callOperation kind (nestedField k) target :: chainDescriptors source (k + 1) (some (nestedField k)) next rest

theorem flatten_chainCall (source : String) (k : Nat) (target : Option String) (kind : Kind) (rest : List Kind) :
    { ((chainCall source kind rest).flatten k).outer with target } ::
        ((chainCall source kind rest).flatten k).inner.reverse =
      chainDescriptors source k target kind rest := by
  induction rest generalizing kind k target with
  | nil => rfl
  | cons next rest ih =>
    rw [chainDescriptors, ← ih, chainCall, Call.flatten]
    simp [flattenInputs, callOperation]

theorem target_chainCall (source : String) (k : Nat) (kind : Kind) (rest : List Kind) :
    ((chainCall source kind rest).flatten k).outer.target = none := by
  cases rest with
  | nil => rfl
  | cons next rest => cases kind <;> rfl

theorem operations_chainCall (source : String) (kind : Kind) (rest : List Kind) :
    ((chainCall source kind rest).flatten 0).operations.reverse = chainDescriptors source 0 none kind rest := by
  rw [← flatten_chainCall, ← target_chainCall source 0 kind rest, Flat.operations, List.reverse_append]
  rfl

theorem map_kind_chainDescriptors (source : String) (k : Nat) (target : Option String) (kind : Kind)
    (rest : List Kind) : (chainDescriptors source k target kind rest).map (·.kind) = kind :: rest := by
  induction rest generalizing kind k target with
  | nil => exact congrArg (· :: []) (callOperation_kind kind source target)
  | cons next rest ih => rw [chainDescriptors, List.map_cons, ih, callOperation_kind]

/-- The first argument of the operation is the text: its source if it is a builtin, the setting `arg0` else. -/
def RefersTo (operation : Descriptor) (text : String) : Prop :=
  if operation.kind.isBuiltin then operation.source = some text
  else operation.setting? "arg0" = some (.string text)

theorem refersTo_callOperation (kind : Kind) (input : String) (target : Option String) :
    RefersTo (callOperation kind input target) input := by
  cases kind <;> rfl

/-- Each operation of a chain writes where the one around it reads. -/
theorem chainDescriptors_wired (source : String) (k : Nat) (target : Option String) (kind : Kind)
    (rest : List Kind) {i : Nat} {operation : Descriptor}
    (here : (chainDescriptors source k target kind rest)[i]? = some operation) :
    operation.target = (if i = 0 then target else some (nestedField (k + (i - 1)))) ∧
      RefersTo operation (if i = rest.length then source else nestedField (k + i)) := by
  induction rest generalizing kind k target i with
  | nil =>
    cases i with
    | zero =>
      cases here
      exact ⟨rfl, refersTo_callOperation kind source target⟩
    | succ i => cases here
  | cons next rest ih =>
    cases i with
    | zero =>
      cases here
      exact ⟨rfl, refersTo_callOperation kind _ target⟩
    | succ i =>
      obtain ⟨writes, reads⟩ := ih (k + 1) (some (nestedField k)) next here
      have fields : k + 1 + i = k + (i + 1) := by omega
      constructor
      · rw [writes]
        cases i with
        | zero => rfl
        | succ i =>
          have field : k + 1 + i = k + (i + 1) := by omega
          simp only [Nat.add_sub_cancel, Nat.succ_ne_zero, if_false, field]
      · rw [fields] at reads
        simpa only [List.length_cons, Nat.add_right_cancel_iff] using reads

/-! ### Compiling the line -/

theorem innermost_path : Innermost "$.x".toList where
  solid := by simp [isBlank, isQuote]
  whole := ⟨⟨rfl, rfl⟩, rfl, rfl, rfl⟩
  noCall := rfl
  onPayload := rfl

/-- A chain around a path compiles exactly if it has at most 33 calls. It then yields one operation for each call,
the innermost first; the numbers of the fields count from the outermost. -/
theorem compileLine_chain {names : List (List Char)} (nonempty : names ≠ [])
    (identifiers : ∀ name ∈ names, isIdentifier name = true) :
    (names.length ≤ 33 → ∃ operations, compileLine (chainText "$.x".toList names) = .ok operations ∧
      operations.map (·.kind) = (names.map kindOf).reverse ∧
      ∀ i operation, operations.reverse[i]? = some operation →
        operation.target = (if i = 0 then none else some (nestedField (i - 1))) ∧
        RefersTo operation (if i + 1 = names.length then "$.x" else nestedField i)) ∧
    (33 < names.length →
      compileLine (chainText "$.x".toList names) = .error (.nestingTooDeep 32)) := by
  obtain ⟨first, rest, rfl⟩ := List.exists_cons_of_ne_nil nonempty
  rw [compileLine, parse_chainText innermost_path identifiers, String.ofList_toList]
  constructor
  · intro few
    refine ⟨_, congrArg (Except.map _) (if_pos few), ?_, ?_⟩
    · rw [← List.reverse_inj, List.reverse_reverse, ← List.map_reverse, operations_chainCall,
        map_kind_chainDescriptors, List.map_cons]
    · intro i operation here
      rw [operations_chainCall] at here
      obtain ⟨writes, reads⟩ := chainDescriptors_wired _ 0 none _ _ here
      simp only [Nat.zero_add, List.length_map] at writes reads
      refine ⟨writes, ?_⟩
      simpa only [List.length_cons, Nat.add_right_cancel_iff] using reads
  · intro many
    exact congrArg (Except.map _) (if_neg (Nat.not_lt.mpr (Nat.le_of_lt_succ many)))

/-- On the boundary, with calls of three sorts by turns: 33 calls compile, 34 do not. -/
theorem compileLine_chain_boundary :
    (∃ operations,
      compileLine (chainText "$.x".toList
        (List.replicate 11 ["lower".toList, "direct_assignment".toList, "f".toList]).flatten) = .ok operations ∧
      operations.map (·.kind) =
        (List.replicate 11 [.custom "f", .directAssignment, .lowercaseString]).flatten) ∧
    compileLine (chainText "$.x".toList
      ("g".toList :: (List.replicate 11 ["lower".toList, "direct_assignment".toList, "f".toList]).flatten)) =
        .error (.nestingTooDeep 32) := by
  have identifiers : ∀ name ∈ "g".toList ::
      (List.replicate 11 ["lower".toList, "direct_assignment".toList, "f".toList]).flatten,
      isIdentifier name = true := by
    decide
  constructor
  · obtain ⟨few, -⟩ := compileLine_chain (by decide) (List.forall_mem_cons.mp identifiers).2
    obtain ⟨operations, compiled, kinds, -⟩ := few (by decide)
    exact ⟨operations, compiled, kinds⟩
  · obtain ⟨-, many⟩ := compileLine_chain (by decide) identifiers
    exact many (by decide)

end RecordFlow.Script
