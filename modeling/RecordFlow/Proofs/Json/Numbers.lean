import RecordFlow.Json.Reader
import RecordFlow.Proofs.Binary64.Finite
import RecordFlow.Proofs.Json.Nodes
import RecordFlow.Proofs.Json.Subtree
import RecordFlow.Proofs.Outcome

/-!
# Numbers of documents

The numbers of a tree that is read from a document are whole numbers of 64-bit words and finite doubles
(`numbersInRange_of_ofText?`): literals are read so, the machine only puts them where they belong, and the tree
of a node has no others.
-/

namespace RecordFlow

open Json Text

/-! ### Literals -/

namespace Json.Literal

variable {significand : Nat} {literal : Literal} {n : Number} {x : Binary64}

theorem absorb_lt (small : significand < wordSize) (digits : List Char) :
    (absorb significand digits).1 < wordSize := by
  induction digits generalizing significand with
  | nil => exact small
  | cons digit rest ih =>
    rw [absorb]
    split
    · rename_i next
      exact ih next
    · exact small

theorem inRange_signed (negative : Bool) (finite : x.isFinite) :
    (Number.float (if negative then x.neg else x)).InRange := by
  rw [Number.InRange]
  split
  · rwa [Binary64.isFinite_neg]
  · exact finite

theorem inRange_of_number? (read : literal.number? = some n) : n.InRange := by
  have small : (absorb 0 literal.whole).1 < wordSize := absorb_lt (by decide) literal.whole
  unfold number? at read
  dsimp only at read
  split at read
  · split at read
    · cases read
      rw [Number.InRange, minInt64, halfWord]
      omega
    split at read
    · rename_i bounded
      cases read
      rw [Number.InRange, minInt64, halfWord, wordSize] at *
      omega
    · cases read
      exact inRange_signed _ (Binary64.isFinite_of_isModest (Binary64.isModest_ofWord false small))
  · obtain ⟨x, parts, rfl⟩ := Option.map_eq_some_iff.mp read
    exact inRange_signed _ (Binary64.isFinite_of_ofParts? (absorb_lt small _) parts)

end Json.Literal

/-! ### Nodes -/

namespace Node

/-- All numbers of the node are in range. -/
inductive NumbersInRange : Node → Prop where
  | invalid : NumbersInRange invalid
  | refused : NumbersInRange refused
  | null : NumbersInRange null
  | bool (b : Bool) : NumbersInRange (bool b)
  | number {n : Number} (inRange : n.InRange) : NumbersInRange (number n)
  | string (s : String) : NumbersInRange (string s)
  | array {items : List Node} (all : ∀ item ∈ items, NumbersInRange item) : NumbersInRange (array items)
  | object {members : List (String × Node)} (all : ∀ member ∈ members, NumbersInRange member.2) :
      NumbersInRange (object members)

theorem inherited_numbersInRange :
    Inherited fun node tree => node.NumbersInRange → tree.NumbersInRange where
  null _ := throughout_null.mpr trivial
  bool _ _ := throughout_bool.mpr trivial
  number _
    | .number inRange => throughout_number.mpr inRange
  string _ _ := throughout_string.mpr trivial
  array
    | each, .array all => by
      refine throughout_array.mpr ⟨trivial, fun item member => ?_⟩
      obtain ⟨node, held, inherits⟩ := exists_of_forall₂_right each member
      exact inherits (all node held)
  object
    | each, .object all => by
      refine throughout_object.mpr ⟨trivial, fun field member => ?_⟩
      obtain ⟨entry, held, -, inherits⟩ := exists_of_forall₂_right each (Fields.mem_ofList member)
      exact inherits (all entry held)

end Node

/-! ### The machine -/

namespace Json

def Token.InRange : Token → Prop
  | number value => ∀ n ∈ value, n.InRange
  | _ => True

def Frame.InRange : Frame → Prop
  | array items => ∀ item ∈ items, item.NumbersInRange
  | object members _ _ => ∀ member ∈ members, member.2.NumbersInRange

structure Machine.InRange (machine : Machine) : Prop where
  stack : ∀ frame ∈ machine.stack, frame.InRange
  result : machine.result.NumbersInRange

variable {found tokens : List Token} {text : List Char} {machine after : Machine} {token : Token}
  {stack : List Frame} {node : Node}

theorem inRange_of_word? {letters : List Char} (is : word? letters = some token) : token.InRange := by
  unfold word? at is
  split at is <;> cases is <;> trivial

theorem inRange_of_punctuation? {c : Char} (is : punctuation? c = some token) : token.InRange := by
  unfold punctuation? at is
  split at is <;> cases is <;> trivial

theorem inRange_of_tokens? (before : ∀ token ∈ found, token.InRange)
    (read : tokens? found text = some tokens) : ∀ token ∈ tokens, token.InRange := by
  fun_induction tokens? found text with
  | case1 found =>
    cases read
    simpa using before
  | case2 _ _ _ _ ih => exact ih before read
  | case4 _ _ _ _ _ _ ih => exact ih (List.forall_mem_cons.mpr ⟨trivial, before⟩) read
  | case6 _ _ _ _ _ _ literal _ ih =>
    have inRange : (Token.number literal.number?).InRange := fun _ => Literal.inRange_of_number?
    exact ih (List.forall_mem_cons.mpr ⟨inRange, before⟩) read
  | case8 _ _ _ _ _ _ _ token is ih => exact ih (List.forall_mem_cons.mpr ⟨inRange_of_word? is, before⟩) read
  | case10 _ _ _ _ _ _ _ token is ih =>
    exact ih (List.forall_mem_cons.mpr ⟨inRange_of_punctuation? is, before⟩) read
  | case3 | case5 | case7 | case9 => cases read

namespace Machine

theorem inRange_within (inRange : node.NumbersInRange) : (within stack node).NumbersInRange := by
  unfold within
  split
  · exact inRange
  · exact .invalid

section Frames

variable (frames : ∀ frame ∈ stack, frame.InRange)

include frames

theorem inRange_put (inRange : node.NumbersInRange) : (put node stack).InRange := by
  cases stack with
  | nil => exact ⟨frames, inRange⟩
  | cons frame below =>
    obtain ⟨here, later⟩ := List.forall_mem_cons.mp frames
    cases frame with
    | array | object =>
      exact ⟨List.forall_mem_cons.mpr ⟨List.forall_mem_cons.mpr ⟨inRange, here⟩, later⟩, .null⟩

theorem inRange_closeArray? (closed : closeArray? stack = some after) : after.InRange := by
  unfold closeArray? at closed
  split at closed
  · cases closed
    obtain ⟨here, later⟩ := List.forall_mem_cons.mp frames
    refine inRange_put later (inRange_within (.array fun item member => ?_))
    exact here item (List.mem_reverse.mp member)
  · cases closed

theorem inRange_closeObject? (closed : closeObject? stack = some after) : after.InRange := by
  unfold closeObject? at closed
  split at closed
  · cases closed
    obtain ⟨here, later⟩ := List.forall_mem_cons.mp frames
    refine inRange_put later (inRange_within ?_)
    split
    · exact .object fun entry member => here entry (List.mem_reverse.mp member)
    · exact .invalid
  · cases closed

theorem inRange_value? (inRange : token.InRange) (put : value? stack token = some after) :
    after.InRange := by
  cases token with
  | openArray =>
    cases put
    exact ⟨List.forall_mem_cons.mpr ⟨List.forall_mem_nil _, frames⟩, .null⟩
  | openObject =>
    cases put
    exact ⟨List.forall_mem_cons.mpr ⟨List.forall_mem_nil _, frames⟩, .null⟩
  | null =>
    cases put
    exact inRange_put frames .null
  | bool b =>
    cases put
    exact inRange_put frames (.bool b)
  | number value =>
    cases put
    refine inRange_put frames ?_
    cases value with
    | none => exact .invalid
    | some n => exact .number (inRange n rfl)
  | string value =>
    cases put
    refine inRange_put frames ?_
    cases value with
    | none => exact .invalid
    | some text => exact .string text
  | closeArray | closeObject | comma | colon => cases put

theorem inRange_name? (put : name? stack token = some after) : after.InRange := by
  unfold name? at put
  split at put
  · cases put
    obtain ⟨here, later⟩ := List.forall_mem_cons.mp frames
    exact ⟨List.forall_mem_cons.mpr ⟨here, later⟩, .null⟩
  · cases put

end Frames

/-- A step puts what the token holds, and otherwise only moves what is there. -/
theorem inRange_step? (before : machine.InRange) (inRange : token.InRange)
    (step : machine.step? token = some after) : after.InRange := by
  unfold step? at step
  split at step
  · exact inRange_value? before.stack inRange step
  · exact inRange_closeArray? before.stack step
  · exact inRange_value? before.stack inRange step
  · exact inRange_closeObject? before.stack step
  · exact inRange_name? before.stack step
  · exact inRange_name? before.stack step
  · cases step
    exact ⟨before.stack, .null⟩
  · exact inRange_closeArray? before.stack step
  · exact inRange_closeObject? before.stack step
  · have frames := before.stack
    split at step
    · rename_i stack
      cases step
      rw [stack] at frames
      exact ⟨frames, .null⟩
    · rename_i stack
      cases step
      rw [stack] at frames
      obtain ⟨here, later⟩ := List.forall_mem_cons.mp frames
      exact ⟨List.forall_mem_cons.mpr ⟨here, later⟩, .null⟩
    · cases step
  · cases step

theorem inRange_run (before : machine.InRange) (inRange : ∀ token ∈ tokens, token.InRange)
    (run : tokens.foldlM step? machine = some after) : after.InRange := by
  induction tokens generalizing machine with
  | nil =>
    cases run
    exact before
  | cons token rest ih =>
    obtain ⟨here, later⟩ := List.forall_mem_cons.mp inRange
    rw [List.foldlM_cons] at run
    obtain ⟨next, step, run⟩ := Option.bind_eq_some_iff.mp run
    exact ih (inRange_step? before here step) later run

end Machine

theorem numbersInRange_of_node? {text : String} (read : node? text = some node) : node.NumbersInRange := by
  obtain ⟨tokens, cut, read⟩ := Option.bind_eq_some_iff.mp read
  obtain ⟨machine, run, read⟩ := Option.bind_eq_some_iff.mp read
  have start : (⟨.value, [], .null⟩ : Machine).InRange := ⟨List.forall_mem_nil _, .null⟩
  have whole := Machine.inRange_run start (inRange_of_tokens? (List.forall_mem_nil _) cut) run
  split at read
  · cases read
    exact whole.result
  · cases read

theorem numbersInRange_of_ofText? {text : String} {tree : Json} (read : ofText? text = some tree) :
    tree.NumbersInRange := by
  obtain ⟨node, isNode, read⟩ := Option.bind_eq_some_iff.mp read
  exact Node.inherited_numbersInRange.of_toJson? read (numbersInRange_of_node? isNode)

end Json

end RecordFlow
