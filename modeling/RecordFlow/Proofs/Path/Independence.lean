import RecordFlow.Proofs.Path.Descent

/-!
Two writes commute if their paths part at segments that cannot denote one slot: `writes_commute`. Each may
make the parents that the other needs, turn the same null into an object or pad the same array, but where
they part each fills a slot of its own (`writeFrom_put`), and slots may be filled in any order.
-/

namespace RecordFlow.Path

variable {place here there : Path} {segment counter : String} {rest segments others : List String}
  {tree content value : Json} {slot other : Slot}

/-- Digits of one number, such as `7` and `007`. -/
def SameNumber (segment counter : String) : Prop :=
  ∃ n, Text.natural? segment.toList = some n ∧ Text.natural? counter.toList = some n

/-- The rows agree on their first `k` segments and not on the next. -/
def PartAt (segments others : List String) (k : Nat) (segment counter : String) : Prop :=
  segments.take k = others.take k ∧ segments[k]? = some segment ∧ others[k]? = some counter ∧
    segment ≠ counter

/-- The rows part at segments that are not digits of one number. -/
inductive Independent : List String → List String → Prop where
  | fork {segment counter : String} {rest others : List String} (different : segment ≠ counter)
    (numbers : ¬SameNumber segment counter) : Independent (segment :: rest) (counter :: others)
  | deeper {segment : String} {rest others : List String} (apart : Independent rest others) :
    Independent (segment :: rest) (segment :: others)

theorem independent_of_part (noPrefix : ¬segments <+: others) (noExtension : ¬others <+: segments)
    (numbers : ∀ k segment counter, PartAt segments others k segment counter →
      ¬SameNumber segment counter) : Independent segments others := by
  induction segments generalizing others with
  | nil => exact absurd (List.nil_prefix) noPrefix
  | cons segment rest ih =>
    cases others with
    | nil => exact absurd (List.nil_prefix) noExtension
    | cons counter others =>
      by_cases same : segment = counter
      · subst same
        refine .deeper (ih ?_ ?_ ?_)
        · exact fun shorter => noPrefix ((List.prefix_cons_inj segment).mpr shorter)
        · exact fun longer => noExtension ((List.prefix_cons_inj segment).mpr longer)
        · rintro k one two ⟨agree, first, second, different⟩
          refine numbers (k + 1) one two ⟨?_, first, second, different⟩
          rw [List.take_succ_cons, List.take_succ_cons, agree]
      · exact .fork same (numbers 0 segment counter ⟨rfl, rfl, rfl, same⟩)

/-- Segments that are not digits of one number denote different slots everywhere. -/
theorem slot_ne_of_different (different : segment ≠ counter) (numbers : ¬SameNumber segment counter)
    (one : slot? segment tree = some slot) (two : slot? counter tree = some other) : slot ≠ other := by
  rintro rfl
  cases tree with
  | object fields =>
    cases one
    cases two
    exact different rfl
  | array items =>
    obtain ⟨i, first, rfl⟩ := Option.map_eq_some_iff.mp one
    obtain ⟨j, second, same⟩ := Option.map_eq_some_iff.mp two
    cases same
    exact numbers ⟨i, (Option.filter_eq_some_iff.mp first).1, (Option.filter_eq_some_iff.mp second).1⟩
  | null | bool | number | string => cases one

/-! ### One write beside another -/

theorem Slot.isOpen_put (other : Slot) (content : Json) (free : slot.IsOpen rest tree) :
    slot.IsOpen rest (other.put content tree) := by
  cases slot with
  | key name => trivial
  | index i =>
    cases tree with
    | array items =>
      cases other with
      | key name => exact free
      | index j =>
        have longer : items.length ≤ (storeItem items j content).length := by
          rw [length_storeItem]
          omega
        obtain inside | ⟨last, inside | ⟨word, near⟩⟩ := free
        · exact .inl (inside.trans_le longer)
        · exact .inl (inside.trans_le longer)
        · exact .inr ⟨last, .inr ⟨word, (Nat.sub_le_sub_left longer _).trans near⟩⟩
    | null | bool | number | string | object => exact free.elim

/-- Filling another slot does not show in what a write finds, except that it may end in a new null. -/
theorem Slot.get?_put_of_isOpen (content : Json) (apart : slot ≠ other) (free : slot.IsOpen rest tree) :
    rest = [] ∨ slot.get? (other.put content tree) = slot.get? tree := by
  cases held : slot.get? tree with
  | some child => exact .inr (get?_put_other content apart held)
  | none =>
    cases slot with
    | key name =>
      refine .inr ?_
      cases tree with
      | object fields =>
        cases other with
        | key next =>
          have different : next ≠ name := fun same => apart (by rw [same])
          exact (Fields.get?_insert_other content fields different).trans held
        | index j => exact held
      | null | bool | number | string | array => cases other <;> rfl
    | index i =>
      cases tree with
      | array items =>
        have outside : ¬i < items.length := (List.getElem?_eq_none_iff.mp held).not_gt
        exact .inl (free.resolve_left outside).1
      | null | bool | number | string | object => exact free.elim

/-- A write beside a slot that was filled is the write, and then the filling. -/
theorem writeFrom_put (place : Path) (value content : Json) (apart : slot ≠ other)
    (denoted : slot? segment tree = some slot) (free : slot.IsOpen rest tree) :
    writeFrom place value (segment :: rest) (other.put content tree) =
      (writeFrom place value (segment :: rest) tree).map fun after => other.put content after := by
  have denotedAfter : slot? segment (other.put content tree) = some slot := by
    rw [Slot.slot?_put, denoted]
  rw [writeFrom_of_isOpen place value denoted free,
    writeFrom_of_isOpen place value denotedAfter (Slot.isOpen_put other content free)]
  have below : writeFrom (place.child segment) value rest
        ((slot.get? (other.put content tree)).getD (.object [])) =
      writeFrom (place.child segment) value rest ((slot.get? tree).getD (.object [])) := by
    obtain rfl | same := Slot.get?_put_of_isOpen content apart free
    · rw [writeFrom, writeFrom]
    · rw [same]
  rw [below]
  simp only [Edit.map, Slot.put_comm apart]

/-! ### Writes in either order -/

theorem writeFrom_comm_fork {first second : Json} (solid : tree ≠ .null) (different : segment ≠ counter)
    (numbers : ¬SameNumber segment counter)
    (one : (writeFrom here first (segment :: rest) tree).failure = none)
    (two : (writeFrom there second (counter :: others) tree).failure = none) :
    ∃ final,
      writeFrom there second (counter :: others)
        (writeFrom here first (segment :: rest) tree).after = .done final ∧
      writeFrom here first (segment :: rest)
        (writeFrom there second (counter :: others) tree).after = .done final := by
  obtain ⟨slot, child, denoted, free, _, filled⟩ := exists_open_of_writeFrom solid one
  obtain ⟨other, content, denotedOther, freeOther, _, filledOther⟩ := exists_open_of_writeFrom solid two
  have apart : slot ≠ other := slot_ne_of_different different numbers denoted denotedOther
  refine ⟨slot.put child (other.put content tree), ?_, ?_⟩
  · rw [filled, Edit.after_done, writeFrom_put there second child apart.symm denotedOther freeOther,
      filledOther, Edit.map_done]
  · rw [filledOther, Edit.after_done, writeFrom_put here first content apart denoted free, filled,
      Edit.map_done, Slot.put_comm apart]

theorem writeFrom_comm {first second : Json} (apart : Independent segments others)
    (one : (writeFrom here first segments tree).failure = none)
    (two : (writeFrom there second others tree).failure = none) :
    ∃ final,
      writeFrom there second others (writeFrom here first segments tree).after = .done final ∧
      writeFrom here first segments (writeFrom there second others tree).after = .done final := by
  induction apart generalizing here there tree with
  | fork different numbers =>
    rw [writeFrom_entered here first _ _ tree] at one ⊢
    rw [writeFrom_entered there second _ _ tree] at two ⊢
    exact writeFrom_comm_fork (entered_ne_null tree) different numbers one two
  | @deeper segment rest others apart ih =>
    rw [writeFrom_entered here first _ _ tree] at one ⊢
    rw [writeFrom_entered there second _ _ tree] at two ⊢
    obtain ⟨slot, child, denoted, _, below, filled⟩ :=
      exists_open_of_writeFrom (entered_ne_null tree) one
    obtain ⟨_, content, same, _, belowOther, filledOther⟩ :=
      exists_open_of_writeFrom (entered_ne_null tree) two
    cases denoted.symm.trans same
    obtain ⟨final, left, right⟩ := ih (by rw [below, Edit.failure_done])
      (by rw [belowOther, Edit.failure_done])
    rw [below, Edit.after_done] at left
    rw [belowOther, Edit.after_done] at right
    have stays (entry : Json) : slot? segment (slot.put entry (entered tree)) = some slot := by
      rw [Slot.slot?_put, denoted]
    have holds (entry : Json) : slot.get? (slot.put entry (entered tree)) = some entry :=
      Slot.get?_put_self entry denoted
    refine ⟨slot.put final (entered tree), ?_, ?_⟩
    · rw [filled, Edit.after_done, writeFrom_of_get? there second others (stays child) (holds child),
        left, Edit.map_done, Slot.put_put]
    · rw [filledOther, Edit.after_done,
        writeFrom_of_get? here first rest (stays content) (holds content), right, Edit.map_done,
        Slot.put_put]

/-- Two writes that each go through, at paths of which neither leads on from the other and which do not
part at two texts of one number, go through in either order and leave the same tree. -/
theorem writes_commute {path other : Path} {first second tree : Json}
    (noPrefix : ¬path.segments <+: other.segments) (noExtension : ¬other.segments <+: path.segments)
    (numbers : ∀ k segment counter, PartAt path.segments other.segments k segment counter →
      ¬SameNumber segment counter)
    (one : (path.write first tree).failure = none) (two : (other.write second tree).failure = none) :
    ∃ final, other.write second (path.write first tree).after = .done final ∧
      path.write first (other.write second tree).after = .done final :=
  writeFrom_comm (independent_of_part noPrefix noExtension numbers) one two

theorem writes_commute_padded :
    (∀ k segment counter, PartAt ["rows", "3"] ["rows", "5"] k segment counter →
      ¬SameNumber segment counter) ∧
    ∃ final,
      write ⟨.payload, ["rows", "5"]⟩ (.bool false) (write ⟨.payload, ["rows", "3"]⟩ (.bool true)
        (.object [("rows", .array [])])).after = .done final ∧
      write ⟨.payload, ["rows", "3"]⟩ (.bool true) (write ⟨.payload, ["rows", "5"]⟩ (.bool false)
        (.object [("rows", .array [])])).after = .done final := by
  have numbers : ∀ k segment counter, PartAt ["rows", "3"] ["rows", "5"] k segment counter →
      ¬SameNumber segment counter := by
    rintro k segment counter ⟨-, first, second, different⟩ ⟨n, three, five⟩
    match k with
    | 0 =>
      cases first
      cases second
      exact different rfl
    | 1 =>
      cases first
      cases second
      exact absurd (three.trans five.symm) (by decide)
    | k + 2 => cases first
  exact ⟨numbers, writes_commute (by decide) (by decide) numbers rfl rfl⟩

end RecordFlow.Path
