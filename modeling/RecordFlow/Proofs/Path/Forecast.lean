import RecordFlow.Proofs.Path.Descent

/-!
Whether a write goes through, and the error that stops it, can be read off a look-up at the same path
before it: `write_forecast`. A missing name and a null are no obstacle, an index past the end of an array
is one unless it is the last segment and padding reaches it. The lengths and indices in this are those of
64-bit words, and `paddedLength?_exact` says that none of them wraps.
-/

namespace RecordFlow.Path

open Text (wordSize halfWord)

variable {place path : Path} {value tree : Json} {segment : String} {error : Error}

/-! ### Padding in words -/

/-- The successor of a word, unless it wraps. -/
def successor? (i : UInt64) : Option UInt64 := if i + 1 = 0 then none else some (i + 1)

/-- The length of an array that is padded for an index past its end, if the padding is not too long. -/
def paddedLength? (i length : UInt64) : Option UInt64 :=
  (successor? i).filter fun padded => padded - length ≤ .ofNat maxPadding

theorem toNat_ofNat_of_lt {n : Nat} (bound : n < wordSize) : (UInt64.ofNat n).toNat = n :=
  UInt64.toNat_ofNat_of_lt' bound

theorem successor?_ofNat {i : Nat} (bound : i < wordSize) :
    successor? (.ofNat i) = if i + 1 < wordSize then some (.ofNat (i + 1)) else none := by
  have sum : UInt64.ofNat i + 1 = .ofNat (i + 1) := (UInt64.ofNat_add i 1).symm
  rw [successor?, sum]
  by_cases fits : i + 1 < wordSize
  · have nonzero : UInt64.ofNat (i + 1) ≠ 0 := by
      intro zero
      have same := congrArg UInt64.toNat zero
      rw [toNat_ofNat_of_lt fits] at same
      cases same
    rw [if_neg nonzero, if_pos fits]
  · have last : i + 1 = wordSize := by omega
    rw [last, if_neg (Nat.lt_irrefl _)]
    rfl

/-- Words compute the length of a padded array as the integers do. -/
theorem paddedLength?_exact {i length : Nat} (bound : i < wordSize) (short : length < halfWord)
    (past : length ≤ i) :
    (paddedLength? (.ofNat i) (.ofNat length)).map UInt64.toNat =
      if (i : Int) + 1 - length ≤ maxPadding then some (i + 1) else none := by
  have half : halfWord + maxPadding < wordSize := by decide
  rw [paddedLength?, successor?_ofNat bound]
  by_cases fits : i + 1 < wordSize
  · have lengthBound : length < wordSize := by omega
    have order : UInt64.ofNat length ≤ .ofNat (i + 1) := by
      rw [UInt64.le_iff_toNat_le, toNat_ofNat_of_lt fits, toNat_ofNat_of_lt lengthBound]
      omega
    have difference : (UInt64.ofNat (i + 1) - .ofNat length).toNat = i + 1 - length := by
      rw [UInt64.toNat_sub_of_le _ _ order, toNat_ofNat_of_lt fits, toNat_ofNat_of_lt lengthBound]
    have test : UInt64.ofNat (i + 1) - .ofNat length ≤ .ofNat maxPadding ↔
        (i : Int) + 1 - length ≤ maxPadding := by
      rw [UInt64.le_iff_toNat_le, difference, toNat_ofNat_of_lt (by decide)]
      omega
    rw [if_pos fits, Option.filter_some]
    by_cases near : (i : Int) + 1 - length ≤ maxPadding
    · rw [if_pos near, if_pos (decide_eq_true (test.mpr near)), Option.map_some, toNat_ofNat_of_lt fits]
    · rw [if_neg near, if_neg (by rw [decide_eq_true_eq, test]; exact near), Option.map_none]
  · rw [if_neg fits, if_neg (by omega)]
    rfl

theorem reachable_iff {items : List Json} {i : Nat} (short : items.length < halfWord)
    (past : items.length ≤ i) :
    Reachable items i ↔ (i : Int) + 1 - items.length ≤ maxPadding := by
  have half : halfWord + maxPadding < wordSize := by decide
  unfold Reachable
  omega

/-! ### The forecast -/

/-- The error that will stop a write, by the outcome of a look-up at the same path. An error of an index
is placed at its segment, so it is one of the last segment if it is placed at the whole path. -/
def forecast (path : Path) : Except Error Json → Option Error
  | .ok _ => none
  | .error (.keyNotFound _ _) => none
  | .error (.notAContainer kind place) =>
    if kind = "null" then none else some (.notAContainer kind place)
  | .error (.indexOutOfRange i length place) =>
    if place = path then
      if (i : Int) + 1 - length ≤ maxPadding then none else some (.indexTooLarge i length place)
    else some (.indexOutOfRange i length place)
  | .error error => some error

theorem index?_lt {i : Nat} (index : index? segment = some i) : i < wordSize := by
  have kept := Option.filter_eq_some_iff.mp index
  exact of_decide_eq_true kept.2

theorem child_eq_descend_iff {rest : List String} :
    place.child segment = place.descend (segment :: rest) ↔ rest = [] := by
  simp [child, descend]

/-- Where a look-up is stuck, a write does what the forecast says. -/
theorem failure_writeFrom_of_stuck (value : Json) (rest : List String) (short : tree.IsShort)
    (stuck : Stuck place segment tree error) :
    (writeFrom place value (segment :: rest) tree).failure =
      forecast (place.descend (segment :: rest)) (.error error) := by
  cases stuck with
  | noName absent =>
    simp only [writeFrom, absent, Option.getD_none, Edit.failure_map, writeFrom_fresh]
    rfl
  | noIndex refused =>
    cases rest <;> simp only [writeFrom, indexAt, refused] <;> rfl
  | @pastEnd items i index outside =>
    have read : indexAt place segment = .ok i := indexAt_eq_ok_iff.mpr index
    have held : items[i]? = none := List.getElem?_eq_none_iff.mpr outside
    simp only [forecast, child_eq_descend_iff]
    cases rest with
    | nil =>
      have near := reachable_iff short outside
      rw [if_pos rfl]
      obtain ⟨_, refused, _⟩ | ⟨j, same, reach, goes⟩ | ⟨j, same, far, stops⟩ :=
        writeFrom_array_last place value segment items
      · rw [read] at refused; cases refused
      · rw [read] at same; cases same
        rw [goes, if_pos (near.mp reach)]; rfl
      · rw [read] at same; cases same
        rw [stops, if_neg (near.not.mp far)]; rfl
    | cons next rest =>
      simp only [writeFrom, read, held]
      rfl
  | noContainer bare =>
    cases tree with
    | array | object => cases bare
    | null => rw [writeFrom_null]; rfl
    | bool | number | string => cases rest <;> rfl

theorem failure_write (path : Path) (value : Json) (short : tree.ShortArrays) :
    (path.write value tree).failure = path.forecast (path.resolve tree) := by
  obtain ⟨root, segments⟩ := path
  cases outcome : resolveFrom ⟨root, []⟩ segments tree with
  | ok old =>
    rw [resolve, outcome]
    exact writeFrom_done value outcome
  | error error =>
    obtain ⟨before, segment, rest, container, rfl, found, stuck⟩ := exists_stuck outcome
    have low : container.IsShort := (Json.throughout_iff.mp (throughout_of_resolveFrom short found)).1
    have told := failure_writeFrom_of_stuck value rest low stuck
    rw [resolve, outcome, write, writeFrom_append value _ found, Edit.failure_map, told]
    simp [descend]

/-- An index error placed at the whole path is one of the last segment, in an array that the rest of the
path leads to. -/
theorem exists_array {i length : Nat} {last : Path}
    (outcome : path.resolve tree = .error (.indexOutOfRange i length last)) (whole : last = path) :
    ∃ (parent : Path) (segment : String) (items : List Json), path = parent.child segment ∧
      parent.resolve tree = .ok (.array items) ∧ items.length = length ∧
      index? segment = some i ∧ length ≤ i := by
  obtain ⟨before, segment, rest, container, cut, found, stuck⟩ := exists_stuck outcome
  cases stuck with
  | @pastEnd items i index outside =>
    have ends : path = descend ⟨path.root, []⟩ (before ++ [segment]) := by
      rw [← whole]
      simp [descend, child]
    have parts : path.segments = before ++ [segment] := congrArg Path.segments ends
    refine ⟨⟨path.root, before⟩, segment, items, ?_, found, rfl, index, outside⟩
    rw [child, ← parts]

/-- A look-up foretells whether a write goes through and what stops it. An array that is written past its
end is padded with nulls, and its length is computed in words without wrapping. -/
theorem write_forecast (path : Path) (value : Json) {tree : Json} (short : tree.ShortArrays) :
    (path.write value tree).failure = path.forecast (path.resolve tree) ∧
    (path.isRoot = true → path.write value tree = .done value) ∧
    ∀ i length, path.resolve tree = .error (.indexOutOfRange i length path) →
      length ≤ i ∧ i < wordSize ∧
      (paddedLength? (.ofNat i) (.ofNat length)).map UInt64.toNat =
        (if (i : Int) + 1 - length ≤ maxPadding then some (i + 1) else none) ∧
      ((i : Int) + 1 - length ≤ maxPadding →
        ∃ (parent : Path) (segment : String) (items : List Json), path = parent.child segment ∧
          parent.resolve tree = .ok (.array items) ∧ items.length = length ∧
          parent.resolve (path.write value tree).after =
            .ok (.array (items ++ List.replicate (i - length) .null ++ [value]))) := by
  refine ⟨failure_write path value short, ?_, ?_⟩
  · intro root
    have empty : path.segments = [] := List.isEmpty_iff.mp root
    rw [write, empty, writeFrom]
  · intro i length outcome
    obtain ⟨parent, segment, items, rfl, found, rfl, index, past⟩ := exists_array outcome rfl
    have low : items.length < halfWord :=
      (Json.throughout_iff.mp (throughout_of_resolveFrom short found)).1
    refine ⟨past, index?_lt index, paddedLength?_exact (index?_lt index) low past, ?_⟩
    intro near
    refine ⟨parent, segment, items, rfl, found, rfl, ?_⟩
    have free : (Slot.index i).IsOpen [] (.array items) :=
      .inr ⟨rfl, (reachable_iff low past).mpr near⟩
    have denoted : slot? segment (.array items) = some (.index i) := by
      rw [slot?, index, Option.map_some]
    rw [write_child segment value found, Edit.after_map, resolve_write _ found,
      writeFrom_of_isOpen parent value denoted free, Edit.after_map, writeFrom, Slot.put,
      storeItem_of_le past]
    rfl

/-- The largest word is an index that no array can be padded for. -/
theorem write_forecast_largest_word :
    (Json.array [.null]).ShortArrays ∧
      (write ⟨.payload, ["18446744073709551615"]⟩ (.bool true) (.array [.null])).failure =
        some (.indexTooLarge 18446744073709551615 1 ⟨.payload, ["18446744073709551615"]⟩) := by
  have short : (Json.array [.null]).ShortArrays := by
    simp [Json.ShortArrays, Json.IsShort, halfWord]
  exact ⟨short, (write_forecast _ _ short).1.trans (by decide)⟩

end RecordFlow.Path
