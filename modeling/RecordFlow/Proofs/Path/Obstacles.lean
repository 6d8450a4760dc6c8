import Mathlib.Data.Nat.Digits.Defs
import RecordFlow.Proofs.Path.Descent

/-!
A look-up goes through exactly if it does along every beginning of its path. If it fails it stops at one segment:
what stands before the segment leads to a tree (`StopsAt`), and the segment leads on to nothing there. The error
tells of that tree and of that segment, and of nothing else (`Error.TellsOf`); its place ends with the segment, or
before it if the tree has no children at all. `resolve_stops_at_one` says all of it.
-/

namespace RecordFlow.Path

variable {path : Path} {segment : String} {tree container value : Json} {error : Error} {i : Nat}

/-! ### Indices -/

/-- The segment is a row of decimal digits, and their number is below `2 ^ 64`. -/
structure Denotes (segment : String) (i : Nat) : Prop where
  nonempty : segment.toList ≠ []
  digits : ∀ c ∈ segment.toList, '0' ≤ c ∧ c ≤ '9'
  number : Nat.ofDigits 10 (segment.toList.reverse.map Text.digitValue) = i
  word : i < 2 ^ 64

theorem digitsValue_eq_ofDigits (digits : List Char) :
    Text.digitsValue digits = Nat.ofDigits 10 (digits.reverse.map Text.digitValue) := by
  rw [Text.digitsValue, ← List.foldr_reverse]
  induction digits.reverse with
  | nil => rfl
  | cons digit rest ih =>
    rw [List.foldr_cons, List.map_cons, Nat.ofDigits_cons, ih, Nat.add_comm, Nat.mul_comm]

theorem index?_eq_some_iff : index? segment = some i ↔ Denotes segment i := by
  have isDigit (c : Char) : c.isDigit = true ↔ '0' ≤ c ∧ c ≤ '9' := by
    simp [Char.isDigit, Char.le_def]
  unfold index? Text.natural?
  rw [Option.filter_eq_some_iff, Option.ite_none_right_eq_some, List.all_eq_true, decide_eq_true_eq,
    digitsValue_eq_ofDigits, Option.some.injEq]
  simp only [isDigit]
  constructor
  · rintro ⟨⟨⟨nonempty, digits⟩, number⟩, word⟩
    exact ⟨nonempty, digits, number, word⟩
  · rintro ⟨nonempty, digits, number, word⟩
    exact ⟨⟨⟨nonempty, digits⟩, number⟩, word⟩

/-! ### Beginnings of a path -/

/-- The path cut off after so many segments. -/
def upTo (path : Path) (depth : Nat) : Path := ⟨path.root, path.segments.take depth⟩

def Resolves (path : Path) (tree : Json) : Prop := ∃ value, path.resolve tree = .ok value

theorem upTo_length (path : Path) : path.upTo path.segments.length = path := by
  rw [upTo, List.take_length]

theorem upTo_succ (at? : path.segments[i]? = some segment) :
    path.upTo (i + 1) = (path.upTo i).child segment := by
  rw [upTo, List.take_add_one, at?]
  rfl

/-- Whoever comes to the end of a path has come through all of its beginnings. -/
theorem Resolves.upTo_of_le {depth deeper : Nat} (le : depth ≤ deeper)
    (through : (path.upTo deeper).Resolves tree) : (path.upTo depth).Resolves tree := by
  obtain ⟨value, found⟩ := through
  have cut : path.segments.take deeper =
      path.segments.take depth ++ (path.segments.take deeper).drop depth := by
    conv_lhs => rw [← List.take_append_drop depth (path.segments.take deeper)]
    rw [List.take_take, Nat.min_eq_left le]
  rw [resolve, upTo, cut, resolveFrom_append, bind_eq_ok_iff] at found
  obtain ⟨between, above, -⟩ := found
  exact ⟨between, above⟩

/-! ### The segment at which a look-up stops -/

/-- The segments before number `i` lead to the tree `reached`, and together with that one they lead nowhere. -/
structure StopsAt (path : Path) (tree : Json) (i : Nat) (segment : String) (reached : Json) : Prop where
  segment : path.segments[i]? = some segment
  reaches : (path.upTo i).resolve tree = .ok reached
  stops : ¬(path.upTo (i + 1)).Resolves tree

/-- The error of a look-up that segment number `i` of a path does not lead on from a tree: the tree has no such
name, the segment is no index or one past the end, or the tree has no children. -/
def Error.TellsOf (error : Error) (path : Path) (i : Nat) (segment : String) : Json → Prop
  | .object fields =>
    segment ∉ fields.map Prod.fst ∧ error = .keyNotFound segment (path.upTo (i + 1))
  | .array items =>
    (∀ k, ¬Denotes segment k) ∧ error = .invalidIndex segment (path.upTo (i + 1)) ∨
      ∃ k, Denotes segment k ∧ items.length ≤ k ∧
        error = .indexOutOfRange k items.length (path.upTo (i + 1))
  | bare => error = .notAContainer bare.kindName (path.upTo i)

theorem tellsOf_of_stuck (at? : path.segments[i]? = some segment)
    (stuck : Stuck (path.upTo i) segment container error) : error.TellsOf path i segment container := by
  have place := upTo_succ at?
  cases stuck with
  | noName absent => exact ⟨Fields.get?_eq_none_iff.mp absent, by rw [place]⟩
  | noIndex refused =>
    refine .inl ⟨fun k denotes => ?_, by rw [place]⟩
    rw [index?_eq_some_iff.mpr denotes] at refused
    cases refused
  | pastEnd index outside =>
    exact .inr ⟨_, index?_eq_some_iff.mp index, outside, by rw [place]⟩
  | noContainer bare =>
    cases container with
    | array | object => cases bare
    | null | bool | number | string => rfl

theorem childAt_of_stuck {place : Path} (stuck : Stuck place segment container error) :
    childAt place segment container = .error error := by
  cases stuck with
  | noName absent => rw [childAt, absent]
  | noIndex refused =>
    rw [childAt, indexAt, refused]
    rfl
  | pastEnd index outside =>
    rw [childAt, indexAt_eq_ok_iff.mpr index, ok_bind, List.getElem?_eq_none_iff.mpr outside]
  | noContainer bare =>
    cases container with
    | array | object => cases bare
    | null | bool | number | string => rfl

theorem exists_stopsAt (failed : path.resolve tree = .error error) :
    ∃ i segment reached, path.StopsAt tree i segment reached ∧ error.TellsOf path i segment reached := by
  obtain ⟨before, segment, rest, reached, cut, found, stuck⟩ := exists_stuck failed
  have at? : path.segments[before.length]? = some segment := by
    rw [cut, List.getElem?_append_right (Nat.le_refl _), Nat.sub_self]
    rfl
  have beginning : path.upTo before.length = ⟨path.root, before⟩ := by
    rw [upTo, cut, List.take_left]
  replace found : (path.upTo before.length).resolve tree = .ok reached := beginning ▸ found
  replace stuck : Stuck (path.upTo before.length) segment reached error := beginning ▸ stuck
  refine ⟨before.length, segment, reached, ⟨at?, found, ?_⟩, tellsOf_of_stuck at? stuck⟩
  rintro ⟨value, further⟩
  rw [upTo_succ at?, resolve_child, found, ok_bind, childAt_of_stuck stuck] at further
  cases further

theorem StopsAt.unique {j : Nat} {counter : String} {other : Json}
    (one : path.StopsAt tree i segment container) (two : path.StopsAt tree j counter other) : j = i := by
  by_contra different
  obtain before | behind := Nat.lt_or_gt_of_ne different
  · exact two.stops (Resolves.upTo_of_le before ⟨container, one.reaches⟩)
  · exact one.stops (Resolves.upTo_of_le behind ⟨other, two.reaches⟩)

theorem isPresent_lookup_iff :
    (path.lookup tree).isPresent = true ↔ ∃ value, path.resolve tree = .ok value ∧ value ≠ .null := by
  unfold lookup
  cases path.resolve tree with
  | ok value => simp [isPresent_ofTree]
  | error error => simp [Field.missing, Field.isPresent]

/-- A look-up goes through if it does along every beginning of the path, and otherwise stops at one segment, of
which its error tells. It is taken to find something if it goes through to something other than a null. -/
theorem resolve_stops_at_one (path : Path) (tree : Json) :
    (path.Resolves tree ↔ ∀ depth ≤ path.segments.length, (path.upTo depth).Resolves tree) ∧
    (∀ error, path.resolve tree = .error error →
      ∃ i segment reached, path.StopsAt tree i segment reached ∧
        error.TellsOf path i segment reached ∧
        ∀ j counter other, path.StopsAt tree j counter other → j = i) ∧
    ((path.lookup tree).isPresent = true ↔ ∃ value, path.resolve tree = .ok value ∧ value ≠ .null) := by
  refine ⟨⟨?_, ?_⟩, ?_, isPresent_lookup_iff⟩
  · intro through depth le
    rw [← upTo_length path] at through
    exact through.upTo_of_le le
  · intro each
    have whole := each path.segments.length (Nat.le_refl _)
    rwa [upTo_length] at whole
  · intro error failed
    obtain ⟨i, segment, reached, stops, tells⟩ := exists_stopsAt failed
    exact ⟨i, segment, reached, stops, tells, fun _ _ _ other => stops.unique other⟩

/-- The index `07` is past the end of an array of one element, and what stands after it does not count. -/
theorem resolve_stops_at_one_past_end :
    resolve ⟨.payload, ["rows", "07", "name"]⟩ (.object [("rows", .array [.bool true])]) =
        .error (.indexOutOfRange 7 1 ⟨.payload, ["rows", "07"]⟩) ∧
      StopsAt ⟨.payload, ["rows", "07", "name"]⟩ (.object [("rows", .array [.bool true])])
        1 "07" (.array [.bool true]) ∧
      Error.TellsOf (.indexOutOfRange 7 1 ⟨.payload, ["rows", "07"]⟩) ⟨.payload, ["rows", "07", "name"]⟩
        1 "07" (.array [.bool true]) := by
  have failed : resolve ⟨.payload, ["rows", "07", "name"]⟩ (.object [("rows", .array [.bool true])]) =
      .error (.indexOutOfRange 7 1 ⟨.payload, ["rows", "07"]⟩) := rfl
  have stops : StopsAt ⟨.payload, ["rows", "07", "name"]⟩ (.object [("rows", .array [.bool true])])
      1 "07" (.array [.bool true]) := ⟨rfl, rfl, by rintro ⟨_, ⟨⟩⟩⟩
  obtain ⟨i, segment, reached, one, tells, only⟩ := (resolve_stops_at_one _ _).2.1 _ failed
  cases only 1 "07" _ stops
  cases one.segment
  cases one.reaches
  exact ⟨failed, stops, tells⟩

end RecordFlow.Path
