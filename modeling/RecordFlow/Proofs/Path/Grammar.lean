import RecordFlow.Path.Basic
import RecordFlow.Proofs.Text.Lines

/-!
A path text is a root, `$` or `meta.$`, followed by groups of a dot and a segment. Reading cuts a text where its
groups begin (`Groups.splitRoot?`), so it accepts the texts whose segments are not empty and tells the two ways to
fail apart; showing a path writes the groups again. `parse_follows_grammar` states both.
-/

namespace RecordFlow.Path

variable {root : Root} {segments : List (List Char)} {text : List Char} {path : Path}

/-! ### The grammar -/

/-- The text is a root followed by groups, each a dot and a segment without dots. -/
structure Groups (root : Root) (segments : List (List Char)) (text : List Char) : Prop where
  text_eq : text = root.token.toList ++ segments.flatMap ('.' :: ·)
  noDot : ∀ segment ∈ segments, '.' ∉ segment

/-- `$` or `meta.$`, or one of these followed by groups of a dot and a segment that is not empty. -/
def IsPathText (text : List Char) : Prop := ∃ root segments, Groups root segments text ∧ [] ∉ segments

/-- The text begins with `$.` or `meta.$.`, and behind one of the dots that follow the root stands nothing. -/
def HasEmptySegment (text : List Char) : Prop := ∃ root segments, Groups root segments text ∧ [] ∈ segments

theorem splitRoot?_token (root : Root) : splitRoot? root.token.toList = some (root, none) := by
  cases root <;> rfl

theorem splitRoot?_dot (root : Root) (rest : List Char) :
    splitRoot? (root.token.toList ++ '.' :: rest) = some (root, some rest) := by
  cases root <;> rfl

theorem exists_groups_of_splitRoot? {rest : Option (List Char)} (split : splitRoot? text = some (root, rest)) :
    ∃ segments, Groups root segments text := by
  have groups (rest : List Char) (same : text = root.token.toList ++ '.' :: rest) :
      Groups root (Text.piecesAt '.' rest) text :=
    ⟨by rw [Text.flatMap_piecesAt, same], fun _ member => Text.notMem_of_mem_piecesAt member⟩
  unfold splitRoot? at split
  split at split <;> cases split
  · exact ⟨[], rfl, List.forall_mem_nil _⟩
  · exact ⟨_, groups _ rfl⟩
  · exact ⟨[], rfl, List.forall_mem_nil _⟩
  · exact ⟨_, groups _ rfl⟩

/-- What cutting finds in the text, with the segments as they stand after the root. -/
theorem Groups.splitRoot? (groups : Groups root segments text) :
    Path.splitRoot? text = some (root, none) ∧ segments = [] ∨
      ∃ rest, Path.splitRoot? text = some (root, some rest) ∧ Text.piecesAt '.' rest = segments := by
  rw [groups.text_eq]
  cases segments with
  | nil => exact .inl ⟨by rw [List.flatMap_nil, List.append_nil, splitRoot?_token], rfl⟩
  | cons first others =>
    obtain ⟨here, later⟩ := List.forall_mem_cons.mp groups.noDot
    refine .inr ⟨first ++ others.flatMap ('.' :: ·), ?_, Text.piecesAt_append_flatMap here later⟩
    rw [List.flatMap_cons, List.cons_append, splitRoot?_dot]

/-! ### Reading -/

theorem parse_of_groups {text : String} (groups : Groups root segments (Text.trim text.toList)) :
    parse text =
      if [] ∈ segments then .error (.emptySegment (Text.trimmed text))
      else .ok ⟨root, segments.map String.ofList⟩ := by
  unfold parse
  obtain ⟨split, rfl⟩ | ⟨rest, split, rfl⟩ := groups.splitRoot?
  · simp only [split, List.not_mem_nil, if_false, List.map_nil]
  · simp only [split]
    rfl

theorem exists_parse_of_isPathText {text : String} (isPath : IsPathText (Text.trim text.toList)) :
    ∃ path, parse text = .ok path := by
  obtain ⟨root, segments, groups, full⟩ := isPath
  exact ⟨_, by rw [parse_of_groups groups, if_neg full]⟩

theorem parse_of_hasEmptySegment {text : String} (empty : HasEmptySegment (Text.trim text.toList)) :
    parse text = .error (.emptySegment (Text.trimmed text)) := by
  obtain ⟨root, segments, groups, empty⟩ := empty
  rw [parse_of_groups groups, if_pos empty]

theorem parse_of_neither {text : String} (noPath : ¬IsPathText (Text.trim text.toList))
    (noEmpty : ¬HasEmptySegment (Text.trim text.toList)) :
    parse text = .error (.invalidRoot (Text.trimmed text)) := by
  unfold parse
  cases split : Path.splitRoot? (Text.trim text.toList) with
  | none =>
    simp only [split]
    rfl
  | some parts =>
    obtain ⟨segments, groups⟩ := exists_groups_of_splitRoot? split
    by_cases empty : [] ∈ segments
    · exact absurd ⟨_, _, groups, empty⟩ noEmpty
    · exact absurd ⟨_, _, groups, empty⟩ noPath

theorem isPathText_of_parse {text : String} (read : parse text = .ok path) :
    IsPathText (Text.trim text.toList) := by
  by_contra noPath
  by_cases empty : HasEmptySegment (Text.trim text.toList)
  · rw [parse_of_hasEmptySegment empty] at read
    cases read
  · rw [parse_of_neither noPath empty] at read
    cases read

/-! ### Showing -/

theorem toList_text (path : Path) :
    path.text.toList = path.root.token.toList ++ (path.segments.map String.toList).flatMap ('.' :: ·) := by
  rw [Path.text, String.toList_append, String.toList_join, List.flatMap_map, List.flatMap_map]
  simp only [String.toList_append]
  rfl

theorem text_of_groups {text : String} (groups : Groups root segments text.toList) :
    (⟨root, segments.map String.ofList⟩ : Path).text = text := by
  rw [← String.toList_inj, toList_text, groups.text_eq, List.map_map]
  simp

theorem text_of_parse {text : String} (read : parse text = .ok path) : path.text = Text.trimmed text := by
  obtain ⟨root, segments, groups, full⟩ := isPathText_of_parse read
  rw [parse_of_groups groups, if_neg full] at read
  cases read
  refine text_of_groups ?_
  rwa [Text.trimmed, String.toList_ofList]

theorem parse_congr {first second : String} (same : Text.trimmed first = Text.trimmed second) :
    parse first = parse second := by
  have same : Text.trim first.toList = Text.trim second.toList := String.ofList_inj.mp same
  unfold parse
  rw [same]

/-- Blanks around a text do not count, and what is read is shown as the text without them. -/
theorem parse_text {text : String} (read : parse text = .ok path) : parse path.text = .ok path := by
  rw [← read]
  refine parse_congr ?_
  rw [text_of_parse read, Text.trimmed, Text.trimmed, String.toList_ofList,
    Text.trim_eq_self (Text.trimmed_trim _)]

/-- Reading accepts the path texts, says of every other text whether a segment is empty or the root is wrong, and
is undone by showing: a path is shown as the text it was read from, without the blanks around it. -/
theorem parse_follows_grammar (text : String) :
    ((∃ path, parse text = .ok path) ↔ IsPathText (Text.trim text.toList)) ∧
      (∀ error, parse text = .error error ↔
        HasEmptySegment (Text.trim text.toList) ∧ error = .emptySegment (Text.trimmed text) ∨
          ¬IsPathText (Text.trim text.toList) ∧ ¬HasEmptySegment (Text.trim text.toList) ∧
            error = .invalidRoot (Text.trimmed text)) ∧
      ∀ path, parse text = .ok path →
        path.text = Text.trimmed text ∧ parse path.text = .ok path ∧
          ∀ other again, parse other = .ok again →
            (path = again ↔ Text.trimmed text = Text.trimmed other) := by
  refine ⟨⟨fun ⟨path, read⟩ => isPathText_of_parse read, exists_parse_of_isPathText⟩, ?_, ?_⟩
  · intro error
    constructor
    · intro failed
      have noPath : ¬IsPathText (Text.trim text.toList) := fun isPath => by
        obtain ⟨path, read⟩ := exists_parse_of_isPathText isPath
        rw [read] at failed
        cases failed
      by_cases empty : HasEmptySegment (Text.trim text.toList)
      · rw [parse_of_hasEmptySegment empty] at failed
        cases failed
        exact .inl ⟨empty, rfl⟩
      · rw [parse_of_neither noPath empty] at failed
        cases failed
        exact .inr ⟨noPath, empty, rfl⟩
    · rintro (⟨empty, rfl⟩ | ⟨noPath, noEmpty, rfl⟩)
      · exact parse_of_hasEmptySegment empty
      · exact parse_of_neither noPath noEmpty
  · intro path read
    refine ⟨text_of_parse read, parse_text read, ?_⟩
    intro other again readAgain
    constructor
    · rintro rfl
      rw [← text_of_parse read, text_of_parse readAgain]
    · intro same
      rw [parse_congr same, readAgain] at read
      cases read
      rfl

/-- Dollar signs and blanks inside a path are kept, and a segment that trimming empties is refused. -/
theorem parse_follows_grammar_blanks :
    parse "\tmeta.$.$.a b\n" = .ok ⟨.metadata, ["$", "a b"]⟩ ∧
      (⟨.metadata, ["$", "a b"]⟩ : Path).text = "meta.$.$.a b" ∧
      parse "meta.$.$.a b" = .ok ⟨.metadata, ["$", "a b"]⟩ ∧
      parse "$.a. " = .error (.emptySegment "$.a.") := by
  have read : parse "\tmeta.$.$.a b\n" = .ok ⟨.metadata, ["$", "a b"]⟩ := rfl
  have empty : HasEmptySegment (Text.trim "$.a. ".toList) :=
    ⟨.payload, [['a'], []], ⟨rfl, by decide⟩, by decide⟩
  obtain ⟨-, -, shown⟩ := parse_follows_grammar "\tmeta.$.$.a b\n"
  obtain ⟨-, failed, -⟩ := parse_follows_grammar "$.a. "
  obtain ⟨text, again, -⟩ := shown _ read
  have text : (⟨.metadata, ["$", "a b"]⟩ : Path).text = "meta.$.$.a b" := text.trans rfl
  rw [text] at again
  exact ⟨read, text, again, (failed _).mpr (.inl ⟨empty, rfl⟩)⟩

end RecordFlow.Path
