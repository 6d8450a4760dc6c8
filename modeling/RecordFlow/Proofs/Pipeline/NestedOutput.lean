import RecordFlow.Proofs.Operation.Effects
import RecordFlow.Proofs.Pipeline.Batches
import RecordFlow.Proofs.Pipeline.NestedConversions
import RecordFlow.Proofs.Script.Joining
import RecordFlow.Proofs.Script.Origins

/-!
A line `outer(inner(x))` is two stages in a row, and the outer one reads the field that the inner one writes
to. Every line of a script uses the same field, and an operation that finds nothing where it reads takes the
whole payload. Still the outer operation reads what the inner one has made of this record, whatever an earlier
line has left behind (`nested_output_of_line`). The exceptions are calls that leave the record as it is: a
print, and a delete from where nothing lives (`input_after_idle`).
-/

namespace RecordFlow.Pipeline

open Operation Operation.Builtin Script Text

/-- The field of the outermost nested call of a line. -/
def nestedOutput : Path := ⟨.payload, ["nested_output"]⟩

/-- The line is a call around one other call, which stands where it reads from and itself reads from the
path. -/
structure Nests (line : List Char) (outer inner : Kind) (path : Path) : Prop where
  statement : isComment line = false
  read : ∃ outerCall innerCall text,
    Call.parse (maxNesting + 1) line = .ok (.node outerCall [(.source, .node innerCall [])]) ∧
      outerCall.kind = outer ∧ innerCall.kind = inner ∧ innerCall.source = some text ∧
      Path.parse text = .ok path

/-- A run through the stages leaves the record among others for the stage that comes next. -/
def Reaches {τ : Type} (sink : τ) (stages : List (Stage Unit τ)) (batch : List Record) (record : Record) : Prop :=
  ∃ produced, (run sink stages batch).result = .ok produced ∧ record ∈ produced

/-- What the inner operation makes of the record it stores in the field, a value for each successor, and that
is what the outer operation reads of them. -/
structure HandsOver (inner outer : Builtin) (origin : Record) (produced : List Record) : Prop where
  present : ∀ value ∈ inner.values (inner.input origin), value ≠ .null
  stored : produced.map (·.get nestedOutput) = (inner.values (inner.input origin)).map Field.ofTree
  read : produced.map outer.input = (inner.values (inner.input origin)).map Field.ofTree

variable {τ : Type} [Output τ] {line raw : List Char} {before after : List (List Char)} {outer inner : Kind}
  {path : Path} {sink : τ} {early : List (Stage Unit τ)} {batch produced : List Record} {record origin : Record}
  {first second : Builtin} {operations : List Descriptor} {stages : List (Stage Unit τ)} {script : String}

/-! ### The line -/

theorem nests_of_text (outerName innerName : String) (source : PlainPath)
    (onPayload : source.path.root = .payload) (outer : (Kind.ofName outerName).isBuiltin = true)
    (inner : (Kind.ofName innerName).isBuiltin = true) :
    Nests (outerName ++ "(" ++ innerName ++ "(" ++ source.text ++ "))").toList (Kind.ofName outerName)
      (Kind.ofName innerName) source.path := by
  have identifiers : ∀ name ∈ [outerName.toList, innerName.toList], isIdentifier name = true := by
    simp [isIdentifier_of_isBuiltin outer, isIdentifier_of_isBuiltin inner]
  have spelled : (outerName ++ "(" ++ innerName ++ "(" ++ source.text ++ "))").toList =
      chainText source.text.toList [outerName.toList, innerName.toList] := by
    simp [String.toList_append, chainText]
  have read := parse_chainText (source.innermost onPayload) identifiers (maxNesting + 1)
  have few : [innerName.toList].length < maxNesting + 1 := by simp [maxNesting]
  rw [if_pos few, ← spelled, List.map_singleton, chainCall, chainCall, kindOf, kindOf,
    String.ofList_toList, String.ofList_toList, String.ofList_toList] at read
  rw [positionalSlot, if_pos outer] at read
  refine ⟨?_, _, _, _, read, withDefaults_kind _, callOperation_kind _ _ _, ?_, source.reads⟩
  · rw [spelled]
    exact isComment_wrap (isIdentifier_of_isBuiltin outer) _
  · have reads := refersTo_callOperation (Kind.ofName innerName) source.text none
    rwa [RefersTo, callOperation_kind, if_pos inner] at reads

/-- A line that nests a call in another is an operation that writes to the field, then one that reads it. -/
theorem compileLine_of_nests (nests : Nests line outer inner path) :
    ∃ one two text, compileLine line = .ok [one, two] ∧ one.kind = inner ∧ two.kind = outer ∧
      one.source = some text ∧ Path.parse text = .ok path ∧ one.target = some (nestedField 0) ∧
      two.source = some (nestedField 0) := by
  obtain ⟨outerCall, innerCall, text, read, rfl, rfl, source, reads⟩ := nests.read
  refine ⟨{ innerCall with target := some (nestedField 0) },
    { outerCall with source := some (nestedField 0) }, text, ?_, rfl, rfl, source, reads, rfl, rfl⟩
  rw [compileLine, read]
  rfl

/-! ### The two stages -/

/-- The inner operation reads from the path and writes to the field, which the outer one reads. -/
structure Joined (inner outer : Builtin) (path : Path) : Prop where
  reads : inner.source? = some path
  writes : inner.target? = some nestedOutput
  takes : outer.source? = some nestedOutput

theorem exists_stages (listed : lines script.toList = before ++ raw :: after)
    (nests : Nests (trim raw) outer inner path) (compiled : compile script = .ok operations)
    (built : build builtinStage operations = .ok stages) :
    ∃ early first second late,
      stages = early ++ (.ofBuiltin first () : Stage Unit τ) :: .ofBuiltin second () :: late ∧
      (∃ earlier, compileLines 1 before = .ok earlier ∧ build builtinStage earlier = .ok early) ∧
      first.kind = inner ∧ second.kind = outer ∧ Joined first second path := by
  obtain ⟨one, two, text, line, oneKind, twoKind, asks, reads, writes, takes⟩ := compileLine_of_nests nests
  -- the descriptors of the lines before, of this line and of the lines after it
  rw [compile, listed, compileLines_append] at compiled
  obtain ⟨earlier, before, compiled⟩ := bind_eq_ok_iff.mp compiled
  obtain ⟨others, here, compiled⟩ := bind_eq_ok_iff.mp compiled
  cases compiled
  obtain ⟨own, statement, here⟩ := bind_eq_ok_iff.mp here
  obtain ⟨later, -, here⟩ := bind_eq_ok_iff.mp here
  cases here
  obtain ⟨comment, -⟩ | ⟨-, statement⟩ := compileRaw_eq_ok_iff.mp statement
  · rw [nests.statement] at comment
    cases comment
  rw [line] at statement
  cases statement
  -- the stages are built one by one, so those of the line are the two after the early ones
  rw [build, List.mapM_append] at built
  obtain ⟨early, builtEarly, built⟩ := bind_eq_ok_iff.mp built
  obtain ⟨row, builtRow, built⟩ := bind_eq_ok_iff.mp built
  cases built
  rw [List.cons_append, List.mapM_cons] at builtRow
  obtain ⟨firstStage, builtFirst, builtRow⟩ := bind_eq_ok_iff.mp builtRow
  obtain ⟨row, builtRest, builtRow⟩ := bind_eq_ok_iff.mp builtRow
  cases builtRow
  rw [List.cons_append, List.mapM_cons] at builtRest
  obtain ⟨secondStage, builtSecond, builtRest⟩ := bind_eq_ok_iff.mp builtRest
  obtain ⟨late, -, builtRest⟩ := bind_eq_ok_iff.mp builtRest
  cases builtRest
  obtain ⟨first, madeFirst, rfl⟩ := map_eq_ok_iff.mp builtFirst
  obtain ⟨second, madeSecond, rfl⟩ := map_eq_ok_iff.mp builtSecond
  refine ⟨early, first, second, late, rfl, ⟨earlier, before, builtEarly⟩,
    (endpoints_of_ofDescriptor madeFirst).1.trans oneKind,
    (endpoints_of_ofDescriptor madeSecond).1.trans twoKind, ?_⟩
  exact ⟨source?_of_ofDescriptor madeFirst asks reads,
    target?_of_ofDescriptor madeFirst writes (parse_nestedField 0),
    source?_of_ofDescriptor madeSecond takes (parse_nestedField 0)⟩

theorem origin_of_reaches (reached : Reaches sink (early ++ [(.ofBuiltin first () : Stage Unit τ)]) batch record) :
    ∃ origin produced, Reaches sink early batch origin ∧ first.successors origin = .ok produced ∧
      record ∈ produced := by
  obtain ⟨left, through, member⟩ := reached
  rw [(run_append sink early _ batch).1] at through
  obtain ⟨middle, passed, through⟩ := bind_eq_ok_iff.mp through
  rw [run_cons] at through
  split at through
  · rename_i made stepped
    have same : made = left := Except.ok.inj through
    subst same
    obtain ⟨_, account, -⟩ := Stage.yields_of_run stepped
    obtain ⟨origin, held, produced, one, inside⟩ := account.exists_origin member
    exact ⟨origin, produced, ⟨middle, passed, held⟩, one, inside⟩
  · cases through

theorem Joined.handsOver (joined : Joined first second path) (data : origin.isControl = false)
    (busy : ¬ Idle first.kind path origin) (through : first.successors origin = .ok produced) :
    HandsOver first second origin produced := by
  have active : first.handsOn origin = false :=
    Bool.eq_false_iff.mpr fun idle => busy ((handsOn_iff_idle joined.reads).mp idle)
  have stored := get_place_of_successors data active through
  rw [place_eq joined.writes] at stored
  have present : ∀ value ∈ first.values (first.input origin), value ≠ .null := fun _ => ne_null_of_values
  exact ⟨present, stored, map_input stored present joined.takes⟩

/-- What an earlier line has left in the field has no say in what the outer operation reads. -/
theorem Joined.map_input_of_agreeBut (joined : Joined first second path) {one other : Record}
    (agree : AgreeBut "nested_output" one other) (avoids : Avoids "nested_output" path)
    (present : (one.get path).isPresent = true) (noPrint : first.kind ≠ .sendStdout)
    (through : first.successors one = .ok produced) :
    ∃ others, first.successors other = .ok others ∧
      others.map second.input = produced.map second.input := by
  obtain ⟨others, goes⟩ := exists_successors agree avoids joined.reads present joined.writes through
  have found : (other.get path).isPresent = true := get_of_agreeBut agree avoids ▸ present
  have data : one.isControl = false ∧ other.isControl = false := by
    obtain ⟨_, _, _, rfl, rfl, -⟩ := agree
    exact ⟨rfl, rfl⟩
  have busy {record : Record} (present : (record.get path).isPresent = true) :
      ¬ Idle first.kind path record := by
    rintro (prints | ⟨-, absent⟩)
    · exact noPrint prints
    · rw [present] at absent
      cases absent
  have same := input_of_agreeBut agree avoids joined.reads present
  refine ⟨others, goes, ?_⟩
  rw [(joined.handsOver data.1 (busy present) through).read, (joined.handsOver data.2 (busy found) goes).read,
    same]

/-- Wherever a line nests a call in another, every record that comes to the outer stage comes from one that the
inner stage has taken. What the outer operation reads of it is what the inner one has made of that record and
stored in the field, and what the field held before makes no difference; only an inner call that leaves its
record as it is hands over nothing. -/
theorem nested_output_of_line (listed : lines script.toList = before ++ raw :: after)
    (nests : Nests (trim raw) outer inner path) (compiled : compile script = .ok operations)
    (built : build builtinStage operations = .ok stages) :
    ∃ early first second late,
      stages = early ++ (.ofBuiltin first () : Stage Unit τ) :: .ofBuiltin second () :: late ∧
      (∃ earlier, compileLines 1 before = .ok earlier ∧ build builtinStage earlier = .ok early) ∧
      first.kind = inner ∧ second.kind = outer ∧ Joined first second path ∧
      (∀ (sink : τ) batch record, Reaches sink (early ++ [(.ofBuiltin first () : Stage Unit τ)]) batch record →
        record.isControl = false →
          ∃ origin produced, Reaches sink early batch origin ∧ origin.isControl = false ∧
            first.successors origin = .ok produced ∧ record ∈ produced ∧
            (Idle inner path origin → record = origin) ∧
            (¬ Idle inner path origin → HandsOver first second origin produced ∧
              (record.get nestedOutput).isPresent = true ∧ second.input record = record.get nestedOutput)) ∧
      ∀ one other produced, AgreeBut "nested_output" one other → Avoids "nested_output" path →
        (one.get path).isPresent = true → inner ≠ .sendStdout → first.successors one = .ok produced →
          ∃ others, first.successors other = .ok others ∧
            others.map second.input = produced.map second.input := by
  obtain ⟨early, first, second, late, rfl, row, rfl, rfl, joined⟩ := exists_stages listed nests compiled built
  refine ⟨early, first, second, late, rfl, row, rfl, rfl, joined, ?_, ?_⟩
  · intro sink batch record reached data
    obtain ⟨origin, produced, reaches, through, member⟩ := origin_of_reaches reached
    have originData : origin.isControl = false := by
      cases origin with
      | data => rfl
      | control =>
        cases through
        rw [List.mem_singleton.mp member] at data
        cases data
    refine ⟨origin, produced, reaches, originData, through, member, ?_, ?_⟩
    · intro idle
      have passed := successors_of_handsOn ((handsOn_iff_idle joined.reads).mpr idle)
      rw [through] at passed
      cases passed
      exact List.mem_singleton.mp member
    · intro busy
      have handed := joined.handsOver originData busy through
      have present := isPresent_of_stored handed.stored handed.present member
      exact ⟨handed, present, input_of_present joined.takes present⟩
  · intro one other produced agree avoids present noPrint through
    exact joined.map_input_of_agreeBut agree avoids present noPrint through

/-- The first line leaves a value in the field; the second prints what its own inner call makes. -/
theorem nested_output_of_line_leftover : ∃ operations stages,
    compile "$.nested_output = $.b\nprint(lower($.a))" = .ok operations ∧
      build builtinStage operations = .ok stages ∧
      ∃ early first second late record,
        stages = early ++ Stage.ofBuiltin first () :: Stage.ofBuiltin second () :: late ∧
          Reaches ({} : Sink) early [.data (.object [("a", .string "A"), ("b", .string "B")]) .null]
            (.data (.object [("a", .string "A"), ("b", .string "B"), ("nested_output", .string "B")]) .null) ∧
          Reaches ({} : Sink) (early ++ [Stage.ofBuiltin first ()])
            [.data (.object [("a", .string "A"), ("b", .string "B")]) .null] record ∧
          second.input record = .ofTree (.string "a") := by
  have nests : Nests "print(lower($.a))".toList .sendStdout .lowercaseString ⟨.payload, ["a"]⟩ :=
    nests_of_text "print" "lower" ⟨"$.a", ⟨.payload, ["a"]⟩, rfl, List.all_eq_true.mp (by decide)⟩ rfl rfl rfl
  have listed : lines "$.nested_output = $.b\nprint(lower($.a))".toList =
      ["$.nested_output = $.b".toList] ++ "print(lower($.a))".toList :: [] := by
    simp only [String.reduceToList]
    rfl
  have trimmed : trim "print(lower($.a))".toList = "print(lower($.a))".toList := by
    simp only [String.reduceToList]
    rfl
  have compiled : compile "$.nested_output = $.b\nprint(lower($.a))" = .ok
      [⟨.directAssignment, [("id", .string "direct_assignment")], some "$.b", some "$.nested_output"⟩,
        ⟨.lowercaseString, [("id", .string "lowercase_string")], some "$.a", some "$.nested_output"⟩,
        ⟨.sendStdout, [("id", .string "send_stdout")], some "$.nested_output", none⟩] := by
    simp only [compile, String.reduceToList]
    rfl
  have built : build builtinStage
      [⟨.directAssignment, [("id", .string "direct_assignment")], some "$.b", some "$.nested_output"⟩,
        ⟨.lowercaseString, [("id", .string "lowercase_string")], some "$.a", some "$.nested_output"⟩,
        ⟨.sendStdout, [("id", .string "send_stdout")], some "$.nested_output", none⟩] = .ok
      [Stage.ofBuiltin (.assign "direct_assignment" ⟨.payload, ["b"]⟩ nestedOutput) (),
        Stage.ofBuiltin (.lowercase ⟨"lowercase_string", some ⟨.payload, ["a"]⟩, some nestedOutput⟩) (),
        Stage.ofBuiltin (.print ⟨"send_stdout", some nestedOutput, none⟩) ()] := rfl
  obtain ⟨early, first, second, late, row, ⟨earlier, before, builtEarly⟩, -, -, -, reads, -⟩ :=
    nested_output_of_line listed (trimmed.symm ▸ nests) compiled built
  have compiledBefore : compileLines 1 ["$.nested_output = $.b".toList] = .ok
      [⟨.directAssignment, [("id", .string "direct_assignment")], some "$.b", some "$.nested_output"⟩] := by
    simp only [String.reduceToList]
    rfl
  rw [compiledBefore] at before
  cases before
  have builtBefore : build builtinStage
      [⟨.directAssignment, [("id", .string "direct_assignment")], some "$.b", some "$.nested_output"⟩] = .ok
      [Stage.ofBuiltin (.assign "direct_assignment" ⟨.payload, ["b"]⟩ nestedOutput) ()] := rfl
  rw [builtBefore] at builtEarly
  cases builtEarly
  have inner := (List.cons.inj (List.cons.inj row).2).1
  have reached : Reaches ({} : Sink)
      ([Stage.ofBuiltin (.assign "direct_assignment" ⟨.payload, ["b"]⟩ nestedOutput) ()] ++
        [Stage.ofBuiltin first ()]) [.data (.object [("a", .string "A"), ("b", .string "B")]) .null]
      (.data (.object [("a", .string "A"), ("b", .string "B"), ("nested_output", .string "a")]) .null) := by
    rw [← inner]
    exact ⟨_, rfl, List.mem_cons_self⟩
  obtain ⟨origin, produced, -, -, -, -, -, handed⟩ := reads _ _ _ reached rfl
  obtain ⟨-, -, read⟩ := handed (by simp [Idle])
  exact ⟨_, _, compiled, built, _, first, second, late, _, row, ⟨_, rfl, List.mem_cons_self⟩, reached, read⟩

/-- A data record comes to the outer stage of the line without a value in the field, and the outer operation
reads the whole payload of it. -/
def ReadsWhole (script : String) (outer inner : Kind) (path : Path) (batch : List Record) : Prop :=
  ∃ operations first second record,
    compile script = .ok operations ∧
      build builtinStage operations = .ok [Stage.ofBuiltin first (), Stage.ofBuiltin second ()] ∧
      Nests script.toList outer inner path ∧ Reaches ({} : Sink) [Stage.ofBuiltin first ()] batch record ∧
      record.isControl = false ∧ second.source? = some nestedOutput ∧
      (record.get nestedOutput).isPresent = false ∧ second.input record = record.get .payload

/-- A print leaves the field alone, and so does a delete from where nothing lives. -/
theorem input_after_idle :
    ReadsWhole "lower(print($.a))" .lowercaseString .sendStdout ⟨.payload, ["a"]⟩
        [.data (.object [("a", .string "X")]) .null] ∧
      ReadsWhole "lower(delete($.b))" .lowercaseString .delete ⟨.payload, ["b"]⟩
        [.data (.object [("a", .string "X")]) .null] := by
  have printed : compile "lower(print($.a))" = .ok
      [⟨.sendStdout, [("id", .string "send_stdout")], some "$.a", some "$.nested_output"⟩,
        ⟨.lowercaseString, [("id", .string "lowercase_string")], some "$.nested_output", none⟩] := by
    simp only [compile, String.reduceToList]
    rfl
  have deleted : compile "lower(delete($.b))" = .ok
      [⟨.delete, [("id", .string "delete")], some "$.b", some "$.nested_output"⟩,
        ⟨.lowercaseString, [("id", .string "lowercase_string")], some "$.nested_output", none⟩] := by
    simp only [compile, String.reduceToList]
    rfl
  constructor
  · refine ⟨_, .print ⟨"send_stdout", some ⟨.payload, ["a"]⟩, some nestedOutput⟩,
      .lowercase ⟨"lowercase_string", some nestedOutput, none⟩, .data (.object [("a", .string "X")]) .null,
      printed, rfl, ?_, ⟨_, rfl, List.mem_cons_self⟩, rfl, rfl, rfl, rfl⟩
    exact nests_of_text "lower" "print" ⟨"$.a", ⟨.payload, ["a"]⟩, rfl, List.all_eq_true.mp (by decide)⟩
      rfl rfl rfl
  · refine ⟨_, .delete "delete" ⟨.payload, ["b"]⟩ nestedOutput,
      .lowercase ⟨"lowercase_string", some nestedOutput, none⟩, .data (.object [("a", .string "X")]) .null,
      deleted, rfl, ?_, ⟨_, rfl, List.mem_cons_self⟩, rfl, rfl, rfl, rfl⟩
    exact nests_of_text "lower" "delete" ⟨"$.b", ⟨.payload, ["b"]⟩, rfl, List.all_eq_true.mp (by decide)⟩
      rfl rfl rfl

end RecordFlow.Pipeline
