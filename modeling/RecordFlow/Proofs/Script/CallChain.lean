import RecordFlow.Proofs.Operation.Conversion
import RecordFlow.Proofs.Path.Grammar
import RecordFlow.Proofs.Script.Assignment
import RecordFlow.Proofs.Script.Depth

/-!
# Chains of calls

A line that assigns `f(g(...(x)...))` to a path, for conversions by any of their names: what it compiles
to is `chainOperations` (`compile_assignmentText`).
-/

namespace RecordFlow.Script

open Text Operation

/-! ### The line -/

/-- A character of a plain path: no blank and nothing that the syntax of calls uses. -/
def isPlain (c : Char) : Bool :=
  !isBlank c && Scan.isInert c && c != ',' && c != '=' && c != ':'

/-- A path as a line may hold it anywhere. -/
structure PlainPath where
  text : String
  path : Path
  reads : Path.parse text = .ok path
  plain : ∀ c ∈ text.toList, isPlain c = true

/-- A conversion by one of its names. -/
structure NamedConversion where
  name : String
  conversion : Conversion
  named : Kind.ofName name = conversion.kind

def callText (source : String) : List NamedConversion → String
  | [] => source
  | call :: rest => call.name ++ "(" ++ callText source rest ++ ")"

variable {source : PlainPath} {first : NamedConversion} {rest : List NamedConversion}

theorem isPlain_iff {c : Char} : isPlain c = true ↔
    isBlank c = false ∧ Scan.isInert c = true ∧ c ≠ ',' ∧ c ≠ '=' ∧ c ≠ ':' := by
  simp [isPlain, and_assoc]

theorem PlainPath.isBlank_of_mem (source : PlainPath) {c : Char} (member : c ∈ source.text.toList) :
    isBlank c = false :=
  (isPlain_iff.mp (source.plain c member)).1

theorem PlainPath.isInert_of_mem (source : PlainPath) {c : Char} (member : c ∈ source.text.toList) :
    Scan.isInert c = true :=
  (isPlain_iff.mp (source.plain c member)).2.1

theorem isIdentifier_of_isBuiltin {name : String} (builtin : (Kind.ofName name).isBuiltin = true) :
    isIdentifier name.toList = true := by
  unfold Kind.ofName at builtin
  split at builtin
  all_goals first
    | rfl
    | cases builtin

theorem isIdentifier_name (call : NamedConversion) : isIdentifier call.name.toList = true :=
  isIdentifier_of_isBuiltin (by rw [call.named, Conversion.kind_isBuiltin])

theorem toList_callText_cons (source : String) (call : NamedConversion)
    (rest : List NamedConversion) : (callText source (call :: rest)).toList =
      call.name.toList ++ '(' :: ((callText source rest).toList ++ [')']) := by
  simp [callText]

theorem toList_callText (source : String) (calls : List NamedConversion) :
    (callText source calls).toList = chainText source.toList (calls.map (·.name.toList)) := by
  induction calls with
  | nil => rfl
  | cons call rest ih => rw [toList_callText_cons, ih, List.map_cons, chainText]

theorem isIdentifier_names (calls : List NamedConversion) :
    ∀ name ∈ calls.map (·.name.toList), isIdentifier name = true := by
  intro name member
  obtain ⟨call, -, rfl⟩ := List.mem_map.mp member
  exact isIdentifier_name call

theorem PlainPath.solid (source : PlainPath) :
    ∀ c ∈ source.text.toList, isBlank c = false ∧ isQuote c = false := by
  intro c member
  have inert := source.isInert_of_mem member
  simp only [Scan.isInert, Bool.and_eq_true, Bool.not_eq_true'] at inert
  exact ⟨source.isBlank_of_mem member, inert.1.1⟩

theorem solid_callText (source : PlainPath) (calls : List NamedConversion) :
    ∀ c ∈ (callText source.text calls).toList, isBlank c = false ∧ isQuote c = false := by
  rw [toList_callText]
  exact solid_chainText source.solid (isIdentifier_names calls)

theorem trimmed_callText (source : PlainPath) (calls : List NamedConversion) :
    Trimmed (callText source.text calls).toList :=
  trimmed_of_noBlank fun c member => (solid_callText source calls c member).1

theorem standsWhole_source (source : PlainPath) : StandsWhole source.text.toList := by
  have absent {sign : Char} (excluded : isPlain sign = false) :
      splitAtSign? sign source.text.toList = none := by
    apply splitAtSign?_of_notMem
    intro member
    have plain := source.plain sign member
    rw [excluded] at plain
    cases plain
  exact ⟨enclosed_of_inert fun c member => source.isInert_of_mem member, absent rfl, absent rfl, absent rfl⟩

/-! ### The operations -/

def chain (source : String) : NamedConversion → List NamedConversion → Call
  | first, [] =>
    .node ⟨first.conversion.kind, [("id", .string first.conversion.kind.name)], some source, none⟩ []
  | first, second :: rest =>
    .node ⟨first.conversion.kind, [("id", .string first.conversion.kind.name)], none, none⟩
      [(.source, chain source second rest)]

/-- The operations of calls around a source that write to a target; the result of the second call goes
through field `k`. -/
def chainOperations (source target : String) (k : Nat) :
    NamedConversion → List NamedConversion → List Descriptor
  | first, [] => [⟨first.conversion.kind, [("id", .string first.conversion.kind.name)], some source,
      some target⟩]
  | first, second :: rest =>
    chainOperations source (nestedField k) (k + 1) second rest ++
      [⟨first.conversion.kind, [("id", .string first.conversion.kind.name)], some (nestedField k),
        some target⟩]

theorem splitRoot?_of_parse {text : List Char} {path : Path} (trimmed : Trimmed text)
    (read : Path.parse (String.ofList text) = .ok path) :
    ∃ segments, Path.splitRoot? text = some (path.root, segments) := by
  obtain ⟨root, segments, groups, full⟩ := Path.isPathText_of_parse read
  rw [Path.parse_of_groups groups, if_neg full] at read
  cases read
  rw [String.toList_ofList, trim_eq_self trimmed] at groups
  obtain ⟨split, -⟩ | ⟨rest, split, -⟩ := groups.splitRoot? <;> exact ⟨_, split⟩

theorem PlainPath.trimmed (source : PlainPath) : Trimmed source.text.toList :=
  trimmed_of_noBlank fun _ member => source.isBlank_of_mem member

theorem PlainPath.looksLikePayload (source : PlainPath) (onPayload : source.path.root = .payload) :
    Path.looksLikePayload source.text.toList = true := by
  obtain ⟨segments, split⟩ := splitRoot?_of_parse source.trimmed
    (by rw [String.ofList_toList]; exact source.reads)
  rw [onPayload] at split
  unfold Path.splitRoot? at split
  unfold Path.looksLikePayload
  split at split <;> simp_all

theorem PlainPath.noCall (source : PlainPath) : looksLikeCall source.text.toList = false := by
  have opens : '(' ∉ source.text.toList := fun member => by
    cases source.isInert_of_mem member
  simp [looksLikeCall, opens]

theorem PlainPath.head_ne (target : PlainPath) :
    target.text.toList ≠ [] ∧ target.text.toList.head? ≠ some '#' := by
  obtain ⟨segments, split⟩ := splitRoot?_of_parse target.trimmed
    (by rw [String.ofList_toList]; exact target.reads)
  unfold Path.splitRoot? at split
  split at split <;> simp_all

theorem PlainPath.innermost (source : PlainPath) (onPayload : source.path.root = .payload) :
    Innermost source.text.toList where
  solid := source.solid
  whole := standsWhole_source source
  noCall := source.noCall
  onPayload := source.looksLikePayload onPayload

theorem chain_eq (source : String) (first : NamedConversion) (rest : List NamedConversion) :
    chain source first rest = chainCall source first.conversion.kind (rest.map (·.conversion.kind)) := by
  induction rest generalizing first with
  | nil =>
    rw [chain, List.map_nil, chainCall]
    cases first.conversion <;> rfl
  | cons second rest ih =>
    rw [chain, ih, List.map_cons, chainCall]
    cases first.conversion <;> rfl

theorem kindOf_name (call : NamedConversion) : kindOf call.name.toList = call.conversion.kind := by
  rw [kindOf, String.ofList_toList, call.named]

theorem ofText_callText (source : PlainPath) (onPayload : source.path.root = .payload) {levels : Nat}
    (few : rest.length ≤ levels) :
    Call.ofText (Call.parse levels) (callText source.text (first :: rest)).toList =
      .ok (chain source.text first rest) := by
  have spelled := toList_callText source.text (first :: rest)
  rw [List.map_cons] at spelled
  have kinds : (rest.map (·.name.toList)).map kindOf = rest.map (·.conversion.kind) := by
    rw [List.map_map]
    exact List.map_congr_left fun call _ => kindOf_name call
  have identifiers : ∀ name ∈ first.name.toList :: rest.map (·.name.toList), isIdentifier name = true :=
    isIdentifier_names (first :: rest)
  have read := parse_chainText (source.innermost onPayload) identifiers (levels + 1)
  rw [if_pos (by rw [List.length_map]; exact Nat.lt_succ_of_le few), kindOf_name, kinds,
    String.ofList_toList, ← chain_eq, ← spelled, toList_callText_cons,
    parse_wrap (isIdentifier_name first)] at read
  rw [toList_callText_cons, read]

theorem flatten_chain (source target : String) (k : Nat) (first : NamedConversion)
    (rest : List NamedConversion) :
    ((chain source first rest).flatten k).inner ++
        [{ ((chain source first rest).flatten k).outer with target := some target }] =
      chainOperations source target k first rest := by
  induction rest generalizing first target k with
  | nil => rfl
  | cons second rest ih =>
    rw [chain, Call.flatten, flattenInputs, chainOperations, ← ih]
    rfl

theorem operations_withTarget (source target : String) (k : Nat) (first : NamedConversion)
    (rest : List NamedConversion) :
    (((chain source first rest).withTarget target).flatten k).operations =
      chainOperations source target k first rest := by
  rw [← flatten_chain]
  cases rest with
  | nil => rfl
  | cons second rest => rfl

/-! ### Compiling the line -/

def assignmentText (source target : String) (calls : List NamedConversion) : String :=
  target ++ " = " ++ callText source calls

theorem toList_assignmentText (source target : String) (calls : List NamedConversion) :
    (assignmentText source target calls).toList =
      (target.toList ++ [' ']) ++ '=' :: (' ' :: (callText source calls).toList) := by
  have sign : " = ".toList = [' ', '=', ' '] := rfl
  rw [assignmentText, String.toList_append, String.toList_append, sign]
  simp only [List.append_assoc, List.cons_append, List.nil_append]

theorem classify_assignmentText (source target : PlainPath) :
    Line.classify (assignmentText source.text target.text (first :: rest)).toList =
      .ok (.callAssignment target.text.toList (callText source.text (first :: rest)).toList) := by
  have absent {c : Char} (excluded : isPlain c = false) (other : c ≠ ' ') :
      c ∉ target.text.toList ++ [' '] := by
    intro member
    rcases List.mem_append.mp member with inside | last
    · have plain := target.plain c inside
      rw [excluded] at plain
      cases plain
    · exact other (List.mem_singleton.mp last)
  have before : trim (target.text.toList ++ [' ']) = target.text.toList :=
    (trim_concat_blank rfl _).trans (trim_eq_self target.trimmed)
  have after : trim (' ' :: (callText source.text (first :: rest)).toList) =
      (callText source.text (first :: rest)).toList := by
    rw [trim_cons_blank rfl, trim_eq_self (trimmed_callText source _)]
  have opens : '(' ∈ (callText source.text (first :: rest)).toList := by
    rw [toList_callText_cons]
    simp
  have assigns := classify_assignment (absent rfl (by decide)) (absent rfl (by decide))
    (by rw [before]; exact target.head_ne.1) (List.mem_cons_of_mem ' ' opens)
  rw [toList_assignmentText, assigns, before, after]

theorem trimmed_assignmentText (source target : PlainPath) :
    Trimmed (assignmentText source.text target.text (first :: rest)).toList := by
  rw [toList_assignmentText]
  constructor
  · intro c found
    apply target.trimmed.first c
    rw [List.append_assoc, List.head?_append] at found
    cases head : target.text.toList.head? with
    | none => exact absurd (List.head?_eq_none_iff.mp head) target.head_ne.1
    | some d => rwa [head, Option.some_or] at found
  · intro c found
    have last : (callText source.text (first :: rest)).toList.getLast? = some ')' := by
      rw [toList_callText_cons, getLast?_opened]
    rw [List.getLast?_append, List.getLast?_cons, List.getLast?_cons, last] at found
    have same : some ')' = some c := found
    cases same
    rfl

theorem compile_assignmentText (source target : PlainPath) (onPayload : source.path.root = .payload)
    (few : rest.length ≤ maxNesting) :
    compile (assignmentText source.text target.text (first :: rest)) =
      .ok (chainOperations source.text target.text 0 first rest) := by
  have noBreak : '\n' ∉ (assignmentText source.text target.text (first :: rest)).toList := by
    intro member
    rw [toList_assignmentText] at member
    simp only [List.mem_append, List.mem_cons, List.not_mem_nil] at member
    rcases member with (inTarget | space | no) | sign | space | inCalls
    · cases target.isBlank_of_mem inTarget
    · cases space
    · exact no
    · cases sign
    · cases space
    · cases (solid_callText source _ _ inCalls).1
  have statement : isComment (assignmentText source.text target.text (first :: rest)).toList = false := by
    rw [toList_assignmentText]
    obtain ⟨nonempty', noHash⟩ := target.head_ne
    cases text : target.text.toList with
    | nil => exact absurd text nonempty'
    | cons c more =>
      rw [text, List.head?_cons, ne_eq, Option.some.injEq] at noHash
      simp [isComment, noHash]
  have compiled : compileLine (assignmentText source.text target.text (first :: rest)).toList =
      .ok (chainOperations source.text target.text 0 first rest) := by
    rw [compileLine, Call.parse, classify_assignmentText, ok_bind]
    simp only [ofText_callText source onPayload few, ok_bind, String.ofList_toList]
    exact congrArg Except.ok (operations_withTarget _ _ _ _ _)
  exact compile_statement (trimmed_assignmentText source target) noBreak statement compiled

end RecordFlow.Script
