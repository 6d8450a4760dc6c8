import RecordFlow.Script.Argument

/-!
A line is read as a tree of calls and flattened: a nested call becomes an operation that writes to a field of the
payload, and the call around it reads that field. Fields are numbered from the outside in; the operations come
out from the inside out.
-/

namespace RecordFlow.Script

open Text

/-- The shape of a line, decided by its first `=` and its first `(` alone. -/
inductive Line where
  | directAssignment (target source : List Char)
  | callAssignment (target call : List Char)
  | call (text : List Char)
  deriving DecidableEq, Repr

namespace Line

/-- A line that has a parenthesis before any `=`: it must end in a closing one. -/
def ofCallText (line : List Char) : Except Fault Line :=
  if (trimEnd line).getLast? = some ')' then .ok (call (trim line))
  else .error (.unbalancedParens (String.ofList line))

def classify (line : List Char) : Except Fault Line :=
  match splitFirst? '=' line with
  | none => if '(' ∈ line then ofCallText line else .error .invalidLine
  | some (before, after) =>
    let target := trim before
    let value := trim after
    if '(' ∉ line then
      if target = [] ∨ value = [] then .error .incompleteAssignment
      else .ok (directAssignment target value)
    else if '(' ∉ before then
      if target = [] then .error .incompleteAssignment else .ok (callAssignment target value)
    else ofCallText line

end Line

inductive Call where
  | node (descriptor : Descriptor) (inputs : List (Slot × Call))

def Call.withTarget (target : String) : Call → Call
  | .node descriptor inputs => .node { descriptor with target := some target } inputs

def nestedField (n : Nat) : String :=
  if n = 0 then "$.nested_output" else "$.nested_output_" ++ toString n

def Call.ofText (nested : List Char → Except Fault Call) (text : List Char) :
    Except Fault Call := do
  let (name, body) ← splitCall text
  let arguments ← splitArguments body
  let draft ← arguments.foldlM Draft.add ⟨⟨Kind.ofName (String.ofList name), [], none, none⟩, [], 0⟩
  let inputs ← draft.inputs.mapM fun (slot, call) =>
    match nested call with
    | .ok tree => .ok (slot, tree)
    | .error fault => .error (fault.inNestedCall call)
  return .node (withDefaults draft.descriptor) inputs

def Call.parse : (levels : Nat) → List Char → Except Fault Call
  | 0, _ => .error (.nestingTooDeep maxNesting)
  | levels + 1, line => do
    match ← Line.classify line with
    | .directAssignment target source =>
      return .node (withDefaults
        ⟨.directAssignment, [], some (String.ofList source), some (String.ofList target)⟩) []
    | .callAssignment target call =>
      return (← Call.ofText (Call.parse levels) call).withTarget (String.ofList target)
    | .call call => Call.ofText (Call.parse levels) call

def fillSlot (descriptor : Descriptor) (slot : Slot) (field : String) : Descriptor :=
  match slot with
  | .source => { descriptor with source := some field }
  | .setting key =>
    { descriptor with settings := Fields.insert key (.string field) descriptor.settings }

structure Flat where
  inner : List Descriptor
  outer : Descriptor
  next : Nat

def Flat.operations (flat : Flat) : List Descriptor := flat.inner ++ [flat.outer]

mutual

def Call.flatten (next : Nat) : Call → Flat
  | .node descriptor inputs => flattenInputs next descriptor inputs

/-- Flattens the inputs of a call one after another and fills their slots. -/
def flattenInputs (next : Nat) (descriptor : Descriptor) : List (Slot × Call) → Flat
  | [] => ⟨[], descriptor, next⟩
  | (slot, call) :: rest =>
    let field := nestedField next
    let first := call.flatten (next + 1)
    let others := flattenInputs first.next (fillSlot descriptor slot field) rest
    ⟨first.inner ++ { first.outer with target := some field } :: others.inner, others.outer,
      others.next⟩

end

def compileLine (line : List Char) : Except Fault (List Descriptor) :=
  (Call.parse (maxNesting + 1) line).map fun call => (call.flatten 0).operations

def isComment (line : List Char) : Bool := line.isEmpty || line.head? == some '#'

def compileRaw (lineNumber : Nat) (raw : List Char) : Except Error (List Descriptor) :=
  let line := trim raw
  if isComment line then .ok []
  else (compileLine line).mapError fun fault => ⟨lineNumber, String.ofList raw, fault⟩

/-- The operations of lines of which the first has the given number. -/
def compileLines (lineNumber : Nat) : List (List Char) → Except Error (List Descriptor)
  | [] => .ok []
  | raw :: rest => do
    let first ← compileRaw lineNumber raw
    let others ← compileLines (lineNumber + 1) rest
    return first ++ others

def compile (script : String) : Except Error (List Descriptor) :=
  compileLines 1 (lines script.toList)

end RecordFlow.Script
