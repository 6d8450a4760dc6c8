import RecordFlow.Descriptor
import RecordFlow.Path.Basic
import RecordFlow.Script.Scan
import RecordFlow.Text.Numeral

/-!
Quoted text, and the arguments of calls: `key=value`, the older `key:value`, or positional. A call among them
is passed through a field of the payload: the place that waits for it is a slot of the descriptor.
-/

namespace RecordFlow.Script

open Text

/-- What a backslash and the character after it stand for. An unknown escape stands for itself. -/
def escaped (c : Char) : List Char :=
  match c with
  | 'n' => ['\n']
  | 't' => ['\t']
  | 'r' => ['\r']
  | '0' => ['\x00']
  | '\\' => ['\\']
  | '"' => ['"']
  | '\'' => ['\'']
  | other => ['\\', other]

def unescape : List Char → List Char
  | '\\' :: c :: rest => escaped c ++ unescape rest
  | c :: rest => c :: unescape rest
  | [] => []

/-- Strips one layer of matching quotes and resolves the escapes inside; other text is unchanged. -/
def unquote (text : List Char) : List Char :=
  match text with
  | c :: rest => if isQuote c ∧ rest.getLast? = some c then unescape rest.dropLast else text
  | [] => []

inductive Slot where
  | source
  | setting (key : String)
  deriving DecidableEq, Repr

inductive Argument where
  | literal (key : String) (value : Setting)
  | call (slot : Slot) (text : List Char)
  | positional (text : List Char)
  deriving Repr

def isKeyChar (c : Char) : Bool := c.isAlphanum || c == '_' || c == '-'

/-- The trimmed key and value of a named argument; the key must be usable. -/
def namedParts (argument before after : List Char) : Except Fault (String × List Char) :=
  let key := trim before
  if key = [] ∨ !key.all isKeyChar then
    .error (.invalidNamedArgument (String.ofList argument))
  else .ok (String.ofList key, trim after)

def dropQuotes (text : List Char) : List Char :=
  ((text.dropWhile isQuote).reverse.dropWhile isQuote).reverse

/-- The value of the older form: truth values and whole numbers are typed, and quotes are dropped
from both ends of other text. -/
def typedValue (text : List Char) : Setting :=
  if text = "true".toList then .bool true
  else if text = "false".toList then .bool false
  else
    match int64? text with
    | some n => .integer (Int64.ofInt n)
    | none => .string (String.ofList (dropQuotes text))

/-- The form of an argument: a plain `=` counts before a plain `:`. -/
def Argument.ofText (text : List Char) : Except Fault Argument :=
  match splitAtSign? '=' text with
  | some (before, after) => do
    let (key, value) ← namedParts text before after
    if looksLikeCall value then
      if key = "source" then return .call .source value
      else if key = "target" then throw (.nestedCallNotAllowed key)
      else return .call (.setting key) value
    else return .literal key (.string (String.ofList (unquote value)))
  | none =>
    match splitAtSign? ':' text with
    | some (before, after) => do
      let (key, value) ← namedParts text before after
      return .literal key (typedValue value)
    | none => .ok (.positional text)

/-- Stores a value under a key; texts under `source` and `target` are the paths of the descriptor. -/
def setNamed (descriptor : Descriptor) (key : String) (value : Setting) : Descriptor :=
  match key, value with
  | "source", .string path => { descriptor with source := some path }
  | "target", .string path => { descriptor with target := some path }
  | key, value => { descriptor with settings := Fields.insert key value descriptor.settings }

structure Draft where
  descriptor : Descriptor
  /-- The calls among the arguments, in order, with the slots that wait for them. -/
  inputs : List (Slot × List Char) := []
  positional : Nat := 0

namespace Draft

def addInput (draft : Draft) (slot : Slot) (call : List Char) : Draft :=
  { draft with inputs := draft.inputs ++ [(slot, call)] }

def positionalKey (index : Nat) : String := "arg" ++ toString index

/-- Adds a positional argument. A builtin takes one, which is where it reads from; other calls take
any number, under numbered keys. -/
def addPositional (draft : Draft) (text : List Char) : Except Fault Draft :=
  let index := draft.positional
  let draft := { draft with positional := index + 1 }
  if draft.descriptor.kind.isBuiltin then
    if 0 < index then .error (.positionalNotAllowed (String.ofList text))
    else if looksLikeCall text then .ok (draft.addInput .source text)
    else if Path.looksLikePayload text then
      .ok { draft with descriptor := { draft.descriptor with source := some (String.ofList text) } }
    else .error (.invalidFirstPositional (String.ofList text))
  else if looksLikeCall text then .ok (draft.addInput (.setting (positionalKey index)) text)
  else
    .ok { draft with
      descriptor := { draft.descriptor with
        settings := Fields.insert (positionalKey index) (.string (String.ofList (unquote text)))
          draft.descriptor.settings } }

def add (draft : Draft) (text : List Char) : Except Fault Draft := do
  match ← Argument.ofText text with
  | .literal key value => return { draft with descriptor := setNamed draft.descriptor key value }
  | .call slot call => return draft.addInput slot call
  | .positional text => draft.addPositional text

end Draft

/-- Adds the settings that a line may leave out: every kind but a custom one has its own name as
identifier, and a split has the line feed as separator. -/
def withDefaults (descriptor : Descriptor) : Descriptor :=
  let named (settings : List (String × Setting)) : Descriptor :=
    { descriptor with
      settings := Fields.insertNew "id" (.string descriptor.kind.name) settings }
  match descriptor.kind with
  | .custom _ => descriptor
  | .splitString => named (Fields.insertNew "separator" (.string "\n") descriptor.settings)
  | _ => named descriptor.settings

end RecordFlow.Script
